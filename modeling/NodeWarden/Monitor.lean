import NodeWarden.Error
import NodeWarden.Log.Lines
import NodeWarden.Settings

/-! The watch over a running program. Its two output streams are read in turns: a turn ends
with a line, the end of a stream, a stop or the deadline, and the next turn begins every
line anew. A stop sets the one deadline at which the program is killed, and the watch ends
once both streams have ended and the program is reaped. -/

namespace NodeWarden

inductive OutputStream
  | stdout
  | stderr
  deriving DecidableEq, Repr

/-- How a program ended. -/
inductive ExitStatus
  | code (n : Int)
  | signal (n : Nat)
  deriving DecidableEq, Repr

/-- What has arrived and was not read, and the line that is being read. -/
structure OutputSource where
  unread : List UInt8 := []
  line : LineBuffer := {}
  deriving DecidableEq, Repr

/-- The two streams while they are open, whether a stop was noticed, when to kill, and the
fault of a reader. -/
structure Watch where
  stdout : Option OutputSource := some {}
  stderr : Option OutputSource := some {}
  stopSeen : Bool := false
  deadline : Option Nat := none
  readFault : Option String := none
  deriving DecidableEq, Repr

inductive WatchEvent
  /-- The program writes to a stream. -/
  | arrive (s : OutputStream) (bytes : List UInt8)
  /-- A reader takes what has arrived, up to the end of a line. -/
  | read (s : OutputStream)
  /-- A reader finds the end of its stream. -/
  | finish (s : OutputStream)
  | fail (s : OutputStream) (fault : String)
  | noticeStop (now : Nat)
  | deadline (now : Nat)
  /-- Waiting for the program is over. -/
  | reap (ended : Except String ExitStatus)
  deriving Repr

inductive WatchOutcome
  | nothing
  | line (text : String)
  | kill
  | ended (ended : Except String ExitStatus)
  /-- The deadline cannot be told, and with it the watch is lost. -/
  | lost
  deriving Repr

/-- From here on a time in nanoseconds is past the clock's last second. -/
def clockLimit : Nat := 0x8000000000000000 * nanosPerSecond

namespace Watch

def source? (w : Watch) : OutputStream → Option OutputSource
  | .stdout => w.stdout
  | .stderr => w.stderr

def setSource (w : Watch) : OutputStream → Option OutputSource → Watch
  | .stdout, o => { w with stdout := o }
  | .stderr, o => { w with stderr := o }

def streamsOpen (w : Watch) : Bool := w.stdout.isSome || w.stderr.isSome

def OutputSource.restart (o : OutputSource) : OutputSource := { o with line := {} }

/-- The next turn: lines that are not whole begin anew. -/
def nextTurn (w : Watch) : Watch :=
  { w with stdout := w.stdout.map OutputSource.restart, stderr := w.stderr.map OutputSource.restart }

def arrive (w : Watch) (s : OutputStream) (bytes : List UInt8) : Watch :=
  w.setSource s ((w.source? s).map fun o => { o with unread := o.unread ++ bytes })

def read (w : Watch) (s : OutputStream) : Option (Watch × WatchOutcome) := do
  let o ← w.source? s
  if o.unread.isEmpty then none
  else
    match splitLine o.unread with
    | (part, some rest) =>
      some ((w.setSource s (some { o with unread := rest })).nextTurn, .line (o.line.add part).text)
    | (part, none) =>
      some (w.setSource s (some { unread := [], line := o.line.add part }), .nothing)

/-- The last line counts without a line feed, and then the stream is closed. -/
def finish (w : Watch) (s : OutputStream) : Option (Watch × WatchOutcome) := do
  let o ← w.source? s
  if !o.unread.isEmpty then none
  else if o.line.begun then some (w.nextTurn, .line o.line.text)
  else some ((w.setSource s none).nextTurn, .nothing)

def fail (w : Watch) (s : OutputStream) (fault : String) : Option (Watch × WatchOutcome) := do
  let _ ← w.source? s
  some ({ w with stdout := none, stderr := none, readFault := some fault }, .kill)

def noticeStop (grace : Nat) (w : Watch) (now : Nat) : Option (Watch × WatchOutcome) :=
  if w.stopSeen then none
  else if clockLimit ≤ now + grace then some (w, .lost)
  else some ({ w with stopSeen := true, deadline := some (now + grace) }.nextTurn, .nothing)

def passDeadline (w : Watch) (now : Nat) : Option (Watch × WatchOutcome) :=
  match w.deadline with
  | some d => if d ≤ now then some ({ w with deadline := none }.nextTurn, .kill) else none
  | none => none

def step (grace : Nat) (w : Watch) : WatchEvent → Option (Watch × WatchOutcome)
  | .arrive s bytes => some (w.arrive s bytes, .nothing)
  | .read s => w.read s
  | .finish s => w.finish s
  | .fail s fault => w.fail s fault
  | .noticeStop now => w.noticeStop grace now
  | .deadline now => w.passDeadline now
  | .reap ended => if w.streamsOpen then none else some (w, .ended ended)

end Watch

/-- The exit of a program, from what waiting for it came to. -/
def NodeExit.ofEnd (ended : Except String ExitStatus) (readFault : Option String)
    (stopRequested : Bool) : NodeExit :=
  match ended with
  | .ok (.code n) => ⟨some n, n == 0, readFault, stopRequested⟩
  | .ok (.signal _) => ⟨none, false, readFault, stopRequested⟩
  | .error fault => ⟨none, false, some fault, stopRequested⟩

end NodeWarden
