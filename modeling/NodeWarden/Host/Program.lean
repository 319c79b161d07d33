import NodeWarden.Monitor

/-! Programs of a rehearsed host. A program is a list of acts, done one after the other at
the time when the program is awake; what it leaves running keeps its streams open. -/

namespace NodeWarden

inductive Act
  | print (s : OutputStream) (bytes : List UInt8)
  | close (s : OutputStream)
  /-- Sleeps; a sleep of its own holds the streams even when the program is killed. -/
  | sleep (nanos : Nat) (byItself : Bool)
  /-- Notes a word in the state that the stand-in binary keeps. -/
  | note (word : String)
  | quit (status : ExitStatus)
  | hang
  deriving Repr

/-- A program that was started. `onStop` are its acts when it is asked to end. -/
structure Running where
  acts : List Act
  wakeAt : Nat
  onStop : List Act
  closed : List OutputStream := []
  heldUntil : Nat := 0
  ended : Option ExitStatus := none
  deriving Repr

def killSignal : Nat := 9

def stopSignal : Nat := 15

namespace Running

def start (now : Nat) (acts : List Act) (onStop : List Act := [.quit (.signal 15)]) : Running where
  acts
  wakeAt := now
  onStop

def endWith (r : Running) (status : ExitStatus) : Running :=
  match r.ended with
  | some _ => r
  | none => { r with acts := [], ended := some status }

def kill (r : Running) : Running := r.endWith (.signal killSignal)

def askToStop (r : Running) (now : Nat) : Running :=
  match r.ended with
  | some _ => r
  | none => { r with acts := r.onStop, wakeAt := now }

/-- When the next act is due. -/
def nextAct? (r : Running) : Option Nat :=
  match r.ended, r.acts with
  | some _, _ => none
  | none, [] => some r.wakeAt
  | none, .hang :: _ => none
  | none, _ => some r.wakeAt

/-- Whether nobody writes to a stream any more, at a time. -/
def hasClosed (r : Running) (now : Nat) (s : OutputStream) : Bool :=
  r.closed.contains s || (r.ended.isSome && r.heldUntil ≤ now)

/-- When the streams close of themselves. -/
def closesAt? (r : Running) (now : Nat) : Option Nat :=
  if r.ended.isSome && now < r.heldUntil then some r.heldUntil else none

end Running

/-- The signal of a name, as `kill` knows it. -/
def signalNumber? (name : String) : Option Nat :=
  [("HUP", 1), ("INT", 2), ("QUIT", 3), ("ILL", 4), ("TRAP", 5), ("ABRT", 6), ("BUS", 7),
    ("FPE", 8), ("KILL", 9), ("USR1", 10), ("SEGV", 11), ("USR2", 12), ("PIPE", 13),
    ("ALRM", 14), ("TERM", 15), ("STKFLT", 16), ("CHLD", 17), ("CONT", 18), ("STOP", 19),
    ("TSTP", 20), ("TTIN", 21), ("TTOU", 22), ("URG", 23), ("XCPU", 24), ("XFSZ", 25),
    ("VTALRM", 26), ("PROF", 27), ("WINCH", 28), ("IO", 29), ("POLL", 29), ("PWR", 30),
    ("SYS", 31)].lookup name

/-- What a signal does to a program that is not prepared for it. -/
inductive SignalAction
  | ends
  | halts
  | nothing
  deriving DecidableEq, Repr

def signalAction (n : Nat) : SignalAction :=
  if [0, 17, 18, 23, 28].contains n then .nothing
  else if [19, 20, 21, 22].contains n then .halts
  else .ends

/-- How a program ends that sends itself a signal and has nothing more to do. -/
def signalEnding? (n : Nat) : Option ExitStatus :=
  match signalAction n with
  | .ends => some (.signal n)
  | .halts => none
  | .nothing => some (.code 0)

/-- How a shell ends that is told to exit with a number. The low byte is all that arrives;
what is no number for a shell is an error of its own. -/
def exitCode (n : Int) : ExitStatus :=
  if 0 ≤ n ∧ n ≤ 2147483647 then .code (n % 256) else .code 2

end NodeWarden
