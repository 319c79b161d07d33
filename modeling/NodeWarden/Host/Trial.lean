import NodeWarden.Host.Clock

/-! One program under watch: it writes, ends or stays, and may be stopped on the way. -/

namespace NodeWarden

structure Trial where
  name : NodeName
  stdout : List UInt8
  stderr : List UInt8
  /-- The program stays if it has no end of its own. -/
  ending : Option ExitStatus
  /-- The one stream that is used, if only one is. -/
  only : Option OutputStream := none
  stopGrace : Nat
  failDeletes : Bool := false
  markRunning : Bool := true
  stopAfter : Option Nat := none
  deriving Repr

/-- What is left of a trial when the monitor is done. -/
structure TrialResult where
  records : List NodeRecord
  life : Life
  deletes : Nat
  reports : List NodeError
  deriving Repr

namespace Trial

def otherStream : OutputStream → OutputStream
  | .stdout => .stderr
  | .stderr => .stdout

/-- A stream that is not used is closed a tenth of a second before the output starts. -/
def acts (t : Trial) : List Act :=
  (match t.only with
    | some s => [.close (otherStream s), .sleep (100 * nanosPerMilli) false]
    | none => []) ++
  [.print .stdout t.stdout, .print .stderr t.stderr, (t.ending.map .quit).getD .hang]

def host (t : Trial) : Host where
  plane := .memory { failDeletes := t.failDeletes } "" none 0
  stopGrace := t.stopGrace

def isDone (h : Host) : Bool := h.nodes.all (·.life.isFinished)

def result? (h : Host) : Option TrialResult :=
  (h.nodes[0]?).map fun n =>
    ⟨h.records.toList, n.life, (h.memory?.map (·.deleted.length)).getD 0, h.reports⟩

def play (t : Trial) : HostM Unit := do
  Host.addNode t.name (.start 0 t.acts)
  if t.markRunning then let _ ← Host.stepNode 0 .markRunning
  if let some n := t.stopAfter then
    Host.waitFor (n ≤ ·.records.size)
    let _ ← Host.stepNode 0 .askStop
    let _ ← Host.stepNode 0 .askStop
  Host.waitFor isDone

def run? (t : Trial) : Option TrialResult := result? (t.play.run t.host).2

end Trial

end NodeWarden
