import NodeWarden.Error

/-! Tearing a node down. The owner and the monitor may both want to; whoever claims the
teardown first issues the one external delete, and everyone else is answered at once. A
step is what happens between two points at which callers can overtake each other. -/

namespace NodeWarden

inductive NodeState
  | created
  | starting
  | running
  | deleting
  | deleted
  | failed
  deriving DecidableEq, Repr

namespace NodeState

def word : NodeState → String
  | created => "created"
  | starting => "starting"
  | running => "running"
  | deleting => "deleting"
  | deleted => "deleted"
  | failed => "failed"

/-- Gone or going. -/
def isTornDown : NodeState → Bool
  | deleting | deleted | failed => true
  | _ => false

def isTerminal : NodeState → Bool
  | deleted | failed => true
  | _ => false

theorem isTornDown_of_isTerminal {s : NodeState} (h : s.isTerminal = true) :
    s.isTornDown = true := by
  cases s <;> simp_all [isTerminal, isTornDown]

end NodeState

inductive Trigger
  | explicit
  | processExit
  deriving DecidableEq, Repr

def Trigger.word : Trigger → String
  | .explicit => "explicit"
  | .processExit => "process_exit"

inductive Caller
  | owner (id : Nat)
  | monitor
  deriving DecidableEq, Repr

def Caller.trigger : Caller → Trigger
  | .owner _ => .explicit
  | .monitor => .processExit

/-- The state, whose external deletes are in flight, and how many were ever issued. -/
structure Teardown where
  state : NodeState := .created
  inFlight : List Caller := []
  issued : Nat := 0
  deriving DecidableEq, Repr

abbrev DeleteResult := Except NodeError Unit

inductive TeardownEvent
  | markStarting
  | markRunning
  | markFailed
  | call (caller : Caller)
  /-- The external delete of `caller` returns. -/
  | answer (caller : Caller) (result : DeleteResult)
  /-- `caller` no longer waits for its external delete. -/
  | abandon (caller : Caller)
  deriving Repr

namespace Teardown

def move (t : Teardown) (source target : NodeState) : Teardown × Bool :=
  if t.state = source then ({ t with state := target }, true) else (t, false)

def markStarting (t : Teardown) : Teardown × Bool := t.move .created .starting

def markRunning (t : Teardown) : Teardown × Bool := t.move .starting .running

def markFailed (t : Teardown) : Teardown × Bool := t.move .starting .failed

/-- Claims the teardown, if nobody has, and issues the external delete. -/
def call (t : Teardown) (caller : Caller) : Teardown × Bool :=
  if t.state.isTornDown then (t, false)
  else ({ state := .deleting, inFlight := caller :: t.inFlight, issued := t.issued + 1 }, true)

/-- The node counts as deleted whatever its external delete came to. -/
def answer (t : Teardown) (caller : Caller) : Teardown :=
  { t with state := .deleted, inFlight := t.inFlight.erase caller }

def abandon (t : Teardown) (caller : Caller) : Teardown :=
  { t with inFlight := t.inFlight.erase caller }

/-- One step and what it answers to whom, or nothing if it cannot happen. -/
def step (t : Teardown) : TeardownEvent → Option (Teardown × Option (Caller × DeleteResult))
  | .markStarting => some (t.markStarting.1, none)
  | .markRunning => some (t.markRunning.1, none)
  | .markFailed => some (t.markFailed.1, none)
  | .call caller =>
    match t.call caller with
    | (t, true) => some (t, none)
    | (t, false) => some (t, some (caller, .ok ()))
  | .answer caller result =>
    if caller ∈ t.inFlight then some (t.answer caller, some (caller, result)) else none
  | .abandon caller => if caller ∈ t.inFlight then some (t.abandon caller, none) else none

/-- The error to report for an exit, unless it was asked for or the node is already being
torn down. -/
def unexpected? (t : Teardown) (name : String) (exit : NodeExit) : Option NodeError :=
  if exit.stopRequested || t.state.isTornDown then none
  else some (.exitedUnexpectedly name exit)

end Teardown

end NodeWarden
