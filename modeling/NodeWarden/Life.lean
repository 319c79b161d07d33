import NodeWarden.Log.Record
import NodeWarden.Monitor
import NodeWarden.Teardown

/-! The life of a node whose program has been started: its creator, the holders of its
handle, its program and its monitor, each taking steps in any order. When the watch is over
the monitor judges the exit, publishes it, reports it if nobody asked for it, and claims the
teardown; every one of these is a step of its own. -/

namespace NodeWarden

/-- How far the monitor has come. -/
inductive MonitorStage
  | watching
  | reaped (ended : Except String ExitStatus)
  | judged (exit : NodeExit)
  | published (exit : NodeExit)
  | reported (exit : NodeExit)
  /-- The monitor waits for its own external delete. -/
  | deleting (exit : NodeExit)
  | finished
  | lost
  deriving Repr

structure Life where
  name : NodeName
  stopGrace : Nat
  teardown : Teardown := { state := .starting }
  watch : Watch := {}
  stage : MonitorStage := .watching
  stopAsked : Bool := false
  handleHeld : Bool := true
  exit : Option NodeExit := none
  deriving Repr

inductive LifeEvent
  /-- The creator notes that the program was started. -/
  | markRunning
  | askStop
  | dropHandle
  | callDelete (id : Nat)
  | answerDelete (caller : Caller) (result : DeleteResult)
  | abandonDelete (id : Nat)
  | watch (e : WatchEvent)
  | judge
  | publish
  | report
  | claim
  deriving Repr

inductive LifeEffect
  | forward (r : NodeRecord)
  | kill
  | issueDelete (caller : Caller)
  | reply (caller : Caller) (result : DeleteResult)
  | report (e : NodeError)
  deriving Repr

namespace Life

def state (l : Life) : NodeState := l.teardown.state

/-- Whether the exit counts as asked for when the monitor judges it. -/
def stopRequested (l : Life) : Bool :=
  l.watch.stopSeen || l.stopAsked || !l.handleHeld || l.state == .deleting

/-- Whether the monitor's task is over. -/
def isFinished (l : Life) : Bool :=
  match l.stage with
  | .finished | .lost => true
  | _ => false

/-- Whether a stop is there for the watch to notice. -/
def stopPending (l : Life) : Bool := l.stopAsked || !l.handleHeld

def callDelete (l : Life) (caller : Caller) : Life × List LifeEffect :=
  match l.teardown.call caller with
  | (t, true) => ({ l with teardown := t }, [.issueDelete caller])
  | (t, false) => ({ l with teardown := t }, [.reply caller (.ok ())])

def answerDelete (l : Life) (caller : Caller) (result : DeleteResult) :
    Option (Life × List LifeEffect) :=
  if caller ∈ l.teardown.inFlight then
    let l := { l with teardown := l.teardown.answer caller }
    match caller, l.stage with
    | .monitor, .deleting _ => some ({ l with stage := .finished }, [.reply caller result])
    | _, _ => some (l, [.reply caller result])
  else none

def stepWatch (l : Life) (e : WatchEvent) : Option (Life × List LifeEffect) :=
  match l.stage with
  | .watching => do
    let (w, outcome) ← l.watch.step l.stopGrace e
    let l := { l with watch := w }
    match outcome with
    | .nothing => some (l, [])
    | .line text => some (l, ((forwardLine l.name text).map .forward).toList)
    | .kill => some (l, [.kill])
    | .ended ended => some ({ l with stage := .reaped ended }, [])
    | .lost => some ({ l with stage := .lost }, [.kill])
  | _ => none

/-- One step and what it does outside, or nothing if it cannot happen. -/
def step (l : Life) : LifeEvent → Option (Life × List LifeEffect)
  | .markRunning => some ({ l with teardown := l.teardown.markRunning.1 }, [])
  | .askStop => if l.handleHeld then some ({ l with stopAsked := true }, []) else none
  | .dropHandle => if l.handleHeld then some ({ l with handleHeld := false }, []) else none
  | .callDelete id => some (l.callDelete (.owner id))
  | .answerDelete caller result => l.answerDelete caller result
  | .abandonDelete id =>
    if .owner id ∈ l.teardown.inFlight then
      some ({ l with teardown := l.teardown.abandon (.owner id) }, [])
    else none
  | .watch (.noticeStop now) => if l.stopPending then l.stepWatch (.noticeStop now) else none
  | .watch e => l.stepWatch e
  | .judge =>
    match l.stage with
    | .reaped ended =>
      some ({ l with stage := .judged (.ofEnd ended l.watch.readFault l.stopRequested) }, [])
    | _ => none
  | .publish =>
    match l.stage with
    | .judged exit => some ({ l with stage := .published exit, exit := some exit }, [])
    | _ => none
  | .report =>
    match l.stage with
    | .published exit =>
      some ({ l with stage := .reported exit },
        ((l.teardown.unexpected? l.name.text exit).map .report).toList)
    | _ => none
  | .claim =>
    match l.stage with
    | .reported exit =>
      let (l, effects) := l.callDelete .monitor
      let claimed := Caller.monitor ∈ l.teardown.inFlight
      some ({ l with stage := if claimed then .deleting exit else .finished }, effects)
    | _ => none

end Life

end NodeWarden
