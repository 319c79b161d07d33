import NodeWarden.Daemon.Startup
import NodeWarden.Held

/-! The daemon beside its node. It waits for an interrupt or for the end of the node's
program, whichever is first, deletes the node, and is done when the node is deleted and its
program is gone. -/

namespace NodeWarden

inductive DaemonStage
  | waiting
  /-- The answer to its delete is awaited. -/
  | deleting
  /-- The end of the teardown and of the program is awaited. -/
  | settling
  | done (state : NodeState)
  deriving DecidableEq, Repr

inductive DaemonEvent
  | interrupt
  | noticeExit
  | deleteAnswered (r : DeleteResult)
  | noticeEnd
  deriving Repr

inductive DaemonEffect
  | note (n : DaemonNote)
  /-- Asks the program to stop, and then for the node's delete. -/
  | deleteNode
  deriving Repr

/-- Whether waiting for the program's exit is over: it is known, or never will be. -/
def Life.exitSettled (l : Life) : Bool := l.exit.isSome || l.stage matches .lost

def Life.exitNote (l : Life) : DaemonNote :=
  match l.exit with
  | some exit => .exited l.name exit
  | none => .monitorStopped l.name

/-- One step beside the life of the node, or nothing if it cannot happen. -/
def DaemonStage.step (l : Life) : DaemonStage → DaemonEvent → Option (DaemonStage × List DaemonEffect)
  | .waiting, .interrupt => some (.deleting, [.note .interrupted, .deleteNode])
  | .waiting, .noticeExit =>
    if l.exitSettled then some (.deleting, [.note l.exitNote, .deleteNode]) else none
  | .deleting, .deleteAnswered (.error e) => some (.settling, [.note (.deleteFailed l.name e)])
  | .deleting, .deleteAnswered (.ok ()) => some (.settling, [])
  | .settling, .noticeEnd =>
    if l.state.isTerminal && l.exitSettled then
      some (.done l.state, [.note (.complete l.name l.state)])
    else none
  | _, _ => none

/-- The daemon and the node that it holds. -/
structure Tended where
  held : Held Life
  stage : DaemonStage := .waiting
  deriving Repr

inductive TendedEvent
  /-- The node takes a step that is not its holder's. -/
  | node (e : LifeEvent)
  /-- The daemon does to its node what is next. -/
  | proceed
  | interrupt
  | noticeExit
  | hearAnswer
  | noticeEnd
  deriving Repr

inductive TendedEffect
  | node (e : LifeEvent) (effects : List LifeEffect)
  | daemon (effects : List DaemonEffect)
  deriving Repr

namespace Tended

/-- The node's program was started, and the daemon, as its creator, is still to note that. -/
def begin (name : NodeName) (stopGrace : Nat) : Tended where
  held := { node := { name, stopGrace }, todo := [.markRunning] }

def live (t : Tended) (e : LifeEvent) : Option (Tended × TendedEffect) :=
  (t.held.live Life.step e).map fun (held, effects) => ({ t with held }, .node e effects)

/-- The daemon goes on once there is nothing left to do to its node. -/
def advance (t : Tended) (e : DaemonEvent) : Option (Tended × TendedEffect) :=
  if t.held.todo.isEmpty then
    (t.stage.step t.held.node e).map fun (stage, effects) =>
      let held := if effects.any (· matches .deleteNode) then t.held.deleteNode else t.held
      ({ held, stage }, .daemon effects)
  else none

/-- One step and what it does, or nothing if it cannot happen. -/
def step (t : Tended) : TendedEvent → Option (Tended × TendedEffect)
  | .node e => if e.isHolders then none else t.live e
  | .proceed => t.held.next?.bind fun (e, held) => { t with held }.live e
  | .interrupt => t.advance .interrupt
  | .noticeExit => t.advance .noticeExit
  | .hearAnswer => t.held.answer.bind fun r => t.advance (.deleteAnswered r)
  | .noticeEnd => t.advance .noticeEnd

end Tended

end NodeWarden
