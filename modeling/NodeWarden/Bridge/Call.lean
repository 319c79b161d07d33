import NodeWarden.Held

/-! A bridge in use. One call is made at a time; it waits for the client, and a close then
waits for the delete of the node. What a failure of the client counts as is settled by the
state that the node has when the client answers. -/

namespace NodeWarden

inductive ClientCall
  | connect
  /-- Reads or writes one batch. -/
  | transfer
  | close
  deriving DecidableEq, Repr

inductive BridgeStage
  | idle
  | calling (call : ClientCall)
  /-- The client is closed, and the node's delete is awaited. -/
  | deleting (closed : Except BridgeError Unit)
  deriving Repr

inductive BridgeEvent
  | call (c : ClientCall)
  | clientAnswers (r : Except ClientFault Unit)
  /-- The delete of the node returns, whatever it came to. -/
  | nodeDeleted
  deriving Repr

inductive BridgeEffect
  | askClient (c : ClientCall)
  | deleteNode
  | answer (r : Except BridgeError Unit)
  deriving Repr

def NodeView.clientError (n : NodeView) (f : ClientFault) : BridgeError :=
  if n.isGone then .shutdown f else .client f

/-- One step beside a node, and what it asks for, or nothing if it cannot happen. -/
def BridgeStage.step (n : NodeView) : BridgeStage → BridgeEvent → Option (BridgeStage × BridgeEffect)
  | .idle, .call .connect =>
    if n.isGone then some (.idle, .answer (.error (.node (.notRunning n.name.text))))
    else some (.calling .connect, .askClient .connect)
  | .idle, .call c => some (.calling c, .askClient c)
  | .calling .close, .clientAnswers r => some (.deleting (r.mapError n.clientError), .deleteNode)
  | .calling _, .clientAnswers r => some (.idle, .answer (r.mapError n.clientError))
  | .deleting closed, .nodeDeleted => some (.idle, .answer closed)
  | _, _ => none

/-- A bridge and the node that it holds. -/
structure Bridged where
  held : Held HeldNode
  stage : BridgeStage := .idle
  deriving Repr

inductive BridgedEvent
  /-- Anything that can happen to the node but the bridge's own delete. Others see the node too,
  and may stop or delete it. -/
  | node (e : LifeEvent)
  /-- The bridge does to its node what is next. -/
  | proceed
  | askRunning
  | bridge (e : BridgeEvent)
  /-- The caller no longer waits for the end of its call. -/
  | giveUp
  deriving Repr

inductive BridgedEffect
  | node (e : LifeEvent) (effects : List LifeEffect)
  | status (asked : Flow Bool)
  | bridge (effect : BridgeEffect)
  | left

namespace Bridged

/-- A bridge that was just opened. -/
def opened (node : HeldNode) : Bridged := { held := { node } }

def view (b : Bridged) : NodeView := b.held.node.view

def live (b : Bridged) (e : LifeEvent) : Option (Bridged × BridgedEffect) :=
  (b.held.live HeldNode.step e).map fun (held, effects) => ({ b with held }, .node e effects)

def advance (b : Bridged) (e : BridgeEvent) : Option (Bridged × BridgedEffect) :=
  (b.stage.step b.view e).map fun (stage, effect) =>
    let held := if effect matches .deleteNode then b.held.deleteNode else b.held
    ({ held, stage }, .bridge effect)

/-- Whether the delete of the node has returned. -/
def isAnswered (b : Bridged) : Bool := b.held.todo.isEmpty && b.held.answer.isSome

/-- The bridge is as it was when it was opened. If its delete of the node is in flight, nobody
waits for that any more. -/
def giveUp (b : Bridged) : Bridged × BridgedEffect :=
  ((opened b.held.node).live (.abandonDelete 0)).getD (opened b.held.node, .left)

/-- One step and what it does, or nothing if it cannot happen. -/
def step (b : Bridged) : BridgedEvent → Option (Bridged × BridgedEffect)
  | .node e => if e.isOwnDelete then none else b.live e
  | .proceed => b.held.next?.bind fun (e, held) => { b with held }.live e
  | .askRunning => some (b, .status b.view.isRunning)
  | .bridge .nodeDeleted => if b.isAnswered then b.advance .nodeDeleted else none
  | .bridge e => b.advance e
  | .giveUp => if b.stage matches .idle then none else some b.giveUp

end Bridged

end NodeWarden
