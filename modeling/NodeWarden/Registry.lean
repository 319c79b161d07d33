import NodeWarden.Address.Allocator
import NodeWarden.Address.Probe

/-! Where a new node listens. An address that is taken may be held by a node that is up and
leads to the brokers: such a node is used again. -/

namespace NodeWarden

structure ReusableNode where
  name : NodeName
  inletAddress : String
  deriving DecidableEq, Repr

/-- The inlet address of a node that can be used in place of a new one on `address`. -/
def reusableInlet? (marker address : String) (d : NodeDetails) : Option String :=
  if d.isRunning && d.listensOn address then (d.inletRoutedTo marker).map (·.1) else none

/-- The first of the listed nodes that can be used; one that cannot be read is passed over. -/
def findAmong (marker address : String) : List NodeName → Flow (Except NodeError ReusableNode)
  | [] => pure (.error (.notFound address))
  | name :: names => do
    match ← request (.details name) with
    | .error _ => findAmong marker address names
    | .ok d =>
      match reusableInlet? marker address d with
      | some inletAddress => return .ok ⟨name, inletAddress⟩
      | none => findAmong marker address names

def findByListener (marker address : String) : Flow (Except NodeError ReusableNode) := do
  match ← request .list with
  | .error e => return .error (.reuseLookupFailed address e.message)
  | .ok names => findAmong marker address names

inductive ListenerPlan
  | fresh (listener : String)
  | reuse (node : ReusableNode)
  deriving DecidableEq, Repr

/-- A taken address that no node can be used for is an address in use. -/
def planTaken (marker address : String) : Flow (Except NodeError ListenerPlan) := do
  match ← findByListener marker address with
  | .ok node => return .ok (.reuse node)
  | .error (.notFound _) => return .error (.addressInUse address)
  | .error e => return .error e

/-- With no address asked for, a free one of `host` is found. -/
def planListener (host : Ip) (marker : String) :
    Option String → Flow (Except NodeError ListenerPlan)
  | none => do
    match ← findFree host with
    | .ok socket => return .ok (.fresh socket.text)
    | .error e => return .error (.allocationFailed e)
  | some address => do
    match ← probe address with
    | .error e => return .error (.allocationFailed e)
    | .ok lease => if lease.wasFree then return .ok (.fresh address) else planTaken marker address

end NodeWarden
