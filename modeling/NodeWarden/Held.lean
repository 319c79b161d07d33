import NodeWarden.Life
import NodeWarden.Node

/-! Nodes in the hands of those who hold them. What a holder means to do to its node it does
step by step, and whatever else can happen to the node may come in between. -/

namespace NodeWarden

/-- A node that was started here, or one that was found running. -/
inductive HeldNode
  | owned (life : Life)
  | adopted (name : NodeName) (teardown : Teardown)
  deriving Repr

namespace HeldNode

/-- A node that was found running counts as started, and as running, at once. -/
def adopt (name : NodeName) : HeldNode :=
  .adopted name ({} : Teardown).markStarting.1.markRunning.1

def view : HeldNode → NodeView
  | .owned l => ⟨l.name, true, l.state⟩
  | .adopted name t => ⟨name, false, t.state⟩

/-- One step, or nothing if it cannot happen. An adopted node has no program here; it may be
asked for its stop or its delete, and is left alone. -/
def step : HeldNode → LifeEvent → Option (HeldNode × List LifeEffect)
  | .owned l, e => (l.step e).map fun (l, effects) => (.owned l, effects)
  | .adopted name t, .callDelete id => some (.adopted name t, [.reply (.owner id) (.ok ())])
  | .adopted name t, .askStop => some (.adopted name t, [])
  | .adopted name t, .dropHandle => some (.adopted name t, [])
  | .adopted _ _, _ => none

theorem view_adopt (name : NodeName) : (adopt name).view = .adopted name := rfl

end HeldNode

/-- Steps that somebody with the handle takes, and neither the program nor its monitor. -/
def LifeEvent.isHolders : LifeEvent → Bool
  | .markRunning | .askStop | .dropHandle | .callDelete _ | .abandonDelete _ => true
  | _ => false

/-- Steps of the one delete that the holder itself calls for. -/
def LifeEvent.isOwnDelete : LifeEvent → Bool
  | .callDelete 0 | .abandonDelete 0 => true
  | _ => false

def LifeEffect.ownAnswer? : LifeEffect → Option DeleteResult
  | .reply (.owner 0) r => some r
  | _ => none

/-- A node, what its holder has yet to do to it, and the answer to the holder's own delete. -/
structure Held (ν : Type) where
  node : ν
  todo : List LifeEvent := []
  answer : Option DeleteResult := none
  deriving Repr

namespace Held

variable {ν : Type}

/-- A step of the node, in which the holder may hear the answer to its delete. -/
def live (step : ν → LifeEvent → Option (ν × List LifeEffect)) (h : Held ν) (e : LifeEvent) :
    Option (Held ν × List LifeEffect) :=
  (step h.node e).map fun (node, effects) =>
    ({ h with node, answer := effects.findSome? LifeEffect.ownAnswer? <|> h.answer }, effects)

def next? (h : Held ν) : Option (LifeEvent × Held ν) :=
  match h.todo with
  | [] => none
  | e :: todo => some (e, { h with todo })

/-- The stop goes first. -/
def deleteNode (h : Held ν) : Held ν := { h with todo := [.askStop, .callDelete 0], answer := none }

theorem node_of_live {step : ν → LifeEvent → Option (ν × List LifeEffect)} {h h' : Held ν}
    {e : LifeEvent} {effects : List LifeEffect} (hlive : h.live step e = some (h', effects)) :
    step h.node e = some (h'.node, effects) := by
  obtain ⟨⟨node, effects⟩, hstep, heq⟩ := Option.map_eq_some_iff.1 hlive
  cases heq
  exact hstep

theorem node_of_next {h h' : Held ν} {e : LifeEvent} (hnext : h.next? = some (e, h')) :
    h'.node = h.node := by
  unfold next? at hnext
  split at hnext <;> cases hnext
  rfl

end Held

end NodeWarden
