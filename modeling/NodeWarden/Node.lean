import NodeWarden.Flow
import NodeWarden.Plane.Command

/-! A node as those who hold it see it at a time: one that was started here, or one that was
found running and is left alone. -/

namespace NodeWarden

structure NodeView where
  name : NodeName
  owned : Bool
  state : NodeState
  deriving DecidableEq, Repr

namespace NodeView

/-- A node that was found running is not torn down here, and stays as it is. -/
def adopted (name : NodeName) : NodeView := ⟨name, false, .running⟩

/-- Whether its own client has nothing left to talk to. -/
def isGone (n : NodeView) : Bool := n.owned && n.state.isTornDown

/-- A node that is being torn down is not asked for its status. -/
def isRunning (n : NodeView) : Flow Bool := do
  if n.state.isTornDown then return false
  else return reportsRunning (← request (.details n.name))

theorem isGone_adopted (name : NodeName) : (adopted name).isGone = false := rfl

theorem isRunning_of_isTornDown {n : NodeView} (h : n.state.isTornDown = true) :
    n.isRunning = .done false := by
  simp [isRunning, h, pure]

end NodeView

end NodeWarden
