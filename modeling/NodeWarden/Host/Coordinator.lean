import NodeWarden.Plane.Memory
import NodeWarden.Teardown

/-! A teardown over the control plane in memory, with callers who wait for each other or
come at once. -/

namespace NodeWarden

structure Coordinator where
  name : NodeName
  teardown : Teardown := {}
  plane : MemoryPlane := {}
  callers : Nat := 0
  reports : List NodeError := []
  deriving Repr

abbrev CoordinatorM := StateM Coordinator

namespace Coordinator

/-- A guarded change of state, and whether it took place. -/
def mark (move : Teardown → Teardown × Bool) : CoordinatorM Bool :=
  modifyGet fun c =>
    let (teardown, moved) := move c.teardown
    (moved, { c with teardown })

/-- A caller comes; its answer, if it has one at once. -/
def beginDelete (caller : Caller) : CoordinatorM (Option DeleteResult) :=
  modifyGet fun c =>
    let (teardown, claimed) := c.teardown.call caller
    (if claimed then none else some (.ok ()), { c with teardown })

/-- The external delete of a caller takes place and is answered. -/
def endDelete (caller : Caller) : CoordinatorM DeleteResult :=
  modifyGet fun c =>
    let (plane, result) := c.plane.delete c.name
    (result, { c with plane, teardown := c.teardown.answer caller })

def newOwner : CoordinatorM Caller :=
  modifyGet fun c => (.owner c.callers, { c with callers := c.callers + 1 })

def delete (caller : Caller) : CoordinatorM DeleteResult := do
  match ← beginDelete caller with
  | some answer => return answer
  | none => endDelete caller

def report (exit : NodeExit) : CoordinatorM Unit :=
  modify fun c =>
    { c with reports := c.reports ++ (c.teardown.unexpected? c.name.text exit).toList }

def processExit (exit : NodeExit) : CoordinatorM Unit := do
  report exit
  let _ ← delete .monitor

/-- Everybody comes before anybody's external delete is answered: the owners first. -/
def race (owners exits : Nat) (exit : NodeExit) : CoordinatorM (List DeleteResult) := do
  let started ← (List.range owners).mapM fun _ => do
    let caller ← newOwner
    return (caller, ← beginDelete caller)
  let noted ← (List.range exits).mapM fun _ => do
    report exit
    return (Caller.monitor, ← beginDelete .monitor)
  (started ++ noted).mapM fun (caller, answer) => do
    match answer, caller with
    | some answer, _ => return answer
    | none, .owner _ => endDelete caller
    | none, .monitor =>
      let _ ← endDelete .monitor
      return .ok ()

/-- The reports since they were last taken. -/
def takeReports : CoordinatorM (List NodeError) :=
  modifyGet fun c => (c.reports, { c with reports := [] })

end Coordinator

end NodeWarden
