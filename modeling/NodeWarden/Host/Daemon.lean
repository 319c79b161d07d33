import NodeWarden.Daemon.Run
import NodeWarden.Host.Clock
import NodeWarden.Host.Console

/-! The daemon on a rehearsed host. -/

namespace NodeWarden

/-- What is left of a run of the daemon: its notes, the records of its node, and the error that
ended it, if one did. -/
structure DaemonResult where
  notes : List DaemonNote
  records : List NodeRecord := []
  error : Option DaemonError := none
  deriving Repr

def DaemonResult.logged (r : DaemonResult) (f : LogFilter) : DaemonResult :=
  { r with notes := r.notes.filter (f.lets ·.entry), records := r.records.filter (f.lets ·.entry) }

namespace Host

def life? (place : Nat) : HostM (Option Life) := return (← node? place).map (·.life)

/-- Takes the daemon a step further, and then its node's delete if it is asked for. -/
def stepDaemon (place : Nat) (stage : DaemonStage) (e : DaemonEvent) :
    HostM (DaemonStage × List DaemonNote) := do
  match ← life? place with
  | none => return (stage, [])
  | some life =>
    match stage.step life e with
    | none => return (stage, [])
    | some (stage, effects) =>
      let notes := effects.filterMap fun
        | .note n => some n
        | .deleteNode => none
      return (stage, notes)

def waitForLife (place : Nat) (holds : Life → Bool) : HostM Unit := do
  waitFor fun h => (h.nodes[place]?).all fun n => holds n.life
  settle

/-- From the start of the node to the end of the daemon. -/
def watchNode (place : Nat) (interrupted : Bool) : HostM (List DaemonNote) := do
  let wakes ← if interrupted then do
      settle
      pure DaemonEvent.interrupt
    else do
      waitForLife place (·.exitSettled)
      pure DaemonEvent.noticeExit
  let (stage, woken) ← stepDaemon place .waiting wakes
  let result ← deleteAndWait place
  let (stage, deleted) ← stepDaemon place stage (.deleteAnswered result)
  waitForLife place fun l => l.state.isTerminal && l.exitSettled
  let (_, ended) ← stepDaemon place stage .noticeEnd
  return woken ++ deleted ++ ended

def serve (settings : Settings) (spec : NodeSpec) (interrupted : Bool) : HostM DaemonResult := do
  match ← run (Daemon.start (Daemon.supervisor settings) spec) with
  | .error e => return { notes := [], error := some e }
  | .ok (.served node) => return { notes := [.alreadyServed node] }
  | .ok (.started node inlet listener) =>
    let place := (← get).nodes.length - 1
    let _ ← stepNode place .markRunning
    let notes ← watchNode place interrupted
    return {
      notes := .started node.name inlet listener :: notes
      records := (← get).records.toList }

/-- The daemon from its start to its end, with all that it has to say. -/
def followDaemon (h : Host) (interrupted : Bool) : DaemonResult × Host :=
  match Daemon.load h.surroundings with
  | (opening, .error e) => ({ notes := opening, error := some e }, h)
  | (opening, .ok (settings, spec)) =>
    let (result, h) := (serve settings spec interrupted).run (h.configure settings)
    ({ result with notes := opening ++ result.notes }, h)

/-- A run of the daemon, as its log shows it. -/
def runDaemon (h : Host) (interrupted : Bool) : DaemonResult × Host :=
  let (result, h) := h.followDaemon interrupted
  (result.logged h.surroundings.logFilter, h)

end Host

end NodeWarden
