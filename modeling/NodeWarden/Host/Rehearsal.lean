import NodeWarden.Bridge.Call
import NodeWarden.Bridge.Open
import NodeWarden.Host.Clock

/-! A supervisor at work on a rehearsed host, and the nodes and bridges that it keeps. -/

namespace NodeWarden

/-- A node and its place among those that the host runs, if it was started there. -/
structure KeptNode where
  node : NewNode
  place : Option Nat
  deriving Repr

structure KeptBridge where
  node : KeptNode
  inletAddress : String
  client : RehearsedClient
  stage : BridgeStage := .idle
  deriving Repr

structure Rehearsal where
  host : Host
  supervisor : Supervisor
  nodes : List KeptNode := []
  bridges : List KeptBridge := []
  deriving Repr

abbrev RehearsalM := StateM Rehearsal

namespace Rehearsal

variable {α : Type}

def onHost (act : HostM α) : RehearsalM α :=
  modifyGet fun r =>
    let (a, host) := act.run r.host
    (a, { r with host })

def run (flow : Flow α) : RehearsalM α := onHost (Host.run flow)

def supervise (f : Supervisor → Flow α) : RehearsalM α := do run (f (← get).supervisor)

/-- The node whose program the host started last; its creator notes that it runs. -/
def keepStarted (node : NewNode) : RehearsalM KeptNode := do
  let place := (← get).host.nodes.length - 1
  let _ ← onHost (Host.stepNode place .markRunning)
  return ⟨node, some place⟩

def keepNode (kept : KeptNode) : RehearsalM KeptNode := do
  modify fun r => { r with nodes := r.nodes ++ [kept] }
  return kept

def keepNew (made : Except NodeError NewNode) : RehearsalM (Except NodeError KeptNode) := do
  match made with
  | .error e => return .error e
  | .ok node => return .ok (← keepNode (← keepStarted node))

def create (spec : NodeSpec) : RehearsalM (Except NodeError KeptNode) := do
  keepNew (← supervise (·.create spec))

def launch (spec : NodeSpec) : RehearsalM (Except NodeError KeptNode) := do
  keepNew (← supervise (·.launch spec))

def adopt (node : NewNode) : RehearsalM KeptNode := keepNode ⟨node, none⟩

def life? (kept : KeptNode) : RehearsalM (Option Life) := do
  match kept.place with
  | some place => return (← onHost (Host.node? place)).map (·.life)
  | none => return none

def view (kept : KeptNode) : RehearsalM NodeView := do
  match ← life? kept with
  | some life => return (HeldNode.owned life).view
  | none => return (HeldNode.adopt kept.node.name).view

def isRunning (kept : KeptNode) : RehearsalM Bool := do run (← view kept).isRunning

def step (kept : KeptNode) (e : LifeEvent) : RehearsalM Unit := do
  if let some place := kept.place then
    let _ ← onHost (Host.stepNode place e)

def exit? (kept : KeptNode) : RehearsalM (Option NodeExit) :=
  return (← life? kept).bind (·.exit)

/-- Several deletes at once, of which all are awaited. -/
def deleteTimes (kept : KeptNode) (n : Nat) : RehearsalM (List DeleteResult) := do
  match kept.place with
  | none => return List.replicate n (.ok ())
  | some place =>
    let ids ← (List.range n).mapM fun _ => onHost (Host.beginDelete place)
    ids.mapM fun id => onHost (Host.awaitReply id)

def delete (kept : KeptNode) : RehearsalM DeleteResult := do
  match kept.place with
  | none => return .ok ()
  | some place => onHost (Host.deleteAndWait place)

/-- Lets time pass until something holds, and then does all that is due. -/
def waitUntil (holds : Host → Bool) : RehearsalM Unit :=
  onHost do
    Host.waitFor holds
    Host.settle

def waitForLife (kept : KeptNode) (holds : Life → Bool) : RehearsalM Unit := do
  if let some place := kept.place then
    waitUntil fun h => (h.nodes[place]?).all fun n => holds n.life

def waitForExit (kept : KeptNode) : RehearsalM (Option NodeExit) := do
  waitForLife kept (·.exit.isSome)
  exit? kept

def waitUntilTerminal (kept : KeptNode) : RehearsalM NodeState := do
  waitForLife kept (·.state.isTerminal)
  return (← view kept).state

def keepBridge (opened : Except BridgeError OpenBridge) :
    RehearsalM (Except BridgeError KeptBridge) := do
  match opened with
  | .error e => return .error e
  | .ok b =>
    let node ← match b.node with
      | .created node => keepStarted node
      | .adopted node => pure ⟨node, none⟩
    let bridge := ⟨node, b.inletAddress, (← get).host.client, .idle⟩
    modify fun r => { r with bridges := r.bridges ++ [bridge] }
    return .ok bridge

/-- Opens a bridge with a client of its own. -/
def openBridge (client : RehearsedClient) (f : Supervisor → Flow (Except BridgeError OpenBridge)) :
    RehearsalM (Except BridgeError KeptBridge) := do
  modify fun r => { r with host := { r.host with client } }
  keepBridge (← supervise f)

def setBridge (place : Nat) (f : KeptBridge → KeptBridge) : RehearsalM Unit :=
  modify fun r => { r with bridges := r.bridges.modify place f }

def askClient (place : Nat) (note : ClientNote) : RehearsalM (Except ClientFault Unit) := do
  match (← get).bridges[place]? with
  | none => return .ok ()
  | some b =>
    let (answer, client) := b.client.ask note
    setBridge place ({ · with client })
    return answer

/-- Takes a bridge from one step to the next, up to its answer. -/
def playBridge (place : Nat) (note : ClientNote) :
    Nat → BridgeEvent → RehearsalM (Except BridgeError Unit)
  | 0, _ => return .ok ()
  | fuel + 1, e => do
    match (← get).bridges[place]? with
    | none => return .ok ()
    | some b =>
      match b.stage.step (← view b.node) e with
      | none => return .ok ()
      | some (stage, effect) =>
        setBridge place ({ · with stage })
        match effect with
        | .answer r => return r
        | .askClient _ => playBridge place note fuel (.clientAnswers (← askClient place note))
        | .deleteNode =>
          let _ ← delete b.node
          playBridge place note fuel .nodeDeleted

/-- A call comes to its end after at most three steps. -/
def callBridge (place : Nat) (c : ClientCall) (note : ClientNote) :
    RehearsalM (Except BridgeError Unit) := playBridge place note 3 (.call c)

def connect (place : Nat) : RehearsalM (Except BridgeError Unit) :=
  callBridge place .connect .connect

def read (place : Nat) : RehearsalM (Except BridgeError Unit) := callBridge place .transfer .read

def write (place : Nat) (batch : List String) : RehearsalM (Except BridgeError Unit) :=
  callBridge place .transfer (.write batch)

def close (place : Nat) : RehearsalM (Except BridgeError Unit) := do
  let deletes := (← get).host.memory?.map (·.deleted.length)
  callBridge place .close (.close deletes)

/-- The forwarded records since they were last taken. -/
def takeRecords : RehearsalM (List NodeRecord) :=
  modifyGet fun r => (r.host.records.toList, { r with host := { r.host with records := #[] } })

/-- The reports of unexpected ends since they were last taken. -/
def takeReports : RehearsalM (List NodeError) :=
  modifyGet fun r => (r.host.reports, { r with host := { r.host with reports := [] } })

def addresses (n : Nat) : RehearsalM (Except NodeError (List SocketAddr)) := do
  let found ← (List.range n).mapM fun _ => supervise fun s => findFree s.host
  return (found.mapM id).mapError .allocationFailed

end Rehearsal

end NodeWarden
