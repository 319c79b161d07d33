import NodeWarden.Config.Document
import NodeWarden.Registry
import NodeWarden.Settings

/-! Creating nodes. A node is named, its configuration is rendered and its program is run;
until the program runs, nothing is there that would have to be cleaned up. -/

namespace NodeWarden

/-- How nodes are made: by which settings, with which binary, on which host, and how a
node that can be used again is known. -/
structure Supervisor where
  settings : Settings
  binary : String
  host : Ip := .loopback
  marker : String := defaultRoute
  deriving DecidableEq, Repr

/-- A node as it leaves its creator. -/
structure NewNode where
  name : NodeName
  config : String
  deriving DecidableEq, Repr

namespace Supervisor

def render (s : Supervisor) (spec : NodeSpec) : Except NodeError NodeConfig :=
  (spec.build s.settings.layout).mapError .configBuildFailed

def allocateAddress (s : Supervisor) : Flow (Except NodeError String) := do
  match ← findFree s.host with
  | .ok socket => return .ok socket.text
  | .error e => return .error (.allocationFailed e)

def planListener (s : Supervisor) (address : Option String) :
    Flow (Except NodeError ListenerPlan) :=
  NodeWarden.planListener s.host s.marker address

/-- Builds the command of a named node and runs it. -/
def start (s : Supervisor) (node : NewNode) : Flow (Except NodeError NewNode) := do
  request (.prepare node.config)
  match ← request (.spawn node.name) with
  | .ok () => return .ok node
  | .error fault => return .error (.spawnFailed node.name.text s.binary fault)

def create (s : Supervisor) (spec : NodeSpec) : Flow (Except NodeError NewNode) := do
  let suffix ← request .drawSuffix
  match NodeName.fromParts s.settings.nameStem suffix with
  | .error e => return .error (.invalidName e)
  | .ok name =>
    match s.render spec with
    | .error e => return .error e
    | .ok config => s.start ⟨name, (config.withName name.text).compact⟩

/-- Creates a node, on a free address unless the spec names one. -/
def launch (s : Supervisor) (spec : NodeSpec) : Flow (Except NodeError NewNode) := do
  match spec.listenerAddress with
  | some _ => s.create spec
  | none =>
    match ← s.allocateAddress with
    | .error e => return .error e
    | .ok address => s.create { spec with listenerAddress := some address }

end Supervisor

end NodeWarden
