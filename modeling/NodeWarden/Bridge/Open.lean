import NodeWarden.Bridge.Settings
import NodeWarden.Supervisor

/-! Opening a bridge: a node between a client and its brokers. The client is made for the
node's inlet, and only then is the node started or, on the consumer side, used again. -/

namespace NodeWarden

def consumerIdentity : String := "consumer"

def producerIdentity : String := "producer"

/-- A node behind a bridge, made for it or found running. -/
inductive BridgeNode
  | created (node : NewNode)
  | adopted (node : NewNode)
  deriving DecidableEq, Repr

structure OpenBridge where
  node : BridgeNode
  inletAddress : String
  deriving DecidableEq, Repr

def BridgeNode.node : BridgeNode → NewNode
  | created n => n
  | adopted n => n

namespace Supervisor

/-- An identifier that was configured, or that of an identity by name. -/
def identifier (configured : Option String) (name : String) : Flow (Except NodeError String) :=
  match configured with
  | some identifier => pure (.ok identifier)
  | none => request (.identity name)

def inputSpec (bootstrap inletAddress consumer producer : String) (s : InputSettings) :
    NodeSpec where
  identity := some consumerIdentity
  listenerAddress := some s.nodeAddress
  inlet := {
    source := inletAddress
    avoidPublishing := true
    allowProducer := some (.identifierEquals producer)
    allow := some (.identifierEquals consumer) }
  outlet := {
    bootstrapServer := bootstrap
    tls := s.tls
    allow := some (.identifierEquals consumer) }

def outputSpec (bootstrap inletAddress : String) (s : OutputSettings) : NodeSpec where
  ticket := some s.ticket
  relay := s.relay
  inlet := { source := inletAddress, avoidPublishing := true, consumer := some s.routeToConsumer }
  outlet := { bootstrapServer := bootstrap, tls := s.tls }

/-- The configuration of a node that is used again. -/
def adopt (s : Supervisor) (spec : NodeSpec) (name : NodeName) : Except NodeError NewNode :=
  (s.render spec).map fun config => ⟨name, (config.withName name.text).compact⟩

/-- Makes the client, then the node. -/
def openInlet (inletAddress : String) (node : Flow (Except NodeError BridgeNode)) :
    Flow (Except BridgeError OpenBridge) := do
  match ← request (.makeClient [inletAddress]) with
  | .error fault => return .error (.client fault)
  | .ok () =>
    match ← node with
    | .ok node => return .ok ⟨node, inletAddress⟩
    | .error e => return .error (.node e)

def openFresh (s : Supervisor) (settings : InputSettings) (bootstrap consumer producer : String) :
    Flow (Except BridgeError OpenBridge) := do
  match ← s.allocateAddress with
  | .error e => return .error (.node e)
  | .ok inletAddress =>
    openInlet inletAddress do
      let node ← s.create (inputSpec bootstrap inletAddress consumer producer settings)
      return node.map .created

def openReused (s : Supervisor) (settings : InputSettings) (bootstrap consumer producer : String)
    (found : ReusableNode) : Flow (Except BridgeError OpenBridge) :=
  openInlet found.inletAddress <| pure <|
    (s.adopt (inputSpec bootstrap found.inletAddress consumer producer settings) found.name).map
      .adopted

/-- The consumer side: the node's address is the settings' own, and a node that is already
there is used again. -/
def openInput (s : Supervisor) (settings : InputSettings) :
    Flow (Except BridgeError OpenBridge) := do
  match firstBootstrapServer settings.seedBrokers with
  | .error e => return .error e
  | .ok bootstrap =>
    match ← identifier settings.consumerIdentifier consumerIdentity with
    | .error e => return .error (.node e)
    | .ok consumer =>
      match ← identifier settings.producerIdentifier producerIdentity with
      | .error e => return .error (.node e)
      | .ok producer =>
        match ← s.planListener (some settings.nodeAddress) with
        | .error e => return .error (.node e)
        | .ok (.fresh _) => s.openFresh settings bootstrap consumer producer
        | .ok (.reuse found) => s.openReused settings bootstrap consumer producer found

/-- The producer side: inlet and listener are on free addresses. -/
def openOutput (s : Supervisor) (settings : OutputSettings) :
    Flow (Except BridgeError OpenBridge) := do
  match settings.check with
  | .error e => return .error e
  | .ok () =>
    match firstBootstrapServer settings.seedBrokers with
    | .error e => return .error e
    | .ok bootstrap =>
      match ← s.allocateAddress with
      | .error e => return .error (.node e)
      | .ok inletAddress =>
        openInlet inletAddress do
          let node ← s.launch (outputSpec bootstrap inletAddress settings)
          return node.map .created

end Supervisor

end NodeWarden
