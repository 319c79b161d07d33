import NodeWarden.Config.Basic
import NodeWarden.Name

/-! What can go wrong with a node, its address or its client, and the text that says so. -/

namespace NodeWarden

/-- The end of a node's program. `code` is missing if a signal ended it. -/
structure NodeExit where
  code : Option Int
  success : Bool
  fault : Option String := none
  stopRequested : Bool := false
  deriving DecidableEq, Repr

def NodeExit.text (e : NodeExit) : String :=
  (match e.code with
    | some code => "exit code " ++ toString code
    | none => "terminated by signal") ++
  (match e.fault with
    | some fault => " (" ++ fault ++ ")"
    | none => "")

inductive AddressError
  | invalid (address : String)
  | probe (address fault : String)
  | exhausted (host : String)
  deriving DecidableEq, Repr

namespace AddressError

def message : AddressError → String
  | invalid address => "invalid address: " ++ address
  | probe address fault => "failed to probe " ++ address ++ ": " ++ fault
  | exhausted host => "no free address available on " ++ host

/-- The texts of what lies beneath the error, the nearest first. -/
def causes : AddressError → List String
  | probe _ fault => [fault]
  | _ => []

end AddressError

def ConfigError.causes : ConfigError → List String
  | .unreadable => ["<json>"]
  | _ => []

inductive NodeError
  | addressInUse (address : String)
  | allocationFailed (e : AddressError)
  | configBuildFailed (e : ConfigError)
  | invalidName (e : NameError)
  | spawnFailed (name binary fault : String)
  | exitedUnexpectedly (name : String) (exit : NodeExit)
  | deleteFailed (name reason : String)
  | statusQueryFailed (name reason : String)
  | listFailed (reason : String)
  | notFound (address : String)
  | reuseLookupFailed (address reason : String)
  | identityFailed (name reason : String)
  | notRunning (name : String)
  deriving DecidableEq, Repr

namespace NodeError

def message : NodeError → String
  | addressInUse address =>
    "address " ++ address ++ " is already in use and no reusable node listens on it"
  | allocationFailed e => "address allocation failed: " ++ e.message
  | configBuildFailed e => "failed to build node configuration: " ++ e.message
  | invalidName e => "invalid node name: " ++ e.message
  | spawnFailed name binary fault =>
    "failed to start node " ++ name ++ " using " ++ binary ++ ": " ++ fault
  | exitedUnexpectedly name exit => "node " ++ name ++ " exited unexpectedly: " ++ exit.text
  | deleteFailed name reason => "failed to delete node " ++ name ++ ": " ++ reason
  | statusQueryFailed name reason => "status query for node " ++ name ++ " failed: " ++ reason
  | listFailed reason => "listing nodes failed: " ++ reason
  | notFound address => "no running node with a Kafka inlet listens on " ++ address
  | reuseLookupFailed address reason =>
    "looking up a reusable node on " ++ address ++ " failed: " ++ reason
  | identityFailed name reason => "failed to create identity " ++ name ++ ": " ++ reason
  | notRunning name => "node " ++ name ++ " is not running"

/-- Whether another try with a newly allocated address may succeed. -/
def isRetryable : NodeError → Bool
  | addressInUse _ => true
  | allocationFailed (.exhausted _) => true
  | _ => false

def isNotFound : NodeError → Bool
  | notFound _ => true
  | _ => false

def causes : NodeError → List String
  | allocationFailed e => e.message :: e.causes
  | configBuildFailed e => e.message :: e.causes
  | invalidName e => [e.message]
  | spawnFailed _ _ fault => [fault]
  | _ => []

end NodeError

/-- A failure of a client: its cause and the contexts added to it, the first one first. -/
structure ClientFault where
  cause : String
  contexts : List String := []
  deriving DecidableEq, Repr

def ClientFault.message (f : ClientFault) : String :=
  ": ".intercalate (f.contexts.reverse ++ [f.cause])

inductive BridgeError
  | settings (reason : String)
  | node (e : NodeError)
  | client (f : ClientFault)
  | shutdown (f : ClientFault)
  deriving DecidableEq, Repr

namespace BridgeError

def message : BridgeError → String
  | settings reason => "invalid bridge settings: " ++ reason
  | node e => e.message
  | client f => "kafka client error: " ++ f.message
  | shutdown f => "kafka client error during shutdown: " ++ f.message

def isShutdown : BridgeError → Bool
  | shutdown _ => true
  | _ => false

end BridgeError

end NodeWarden
