import NodeWarden.Error
import NodeWarden.Json.Reader
import NodeWarden.Json.Record
import NodeWarden.Text.Split

/-! Settings of the two kinds of bridge, and which of the seed brokers a node talks to. -/

namespace NodeWarden

def defaultNodeAddress : String := "127.0.0.1:4000"

structure InputSettings where
  seedBrokers : List String
  consumerIdentifier : Option String := none
  producerIdentifier : Option String := none
  tls : Bool := false
  nodeAddress : String := defaultNodeAddress
  deriving DecidableEq, Repr

structure OutputSettings where
  seedBrokers : List String
  ticket : String
  routeToConsumer : String
  relay : Option String := none
  tls : Bool := false
  deriving DecidableEq, Repr

def inputSettingsKeys : List (List String) :=
  [["seed_brokers"], ["consumer_identifier"], ["producer_identifier"], ["tls"], ["node_address"]]

def outputSettingsKeys : List (List String) :=
  [["seed_brokers"], ["ticket"], ["route_to_consumer"], ["relay"], ["tls"]]

def InputSettings.ofJson? (j : Json) : Option InputSettings :=
  match j.record? inputSettingsKeys with
  | some [brokers, consumer, producer, tls, address] => do
    return {
      seedBrokers := ← required (Json.list? Json.text?) brokers
      consumerIdentifier := ← optional Json.text? consumer
      producerIdentifier := ← optional Json.text? producer
      tls := ← defaulted false Json.flag? tls
      nodeAddress := ← defaulted defaultNodeAddress Json.text? address }
  | _ => none

def OutputSettings.ofJson? (j : Json) : Option OutputSettings :=
  match j.record? outputSettingsKeys with
  | some [brokers, ticket, route, relay, tls] => do
    return {
      seedBrokers := ← required (Json.list? Json.text?) brokers
      ticket := ← required Json.text? ticket
      routeToConsumer := ← required Json.text? route
      relay := ← optional Json.text? relay
      tls := ← defaulted false Json.flag? tls }
  | _ => none

/-- The first broker that is not blank; an entry may name several, with commas between. -/
def firstBootstrapServer (seedBrokers : List String) : Except BridgeError String :=
  let parts := seedBrokers.flatMap fun entry => (splitEach ',' entry.toList).map trimChars
  match parts.find? fun part => !part.isEmpty with
  | some part => .ok (String.ofList part)
  | none => .error (.settings "seed_brokers must name at least one broker")

def OutputSettings.check (s : OutputSettings) : Except BridgeError Unit :=
  if isBlankText s.ticket then .error (.settings "ticket cannot be empty")
  else if isBlankText s.routeToConsumer then
    .error (.settings "route_to_consumer cannot be empty")
  else .ok ()

end NodeWarden
