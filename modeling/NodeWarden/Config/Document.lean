import NodeWarden.Config.Basic
import NodeWarden.Spec.Document
import NodeWarden.Json.Reader

/-! Configurations as JSON. A section is one entry or a list of entries; which one it is
is found by trying, so all of a section has to be readable. -/

namespace NodeWarden

def inletConfigKeys : List (List String) :=
  [["from"], ["to"], ["avoid-publishing"], ["consumer"], ["allow-consumer"], ["allow-producer"],
    ["allow"]]

def outletConfigKeys : List (List String) := [["bootstrap-server"], ["tls"], ["allow"]]

def configKeys : List (List String) :=
  [["name"], ["identity"], ["tcp-listener-address"], ["ticket"], ["relay"], ["kafka-inlet"],
    ["kafka-outlet"]]

def Inlet.ofConfigJson? (j : Json) : Option Inlet :=
  match j.record? inletConfigKeys with
  | some [source, route, avoid, consumer, allowConsumer, allowProducer, allow] => do
    return {
      source := ← required Json.text? source
      route := ← required Json.text? route
      avoidPublishing := ← required Json.flag? avoid
      consumer := ← optional Json.text? consumer
      allowConsumer := ← optional Json.predicate? allowConsumer
      allowProducer := ← optional Json.predicate? allowProducer
      allow := ← optional Json.predicate? allow }
  | _ => none

def Outlet.ofConfigJson? (j : Json) : Option Outlet :=
  match j.record? outletConfigKeys with
  | some [server, tls, allow] => do
    return {
      bootstrapServer := ← required Json.text? server
      tls := ← required Json.flag? tls
      allow := ← optional Json.predicate? allow }
  | _ => none

/-- One entry if the value reads as one, else a list of entries. -/
def Section.ofJson? {α : Type} (entry : Json → Option α) (j : Json) : Option (Section α) :=
  if j.isReadable (bracketRoom - 1) then
    match entry j with
    | some a => some (.one a)
    | none => (j.list? entry).map .list
  else none

def NodeConfig.ofJson? (j : Json) : Option NodeConfig :=
  match j.record? configKeys with
  | some [name, identity, listener, ticket, relay, inlet, outlet] => do
    return {
      name := ← optional Json.text? name
      identity := ← optional Json.text? identity
      tcpListenerAddress := ← optional Json.text? listener
      ticket := ← optional Json.text? ticket
      relay := ← optional Json.text? relay
      kafkaInlet := ← required (Section.ofJson? Inlet.ofConfigJson?) inlet
      kafkaOutlet := ← required (Section.ofJson? Outlet.ofConfigJson?) outlet }
  | _ => none

def NodeConfig.ofText (s : String) : Except ConfigError NodeConfig :=
  match Json.ofText? s >>= NodeConfig.ofJson? with
  | some c => .ok c
  | none => .error .unreadable

def Inlet.toConfigDoc (i : Inlet) : Doc :=
  .record <| presentMembers [
    ("from", some (.text i.source)),
    ("to", some (.text i.route)),
    ("avoid-publishing", some (.flag i.avoidPublishing)),
    ("consumer", i.consumer.map .text),
    ("allow-consumer", i.allowConsumer.map Predicate.toDoc),
    ("allow-producer", i.allowProducer.map Predicate.toDoc),
    ("allow", i.allow.map Predicate.toDoc)]

def Outlet.toConfigDoc (o : Outlet) : Doc :=
  .record <| presentMembers [
    ("bootstrap-server", some (.text o.bootstrapServer)),
    ("tls", some (.flag o.tls)),
    ("allow", o.allow.map Predicate.toDoc)]

def Section.toDoc {α : Type} (entry : α → Doc) : Section α → Doc
  | .one a => entry a
  | .list entries => .list (entries.map entry)

namespace NodeConfig

def toDoc (c : NodeConfig) : Doc :=
  .record <| presentMembers [
    ("name", c.name.map .text),
    ("identity", c.identity.map .text),
    ("tcp-listener-address", c.tcpListenerAddress.map .text),
    ("ticket", c.ticket.map .text),
    ("relay", c.relay.map .text),
    ("kafka-inlet", some (c.kafkaInlet.toDoc Inlet.toConfigDoc)),
    ("kafka-outlet", some (c.kafkaOutlet.toDoc Outlet.toConfigDoc))]

/-- The one line that is passed on the command line. -/
def compact (c : NodeConfig) : String := c.toDoc.compact

def pretty (c : NodeConfig) : String := c.toDoc.pretty

end NodeConfig

end NodeWarden
