import NodeWarden.Spec.Basic
import NodeWarden.Json.Record
import NodeWarden.Json.Printer

/-! Specs as JSON. What is unset is not written, and what has a usual value may be left out. -/

namespace NodeWarden

def Json.predicate? (j : Json) : Option Predicate := j.text?.map .mk

def Predicate.toDoc (p : Predicate) : Doc := .text p.expression

def inletKeys : List (List String) :=
  [["from"], ["to"], ["avoid_publishing"], ["consumer"], ["allow_consumer"], ["allow_producer"],
    ["allow"]]

def outletKeys : List (List String) := [["bootstrap_server"], ["tls"], ["allow"]]

def specKeys : List (List String) :=
  [["identity"], ["listener_address"], ["ticket"], ["relay"], ["inlet"], ["outlet"]]

def Inlet.ofSpecJson? (j : Json) : Option Inlet :=
  match j.record? inletKeys with
  | some [source, route, avoid, consumer, allowConsumer, allowProducer, allow] => do
    return {
      source := ← required Json.text? source
      route := ← defaulted defaultRoute Json.text? route
      avoidPublishing := ← defaulted false Json.flag? avoid
      consumer := ← optional Json.text? consumer
      allowConsumer := ← optional Json.predicate? allowConsumer
      allowProducer := ← optional Json.predicate? allowProducer
      allow := ← optional Json.predicate? allow }
  | _ => none

def Outlet.ofSpecJson? (j : Json) : Option Outlet :=
  match j.record? outletKeys with
  | some [server, tls, allow] => do
    return {
      bootstrapServer := ← required Json.text? server
      tls := ← defaulted false Json.flag? tls
      allow := ← optional Json.predicate? allow }
  | _ => none

def NodeSpec.ofJson? (j : Json) : Option NodeSpec :=
  match j.record? specKeys with
  | some [identity, listener, ticket, relay, inlet, outlet] => do
    return {
      identity := ← optional Json.text? identity
      listenerAddress := ← optional Json.text? listener
      ticket := ← optional Json.text? ticket
      relay := ← optional Json.text? relay
      inlet := ← required Inlet.ofSpecJson? inlet
      outlet := ← required Outlet.ofSpecJson? outlet }
  | _ => none

def Inlet.toSpecDoc (i : Inlet) : Doc :=
  .record <| presentMembers [
    ("from", some (.text i.source)),
    ("to", some (.text i.route)),
    ("avoid_publishing", some (.flag i.avoidPublishing)),
    ("consumer", i.consumer.map .text),
    ("allow_consumer", i.allowConsumer.map Predicate.toDoc),
    ("allow_producer", i.allowProducer.map Predicate.toDoc),
    ("allow", i.allow.map Predicate.toDoc)]

def Outlet.toSpecDoc (o : Outlet) : Doc :=
  .record <| presentMembers [
    ("bootstrap_server", some (.text o.bootstrapServer)),
    ("tls", some (.flag o.tls)),
    ("allow", o.allow.map Predicate.toDoc)]

def NodeSpec.toDoc (s : NodeSpec) : Doc :=
  .record <| presentMembers [
    ("identity", s.identity.map .text),
    ("listener_address", s.listenerAddress.map .text),
    ("ticket", s.ticket.map .text),
    ("relay", s.relay.map .text),
    ("inlet", some s.inlet.toSpecDoc),
    ("outlet", some s.outlet.toSpecDoc)]

end NodeWarden
