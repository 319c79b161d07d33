import NodeWarden.Status.Basic
import NodeWarden.Name
import NodeWarden.Json.Reader

/-! Status documents. Every field goes by several names, and what is unknown or left out is
passed over. -/

namespace NodeWarden

def detailsKeys : List (List String) :=
  [["name", "node_name"], ["status", "node_status"],
    ["transports", "tcp_listeners", "tcp-listeners"],
    ["inlets", "kafka_inlets", "kafka-inlets", "tcp_inlets", "tcp-inlets"]]

def transportKeys : List (List String) :=
  [["socket_address", "socket_addr", "socket", "address", "addr"], ["mode"]]

def inletBindingKeys : List (List String) :=
  [["bind_address", "bind_addr", "from", "listen_address"],
    ["outlet_route", "outlet_addr", "to", "route"]]

def TransportBinding.ofJson? (j : Json) : Option TransportBinding :=
  match j.record? transportKeys with
  | some [address, mode] => do
    return {
      socketAddress := ← optional Json.text? address
      mode := ← optional Json.text? mode }
  | _ => none

def InletBinding.ofJson? (j : Json) : Option InletBinding :=
  match j.record? inletBindingKeys with
  | some [address, route] => do
    return {
      bindAddress := ← optional Json.text? address
      outletRoute := ← optional Json.text? route }
  | _ => none

namespace NodeDetails

def ofJson? (j : Json) : Option NodeDetails :=
  match j.record? detailsKeys with
  | some [name, status, transports, inlets] => do
    return {
      name := ← optional Json.text? name
      status := ← optional Json.text? status
      transports := ← defaulted [] (Json.list? TransportBinding.ofJson?) transports
      inlets := ← defaulted [] (Json.list? InletBinding.ofJson?) inlets }
  | _ => none

def ofBytes? (bs : List UInt8) : Option NodeDetails := Json.ofBytes? bs >>= ofJson?

end NodeDetails

/-- The name in an entry of a node list: the entry itself, or its field. -/
def listedName? (entry : Json) : Option String :=
  if entry.isReadable (bracketRoom - 1) then
    match entry with
    | .string s => s.text?
    | .object _ =>
      match entry.record? [["name", "node_name"]] with
      | some [name] => required Json.text? name
      | _ => none
    | _ => none
  else none

/-- The listed names that can name a node. -/
def readNodeList? (bs : List UInt8) : Option (List NodeName) := do
  let names ← Json.ofBytes? bs >>= Json.list? listedName?
  return names.filterMap fun name => (NodeName.parse name).toOption

end NodeWarden
