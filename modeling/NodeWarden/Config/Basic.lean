import NodeWarden.Spec.Check
import NodeWarden.Text.Ascii

/-! The configuration a node is started with. It says what the spec says, under the layout
that the node's binary expects, and carries a name once the node is really created. -/

namespace NodeWarden

inductive Layout
  | object
  | list
  deriving DecidableEq, Repr

def Layout.word : Layout → String
  | .object => "object"
  | .list => "list"

inductive ConfigError
  | invalid (e : SpecError)
  | unknownLayout (word : String)
  | unreadable
  deriving DecidableEq, Repr

def ConfigError.message : ConfigError → String
  | .invalid e => "invalid " ++ e.field.key ++ ": " ++ e.fault.message
  | .unknownLayout word =>
    "unknown configuration layout '" ++ word ++ "' (expected 'object' or 'list')"
  | .unreadable => "configuration serialization failed: <json>"

def Layout.parse (s : String) : Except ConfigError Layout :=
  let word := lowerAscii (trim s)
  if word = "object" then .ok .object
  else if word = "list" then .ok .list
  else .error (.unknownLayout word)

inductive Section (α : Type)
  | one (entry : α)
  | list (entries : List α)
  deriving DecidableEq, Repr

namespace Section

variable {α : Type}

def lay (layout : Layout) (entry : α) : Section α :=
  match layout with
  | .object => .one entry
  | .list => .list [entry]

def first? : Section α → Option α
  | .one entry => some entry
  | .list entries => entries.head?

def layout : Section α → Layout
  | .one _ => .object
  | .list _ => .list

@[simp] theorem first?_lay (l : Layout) (a : α) : (lay l a).first? = some a := by
  cases l <;> rfl

@[simp] theorem layout_lay (l : Layout) (a : α) : (lay l a).layout = l := by
  cases l <;> rfl

end Section

structure NodeConfig where
  name : Option String := none
  identity : Option String := none
  tcpListenerAddress : Option String := none
  ticket : Option String := none
  relay : Option String := none
  kafkaInlet : Section Inlet
  kafkaOutlet : Section Outlet
  deriving DecidableEq, Repr

namespace NodeConfig

def withName (c : NodeConfig) (name : String) : NodeConfig := { c with name := some name }

def inlet? (c : NodeConfig) : Option Inlet := c.kafkaInlet.first?

def outlet? (c : NodeConfig) : Option Outlet := c.kafkaOutlet.first?

end NodeConfig

namespace NodeSpec

def render (layout : Layout) (spec : NodeSpec) : NodeConfig where
  identity := spec.identity
  tcpListenerAddress := spec.listenerAddress
  ticket := spec.ticket
  relay := spec.relay
  kafkaInlet := .lay layout spec.inlet
  kafkaOutlet := .lay layout spec.outlet

/-- The rendered document of a spec that passes its checks. -/
def build (layout : Layout) (spec : NodeSpec) : Except ConfigError NodeConfig :=
  match spec.check with
  | .ok () => .ok (spec.render layout)
  | .error e => .error (.invalid e)

theorem build_eq_ok_iff {layout : Layout} {spec : NodeSpec} {c : NodeConfig} :
    spec.build layout = .ok c ↔ spec.check = .ok () ∧ c = spec.render layout := by
  unfold build
  split <;> rename_i h <;> simp [h, eq_comm]

end NodeSpec

end NodeWarden
