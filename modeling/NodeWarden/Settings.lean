import NodeWarden.Config.Basic
import NodeWarden.Text.Split

/-! What the supervisor is told by its environment: which binary to drive and how. Times are
counted in nanoseconds. -/

namespace NodeWarden

def nanosPerSecond : Nat := 1000000000

def nanosPerMilli : Nat := 1000000

structure Settings where
  binary : String := "ockam"
  nodeLogLevel : String := "info"
  nameStem : String := "bridge"
  layout : Layout := .object
  stopGrace : Nat := 5 * nanosPerSecond
  deriving DecidableEq, Repr

inductive SettingsError
  | layout (value : String) (e : ConfigError)
  | stopGrace (value : String) (e : NumeralError)
  deriving DecidableEq, Repr

namespace SettingsError

def outer : SettingsError → String
  | layout value _ => "invalid SEALINK_CONFIG_LAYOUT: " ++ value
  | stopGrace value _ => "invalid SEALINK_STOP_GRACE_SECS: " ++ value

def inner : SettingsError → String
  | layout _ e => e.message
  | stopGrace _ e => e.message

def message (e : SettingsError) : String := e.outer ++ ": " ++ e.inner

end SettingsError

/-- The parts of a path that lead anywhere: the root, a leading dot, and the names. -/
def pathParts (path : String) : Nat :=
  let parts := splitEach '/' path.toList
  let lead := match parts with
    | [] :: _ :: _ => 1
    | ['.'] :: _ => 1
    | _ => 0
  lead + (parts.filter fun part => !part.isEmpty && part != ['.']).length

/-- `name` in a directory; a name from the root stands for itself. -/
def joinPath (dir name : String) : String :=
  if name.toList.head? == some '/' then name
  else if dir.isEmpty || dir.toList.getLast? == some '/' then dir ++ name
  else dir ++ "/" ++ name

/-- A bare name is looked up along the search list; any other path is taken as it is, and
so is a name that is not found. -/
def resolveBinary (isFile : String → Bool) (binary : String) (searchList : Option String) : String :=
  if pathParts binary != 1 then binary
  else
    let candidates := match searchList with
      | some dirs => (splitText ':' dirs).map fun dir => joinPath dir binary
      | none => []
    (candidates.find? isFile).getD binary

namespace Settings

def readLayout : Option String → Except SettingsError Layout
  | none => .ok .object
  | some value => (Layout.parse value).mapError (.layout value)

def readStopGrace : Option String → Except SettingsError Nat
  | none => .ok (5 * nanosPerSecond)
  | some value =>
    match readSeconds (trimChars value.toList) with
    | .ok secs => .ok (secs * nanosPerSecond)
    | .error e => .error (.stopGrace value e)

/-- The settings in the variables that `lookup` finds. -/
def ofVariables (isFile : String → Bool) (lookup : String → Option String) :
    Except SettingsError Settings := do
  let asked := ((lookup "SEALINK_NODE_BINARY").filter (!isBlankText ·)).getD "ockam"
  let layout ← readLayout (lookup "SEALINK_CONFIG_LAYOUT")
  let stopGrace ← readStopGrace (lookup "SEALINK_STOP_GRACE_SECS")
  return {
    binary := resolveBinary isFile asked (lookup "PATH")
    nodeLogLevel := (lookup "SEALINK_NODE_LOG_LEVEL").getD "info"
    nameStem := (lookup "SEALINK_NODE_PREFIX").getD "bridge"
    layout
    stopGrace }

/-- Settings are read just if the layout and the grace can be read. -/
theorem ofVariables_eq_ok_iff {isFile : String → Bool} {lookup : String → Option String}
    {s : Settings} : ofVariables isFile lookup = .ok s ↔
      ∃ layout stopGrace, readLayout (lookup "SEALINK_CONFIG_LAYOUT") = .ok layout ∧
        readStopGrace (lookup "SEALINK_STOP_GRACE_SECS") = .ok stopGrace ∧
        s = {
          binary := resolveBinary isFile
            (((lookup "SEALINK_NODE_BINARY").filter (!isBlankText ·)).getD "ockam") (lookup "PATH")
          nodeLogLevel := (lookup "SEALINK_NODE_LOG_LEVEL").getD "info"
          nameStem := (lookup "SEALINK_NODE_PREFIX").getD "bridge"
          layout
          stopGrace } := by
  unfold ofVariables
  cases readLayout (lookup "SEALINK_CONFIG_LAYOUT") with
  | error e => simp [bind, Except.bind]
  | ok layout =>
    cases readStopGrace (lookup "SEALINK_STOP_GRACE_SECS") with
    | error e => simp [bind, Except.bind]
    | ok stopGrace => simp [bind, Except.bind, pure, Except.pure, eq_comm]

def withBinary (s : Settings) (binary : String) : Settings := { s with binary }

def withResolvedBinary (s : Settings) (isFile : String → Bool) (binary : String)
    (searchList : Option String) : Settings :=
  { s with binary := resolveBinary isFile binary searchList }

def withStopGrace (s : Settings) (stopGrace : Nat) : Settings := { s with stopGrace }

end Settings

end NodeWarden
