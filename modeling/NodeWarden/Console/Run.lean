import NodeWarden.Address.Allocator
import NodeWarden.Address.Probe
import NodeWarden.Config.Document
import NodeWarden.Console.Arguments
import NodeWarden.Console.Sheet
import NodeWarden.Surroundings

/-! The console: looks at nodes and addresses, and shows how a spec is rendered, by the same
means as the supervisor. What an option says comes before what the variables say. -/

namespace NodeWarden

inductive ConsoleError
  | settings (e : SettingsError)
  | specFile (path : String) (fault : SpecFileFault)
  | config (e : ConfigError)
  | node (e : NodeError)
  deriving DecidableEq, Repr

namespace ConsoleError

def message : ConsoleError → String
  | settings e => e.outer
  | specFile path (.unreadable fault) => "Failed to read spec file " ++ path ++ ": " ++ fault
  | specFile path .noSpec => "Spec file " ++ path ++ " is not a valid node spec: <json>"
  | config e => e.message
  | node e => e.message

def hint? : ConsoleError → Option String
  | specFile _ .noSpec =>
    some "A spec needs at least \x60inlet.from\x60 and \x60outlet.bootstrap_server\x60."
  | config (.unknownLayout _) => some "Supported layouts are \x60object\x60 and \x60list\x60."
  | node (.statusQueryFailed _ _) | node (.deleteFailed _ _) | node (.listFailed _) =>
    some "Check the node name with \x60sealctl list\x60, and SEALINK_NODE_BINARY or --binary."
  | node (.allocationFailed (.invalid _)) =>
    some "Addresses are written host:port, e.g. 127.0.0.1:4000."
  | node (.addressInUse _) => some "Pick another address, or run \x60sealctl free-address\x60."
  | _ => none

def report (e : ConsoleError) : String :=
  "Error: " ++ e.message ++ "\n" ++
    match e.hint? with
    | some hint => "\nHint: " ++ hint ++ "\n"
    | none => ""

end ConsoleError

/-- What is left behind: an exit code, and what was written. -/
structure ConsoleResult where
  exit : Nat
  stdout : String := ""
  stderr : String := ""
  deriving DecidableEq, Repr

/-- A command line that means nothing. -/
def usageResult : ConsoleResult where
  exit := 2

def versionResult : ConsoleResult where
  exit := 0
  stdout := "sealctl 0.1.0\n"

def ConsoleResult.of : Except ConsoleError String → ConsoleResult
  | .ok stdout => ⟨0, stdout, ""⟩
  | .error e => ⟨1, "", e.report⟩

def addressColumns : List Column := [⟨"Address", "address"⟩]

def probeColumns : List Column := addressColumns ++ [⟨"Free", "free"⟩]

def nodeColumns : List Column :=
  [⟨"Name", "name"⟩, ⟨"Status", "status"⟩, ⟨"Running", "running"⟩, ⟨"Listeners", "listeners"⟩,
    ⟨"Kafka Inlets", "inlets"⟩]

def identityColumns : List Column := [⟨"Name", "name"⟩, ⟨"Identifier", "identifier"⟩]

def inletText (i : InletBinding) : Option String :=
  i.bindAddress.map fun source =>
    match i.outletRoute with
    | some route => source ++ " -> " ++ route
    | none => source

/-- The row of a node; one whose status is not known counts as not running. -/
def nodeRow (name : NodeName) : Option NodeDetails → List Cell
  | some d =>
    [.text name.text, (d.status.map Cell.text).getD .missing, .flag d.isRunning,
      .text (", ".intercalate (d.transports.filterMap (·.socketAddress))),
      .text (", ".intercalate (d.inlets.filterMap inletText))]
  | none => [.text name.text, .missing, .flag false, .text "", .text ""]

def Sheet.text (s : Sheet) : OutputFormat → String
  | .table => if s.rows.isEmpty then "No items found.\n" else s.table ++ "\n"
  | .json => s.toDoc.pretty ++ "\n"

def loadSpec (s : Surroundings) (path : String) : Except ConsoleError NodeSpec :=
  (s.readSpec path).mapError (.specFile path)

/-- The document of a spec, as it would be given to a node apart from the name. -/
def renderText (layout : Layout) (spec : NodeSpec) : Except ConsoleError String :=
  match spec.build layout with
  | .ok config => .ok (config.pretty ++ "\n")
  | .error e => .error (.config e)

def freeAddress : Flow (Except ConsoleError String) := do
  match ← findFree .loopback with
  | .ok socket => return .ok socket.text
  | .error e => return .error (.node (.allocationFailed e))

def freeAddresses : Nat → Flow (Except ConsoleError (List String))
  | 0 => return .ok []
  | n + 1 => do
    match ← freeAddress with
    | .error e => return .error e
    | .ok address => return (← freeAddresses n).map (address :: ·)

/-- The rows of nodes, which are asked for their status unless only names are wanted. -/
def nodeRows (namesOnly : Bool) : List NodeName → Flow (List (List Cell))
  | [] => return []
  | name :: names => do
    let details ← if namesOnly then pure none
      else do
        let answer ← request (.details name)
        pure answer.toOption
    return nodeRow name details :: (← nodeRows namesOnly names)

def parseNodeName (name : String) : Except ConsoleError NodeName :=
  (NodeName.parse name).mapError (.node ∘ .invalidName)

namespace Console

def renderSpec (s : Surroundings) (layout : Layout) (path : String) (allocateListener : Bool) :
    Flow (Except ConsoleError String) := do
  match loadSpec s path with
  | .error e => return .error e
  | .ok spec =>
    if allocateListener && spec.listenerAddress.isNone then
      match ← freeAddress with
      | .error e => return .error e
      | .ok address => return renderText layout { spec with listenerAddress := some address }
    else return renderText layout spec

def showStatus (format : OutputFormat) (name : String) : Flow (Except ConsoleError String) := do
  match parseNodeName name with
  | .error e => return .error e
  | .ok name =>
    match ← request (.details name) with
    | .error e => return .error (.node e)
    | .ok d => return .ok (Sheet.text ⟨nodeColumns, [nodeRow name (some d)]⟩ format)

def showList (format : OutputFormat) (namesOnly : Bool) : Flow (Except ConsoleError String) := do
  match ← request .list with
  | .error e => return .error (.node e)
  | .ok names => return .ok (Sheet.text ⟨nodeColumns, ← nodeRows namesOnly names⟩ format)

def deleteNode (name : String) : Flow (Except ConsoleError String) := do
  match parseNodeName name with
  | .error e => return .error e
  | .ok name =>
    match ← request (.delete name) with
    | .error e => return .error (.node e)
    | .ok () => return .ok ("Success: Deleted node " ++ name.text ++ "\n")

def showIdentity (format : OutputFormat) (name : String) : Flow (Except ConsoleError String) := do
  match ← request (.identity name) with
  | .error e => return .error (.node e)
  | .ok identifier =>
    return .ok (Sheet.text ⟨identityColumns, [[.text name, .text identifier]]⟩ format)

def showProbe (format : OutputFormat) (address : String) : Flow (Except ConsoleError String) := do
  match ← probe address with
  | .error e => return .error (.node (.allocationFailed e))
  | .ok lease =>
    return .ok (Sheet.text ⟨probeColumns, [[.text lease.address.text, .flag lease.wasFree]]⟩ format)

def showFree (format : OutputFormat) (count : Nat) : Flow (Except ConsoleError String) := do
  match ← freeAddresses count with
  | .error e => return .error e
  | .ok addresses => return .ok (Sheet.text ⟨addressColumns, addresses.map ([.text ·])⟩ format)

end Console

/-- What a command writes. -/
def ConsoleCommand.output (s : Surroundings) (layout : Layout) (format : OutputFormat) :
    ConsoleCommand → Flow (Except ConsoleError String)
  | render path allocateListener => Console.renderSpec s layout path allocateListener
  | freeAddress count => Console.showFree format count
  | probe address => Console.showProbe format address
  | status name => Console.showStatus format name
  | list namesOnly => Console.showList format namesOnly
  | delete name => Console.deleteNode name
  | identity name => Console.showIdentity format name

namespace Invocation

/-- The settings of the variables, all of which have to be readable, with what the options
say put in their place. -/
def settings (i : Invocation) (s : Surroundings) : Except ConsoleError Settings := do
  let base ← s.settings.mapError .settings
  let base := match i.binary with
    | some binary => base.withResolvedBinary s.isFile binary s.searchList
    | none => base
  match i.layout with
  | none => return base
  | some word =>
    match Layout.parse word with
    | .ok layout => return { base with layout }
    | .error e => throw (.config e)

def output (i : Invocation) (s : Surroundings) (settings : Settings) :
    Flow (Except ConsoleError String) := i.command.output s settings.layout i.format

end Invocation

end NodeWarden
