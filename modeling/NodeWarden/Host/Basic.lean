import NodeWarden.Host.Binary
import NodeWarden.Host.Client
import NodeWarden.Host.Files
import NodeWarden.Host.Ports
import NodeWarden.Host.Shell
import NodeWarden.Life
import NodeWarden.Plane.Memory

/-! A host on which the supervisor can be rehearsed: its programs, files, ports and clock are
values. -/

namespace NodeWarden

/-- How nodes are driven: in memory, each by a script, or through the binary. -/
inductive HostPlane
  | memory (plane : MemoryPlane) (script : String) (program : Option String) (deleteDelay : Nat)
  | commandLine (binary nodeLogLevel : String)
  deriving Repr

/-- A node with the program that runs for it. -/
structure Hosted where
  life : Life
  program : Running
  deriving Repr

/-- An external delete under way. -/
structure PendingDelete where
  node : Nat
  caller : Caller
  dueAt : Nat
  deriving Repr

/-- All that the host is at a time. The calls of the binary are logged as it writes them; what
was forwarded and reported stays until somebody takes it. -/
structure Host where
  plane : HostPlane
  binary : NodeBinary := .canned []
  files : FileTree := {}
  env : List (String × String) := []
  logDirectives : Option String := none
  ports : Ports := {}
  stopGrace : Nat := 5 * nanosPerSecond
  now : Nat := 0
  recent : RecentPorts := {}
  prepared : String := ""
  suffixes : List Nat := []
  callLog : List UInt8 := []
  client : RehearsedClient := {}
  nodes : List Hosted := []
  pending : List PendingDelete := []
  replies : List (Nat × DeleteResult) := []
  callers : Nat := 0
  records : Array NodeRecord := #[]
  reports : List NodeError := []
  deriving Repr

abbrev HostM := StateM Host

namespace Host

def valueOf? (h : Host) (name : String) : Option String := h.env.lookup name

/-- The calls of the binary, if its log is text. -/
def calls (h : Host) : List String :=
  ((utf8Text? h.callLog).map fun log => (textLines log.toList).map String.ofList).getD []

def searchList (h : Host) : String := (h.valueOf? "PATH").getD "/bin:/usr/bin"

def setNode (i : Nat) (n : Hosted) : HostM Unit :=
  modify fun h => { h with nodes := h.nodes.set i n }

def node? (i : Nat) : HostM (Option Hosted) := return (← get).nodes[i]?

def changeProgram (i : Nat) (f : Running → Running) : HostM Unit := do
  if let some n ← node? i then setNode i { n with program := f n.program }

end Host

end NodeWarden
