import NodeWarden.Log.Record
import NodeWarden.Supervisor
import NodeWarden.Surroundings

/-! How the daemon comes up: it reads its settings and its spec, and starts one node, unless
a node already serves the listener. Nothing is started if any of this fails. -/

namespace NodeWarden

inductive DaemonError
  | settings (e : SettingsError)
  | noSpecNamed
  | specFile (path : String) (fault : SpecFileFault)
  | node (e : NodeError)
  deriving DecidableEq, Repr

namespace DaemonError

def message : DaemonError → String
  | settings e => e.outer
  | noSpecNamed => "SEALINK_NODE_SPEC must name a spec file"
  | specFile path (.unreadable _) => "failed to read node spec " ++ path
  | specFile path .noSpec => "invalid node spec " ++ path
  | node e => e.message

def causes : DaemonError → List String
  | settings e => [e.inner]
  | noSpecNamed => ["environment variable not found"]
  | specFile _ (.unreadable fault) => [fault]
  | specFile _ .noSpec => ["<json>"]
  | node e => e.causes

/-- A cause as it is shown: indented, behind its number if it has one. -/
def causeText (lead indent cause : String) : String :=
  lead ++ ("\n" ++ indent).intercalate (splitText '\n' cause)

def numberedCause (cause : String) (n : Nat) : String :=
  causeText ("    " ++ toString n ++ ": ") "       " cause

def causesText : List String → String
  | [] => ""
  | [cause] => "\n\nCaused by:\n" ++ causeText "    " "    " cause
  | causes => "\n\nCaused by:\n" ++ "\n".intercalate (causes.mapIdx fun n cause => numberedCause cause n)

def report (e : DaemonError) : String := "Error: " ++ e.message ++ causesText e.causes ++ "\n"

end DaemonError

/-- What the daemon says about itself. -/
inductive DaemonNote
  | starting
  | configured (s : Settings)
  | alreadyServed (node : ReusableNode)
  | started (name : NodeName) (inlet listener : String)
  | interrupted
  | exited (name : NodeName) (exit : NodeExit)
  | monitorStopped (name : NodeName)
  | deleteFailed (name : NodeName) (e : NodeError)
  | complete (name : NodeName) (state : NodeState)
  deriving Repr

inductive NoteField
  | text (s : String)
  | number (n : Nat)
  deriving DecidableEq, Repr

namespace DaemonNote

def level : DaemonNote → LogLevel
  | exited _ _ | monitorStopped _ => .warn
  | deleteFailed _ _ => .error
  | _ => .info

def message : DaemonNote → String
  | starting => "Starting sealink node daemon"
  | configured _ => "Configuration loaded"
  | alreadyServed _ => "A node is already serving this listener, nothing to do"
  | started _ _ _ => "Node started"
  | interrupted => "Received shutdown signal"
  | exited _ _ => "Node process exited"
  | monitorStopped _ => "Node monitor stopped"
  | deleteFailed _ _ => "Failed to delete node"
  | complete _ _ => "Node daemon shutdown complete"

def fields : DaemonNote → List (String × NoteField)
  | starting | interrupted => []
  | configured s =>
    [("binary", .text s.binary), ("layout", .text s.layout.word),
      ("stop_grace_secs", .number (s.stopGrace / nanosPerSecond))]
  | alreadyServed node => [("node", .text node.name.text), ("inlet", .text node.inletAddress)]
  | started name inlet listener =>
    [("node", .text name.text), ("inlet", .text inlet), ("listener", .text listener)]
  | exited name exit => [("node", .text name.text), ("exit", .text exit.text)]
  | monitorStopped name => [("node", .text name.text)]
  | deleteFailed name e => [("node", .text name.text), ("error", .text e.message)]
  | complete name state => [("node", .text name.text), ("state", .text state.word)]

/-- The entry that a note makes in the log. -/
def entry (n : DaemonNote) : LogEntry := ⟨"sealink_node", "message" :: n.fields.map (·.1), n.level⟩

end DaemonNote

/-- What a start has led to. -/
inductive Startup
  | served (node : ReusableNode)
  | started (node : NewNode) (inlet listener : String)
  deriving Repr

namespace Daemon

def readSpec (s : Surroundings) : Except DaemonError NodeSpec :=
  match s.lookup "SEALINK_NODE_SPEC" with
  | none => .error .noSpecNamed
  | some path => (s.readSpec path).mapError (.specFile path)

/-- What the daemon learns before it asks for anything, and what it has said by then. -/
def load (s : Surroundings) : List DaemonNote × Except DaemonError (Settings × NodeSpec) :=
  match s.settings with
  | .error e => ([.starting], .error (.settings e))
  | .ok settings => ([.starting, .configured settings], (readSpec s).map (settings, ·))

def supervisor (settings : Settings) : Supervisor := { settings, binary := settings.binary }

/-- Starts the node of a spec on its listener, or on a free address if it has none. -/
def start (supervisor : Supervisor) (spec : NodeSpec) : Flow (Except DaemonError Startup) := do
  match ← supervisor.planListener spec.listenerAddress with
  | .error e => return .error (.node e)
  | .ok (.reuse node) => return .ok (.served node)
  | .ok (.fresh listener) =>
    match ← supervisor.create { spec with listenerAddress := some listener } with
    | .error e => return .error (.node e)
    | .ok node => return .ok (.started node spec.inlet.source listener)

end Daemon

end NodeWarden
