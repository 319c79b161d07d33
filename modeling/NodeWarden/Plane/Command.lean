import NodeWarden.Monitor
import NodeWarden.Status.Document

/-! The node binary as a command line: what it is called with, and what its answers mean. -/

namespace NodeWarden

/-- A command that was not run yet. The variables are set on top of those inherited. -/
structure Command where
  binary : String
  args : List String
  env : List (String × String) := []
  deriving DecidableEq, Repr

namespace Command

/-- The texts that are handed over to the program, the variables as they are written. -/
def handedOver (c : Command) : List String := c.args ++ c.env.map fun (key, value) => key ++ "=" ++ value

def hasNul (s : String) : Bool := s.toList.contains '\x00'

/-- The bytes of the longest text that can be handed over. -/
def longestText : Nat := 131071

/-- Why a command is not even tried. -/
def textFault? (c : Command) : Option String :=
  if c.handedOver.any hasNul then some "nul byte found in provided data" else none

/-- Why a command cannot be run though its program can. -/
def sizeFault? (c : Command) : Option String :=
  if c.handedOver.any (longestText < ·.utf8ByteSize) then some "Argument list too long (os error 7)"
  else none

/-- The arguments as they are shown: one that cannot be handed over is not. -/
def shownArgs (c : Command) : List String :=
  c.args.map fun arg => if hasNul arg then "<string-with-nul>" else arg

end Command

/-- What a command that was run to its end left behind. -/
structure CommandOutput where
  status : ExitStatus
  stdout : List UInt8 := []
  stderr : List UInt8 := []
  deriving DecidableEq, Repr

/-- No prompts, no colour, no upgrade checks and no telemetry. -/
def baseEnv : List (String × String) :=
  [("NO_INPUT", "true"), ("NO_COLOR", "true"), ("OCKAM_DISABLE_UPGRADE_CHECK", "true"),
    ("OCKAM_OPENTELEMETRY_EXPORT", "false")]

def showArgs (name : NodeName) : List String := ["node", "show", name.text, "--output", "json"]

def listArgs : List String := ["node", "list", "--output", "json"]

def deleteArgs (name : NodeName) : List String := ["node", "delete", name.text, "--force", "--yes"]

def identityArgs (name : String) : List String := ["identity", "create", name]

def createArgs (config : String) : List String := ["node", "create", "--node-config", config, "-f"]

def shortCommand (binary : String) (args : List String) : Command where
  binary
  args
  env := baseEnv

/-- The command of a node's own program, which logs at the level asked for. -/
def createCommand (binary nodeLogLevel config : String) : Command where
  binary
  args := createArgs config
  env := baseEnv ++ [("OCKAM_LOGGING", "true"), ("OCKAM_LOG_LEVEL", nodeLogLevel)]

def signalWord : Nat → String
  | 1 => " (SIGHUP)" | 2 => " (SIGINT)" | 3 => " (SIGQUIT)" | 4 => " (SIGILL)"
  | 5 => " (SIGTRAP)" | 6 => " (SIGABRT)" | 7 => " (SIGBUS)" | 8 => " (SIGFPE)"
  | 9 => " (SIGKILL)" | 10 => " (SIGUSR1)" | 11 => " (SIGSEGV)" | 12 => " (SIGUSR2)"
  | 13 => " (SIGPIPE)" | 14 => " (SIGALRM)" | 15 => " (SIGTERM)" | 16 => " (SIGSTKFLT)"
  | 17 => " (SIGCHLD)" | 18 => " (SIGCONT)" | 19 => " (SIGSTOP)" | 20 => " (SIGTSTP)"
  | 21 => " (SIGTTIN)" | 22 => " (SIGTTOU)" | 23 => " (SIGURG)" | 24 => " (SIGXCPU)"
  | 25 => " (SIGXFSZ)" | 26 => " (SIGVTALRM)" | 27 => " (SIGPROF)" | 28 => " (SIGWINCH)"
  | 29 => " (SIGIO)" | 30 => " (SIGPWR)" | 31 => " (SIGSYS)"
  | _ => ""

def ExitStatus.text : ExitStatus → String
  | .code n => "exit status: " ++ toString n
  | .signal n => "signal: " ++ toString n ++ signalWord n

/-- The output of a command that succeeded, or why there is none. -/
def commandOutput (command : Command) (ran : Except String CommandOutput) :
    Except String (List UInt8) :=
  match ran with
  | .error fault => .error ("failed to run " ++ command.binary ++ ": " ++ fault)
  | .ok output =>
    if output.status = .code 0 then .ok output.stdout
    else .error ("\x60" ++ " ".intercalate command.args ++ "\x60 exited with " ++
      output.status.text ++ ": " ++ trim (lossyText output.stderr))

def readDetails (name : NodeName) (output : Except String (List UInt8)) :
    Except NodeError NodeDetails :=
  match output with
  | .error reason => .error (.statusQueryFailed name.text reason)
  | .ok stdout =>
    match NodeDetails.ofBytes? stdout with
    | some details => .ok details
    | none => .error (.statusQueryFailed name.text "unreadable status output: <json>")

def readList (output : Except String (List UInt8)) : Except NodeError (List NodeName) :=
  match output with
  | .error reason => .error (.listFailed reason)
  | .ok stdout =>
    match readNodeList? stdout with
    | some names => .ok names
    | none => .error (.listFailed "unreadable list output: <json>")

def readDeleted (name : NodeName) (output : Except String (List UInt8)) : Except NodeError Unit :=
  match output with
  | .error reason => .error (.deleteFailed name.text reason)
  | .ok _ => .ok ()

def readIdentity (name : String) (output : Except String (List UInt8)) : Except NodeError String :=
  match output with
  | .error reason => .error (.identityFailed name reason)
  | .ok stdout =>
    let identifier := trim (lossyText stdout)
    if identifier.isEmpty then .error (.identityFailed name "empty identifier") else .ok identifier

/-- Whether a node is up, as far as its status can be told. -/
def reportsRunning (details : Except NodeError NodeDetails) : Bool :=
  match details with
  | .ok d => d.isRunning
  | .error _ => false

end NodeWarden
