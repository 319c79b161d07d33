import NodeWarden.Host.Echo
import NodeWarden.Host.Program
import NodeWarden.Plane.Command

/-! What stands in for the node binary on a rehearsed host: a binary with canned answers,
or one that keeps a little state of its own and acts like a node. -/

namespace NodeWarden

/-- An answer; without a status the binary stays until it is killed. -/
structure CannedAnswer where
  out : List UInt8 := []
  err : List UInt8 := []
  status : Option ExitStatus := some (.code 0)
  deriving Repr

/-- The state of a stand-in: the status it wrote last, what it shows and lists if it was
told so, with which code its nodes crash, and the last node that it started. -/
structure StandIn where
  status : Option String := none
  shown : Option String := none
  listed : Option String := none
  crash : Option Int := none
  node : Option Nat := none
  deriving Repr

inductive NodeBinary
  | canned (answers : List (String × CannedAnswer))
  | standIn (state : StandIn)
  deriving Repr

def noAnswer : CannedAnswer where
  err := textBytes "no canned answer\n"
  status := some (.code 1)

/-- The subcommand that a call is known by. -/
def subcommand (args : List String) : String :=
  match args with
  | "identity" :: _ => "identity"
  | _ => args.getD 1 ""

def cannedAnswer (answers : List (String × CannedAnswer)) (args : List String) : CannedAnswer :=
  let sub := subcommand args
  ((answers.lookup (sub ++ "." ++ args.getD 2 "")).or (answers.lookup sub)).getD noAnswer

def CannedAnswer.acts (a : CannedAnswer) : List Act :=
  [.print .stdout a.out, .print .stderr a.err, (a.status.map .quit).getD .hang]

def CannedAnswer.output (a : CannedAnswer) : CommandOutput where
  status := a.status.getD (.signal killSignal)
  stdout := a.out
  stderr := a.err

/-- A call as it is logged: the values of the variables that matter, and the arguments. -/
def callLine (lookup : String → Option String) (args : List String) : String :=
  let keys := ["NO_INPUT", "NO_COLOR", "OCKAM_DISABLE_UPGRADE_CHECK",
    "OCKAM_OPENTELEMETRY_EXPORT", "OCKAM_LOGGING", "OCKAM_LOG_LEVEL"]
  "[" ++ "/".intercalate (keys.map fun key => (lookup key).getD "") ++ "] " ++ " ".intercalate args

namespace StandIn

/-- What a node of the stand-in does: two lines that are logs, and two that are not. -/
def nodeActs (s : StandIn) : List Act :=
  [.note "running",
    .print .stdout (textBytes "2024-01-01T00:00:00 INFO node started\n"),
    .print .stdout (textBytes "2024-01-01T00:00:00 TRACE dropped by level\n"),
    .print .stdout (textBytes "not a log line\n"),
    .print .stderr (textBytes "2024-01-01T00:00:01 WARN broker slow to answer\n")] ++
  match s.crash with
  | some code => [.note "stopped", .quit (exitCode code)]
  | none => [.hang]

def stopActs : List Act := [.note "stopped", .quit (.code 0)]

def done (out : String) : CommandOutput := ⟨.code 0, textBytes out, []⟩

def failed (code : Int) (err : String) : CommandOutput := ⟨.code code, [], echoBytes err⟩

def describe (s : StandIn) (name : String) : CommandOutput :=
  match s.shown, s.status with
  | some text, _ => done text
  | none, some status =>
    done ("\x7b\"name\":\"" ++ name ++ "\",\"status\":\"" ++ status ++ "\"\x7d\n")
  | none, none => failed 1 ("node " ++ name ++ " not found")

/-- The answer to a short command, and the state after it. -/
def answer (s : StandIn) (args : List String) : StandIn × CommandOutput :=
  match args with
  | "node" :: "delete" :: _ => ({ s with status := some "stopped" }, done "")
  | "node" :: "show" :: name :: _ => (s, s.describe name)
  | "node" :: "list" :: _ => (s, done (s.listed.getD "[]\n"))
  | "identity" :: "create" :: name :: _ => (s, done ("\n  I" ++ name ++ "0001  \n"))
  | _ => (s, failed 2 ("unsupported command: " ++ " ".intercalate args))

end StandIn

end NodeWarden
