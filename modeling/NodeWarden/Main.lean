import NodeWarden.Console.Run
import NodeWarden.Daemon.Startup
import NodeWarden.Plane.Command

/-! The command line. With arguments it is the console, without any the daemon. No program
is started and no address is bound from here: what needs either is answered as a failure. -/

namespace NodeWarden.Main

def noPrograms : String := "programs cannot be started here"

def noSockets : String := "addresses cannot be bound here"

def knownVariables : List String :=
  ["PATH", "SEALINK_NODE_BINARY", "SEALINK_NODE_LOG_LEVEL", "SEALINK_NODE_PREFIX",
    "SEALINK_CONFIG_LAYOUT", "SEALINK_STOP_GRACE_SECS", "SEALINK_NODE_SPEC"]

def readVariables : IO (List (String × String)) := do
  let values ← knownVariables.mapM fun name => return (name, ← IO.getEnv name)
  return values.filterMap fun (name, value) => value.map (name, ·)

def readFile (path : String) : IO (String × Except String (List UInt8)) := do
  try
    return (path, .ok (← IO.FS.readBinFile path).toList)
  catch e => return (path, .error (toString e))

/-- The files that may be looked at: every argument, every variable's value, and what these
name in a directory of the search list. -/
def candidates (env : List (String × String)) (args : List String) : List String :=
  let names := "ockam" :: env.map (·.2) ++ args
  let dirs := splitText ':' ((env.lookup "PATH").getD "")
  names ++ dirs.flatMap fun dir => names.map (joinPath dir)

def surroundings (env : List (String × String)) (files : List (String × Except String (List UInt8))) :
    Surroundings where
  lookup name := env.lookup name
  isFile path := (files.lookup path).any fun content => content.toOption.isSome
  read path := (files.lookup path).getD (.error "not read")

def askBinary (settings : Settings) (args : List String) : Except String (List UInt8) :=
  commandOutput (shortCommand settings.binary args) (.error noPrograms)

/-- Answers the requests of a flow by what can be done from here. -/
def answer (settings : Settings) : (r : Request) → IO r.Answer
  | .list => return readList (askBinary settings listArgs)
  | .details name => return readDetails name (askBinary settings (showArgs name))
  | .identity name => return readIdentity name (askBinary settings (identityArgs name))
  | .delete name => return readDeleted name (askBinary settings (deleteArgs name))
  | .prepare _ => return ()
  | .spawn _ => return .error noPrograms
  | .resolve _ _ => return none
  | .bind _ => return .failed noSockets
  | .bindAny _ => return .error noSockets
  | .remember _ => return true
  | .drawSuffix => return .ofNat (← IO.rand 0 0xFFFFFFFF)
  | .makeClient _ => return .error ⟨noSockets, []⟩

def finish (r : ConsoleResult) : IO UInt32 := do
  IO.print r.stdout
  IO.eprint r.stderr
  return .ofNat r.exit

def runConsole (s : Surroundings) (args : List String) : IO UInt32 := do
  match CommandLine.parse? s.lookup args with
  | none => finish usageResult
  | some .version => finish versionResult
  | some (.invocation i) =>
    match i.settings s with
    | .error e => finish (.of (.error e))
    | .ok settings => finish (.of (← (i.output s settings).run (answer settings)))

def printNote (s : Surroundings) (n : DaemonNote) : IO Unit :=
  if s.logFilter.lets n.entry then IO.println (n.level.word ++ " " ++ n.message) else return

def fail (e : DaemonError) : IO UInt32 := do
  IO.eprint e.report
  return 1

/-- Goes as far as a start can go without programs. -/
def runDaemon (s : Surroundings) : IO UInt32 := do
  let (opening, loaded) := Daemon.load s
  opening.forM (printNote s)
  match loaded with
  | .error e => fail e
  | .ok (settings, spec) =>
    match ← (Daemon.start (Daemon.supervisor settings) spec).run (answer settings) with
    | .error e => fail e
    | .ok (.served node) =>
      printNote s (.alreadyServed node)
      return 0
    | .ok (.started node inlet listener) =>
      printNote s (.started node.name inlet listener)
      return 0

end NodeWarden.Main

def main (args : List String) : IO UInt32 := do
  let env ← NodeWarden.Main.readVariables
  let files ← (NodeWarden.Main.candidates env args).mapM NodeWarden.Main.readFile
  let s := NodeWarden.Main.surroundings env files
  if args.isEmpty then NodeWarden.Main.runDaemon s else NodeWarden.Main.runConsole s args
