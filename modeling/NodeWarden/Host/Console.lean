import NodeWarden.Console.Run
import NodeWarden.Host.Requests

/-! The console on a rehearsed host. -/

namespace NodeWarden.Host

def surroundings (h : Host) : Surroundings where
  lookup := h.valueOf?
  isFile := h.files.isFile
  read path := (h.files.read path).mapError FileFault.message
  logDirectives := h.logDirectives

/-- Settles by what binary and how the host drives its nodes. -/
def configure (h : Host) (settings : Settings) : Host :=
  { h with
    plane := .commandLine settings.binary settings.nodeLogLevel
    stopGrace := settings.stopGrace }

def runConsole (h : Host) (args : List String) : ConsoleResult × Host :=
  let s := h.surroundings
  match CommandLine.parse? s.lookup args with
  | none => (usageResult, h)
  | some .version => (versionResult, h)
  | some (.invocation i) =>
    match i.settings s with
    | .error e => (.of (.error e), h)
    | .ok settings =>
      let (written, h) := (run (i.output s settings)).run (h.configure settings)
      (.of written, h)

end NodeWarden.Host
