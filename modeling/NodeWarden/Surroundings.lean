import NodeWarden.Json.Reader
import NodeWarden.Log.Filter
import NodeWarden.Settings
import NodeWarden.Spec.Document

/-! What a command finds around it when it is started, its variables and files, and what it
learns from them: its settings, the spec of a node and what it is to log. -/

namespace NodeWarden

structure Surroundings where
  lookup : String → Option String
  isFile : String → Bool
  read : String → Except String (List UInt8)
  /-- The text of a log filter, if one is set. -/
  logDirectives : Option String := none

inductive SpecFileFault
  | unreadable (fault : String)
  | noSpec
  deriving DecidableEq, Repr

namespace Surroundings

def settings (s : Surroundings) : Except SettingsError Settings :=
  Settings.ofVariables s.isFile s.lookup

def logFilter (s : Surroundings) : LogFilter := LogFilter.ofSetting s.logDirectives

def searchList (s : Surroundings) : Option String := s.lookup "PATH"

def readText (s : Surroundings) (path : String) : Except String String :=
  match s.read path with
  | .error fault => .error fault
  | .ok bytes =>
    match utf8Text? bytes with
    | some text => .ok text
    | none => .error "stream did not contain valid UTF-8"

def readSpec (s : Surroundings) (path : String) : Except SpecFileFault NodeSpec :=
  match s.readText path with
  | .error fault => .error (.unreadable fault)
  | .ok text =>
    match Json.ofText? text >>= NodeSpec.ofJson? with
    | some spec => .ok spec
    | none => .error .noSpec

end Surroundings

end NodeWarden
