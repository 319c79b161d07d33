import NodeWarden.Text.Blank
import NodeWarden.Name

/-! The log lines of a node: a timestamp, a level in capitals and a message, with blanks
between them. Other lines are passed over. -/

namespace NodeWarden

inductive LogLevel
  | debug
  | info
  | warn
  | error
  deriving DecidableEq, Repr

def LogLevel.word : LogLevel → String
  | .debug => "DEBUG"
  | .info => "INFO"
  | .warn => "WARN"
  | .error => "ERROR"

def LogLevel.parse? (word : String) : Option LogLevel :=
  [LogLevel.debug, .info, .warn, .error].find? (·.word == word)

structure LogRecord where
  timestamp : String
  level : LogLevel
  message : String
  deriving DecidableEq, Repr

/-- What stands before the first blank, and what is left after the blanks there. -/
def splitField (cs : List Char) : Option (List Char × List Char) :=
  match cs.dropWhile (!isBlank ·) with
  | [] => none
  | _ :: rest => some (cs.takeWhile (!isBlank ·), dropBlanks rest)

def LogRecord.parse? (line : String) : Option LogRecord := do
  let (timestamp, rest) ← splitField line.toList
  let (word, message) ← splitField rest
  let level ← LogLevel.parse? (String.ofList word)
  return ⟨String.ofList timestamp, level, String.ofList message⟩

/-- A record as the host logs it: under the name of its node, with no timestamp. -/
structure NodeRecord where
  node : NodeName
  level : LogLevel
  message : String
  deriving DecidableEq, Repr

def forwardLine (node : NodeName) (line : String) : Option NodeRecord :=
  (LogRecord.parse? line).map fun r => ⟨node, r.level, r.message⟩

theorem LogLevel.parse?_word (l : LogLevel) : LogLevel.parse? l.word = some l := by
  cases l <;> decide

end NodeWarden
