import NodeWarden.Log.Record
import NodeWarden.Text.Ascii
import NodeWarden.Text.Numeral
import NodeWarden.Text.Split

/-! What of a log is written. A filter is a list of directives, with commas between them in
its text. Each lets through what is grave enough, perhaps only from sources whose name begins
in some way, or only what has some field. Of the directives that are about an entry the most
particular one decides, and the last of equals. -/

namespace NodeWarden

def LogLevel.gravity : LogLevel → Nat
  | .debug => 0
  | .info => 1
  | .warn => 2
  | .error => 3

/-- The words for what is let through, from nothing to everything, each with the least level
that it admits. The number of a word may stand for it. -/
def thresholdWords : List (String × Option LogLevel) :=
  [("off", none), ("error", some .error), ("warn", some .warn), ("info", some .info),
    ("debug", some .debug), ("trace", some .debug)]

def readThreshold (cs : List Char) : Option (Option LogLevel) :=
  match readNumeral (thresholdWords.length - 1) cs with
  | .ok n => thresholdWords[n]?.map (·.2)
  | .error _ => (thresholdWords.find? fun w => eqIgnoreCase w.1 (String.ofList cs)).map (·.2)

structure LogDirective where
  /-- How the names of its sources begin. -/
  source : Option (List Char) := none
  /-- A field that its entries have. -/
  field : Option String := none
  /-- The least level that it lets through; without one, nothing. -/
  threshold : Option LogLevel := some .debug
  deriving DecidableEq, Repr

/-- An entry of a log, as far as a filter looks at it. -/
structure LogEntry where
  source : String
  fields : List String
  level : LogLevel
  deriving DecidableEq, Repr

namespace LogDirective

def isAbout (d : LogDirective) (e : LogEntry) : Bool :=
  d.source.all (·.isPrefixOf e.source.toList) && d.field.all e.fields.contains

def lets (d : LogDirective) (e : LogEntry) : Bool := d.threshold.any (·.gravity ≤ e.level.gravity)

/-- The more of a source's name a directive gives the more particular it is, and then one with
a field is. -/
def isLessParticular (d e : LogDirective) : Bool :=
  let reach := fun d : LogDirective => (d.source.map (·.length + 1)).getD 0
  let field := fun d : LogDirective => d.field.getD ""
  reach d < reach e || (reach d == reach e && field d < field e)

/-- The level behind a directive: after an equals sign, which may have nothing behind it. -/
def withThreshold (d : LogDirective) : List Char → Option LogDirective
  | '=' :: cs => if cs.isEmpty then some d else (readThreshold cs).map ({ d with threshold := · })
  | cs => if cs.all isBlank then some d else none

/-- What stands in brackets: the name of a stretch of work or a field, which may be asked to
have a value. Nothing is logged from within a stretch of work, nor are values looked at, so of
such directives only those about a field are about any entry. -/
def readBrackets (source : Option (List Char)) (cs : List Char) : Option (Option LogDirective) :=
  let (name, rest) := cs.span fun c => c != ']' && c != '{'
  match rest with
  | ']' :: rest => (withThreshold { source } rest).map fun _ => none
  | '{' :: rest =>
    let (field, rest) := rest.span (· != '}')
    match rest with
    | '}' :: ']' :: rest =>
      if field.isEmpty then none
      else (withThreshold { source, field := some (String.ofList field) } rest).map fun d =>
        if name.isEmpty && !field.contains '=' then some d else none
    | _ => none
  | _ => none

def canBegin (c : Char) : Bool :=
  c.isAlphanum || c == '-' || c == ':' || c == '_' || c == '[' || 0x80 ≤ c.toNat

/-- Reads a directive, and gives it if it can be about an entry. A word alone is a threshold or
else a source, from which everything is let through. Before a threshold no blanks may lead. -/
def read? (cs : List Char) : Option (Option LogDirective) :=
  if (dropBlanks cs).head?.any canBegin then
    let (name, rest) := cs.span fun c => c != '=' && c != '['
    match rest with
    | [] =>
      match readThreshold name with
      | some threshold => some (some { threshold })
      | none => some (some { source := some name })
    | '[' :: rest => readBrackets (if name.isEmpty then none else some name) rest
    | rest =>
      if name.head?.any isBlank then none
      else (withThreshold { source := some name } rest).map some
  else none

end LogDirective

structure LogFilter where
  directives : List LogDirective
  deriving DecidableEq, Repr

namespace LogFilter

/-- A filter without directives, which still shows errors. -/
def onlyErrors : LogFilter := ⟨[{ threshold := some .error }]⟩

def usual : LogFilter := ⟨[{ threshold := some .info }]⟩

def ofText? (s : String) : Option LogFilter := do
  let directives ← ((splitEach ',' s.toList).filter (!·.isEmpty)).mapM LogDirective.read?
  return if directives.isEmpty then onlyErrors else ⟨directives.filterMap id⟩

/-- The filter of a text, or the usual one if there is no text or it cannot be read. -/
def ofSetting (text : Option String) : LogFilter := (text >>= ofText?).getD usual

/-- The directive that decides about an entry. -/
def deciding? (f : LogFilter) (e : LogEntry) : Option LogDirective :=
  (f.directives.filter (·.isAbout e)).foldl (fun best d =>
    if best.any d.isLessParticular then best else some d) none

def lets (f : LogFilter) (e : LogEntry) : Bool := (f.deciding? e).any (·.lets e)

end LogFilter

/-- The entry that a record of a node makes in the log. -/
def NodeRecord.entry (r : NodeRecord) : LogEntry := ⟨"sealink::node", ["message", "node"], r.level⟩

end NodeWarden
