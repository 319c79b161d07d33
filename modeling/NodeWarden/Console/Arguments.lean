import NodeWarden.Text.Numeral
import NodeWarden.Text.Split

/-! The arguments of the console. Options have long names and stand anywhere; those that
every command knows may be given before the command and again after it, where they win.
Nothing is taken twice at one level, and after `--` all is plain. -/

namespace NodeWarden

inductive OutputFormat
  | table
  | json
  deriving DecidableEq, Repr

inductive ConsoleCommand
  | render (specPath : String) (allocateListener : Bool)
  | freeAddress (count : Nat)
  | probe (address : String)
  | status (name : String)
  | list (namesOnly : Bool)
  | delete (name : String)
  | identity (name : String)
  deriving DecidableEq, Repr

/-- A command and the options that every command knows. -/
structure Invocation where
  format : OutputFormat
  binary : Option String
  layout : Option String
  command : ConsoleCommand
  deriving DecidableEq, Repr

/-- What a command line asks for. -/
inductive CommandLine
  | version
  | invocation (i : Invocation)
  deriving DecidableEq, Repr

/-- The arguments of one level: options with their values, flags, and plain words. -/
structure Level where
  options : List (String × String) := []
  flags : List String := []
  words : List String := []
  deriving DecidableEq, Repr

/-- What a level may hold. -/
structure LevelShape where
  options : List String
  flags : List String := []
  words : Nat := 0
  showsVersion : Bool := false

def sharedOptions : List String := ["format", "binary", "layout"]

/-- What an argument is at a level. -/
inductive ArgumentKind
  | word
  | option (name : String) (value : Option String)
  | flag (name : String)
  | version
  | endOfOptions
  | unknown
  deriving DecidableEq, Repr

def looksLikeOption (arg : String) : Bool := arg.toList.head? == some '-' && arg != "-"

def asksForVersion (arg : String) : Bool :=
  arg == "--version" || ['-', 'V'].isPrefixOf arg.toList

def LevelShape.kind (shape : LevelShape) (arg : String) : ArgumentKind :=
  if !looksLikeOption arg then .word
  else if shape.showsVersion && asksForVersion arg then .version
  else if arg = "--" then .endOfOptions
  else
    match arg.toList with
    | '-' :: '-' :: cs =>
      let (name, rest) := cs.span (· != '=')
      let name := String.ofList name
      let value := if rest.isEmpty then none else some (String.ofList (rest.drop 1))
      if shape.options.contains name then .option name value
      else if shape.flags.contains name && value.isNone then .flag name
      else .unknown
    | _ => .unknown

namespace Level

def addWord (shape : LevelShape) (l : Level) (word : String) : Option Level :=
  if l.words.length < shape.words then some { l with words := l.words ++ [word] } else none

def addOption (l : Level) (name value : String) : Option Level :=
  if (l.options.lookup name).isSome then none
  else some { l with options := (name, value) :: l.options }

def addFlag (l : Level) (name : String) : Option Level :=
  if l.flags.contains name then none else some { l with flags := name :: l.flags }

/-- Reads the arguments of a level, of which the last may have been an option that waits for
its value. A level that stops at a word leaves the word and the rest, and so does any level
where the version is asked for. -/
def read (shape : LevelShape) (stopsAtWord : Bool) :
    Option String → Level → List String → Option (Level × List String)
  | none, l, [] => some (l, [])
  | some _, _, [] => none
  | some name, l, value :: args =>
    if looksLikeOption value then none
    else (l.addOption name value).bind fun l => read shape stopsAtWord none l args
  | none, l, arg :: args =>
    match shape.kind arg with
    | .word =>
      if stopsAtWord then some (l, arg :: args)
      else (l.addWord shape arg).bind fun l => read shape stopsAtWord none l args
    | .option name none => read shape stopsAtWord (some name) l args
    | .option name (some value) =>
      (l.addOption name value).bind fun l => read shape stopsAtWord none l args
    | .flag name => (l.addFlag name).bind fun l => read shape stopsAtWord none l args
    | .version => some (l, arg :: args)
    | .endOfOptions =>
      if stopsAtWord then none else (args.foldlM (addWord shape) l).map (·, [])
    | .unknown => none

end Level

def commandShape? : String → Option LevelShape
  | "render" => some { options := "spec" :: sharedOptions, flags := ["allocate-listener"] }
  | "free-address" => some { options := "count" :: sharedOptions }
  | "list" => some { options := sharedOptions, flags := ["names-only"] }
  | "probe" | "status" | "delete" | "identity" => some { options := sharedOptions, words := 1 }
  | _ => none

/-- How many addresses can be asked for at once. -/
def maxCount : Nat := 64

def readCount : Option String → Option Nat
  | none => some 1
  | some value => do
    let n ← (readPort value.toList).toOption
    if 1 ≤ n ∧ n ≤ maxCount then some n else none

def readCommand (word : String) (l : Level) : Option ConsoleCommand :=
  match word, l.words with
  | "render", [] => do
    let path ← l.options.lookup "spec"
    if path.isEmpty then none else some (.render path (l.flags.contains "allocate-listener"))
  | "free-address", [] => (readCount (l.options.lookup "count")).map .freeAddress
  | "list", [] => some (.list (l.flags.contains "names-only"))
  | "probe", [address] => some (.probe address)
  | "status", [name] => some (.status name)
  | "delete", [name] => some (.delete name)
  | "identity", [name] => some (.identity name)
  | _, _ => none

def readFormat : String → Option OutputFormat
  | "table" => some .table
  | "json" => some .json
  | _ => none

/-- A path, which is never empty. -/
def readPath (value : String) : Option String := if value.isEmpty then none else some value

/-- The value of a shared option: the command's own, or else the one before the command, or
else that of a variable. A level that does not give the option reads the variable, so an
unreadable variable is harmless only if both levels give it. -/
def sharedValue {α : Type} (read : String → Option α) (outer inner env : Option String) :
    Option (Option α) := do
  let before ← (outer.or env).mapM read
  let after ← (inner.or env).mapM read
  return if inner.isSome || outer.isNone then after else before

/-- The meaning of a command line, if it has one. Whoever asks for the version gets it whatever
comes after. -/
def CommandLine.parse? (lookup : String → Option String) (args : List String) :
    Option CommandLine := do
  let (outer, rest) ← Level.read { options := sharedOptions, showsVersion := true } true none {} args
  match rest with
  | [] => none
  | word :: args =>
    let format := outer.options.lookup "format"
    let binary := outer.options.lookup "binary"
    if asksForVersion word then
      let _ ← format.mapM readFormat
      let _ ← binary.mapM readPath
      return .version
    let (inner, _) ← Level.read (← commandShape? word) false none {} args
    let command ← readCommand word inner
    let format ← sharedValue readFormat format (inner.options.lookup "format") none
    let binary ← sharedValue readPath binary (inner.options.lookup "binary")
      (lookup "SEALINK_NODE_BINARY")
    let layout ← sharedValue some (outer.options.lookup "layout")
      (inner.options.lookup "layout") (lookup "SEALINK_CONFIG_LAYOUT")
    return .invocation { format := format.getD .table, binary, layout, command }

end NodeWarden
