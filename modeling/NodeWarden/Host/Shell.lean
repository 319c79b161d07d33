import NodeWarden.Host.Echo
import NodeWarden.Host.Program

/-! The few shell commands that scripts of nodes are made of, turned into acts. -/

namespace NodeWarden

inductive ShellToken
  | word (cs : List Char)
  | toStderr
  | stop
  deriving DecidableEq, Repr

inductive ShellQuote
  | plain
  | single
  | double
  deriving DecidableEq, Repr

/-- The word in progress, if there is one, and how it is quoted. -/
structure ShellState where
  word : Option (List Char) := none
  quote : ShellQuote := .plain

namespace ShellState

def add (st : ShellState) (cs : List Char) : ShellState :=
  { st with word := some (st.word.getD [] ++ cs) }

def quoted (st : ShellState) (quote : ShellQuote) : ShellState :=
  { word := some (st.word.getD []), quote }

def flush (st : ShellState) : List ShellToken := (st.word.map .word).toList

end ShellState

/-- The text of `$n`; a dollar and what it stands for are kept for the program's own id. -/
def shellArgument (args : List String) (c : Char) : List Char :=
  match digit? c with
  | some n => (args.getD n "").toList
  | none => ['$', c]

/-- What a backslash before a character comes to. Outside of quotes it is dropped, and in
double quotes it is dropped where the character would mean something else. -/
def ShellQuote.behindBackslash (quote : ShellQuote) (c : Char) : List Char :=
  match quote with
  | .plain => if c = '\n' then [] else [c]
  | .single => ['\\', c]
  | .double =>
    if c = '\n' then []
    else if ['$', '\x60', '"', '\\'].contains c then [c]
    else ['\\', c]

def shellTokens (args : List String) : ShellState → List Char → List ShellToken
  | st, [] => st.flush
  | st, '\\' :: c :: cs =>
    if st.quote = .single then shellTokens args (st.add ['\\']) (c :: cs)
    else shellTokens args (st.add (st.quote.behindBackslash c)) cs
  | st, '\'' :: cs =>
    match st.quote with
    | .plain => shellTokens args (st.quoted .single) cs
    | .single => shellTokens args { st with quote := .plain } cs
    | .double => shellTokens args (st.add ['\'']) cs
  | st, '"' :: cs =>
    match st.quote with
    | .plain => shellTokens args (st.quoted .double) cs
    | .double => shellTokens args { st with quote := .plain } cs
    | .single => shellTokens args (st.add ['"']) cs
  | st, '$' :: c :: cs =>
    if st.quote = .single then shellTokens args (st.add ['$']) (c :: cs)
    else shellTokens args (st.add (shellArgument args c)) cs
  | st, '>' :: '&' :: '2' :: cs =>
    if st.quote = .plain then st.flush ++ .toStderr :: shellTokens args {} cs
    else shellTokens args (st.add ['>', '&', '2']) cs
  | st, c :: cs =>
    if st.quote = .plain then
      if c = ' ' || c = '\t' then st.flush ++ shellTokens args {} cs
      else if c = ';' || c = '\n' then st.flush ++ .stop :: shellTokens args {} cs
      else shellTokens args (st.add [c]) cs
    else shellTokens args (st.add [c]) cs

structure ShellCommand where
  words : List String := []
  stream : OutputStream := .stdout

def shellCommands : ShellCommand → List ShellToken → List ShellCommand
  | c, [] => if c.words.isEmpty then [] else [c]
  | c, .stop :: ts => (if c.words.isEmpty then [] else [c]) ++ shellCommands {} ts
  | c, .toStderr :: ts => shellCommands { c with stream := .stderr } ts
  | c, .word cs :: ts => shellCommands { c with words := c.words ++ [String.ofList cs] } ts

/-- A decimal number of seconds. -/
def sleepNanos (s : String) : Nat :=
  let (whole, rest) := s.toList.span (digit? · |>.isSome)
  let value := fun ds : List Char => ds.foldl (fun n d => n * 10 + (digit? d).getD 0) 0
  let fraction := (rest.drop 1).takeWhile (digit? · |>.isSome)
  value whole * nanosPerSecond + value fraction * nanosPerSecond / Nat.pow 10 fraction.length

def readNat (s : String) : Nat := (readNumeral 0xFFFFFFFFFFFFFFFF s.toList).toOption.getD 0

def readSignal (name : String) : Nat := (signalNumber? name).getD (readNat name)

/-- The number that a shell is told to exit with. -/
def readExitCode (word : String) : ExitStatus :=
  if word.isEmpty || word.toList.any (digit? · |>.isNone) then exitCode (-1)
  else exitCode (readNat word)

/-- The words that are said and whether their line ends. -/
def sayBytes : List String → List UInt8
  | "-n" :: words => echoed [] (textBytes (" ".intercalate words))
  | words => echoBytes (" ".intercalate words)

/-- The acts of commands, one after the other, after a command that ended with a code. A
shell that gets to its end exits with the code of its last command. -/
def shellActs (last : Int) : List ShellCommand → List Act
  | [] => [.quit (.code last)]
  | c :: rest =>
    let signal := fun n : Nat =>
      match signalAction n with
      | .ends => [Act.quit (.signal n)]
      | .halts => [.hang]
      | .nothing => shellActs 0 rest
    match c.words with
    | "echo" :: words => .print c.stream (sayBytes words) :: shellActs 0 rest
    | ["sleep", time] => .sleep (sleepNanos time) (!rest.isEmpty) :: shellActs 0 rest
    | ["exec", "sleep", time] => [.sleep (sleepNanos time) false, .quit (.code 0)]
    | ["exit"] => [.quit (.code last)]
    | ["exit", code] => [.quit (readExitCode code)]
    | ["kill", "$$"] => signal stopSignal
    | ["kill", "-s", name, "$$"] => signal (readSignal name)
    | ["kill", name, "$$"] => signal (readSignal (String.ofList (name.toList.drop 1)))
    | [":"] | ["true"] => shellActs 0 rest
    | ["false"] => shellActs 1 rest
    | _ => shellActs 127 rest

/-- The acts of a script that is run with arguments. -/
def shellScript (script : String) (args : List String) : List Act :=
  shellActs 0 (shellCommands {} (shellTokens args {} script.toList))

end NodeWarden
