import NodeWarden.Json.Basic
import NodeWarden.Text.Numeral

/-! Documents as they are written: compact for the command line, indented for people.
Only quotes, backslashes and the controls below U+0020 are escaped. -/

namespace NodeWarden

inductive Doc
  | null
  | flag (b : Bool)
  | text (s : String)
  | list (items : List Doc)
  | record (members : List (String × Doc))
  deriving Repr

def escapeChar (c : Char) : List Char :=
  if c = '"' then ['\\', '"']
  else if c = '\\' then ['\\', '\\']
  else if c = '\x08' then ['\\', 'b']
  else if c = '\t' then ['\\', 't']
  else if c = '\n' then ['\\', 'n']
  else if c = '\x0c' then ['\\', 'f']
  else if c = '\r' then ['\\', 'r']
  else if c < ' ' then '\\' :: 'u' :: hexPadded 4 c.toNat
  else [c]

def quoted (s : String) : List Char := '"' :: s.toList.flatMap escapeChar ++ ['"']

def flagWord (b : Bool) : List Char := if b then ['t', 'r', 'u', 'e'] else ['f', 'a', 'l', 's', 'e']

mutual

def Doc.compactChars : Doc → List Char
  | .null => ['n', 'u', 'l', 'l']
  | .flag b => flagWord b
  | .text s => quoted s
  | .list [] => ['[', ']']
  | .list (item :: items) => '[' :: item.compactChars ++ compactItems items
  | .record [] => ['\x7b', '\x7d']
  | .record ((key, value) :: members) =>
    '\x7b' :: quoted key ++ ':' :: value.compactChars ++ compactMembers members

/-- The items after the first, each behind its comma, and the end of the list. -/
def compactItems : List Doc → List Char
  | [] => [']']
  | item :: items => ',' :: item.compactChars ++ compactItems items

def compactMembers : List (String × Doc) → List Char
  | [] => ['\x7d']
  | (key, value) :: members =>
    ',' :: quoted key ++ ':' :: value.compactChars ++ compactMembers members

end

/-- A line break and `depth` steps of two spaces. -/
def newLine (depth : Nat) : List Char := '\n' :: List.replicate (2 * depth) ' '

mutual

def Doc.prettyChars (depth : Nat) : Doc → List Char
  | .null => ['n', 'u', 'l', 'l']
  | .flag b => flagWord b
  | .text s => quoted s
  | .list [] => ['[', ']']
  | .list (item :: items) =>
    '[' :: newLine (depth + 1) ++ item.prettyChars (depth + 1) ++ prettyItems depth items
  | .record [] => ['\x7b', '\x7d']
  | .record ((key, value) :: members) =>
    '\x7b' :: newLine (depth + 1) ++ quoted key ++ ':' :: ' ' :: value.prettyChars (depth + 1) ++
      prettyMembers depth members

def prettyItems (depth : Nat) : List Doc → List Char
  | [] => newLine depth ++ [']']
  | item :: items =>
    ',' :: newLine (depth + 1) ++ item.prettyChars (depth + 1) ++ prettyItems depth items

def prettyMembers (depth : Nat) : List (String × Doc) → List Char
  | [] => newLine depth ++ ['\x7d']
  | (key, value) :: members =>
    ',' :: newLine (depth + 1) ++ quoted key ++ ':' :: ' ' :: value.prettyChars (depth + 1) ++
      prettyMembers depth members

end

def Doc.compact (d : Doc) : String := String.ofList d.compactChars

def Doc.pretty (d : Doc) : String := String.ofList (d.prettyChars 0)

/-- The members that have a value. -/
def presentMembers (members : List (String × Option Doc)) : List (String × Doc) :=
  members.filterMap fun (key, value) => value.map (key, ·)

mutual

/-- The tree that a reader finds in the written document. -/
def Doc.toJson : Doc → Json
  | .null => .null
  | .flag b => .flag b
  | .text s => .string (.ofChars s.toList)
  | .list items => .array (itemsToJson items)
  | .record members => .object (membersToJson members)

def itemsToJson : List Doc → List Json
  | [] => []
  | item :: items => item.toJson :: itemsToJson items

def membersToJson : List (String × Doc) → List (RawText × Json)
  | [] => []
  | (key, value) :: members => (.ofChars key.toList, value.toJson) :: membersToJson members

end

end NodeWarden
