import NodeWarden.Json.Number

/-! Values of known shape in a JSON tree. A record is an object, in which a field may go
by several names but be given once and unknown members are skipped, or the array of its
fields in order, in which the last ones may be left out. -/

namespace NodeWarden

mutual

/-- Whether all of a value can be read, with at most `room` brackets inside each other. -/
def Json.isReadable (room : Nat) : Json → Bool
  | .null => true
  | .flag _ => true
  | .number n => n.inRange
  | .string s => s.chars?.isSome
  | .array items => room != 0 && areReadable (room - 1) items
  | .object members => room != 0 && areReadableMembers (room - 1) members

def areReadable (room : Nat) : List Json → Bool
  | [] => true
  | item :: items => item.isReadable room && areReadable room items

def areReadableMembers (room : Nat) : List (RawText × Json) → Bool
  | [] => true
  | (key, value) :: members =>
    key.chars?.isSome && value.isReadable room && areReadableMembers room members

end

/-- The brackets that may be open at once in what is read and not skipped. -/
def bracketRoom : Nat := 127

def Json.text? : Json → Option String
  | .string s => s.text?
  | _ => none

def Json.flag? : Json → Option Bool
  | .flag b => some b
  | _ => none

def Json.list? {α : Type} (item : Json → Option α) : Json → Option (List α)
  | .array items => items.mapM item
  | _ => none

/-- The members with their keys as text. -/
def textMembers? (members : List (RawText × Json)) : Option (List (String × Json)) :=
  members.mapM fun (key, value) => key.text?.map (·, value)

/-- The value of the field that goes by `names`: none, one, or a refusal of two. -/
def field? (members : List (String × Json)) (names : List String) : Option (Option Json) :=
  match members.filter fun m => names.contains m.1 with
  | [] => some none
  | [m] => some (some m.2)
  | _ => none

/-- What is given for each field, in the order of `fields`. -/
def Json.record? (fields : List (List String)) : Json → Option (List (Option Json))
  | .array items =>
    if items.length ≤ fields.length then
      some (items.map some ++ List.replicate (fields.length - items.length) none)
    else none
  | .object members => do
    let members ← textMembers? members
    fields.mapM (field? members)
  | _ => none

/-- A field that must be given. -/
def required {α : Type} (read : Json → Option α) : Option Json → Option α
  | none => none
  | some j => read j

/-- A field that stands for `fallback` when it is left out. -/
def defaulted {α : Type} (fallback : α) (read : Json → Option α) : Option Json → Option α
  | none => some fallback
  | some j => read j

/-- A field that may be left out or null. -/
def optional {α : Type} (read : Json → Option α) : Option Json → Option (Option α)
  | none => some none
  | some .null => some none
  | some j => (read j).map some

end NodeWarden
