import NodeWarden.Text.Blank
import NodeWarden.Text.Quoted
import NodeWarden.Json.Record
import NodeWarden.Json.Printer

/-! Names of nodes. Any text without blanks and controls can name a node; the supervisor's
own nodes are named by a stem, a dash and eight hexadecimal digits. -/

namespace NodeWarden

def isNameChar (c : Char) : Bool := !isBlank c && !isControl c

def isNameText (cs : List Char) : Bool := !cs.isEmpty && cs.all isNameChar

structure NodeName where
  text : String
  valid : isNameText text.toList = true
  deriving DecidableEq

instance : Repr NodeName := ⟨fun n _ => repr n.text⟩

inductive StemFault
  | empty
  | unusable
  deriving DecidableEq, Repr

def StemFault.message : StemFault → String
  | .empty => "prefix cannot be empty"
  | .unusable => "prefix contains whitespace or control characters"

inductive NameError
  | empty
  | invalidCharacter (c : Char) (byteIndex : Nat)
  | invalidStem (stem : String) (fault : StemFault)
  deriving DecidableEq, Repr

def NameError.message : NameError → String
  | .empty => "node name cannot be empty"
  | .invalidCharacter c i =>
    "node name contains invalid character " ++ quoteChar c ++ " at byte " ++ toString i
  | .invalidStem stem fault => "invalid node name prefix '" ++ stem ++ "': " ++ fault.message

def NameError.isEmpty : NameError → Bool
  | .empty => true
  | _ => false

/-- The first character that no name holds, and its place in bytes. -/
def firstInvalid? (byteIndex : Nat) : List Char → Option (Char × Nat)
  | [] => none
  | c :: cs =>
    if isNameChar c then firstInvalid? (byteIndex + c.utf8Size) cs else some (c, byteIndex)

def nameFault (cs : List Char) : NameError :=
  match firstInvalid? 0 cs with
  | some (c, i) => .invalidCharacter c i
  | none => .empty

namespace NodeName

def parse (s : String) : Except NameError NodeName :=
  if h : isNameText s.toList then .ok ⟨s, h⟩ else .error (nameFault s.toList)

end NodeName

theorem isNameChar_of_isHexDigit {c : Char} (h : isHexDigit c = true) : isNameChar c = true := by
  have key : ∀ n < 128, isHexDigit (Char.ofNat n) = true → isNameChar (Char.ofNat n) = true := by
    decide
  have := key c.toNat (toNat_lt_of_isHexDigit h)
  rw [Char.ofNat_toNat] at this
  exact this h

/-- The digits that end a generated name. -/
def suffixChars (suffix : UInt32) : List Char := hexPadded 8 suffix.toNat

theorem isNameText_join {cs : List Char} (h : isNameText cs = true) (suffix : UInt32) :
    isNameText (cs ++ '-' :: suffixChars suffix) = true := by
  simp only [isNameText, Bool.and_eq_true, Bool.not_eq_true', List.all_append, List.all_cons] at h ⊢
  refine ⟨by simp, h.2, by decide, ?_⟩
  rw [List.all_eq_true]
  exact fun c hc => isNameChar_of_isHexDigit (hexPadded_isHexDigit 8 _ c hc)

namespace NodeName

def fromParts (stem : String) (suffix : UInt32) : Except NameError NodeName :=
  if h : isNameText stem.toList then
    .ok ⟨String.ofList (stem.toList ++ '-' :: suffixChars suffix),
      by rw [String.toList_ofList]; exact isNameText_join h suffix⟩
  else .error (.invalidStem stem (if stem.toList.isEmpty then .empty else .unusable))

/-- Whether the name is the stem, a dash and eight hexadecimal digits of either case. -/
def hasStem (n : NodeName) (stem : String) : Bool :=
  match (stem.toList ++ ['-']).isPrefixOf? n.text.toList with
  | some suffix => suffix.length == 8 && suffix.all isHexDigit
  | none => false

def ofJson? (j : Json) : Option NodeName := do
  let s ← j.text?
  (parse s).toOption

def toDoc (n : NodeName) : Doc := .text n.text

/-- The names in order of their bytes, each once. -/
def sorted (names : List NodeName) : List NodeName :=
  (names.mergeSort fun a b => !decide (b.text < a.text)).eraseDups

end NodeName

end NodeWarden
