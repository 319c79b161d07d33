import NodeWarden.Text.Utf8

/-! The tree of a JSON document as it was written. Nothing is refused here that a reader
who skips the value would not refuse: strings keep lone surrogates and parts that are no
text, numbers keep their digits. -/

namespace NodeWarden

inductive Piece
  | char (c : Char)
  | surrogate (unit : Nat)
  | broken
  deriving DecidableEq, Repr

abbrev RawText := List Piece

/-- A sign, the digits before and after the point, and a signed exponent. -/
structure Number where
  negative : Bool
  whole : List Nat
  fraction : List Nat
  exponent : Int
  deriving DecidableEq, Repr

inductive Json
  | null
  | flag (b : Bool)
  | number (n : Number)
  | string (s : RawText)
  | array (items : List Json)
  | object (members : List (RawText × Json))
  deriving Repr

def isHighSurrogate (u : Nat) : Bool := 0xD800 ≤ u && u < 0xDC00

def isLowSurrogate (u : Nat) : Bool := 0xDC00 ≤ u && u < 0xE000

def joinSurrogates (high low : Nat) : Char :=
  Char.ofNat (0x10000 + (high - 0xD800) * 0x400 + (low - 0xDC00))

/-- The characters of a string, if it is text throughout. -/
def RawText.chars? : RawText → Option (List Char)
  | [] => some []
  | .char c :: rest => (chars? rest).map (c :: ·)
  | .surrogate high :: .surrogate low :: rest =>
    if isHighSurrogate high && isLowSurrogate low then
      (chars? rest).map (joinSurrogates high low :: ·)
    else none
  | _ => none

def RawText.text? (s : RawText) : Option String := s.chars?.map String.ofList

def RawText.ofChars (cs : List Char) : RawText := cs.map .char

theorem RawText.chars?_ofChars (cs : List Char) : RawText.chars? (.ofChars cs) = some cs := by
  induction cs with
  | nil => rfl
  | cons c rest ih =>
    change (RawText.chars? (.ofChars rest)).map (c :: ·) = _
    rw [ih]; rfl

theorem RawText.text?_ofChars (s : String) : RawText.text? (.ofChars s.toList) = some s := by
  simp [RawText.text?, RawText.chars?_ofChars]

end NodeWarden
