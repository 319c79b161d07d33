/-! Bytes as text: a scalar value or a maximal invalid part at a time, so that text
which is not UTF-8 can be refused, shown with U+FFFD, or skipped where nobody reads it. -/

namespace NodeWarden

/-- A character, or `none` for a part of the input that is no text. -/
abbrev Symbol := Option Char

/-- A character of which `more + 1` bytes are still to come, the next within bounds. -/
structure PartialChar where
  value : Nat
  low : UInt8
  high : UInt8
  more : Nat
  deriving DecidableEq, Repr

/-- What a byte begins: a whole character, a longer one, or nothing. -/
def startChar (b : UInt8) : List Symbol × Option PartialChar :=
  let n := b.toNat
  if n < 0x80 then ([some (Char.ofNat n)], none)
  else if n < 0xC2 then ([none], none)
  else if n < 0xE0 then ([], some ⟨n - 0xC0, 0x80, 0xBF, 0⟩)
  else if n == 0xE0 then ([], some ⟨0, 0xA0, 0xBF, 1⟩)
  else if n == 0xED then ([], some ⟨13, 0x80, 0x9F, 1⟩)
  else if n < 0xF0 then ([], some ⟨n - 0xE0, 0x80, 0xBF, 1⟩)
  else if n == 0xF0 then ([], some ⟨0, 0x90, 0xBF, 2⟩)
  else if n < 0xF4 then ([], some ⟨n - 0xF0, 0x80, 0xBF, 2⟩)
  else if n == 0xF4 then ([], some ⟨4, 0x80, 0x8F, 2⟩)
  else ([none], none)

def decodeStep (held : Option PartialChar) (b : UInt8) : List Symbol × Option PartialChar :=
  match held with
  | none => startChar b
  | some p =>
    if p.low ≤ b ∧ b ≤ p.high then
      let value := p.value * 64 + (b.toNat - 0x80)
      match p.more with
      | 0 => ([some (Char.ofNat value)], none)
      | more + 1 => ([], some ⟨value, 0x80, 0xBF, more⟩)
    else
      let (out, next) := startChar b
      (none :: out, next)

def decodeFrom (held : Option PartialChar) : List UInt8 → List Symbol
  | [] => if held.isSome then [none] else []
  | b :: bs =>
    let (out, next) := decodeStep held b
    out ++ decodeFrom next bs

def decodeUtf8 (bs : List UInt8) : List Symbol := decodeFrom none bs

/-- The characters, if all of the input is text. -/
def wholeText? (symbols : List Symbol) : Option (List Char) := symbols.mapM id

/-- The text, if the bytes are UTF-8. -/
def utf8Text? (bs : List UInt8) : Option String := (wholeText? (decodeUtf8 bs)).map String.ofList

/-- The text with U+FFFD for every maximal invalid part. -/
def lossyText (bs : List UInt8) : String :=
  String.ofList ((decodeUtf8 bs).map fun s => s.getD '\ufffd')

def textBytes (s : String) : List UInt8 := s.toUTF8.toList

end NodeWarden
