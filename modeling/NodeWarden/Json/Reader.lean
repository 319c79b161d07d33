import NodeWarden.Json.Basic
import NodeWarden.Text.Numeral

/-! Reading a JSON document: one value with blanks around it and nothing else. -/

namespace NodeWarden

def isJsonSpace (c : Char) : Bool := c == ' ' || c == '\n' || c == '\t' || c == '\r'

def skipSpace : List Symbol → List Symbol
  | some c :: rest => if isJsonSpace c then skipSpace rest else some c :: rest
  | rest => rest

def simpleEscape? : Char → Option Char
  | '"' => some '"'
  | '\\' => some '\\'
  | '/' => some '/'
  | 'b' => some '\x08'
  | 'f' => some '\x0c'
  | 'n' => some '\n'
  | 'r' => some '\r'
  | 't' => some '\t'
  | _ => none

def unitPiece (u : Nat) : Piece :=
  if isHighSurrogate u || isLowSurrogate u then .surrogate u else .char (Char.ofNat u)

def hexUnit? (a b c d : Symbol) : Option Nat := do
  let a ← a >>= hexValue?
  let b ← b >>= hexValue?
  let c ← c >>= hexValue?
  let d ← d >>= hexValue?
  return ((a * 16 + b) * 16 + c) * 16 + d

/-- The rest of a string after its opening quote, up to and without the closing one. -/
def readString : List Symbol → Option (RawText × List Symbol)
  | [] => none
  | some '"' :: rest => some ([], rest)
  | some '\\' :: some 'u' :: a :: b :: c :: d :: rest => do
    let u ← hexUnit? a b c d
    let (s, rest) ← readString rest
    return (unitPiece u :: s, rest)
  | some '\\' :: some e :: rest => do
    let c ← simpleEscape? e
    let (s, rest) ← readString rest
    return (.char c :: s, rest)
  | some '\\' :: _ => none
  | some c :: rest =>
    if c < ' ' then none
    else do
      let (s, rest) ← readString rest
      return (.char c :: s, rest)
  | none :: rest => do
    let (s, rest) ← readString rest
    return (.broken :: s, rest)

def spanDigits : List Symbol → List Nat × List Symbol
  | some c :: rest =>
    match digit? c with
    | some d => let (ds, rest) := spanDigits rest; (d :: ds, rest)
    | none => ([], some c :: rest)
  | rest => ([], rest)

def digitsValue (ds : List Nat) : Nat := ds.foldl (fun n d => n * 10 + d) 0

def readFraction : List Symbol → Option (List Nat × List Symbol)
  | some '.' :: rest =>
    match spanDigits rest with
    | ([], _) => none
    | found => some found
  | rest => some ([], rest)

def readUnsignedExponent (rest : List Symbol) : Option (Nat × List Symbol) :=
  match spanDigits rest with
  | ([], _) => none
  | (ds, rest) => some (digitsValue ds, rest)

def readSignedExponent : List Symbol → Option (Int × List Symbol)
  | some '+' :: rest => (readUnsignedExponent rest).map fun (e, rest) => ((e : Int), rest)
  | some '-' :: rest => (readUnsignedExponent rest).map fun (e, rest) => (-(e : Int), rest)
  | rest => (readUnsignedExponent rest).map fun (e, rest) => ((e : Int), rest)

def readExponent : List Symbol → Option (Int × List Symbol)
  | some 'e' :: rest => readSignedExponent rest
  | some 'E' :: rest => readSignedExponent rest
  | rest => some (0, rest)

/-- A number after its sign; no zero may lead. -/
def readNumber (negative : Bool) (input : List Symbol) : Option (Number × List Symbol) :=
  match spanDigits input with
  | ([], _) => none
  | (0 :: _ :: _, _) => none
  | (whole, rest) => do
    let (fraction, rest) ← readFraction rest
    let (exponent, rest) ← readExponent rest
    return (⟨negative, whole, fraction, exponent⟩, rest)

def stripWord : List Char → List Symbol → Option (List Symbol)
  | [], rest => some rest
  | c :: cs, some d :: rest => if c = d then stripWord cs rest else none
  | _ :: _, _ => none

mutual

def readValue : Nat → List Symbol → Option (Json × List Symbol)
  | 0, _ => none
  | fuel + 1, input =>
    match skipSpace input with
    | some 'n' :: rest => (stripWord ['u', 'l', 'l'] rest).map (Json.null, ·)
    | some 't' :: rest => (stripWord ['r', 'u', 'e'] rest).map (Json.flag true, ·)
    | some 'f' :: rest => (stripWord ['a', 'l', 's', 'e'] rest).map (Json.flag false, ·)
    | some '"' :: rest => (readString rest).map fun (s, rest) => (Json.string s, rest)
    | some '-' :: rest => (readNumber true rest).map fun (n, rest) => (Json.number n, rest)
    | some '[' :: rest =>
      match skipSpace rest with
      | some ']' :: rest => some (.array [], rest)
      | _ => (readItems fuel rest).map fun (items, rest) => (Json.array items, rest)
    | some '\x7b' :: rest =>
      match skipSpace rest with
      | some '\x7d' :: rest => some (.object [], rest)
      | _ => (readMembers fuel rest).map fun (members, rest) => (Json.object members, rest)
    | rest => (readNumber false rest).map fun (n, rest) => (Json.number n, rest)

/-- The items of an array that has some, and its end. -/
def readItems : Nat → List Symbol → Option (List Json × List Symbol)
  | 0, _ => none
  | fuel + 1, input =>
    match readValue fuel input with
    | none => none
    | some (item, rest) =>
      match skipSpace rest with
      | some ',' :: rest => (readItems fuel rest).map fun (items, rest) => (item :: items, rest)
      | some ']' :: rest => some ([item], rest)
      | _ => none

/-- The members of an object that has some, and its end. -/
def readMembers : Nat → List Symbol → Option (List (RawText × Json) × List Symbol)
  | 0, _ => none
  | fuel + 1, input =>
    match skipSpace input with
    | some '"' :: rest =>
      match readString rest with
      | none => none
      | some (key, rest) =>
        match skipSpace rest with
        | some ':' :: rest =>
          match readValue fuel rest with
          | none => none
          | some (value, rest) =>
            match skipSpace rest with
            | some ',' :: rest =>
              (readMembers fuel rest).map fun (members, rest) => ((key, value) :: members, rest)
            | some '\x7d' :: rest => some ([(key, value)], rest)
            | _ => none
        | _ => none
    | _ => none

end

/-- Every bracket takes two calls and at least one symbol, so this many always suffice. -/
def Json.read? (input : List Symbol) : Option Json :=
  match readValue (2 * input.length + 2) input with
  | some (value, rest) => if (skipSpace rest).isEmpty then some value else none
  | none => none

def Json.ofBytes? (bs : List UInt8) : Option Json := Json.read? (decodeUtf8 bs)

def Json.ofText? (s : String) : Option Json := Json.read? (s.toList.map some)

end NodeWarden
