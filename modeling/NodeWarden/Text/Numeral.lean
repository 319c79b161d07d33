/-! Numerals: bounded decimal numbers as settings and ports are read, and lower-case
hexadecimal as suffixes are written. -/

namespace NodeWarden

inductive NumeralError
  | empty
  | invalidDigit
  | tooLarge
  deriving DecidableEq, Repr

def NumeralError.message : NumeralError → String
  | .empty => "cannot parse integer from empty string"
  | .invalidDigit => "invalid digit found in string"
  | .tooLarge => "number too large to fit in target type"

/-- The value of an ASCII decimal digit. -/
def digit? (c : Char) : Option Nat :=
  if '0' ≤ c ∧ c ≤ '9' then some (c.toNat - 48) else none

/-- Reads digits onto `acc`; the first character at fault decides the error. -/
def readDigits (limit : Nat) : Nat → List Char → Except NumeralError Nat
  | acc, [] => .ok acc
  | acc, c :: cs =>
    match digit? c with
    | none => .error .invalidDigit
    | some d => if acc * 10 + d ≤ limit then readDigits limit (acc * 10 + d) cs else .error .tooLarge

/-- A decimal numeral of at most `limit`; one plus sign may lead. -/
def readNumeral (limit : Nat) : List Char → Except NumeralError Nat
  | [] => .error .empty
  | ['+'] => .error .invalidDigit
  | '+' :: cs => readDigits limit 0 cs
  | cs => readDigits limit 0 cs

def readPort (cs : List Char) : Except NumeralError Nat := readNumeral 65535 cs

def readSeconds (cs : List Char) : Except NumeralError Nat := readNumeral 18446744073709551615 cs

def hexDigit (n : Nat) : Char :=
  if n < 10 then Char.ofNat (48 + n) else Char.ofNat (87 + n)

def hexDigits (n : Nat) : List Char := Nat.toDigits 16 n

/-- The last `width` hexadecimal digits of `n`. -/
def hexPadded : Nat → Nat → List Char
  | 0, _ => []
  | width + 1, n => hexPadded width (n / 16) ++ [hexDigit (n % 16)]

/-- The value of a hexadecimal digit of either case. -/
def hexValue? (c : Char) : Option Nat :=
  if '0' ≤ c ∧ c ≤ '9' then some (c.toNat - 48)
  else if 'a' ≤ c ∧ c ≤ 'f' then some (c.toNat - 87)
  else if 'A' ≤ c ∧ c ≤ 'F' then some (c.toNat - 55)
  else none

def isHexDigit (c : Char) : Bool := (hexValue? c).isSome

theorem length_hexPadded (width n : Nat) : (hexPadded width n).length = width := by
  induction width generalizing n with
  | zero => rfl
  | succ w ih => simp [hexPadded, ih]

theorem hexValue?_hexDigit {n : Nat} (h : n < 16) : hexValue? (hexDigit n) = some n := by
  have hall : ∀ n < 16, hexValue? (hexDigit n) = some n := by decide
  exact hall n h

theorem hexDigit_isHexDigit {n : Nat} (h : n < 16) : isHexDigit (hexDigit n) = true := by
  have : ∀ n < 16, isHexDigit (hexDigit n) = true := by decide
  exact this n h

theorem toNat_lt_of_isHexDigit {c : Char} (h : isHexDigit c = true) : c.toNat < 128 := by
  have le {a : Char} (hle : c ≤ a) : c.toNat ≤ a.toNat := hle
  simp only [isHexDigit, hexValue?] at h
  split at h
  · rename_i h1; have := le h1.2; simp at this; omega
  · split at h
    · rename_i h1; have := le h1.2; simp at this; omega
    · split at h
      · rename_i h1; have := le h1.2; simp at this; omega
      · simp at h

theorem hexPadded_isHexDigit (width n : Nat) : ∀ c ∈ hexPadded width n, isHexDigit c = true := by
  induction width generalizing n with
  | zero => simp [hexPadded]
  | succ w ih =>
    intro c hc
    rcases List.mem_append.1 hc with hc | hc
    · exact ih _ c hc
    · rw [List.mem_singleton.1 hc]; exact hexDigit_isHexDigit (Nat.mod_lt _ (by decide))

end NodeWarden
