import NodeWarden.Json.Basic

/-! The range of a number that is read and not skipped: its digits are gathered in a
64-bit word, then scaled in double precision, and the scaling must not overflow. -/

namespace NodeWarden

/-- The nearest number of 53 significant bits, a tie going to the even one. -/
def roundDouble (n : Nat) : Nat :=
  if n.log2 < 53 then n
  else
    let shift := n.log2 - 52
    let quotient := n >>> shift
    let rest := n % Nat.pow 2 shift
    let half := Nat.pow 2 (shift - 1)
    let up := half < rest || (rest == half && quotient % 2 == 1)
    (if up then quotient + 1 else quotient) <<< shift

/-- From here on a product is rounded to infinity. -/
def doubleOverflow : Nat := Nat.pow 2 1024 - Nat.pow 2 970

def wordLimit : Nat := 0x10000000000000000

/-- Digits before the point: once the word is full every further digit only scales. -/
def gatherWhole : Nat × Nat → List Nat → Nat × Nat
  | (word, scale), [] => (word, scale)
  | (word, scale), d :: ds =>
    if scale == 0 && word * 10 + d < wordLimit then gatherWhole (word * 10 + d, 0) ds
    else gatherWhole (word, scale + 1) ds

/-- Digits after the point: from the first that no longer fits, all are dropped. -/
def gatherFraction : Nat × Nat → List Nat → Nat × Nat
  | (word, places), [] => (word, places)
  | (word, places), d :: ds =>
    if word * 10 + d < wordLimit then gatherFraction (word * 10 + d, places + 1) ds
    else (word, places)

def Number.inRange (n : Number) : Bool :=
  let (word, scale) := gatherWhole (0, 0) n.whole
  let (word, places) := gatherFraction (word, 0) n.fraction
  let power : Int := scale - places + n.exponent
  word == 0 || power < 0 ||
    (power ≤ 308 && roundDouble word * roundDouble (Nat.pow 10 power.toNat) < doubleOverflow)

end NodeWarden
