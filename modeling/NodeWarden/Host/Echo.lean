import NodeWarden.Text.Numeral
import NodeWarden.Text.Utf8

/-! What a shell makes of a text that it is told to say: a backslash and what follows it
stand for a byte, and one such pair ends all output. -/

namespace NodeWarden

/-- The value of an octal digit. -/
def octal? (b : UInt8) : Option Nat := if 48 ≤ b ∧ b ≤ 55 then some (b.toNat - 48) else none

/-- Reads at most `count` octal digits onto `acc`, and says what is left. -/
def readOctal (acc : Nat) : Nat → List UInt8 → Nat × List UInt8
  | count + 1, b :: bs =>
    match octal? b with
    | some d => readOctal (acc * 8 + d) count bs
    | none => (acc, b :: bs)
  | _, bs => (acc, bs)

def letterEscape? (b : UInt8) : Option UInt8 :=
  match Char.ofNat b.toNat with
  | '\\' => some 92
  | 'a' => some 7
  | 'b' => some 8
  | 'e' => some 27
  | 'f' => some 12
  | 'n' => some 10
  | 'r' => some 13
  | 't' => some 9
  | 'v' => some 11
  | _ => none

/-- The byte that a backslash and what follows it stand for, and what is left. A zero may
lead three octal digits; a backslash before anything else stands for itself. -/
def readEscape : List UInt8 → UInt8 × List UInt8
  | [] => (92, [])
  | b :: bs =>
    match octal? b, letterEscape? b with
    | some d, _ =>
      let digits := if d = 0 && (bs.head? >>= octal?).isSome then bs else b :: bs
      let (value, left) := readOctal 0 3 digits
      (.ofNat value, left)
    | none, some value => (value, bs)
    | none, none => (92, b :: bs)

theorem length_readOctal_le (acc count : Nat) (bs : List UInt8) :
    (readOctal acc count bs).2.length ≤ bs.length := by
  induction bs generalizing acc count with
  | nil => cases count <;> simp [readOctal]
  | cons b bs ih =>
    cases count with
    | zero => simp [readOctal]
    | succ count =>
      simp only [readOctal]
      split
      · exact Nat.le_succ_of_le (ih _ _)
      · simp

theorem length_readEscape_le (bs : List UInt8) : (readEscape bs).2.length ≤ bs.length := by
  cases bs with
  | nil => simp [readEscape]
  | cons b bs =>
    simp only [readEscape]
    split
    · refine Nat.le_trans (length_readOctal_le _ _ _) ?_
      split <;> simp
    · simp
    · simp

/-- The bytes of a text that is said, with what ends it if it gets there. -/
def echoed (ending : List UInt8) : List UInt8 → List UInt8
  | [] => ending
  | 92 :: 99 :: _ => []
  | 92 :: bs =>
    have := length_readEscape_le bs
    (readEscape bs).1 :: echoed ending (readEscape bs).2
  | b :: bs => b :: echoed ending bs
termination_by bs => bs.length
decreasing_by all_goals simp_all; try omega

/-- A line that is said. -/
def echoBytes (text : String) : List UInt8 := echoed [10] (textBytes text)

end NodeWarden
