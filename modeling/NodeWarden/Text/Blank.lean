/-! The character classes of names, lines and settings: a blank is a character of
Unicode's `White_Space`, a control one of its category `Cc`. -/

namespace NodeWarden

def isBlank (c : Char) : Bool :=
  let n := c.toNat
  (9 ≤ n && n ≤ 13) || n == 0x20 || n == 0x85 || n == 0xA0 || n == 0x1680 ||
    (0x2000 ≤ n && n ≤ 0x200A) || n == 0x2028 || n == 0x2029 || n == 0x202F ||
    n == 0x205F || n == 0x3000

def isControl (c : Char) : Bool :=
  let n := c.toNat
  n ≤ 0x1F || (0x7F ≤ n && n ≤ 0x9F)

def dropBlanks (cs : List Char) : List Char := cs.dropWhile isBlank

def trimChars (cs : List Char) : List Char :=
  (dropBlanks (dropBlanks cs).reverse).reverse

/-- The text without the blanks at its two ends. -/
def trim (s : String) : String := String.ofList (trimChars s.toList)

/-- Whether nothing but blanks is in the text. -/
def isBlankText (s : String) : Bool := s.toList.all isBlank

theorem dropBlanks_eq_nil_iff {cs : List Char} : dropBlanks cs = [] ↔ cs.all isBlank = true := by
  unfold dropBlanks
  induction cs with
  | nil => simp
  | cons c rest ih => by_cases h : isBlank c = true <;> simp_all

theorem all_dropBlanks (cs : List Char) : (dropBlanks cs).all isBlank = cs.all isBlank := by
  unfold dropBlanks
  induction cs with
  | nil => rfl
  | cons c rest ih => by_cases h : isBlank c = true <;> simp_all

theorem trimChars_eq_nil_iff {cs : List Char} : trimChars cs = [] ↔ cs.all isBlank = true := by
  rw [trimChars, List.reverse_eq_nil_iff, dropBlanks_eq_nil_iff, List.all_reverse, all_dropBlanks]

end NodeWarden
