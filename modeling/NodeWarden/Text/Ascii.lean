/-! Comparison of keywords: only the letters `A` to `Z` have a second case. -/

namespace NodeWarden

def lowerAscii (s : String) : String := String.ofList (s.toList.map Char.toLower)

def eqIgnoreCase (a b : String) : Bool :=
  a.toList.map Char.toLower == b.toList.map Char.toLower

theorem eqIgnoreCase_iff {a b : String} : eqIgnoreCase a b = true ↔ lowerAscii a = lowerAscii b := by
  simp [eqIgnoreCase, lowerAscii, String.ofList_inj]

/-- Whether `part` stands somewhere in the text. -/
def containsText (part : List Char) : List Char → Bool
  | [] => part.isEmpty
  | c :: cs => part.isPrefixOf (c :: cs) || containsText part cs

end NodeWarden
