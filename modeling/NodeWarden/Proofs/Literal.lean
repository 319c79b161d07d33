import NodeWarden.Spec.Basic

/-! The rule that admits one identity holds that identity between quotes. Whoever reads it there,
taking a backslash for a mark that quotes the next character, finds the identity whole and stops
at the last quote but not before it, so that nothing of an identity is read as rule. -/

namespace NodeWarden

/-- What a literal says, from behind its opening quote up to the first quote that no backslash
quotes, and what is left behind that quote. -/
def readLiteral : List Char → Option (List Char × List Char)
  | [] => none
  | ['\\'] => none
  | '"' :: rest => some ([], rest)
  | '\\' :: c :: rest => (readLiteral rest).map fun (s, left) => (c :: s, left)
  | c :: rest => (readLiteral rest).map fun (s, left) => (c :: s, left)

theorem readLiteral_marked (c : Char) (rest : List Char) :
    readLiteral ('\\' :: c :: rest) = (readLiteral rest).map fun (s, left) => (c :: s, left) := by
  rw [readLiteral]

theorem readLiteral_plain {c : Char} (hquote : c ≠ '"') (hmark : c ≠ '\\') (rest : List Char) :
    readLiteral (c :: rest) = (readLiteral rest).map fun (s, left) => (c :: s, left) := by
  rw [readLiteral]
  · simp [hmark]
  · simp [hquote]
  · simp [hmark]

theorem readLiteral_escapeIdentifier (s left : List Char) :
    readLiteral (escapeIdentifier s ++ '"' :: left) = some (s, left) := by
  induction s with
  | nil => rw [escapeIdentifier, List.nil_append, readLiteral]
  | cons c s ih =>
    rw [escapeIdentifier]
    by_cases hmarked : c = '"' ∨ c = '\\'
    · rw [if_pos hmarked, List.cons_append, List.cons_append, readLiteral_marked, ih]
      rfl
    · rw [if_neg hmarked]
      rw [not_or] at hmarked
      rw [List.cons_append, readLiteral_plain hmarked.1 hmarked.2, ih]
      rfl

/-- An end that was found stays the end, whatever comes after. -/
theorem readLiteral_append {cs s left : List Char} (h : readLiteral cs = some (s, left))
    (more : List Char) : readLiteral (cs ++ more) = some (s, left ++ more) := by
  induction cs using readLiteral.induct generalizing s with
  | case1 => simp [readLiteral] at h
  | case2 => simp [readLiteral] at h
  | case3 rest =>
    rw [readLiteral, Option.some.injEq, Prod.mk.injEq] at h
    obtain ⟨rfl, rfl⟩ := h
    rw [List.cons_append, readLiteral]
  | case4 c rest ih =>
    rw [readLiteral_marked, Option.map_eq_some_iff] at h
    obtain ⟨⟨s, left⟩, hread, heq⟩ := h
    cases heq
    rw [List.cons_append, List.cons_append, readLiteral_marked, ih hread]
    rfl
  | case5 c rest hlone hquote hmark ih =>
    have hplain : ∀ rest, readLiteral (c :: rest) =
        (readLiteral rest).map fun (s, left) => (c :: s, left) := by
      refine readLiteral_plain hquote ?_
      intro hc
      cases rest with
      | nil => exact hlone hc rfl
      | cons d rest => exact hmark d rest hc rfl
    rw [hplain, Option.map_eq_some_iff] at h
    obtain ⟨⟨s, left⟩, hread, heq⟩ := h
    cases heq
    rw [List.cons_append, hplain, ih hread]
    rfl

/-- Where the identity ends early, what is behind it would be too long. -/
theorem readLiteral_take (s : List Char) (n : Nat) :
    readLiteral ((escapeIdentifier s).take n) = none := by
  cases hread : readLiteral ((escapeIdentifier s).take n) with
  | none => rfl
  | some found =>
    obtain ⟨t, left⟩ := found
    have hlonger := readLiteral_append hread ((escapeIdentifier s).drop n ++ ['"'])
    rw [← List.append_assoc, List.take_append_drop, readLiteral_escapeIdentifier] at hlonger
    simp at hlonger

theorem escapeIdentifier_injective : Function.Injective escapeIdentifier := by
  intro s t h
  have hs := readLiteral_escapeIdentifier s []
  rw [h, readLiteral_escapeIdentifier] at hs
  cases hs
  rfl

theorem toList_enclosed (opening closing : String) (cs : List Char) :
    (opening ++ String.ofList cs ++ closing).toList = opening.toList ++ cs ++ closing.toList := by
  rw [String.toList_append, String.toList_append, String.toList_ofList]

/-- The identity stands between the opening of the rule and its end. -/
theorem toList_identifierEquals (identifier : String) :
    (Predicate.identifierEquals identifier).expression.toList =
      "(= subject.identifier \"".toList ++ escapeIdentifier identifier.toList ++ "\")".toList :=
  toList_enclosed _ _ _

theorem toList_opening : "(= subject.identifier \"".toList =
    '(' :: ("= subject.identifier ".toList ++ ['"']) := by
  decide

theorem toList_closing : "\")".toList = ['"', ')'] := by
  decide

/-- The rule is the comparison with one literal, which a reader finds to say the identity, all of
it and nothing else, and to end in front of the last parenthesis; it has no end in any part of the
literal. So rules that are equal admit the same identity. -/
theorem identity_quoted (identifier : String) :
    ∃ literal : List Char,
      (Predicate.identifierEquals identifier).expression.toList =
        '(' :: ("= subject.identifier ".toList ++ '"' :: (literal ++ ['"', ')'])) ∧
      readLiteral (literal ++ ['"', ')']) = some (identifier.toList, [')']) ∧
      (∀ n, readLiteral (literal.take n) = none) ∧
      ∀ other, Predicate.identifierEquals other = Predicate.identifierEquals identifier ↔
        other = identifier := by
  refine ⟨escapeIdentifier identifier.toList, ?_, readLiteral_escapeIdentifier _ _,
    readLiteral_take _, ?_⟩
  · rw [toList_identifierEquals, toList_opening, toList_closing]
    simp only [List.cons_append, List.append_assoc, List.nil_append]
  · intro other
    constructor
    · intro h
      have hchars : (Predicate.identifierEquals other).expression.toList =
          (Predicate.identifierEquals identifier).expression.toList := by rw [h]
      rw [toList_identifierEquals, toList_identifierEquals] at hchars
      have hescaped := List.append_cancel_left (List.append_cancel_right hchars)
      exact String.toList_inj.1 (escapeIdentifier_injective hescaped)
    · rintro rfl
      rfl

/-- An identity that ends in a mark and would go on behind a quote. -/
example : readLiteral (escapeIdentifier ['a', '"', '\\'] ++ ['"', ')']) =
    some (['a', '"', '\\'], [')']) := by
  decide

end NodeWarden
