import NodeWarden.Proofs.Json.Grammar

/-! The reader reads what is spelled: from the front of a text it takes a spelled value and
nothing more, whatever follows, so that every spelling of a tree is read as this tree. -/

namespace NodeWarden

variable {ws cs ks rest : List Symbol} {j : Json} {n fuel : Nat}

theorem skipSpace_blanks (h : AreBlanks ws) (rest : List Symbol) :
    skipSpace (ws ++ rest) = skipSpace rest := by
  induction ws with
  | nil => rfl
  | cons x ws ih =>
    obtain ⟨c, rfl, hspace⟩ := h x List.mem_cons_self
    rw [List.cons_append, skipSpace, if_pos hspace, ih h.tail]

theorem skipSpace_of_not {c : Char} (h : isJsonSpace c = false) (rest : List Symbol) :
    skipSpace (some c :: rest) = some c :: rest := by
  rw [skipSpace, if_neg (by simp [h])]

/-! ## Strings -/

theorem readString_piece {p : Piece} (h : SpellsPiece p cs) (rest : List Symbol) :
    readString (cs ++ rest) = (readString rest).map fun (s, rest) => (p :: s, rest) := by
  cases h with
  | plain hquote hslash hlow =>
    rw [List.singleton_append, readString.eq_def]
    split <;> rename_i heq <;> cases heq
    · exact absurd rfl hquote
    · exact absurd rfl hslash
    · exact absurd rfl hslash
    · exact absurd rfl hslash
    · rw [if_neg hlow]
      cases readString rest <;> rfl
  | short he =>
    rw [List.cons_append, List.singleton_append, readString.eq_def]
    split <;> rename_i heq <;> cases heq
    · cases he
    · rw [he]
      cases readString rest <;> rfl
    · rename_i hnone
      exact absurd rfl (hnone _ _)
    · rename_i hslash
      exact absurd rfl (hslash _ _ rfl)
  | unit hu =>
    simp only [List.cons_append, List.nil_append, readString, hu]
    cases readString rest <;> rfl
  | broken =>
    rw [List.singleton_append, readString]
    cases readString rest <;> rfl

theorem readString_text {s : RawText} (h : SpellsText s cs) (rest : List Symbol) :
    readString (cs ++ some '"' :: rest) = some (s, rest) := by
  induction h with
  | nil => rfl
  | cons hpiece _ ih =>
    rw [List.append_assoc, readString_piece hpiece, ih]
    rfl

/-! ## Numbers -/

/-- What may follow a value: nothing that would carry on a number. -/
def EndsValue (rest : List Symbol) : Prop :=
  ∀ c more, rest = some c :: more → digit? c = none ∧ c ≠ '.' ∧ c ≠ 'e' ∧ c ≠ 'E'

theorem EndsValue.nil : EndsValue [] := fun _ _ h => nomatch h

theorem EndsValue.of_head {c : Char} (hdigit : digit? c = none)
    (h : c ≠ '.' ∧ c ≠ 'e' ∧ c ≠ 'E') (more : List Symbol) : EndsValue (some c :: more) := by
  intro d tail heq
  cases heq
  exact ⟨hdigit, h⟩

theorem EndsValue.blanks (h : AreBlanks ws) (hrest : EndsValue rest) : EndsValue (ws ++ rest) := by
  cases ws with
  | nil => exact hrest
  | cons x ws =>
    obtain ⟨c, rfl, hspace⟩ := h x List.mem_cons_self
    simp only [isJsonSpace, Bool.or_eq_true, beq_iff_eq] at hspace
    rcases hspace with ((rfl | rfl) | rfl) | rfl <;> exact .of_head (by decide) (by decide) _

theorem spanDigits_digits {ds : List Nat} (h : SpellsDigits ds cs)
    (hrest : ∀ c more, rest = some c :: more → digit? c = none) :
    spanDigits (cs ++ rest) = (ds, rest) := by
  induction h with
  | nil =>
    cases rest with
    | nil => rfl
    | cons x more =>
      cases x with
      | none => rfl
      | some c => simp only [List.nil_append, spanDigits, hrest c more rfl]
  | cons hd _ ih => simp only [List.cons_append, spanDigits, hd, ih]

theorem readUnsignedExponent_digits {ds : List Nat} (hne : ds ≠ []) (h : SpellsDigits ds cs)
    (hrest : EndsValue rest) :
    readUnsignedExponent (cs ++ rest) = some (digitsValue ds, rest) := by
  cases ds with
  | nil => exact absurd rfl hne
  | cons d ds =>
    rw [readUnsignedExponent, spanDigits_digits h fun c more hc => (hrest c more hc).1]

theorem readSignedExponent_digit {c : Char} {d : Nat} (h : digit? c = some d)
    (rest : List Symbol) : readSignedExponent (some c :: rest) =
      (readUnsignedExponent (some c :: rest)).map fun (e, rest) => ((e : Int), rest) := by
  rw [readSignedExponent.eq_def]
  split
  · rename_i heq
    cases heq
    cases h
  · rename_i heq
    cases heq
    cases h
  · rfl

theorem readExponent_mark {mark : Char} (h : mark = 'e' ∨ mark = 'E') (rest : List Symbol) :
    readExponent (some mark :: rest) = readSignedExponent rest := by
  rcases h with rfl | rfl <;> rfl

theorem readExponent_spelled {e : Int} (h : SpellsExponent e cs) (hrest : EndsValue rest) :
    readExponent (cs ++ rest) = some (e, rest) := by
  cases h with
  | absent =>
    rw [List.nil_append, readExponent.eq_def]
    split
    · exact absurd rfl (hrest _ _ rfl).2.2.1
    · exact absurd rfl (hrest _ _ rfl).2.2.2
    · rfl
  | unsigned hmark hne hdigits =>
    rw [List.cons_append, readExponent_mark hmark]
    cases hdigits with
    | nil => exact absurd rfl hne
    | cons hd hmore =>
      have hread := readUnsignedExponent_digits hne (.cons hd hmore) hrest
      rw [List.cons_append] at hread ⊢
      rw [readSignedExponent_digit hd, hread]
      rfl
  | plus hmark hne hdigits =>
    rw [List.cons_append, readExponent_mark hmark, List.cons_append, readSignedExponent,
      readUnsignedExponent_digits hne hdigits hrest]
    rfl
  | minus hmark hne hdigits =>
    rw [List.cons_append, readExponent_mark hmark, List.cons_append, readSignedExponent,
      readUnsignedExponent_digits hne hdigits hrest]
    rfl

/-- What follows the digits of a fraction carries on no run of digits. -/
theorem not_digit_exponent {e : Int} (h : SpellsExponent e cs) (hrest : EndsValue rest) :
    ∀ c more, cs ++ rest = some c :: more → digit? c = none ∧ c ≠ '.' := by
  intro c more heq
  cases h with
  | absent => exact ⟨(hrest c more heq).1, (hrest c more heq).2.1⟩
  | unsigned hmark _ _ | plus hmark _ _ | minus hmark _ _ =>
    cases heq
    rcases hmark with rfl | rfl <;> decide

theorem readFraction_spelled {ds : List Nat} (h : SpellsFraction ds cs)
    (hrest : ∀ c more, rest = some c :: more → digit? c = none ∧ c ≠ '.') :
    readFraction (cs ++ rest) = some (ds, rest) := by
  cases h with
  | absent =>
    rw [List.nil_append, readFraction.eq_def]
    split
    · exact absurd rfl (hrest _ _ rfl).2
    · rfl
  | given hne hdigits =>
    cases ds with
    | nil => exact absurd rfl hne
    | cons d ds =>
      simp only [List.cons_append, readFraction,
        spanDigits_digits hdigits fun c more hc => (hrest c more hc).1]

theorem not_digit_fraction {ds : List Nat} (h : SpellsFraction ds cs)
    (hrest : ∀ c more, rest = some c :: more → digit? c = none) :
    ∀ c more, cs ++ rest = some c :: more → digit? c = none := by
  intro c more heq
  cases h with
  | absent => exact hrest c more heq
  | given _ _ =>
    cases heq
    decide

theorem readNumber_magnitude {m : Number} (h : SpellsMagnitude m cs) (hrest : EndsValue rest) :
    readNumber m.negative (cs ++ rest) = some (m, rest) := by
  obtain ⟨negative, whole, fraction, exponent⟩ := m
  obtain ⟨⟨hne, hlead⟩, ws, fs, es, rfl, hwhole, hfraction, hexponent⟩ := h
  have hafter := not_digit_exponent hexponent hrest
  have hspan := spanDigits_digits hwhole
    (not_digit_fraction hfraction fun c more hc => (hafter c more hc).1)
  rw [List.append_assoc, List.append_assoc, readNumber.eq_def, hspan]
  split <;> rename_i heq <;> cases heq
  · exact absurd rfl hne
  · exact absurd rfl (hlead _ _)
  · simp only [readFraction_spelled hfraction hafter, readExponent_spelled hexponent hrest,
      Option.bind_eq_bind, Option.bind_some]
    rfl

/-! ## Values -/

theorem readValue_blanks (h : AreBlanks ws) (rest : List Symbol) :
    readValue fuel (ws ++ rest) = readValue fuel rest := by
  cases fuel with
  | zero => rfl
  | succ fuel => simp only [readValue, skipSpace_blanks h]

theorem isJsonSpace_of_digit {c : Char} {d : Nat} (h : digit? c = some d) :
    isJsonSpace c = false := by
  cases hspace : isJsonSpace c with
  | false => rfl
  | true =>
    simp only [isJsonSpace, Bool.or_eq_true, beq_iff_eq] at hspace
    rcases hspace with ((rfl | rfl) | rfl) | rfl <;> cases h

theorem readValue_digit {c : Char} {d : Nat} (h : digit? c = some d) (rest : List Symbol) :
    readValue (fuel + 1) (some c :: rest) =
      (readNumber false (some c :: rest)).map fun (n, rest) => (Json.number n, rest) := by
  rw [readValue, skipSpace_of_not (isJsonSpace_of_digit h)]
  split
  case h_8 => rfl
  all_goals
    rename_i heq
    cases heq
    cases h

theorem readValue_array (hhead : ∀ more, skipSpace cs ≠ some ']' :: more) :
    readValue (fuel + 1) (some '[' :: cs) =
      (readItems fuel cs).map fun (items, rest) => (Json.array items, rest) := by
  rw [readValue, skipSpace_of_not (by decide)]
  simp only

theorem readValue_object (hhead : ∀ more, skipSpace cs ≠ some '\x7d' :: more) :
    readValue (fuel + 1) (some '\x7b' :: cs) =
      (readMembers fuel cs).map fun (members, rest) => (Json.object members, rest) := by
  rw [readValue, skipSpace_of_not (by decide)]
  simp only

theorem SpellsMagnitude.head {m : Number} (h : SpellsMagnitude m cs) :
    ∃ c d more, cs = some c :: more ∧ digit? c = some d := by
  obtain ⟨negative, whole, fraction, exponent⟩ := m
  obtain ⟨⟨hne, -⟩, ws, fs, es, rfl, hwhole, -⟩ := h
  cases hwhole with
  | nil => exact absurd rfl hne
  | cons hd _ => exact ⟨_, _, _, rfl, hd⟩

/-- A value begins with a character that is no blank and does not end an array. -/
theorem SpellsValue.head (h : SpellsValue j cs) :
    ∃ c more, cs = some c :: more ∧ isJsonSpace c = false ∧ c ≠ ']' := by
  cases h with
  | positive _ hm =>
    obtain ⟨c, d, more, rfl, hd⟩ := hm.head
    refine ⟨c, more, rfl, isJsonSpace_of_digit hd, ?_⟩
    rintro rfl
    cases hd
  | _ => exact ⟨_, _, rfl, by decide, by decide⟩

theorem SpellsItems.head {items : List Json} (h : SpellsItems items cs) (rest : List Symbol) :
    ∀ more, skipSpace (cs ++ rest) ≠ some ']' :: more := by
  intro more heq
  cases h with
  | last hitem | cons hitem _ =>
    obtain ⟨hws, hvalue, -⟩ := hitem
    obtain ⟨c, tail, rfl, hspace, hclose⟩ := hvalue.head
    rw [List.append_assoc, List.append_assoc, skipSpace_blanks hws, List.append_assoc,
      List.cons_append, skipSpace_of_not hspace] at heq
    cases heq
    exact hclose rfl

theorem SpellsMembers.head {members : List (RawText × Json)} (h : SpellsMembers members cs)
    (rest : List Symbol) : ∀ more, skipSpace (cs ++ rest) ≠ some '\x7d' :: more := by
  intro more heq
  cases h with
  | last hkey _ | cons hkey _ _ =>
    obtain ⟨hws, -, -⟩ := hkey
    rw [List.append_assoc, List.append_assoc, skipSpace_blanks hws, List.cons_append,
      skipSpace_of_not (by decide)] at heq
    cases heq

theorem readString_key {key : RawText} (h : SpellsKey key ks) (rest : List Symbol) :
    ∃ quoted after, skipSpace (ks ++ some ':' :: rest) = some '"' :: quoted ∧
      readString quoted = some (key, after) ∧ skipSpace after = some ':' :: rest := by
  cases h with
  | @padded ws cs us _ hws htext hus =>
    refine ⟨cs ++ some '"' :: (us ++ some ':' :: rest), us ++ some ':' :: rest, ?_,
      readString_text htext _, ?_⟩
    · rw [List.append_assoc, skipSpace_blanks hws, List.cons_append, skipSpace_of_not (by decide),
        List.append_assoc, List.cons_append]
    · rw [skipSpace_blanks hus, skipSpace_of_not (by decide)]

/-- With this much fuel everything is read that is spelled in half as many symbols. -/
structure ReadsUpTo (fuel : Nat) : Prop where
  value : ∀ {j cs rest}, SpellsValue j cs → EndsValue rest → 2 * cs.length ≤ fuel →
    readValue fuel (cs ++ rest) = some (j, rest)
  items : ∀ {items cs}, SpellsItems items cs → 2 * cs.length + 1 ≤ fuel → ∀ rest,
    readItems fuel (cs ++ rest) = some (items, rest)
  members : ∀ {members cs}, SpellsMembers members cs → 2 * cs.length + 1 ≤ fuel → ∀ rest,
    readMembers fuel (cs ++ rest) = some (members, rest)

namespace ReadsUpTo

/-- The blanks behind a value are left for whoever asks what follows. -/
theorem padded (h : ReadsUpTo fuel) (hj : Spells j cs) (hrest : EndsValue rest)
    (hfuel : 2 * cs.length ≤ fuel) :
    ∃ after, readValue fuel (cs ++ rest) = some (j, after) ∧
      skipSpace after = skipSpace rest := by
  obtain ⟨hws, hvalue, hus⟩ := hj
  refine ⟨_, ?_, skipSpace_blanks hus rest⟩
  rw [List.append_assoc, readValue_blanks hws, List.append_assoc]
  refine h.value hvalue (hrest.blanks hus) ?_
  simp only [List.length_append] at hfuel
  omega

theorem marked (h : ReadsUpTo fuel) (hj : Spells j cs) {c : Char}
    (hc : c = ',' ∨ c = ']' ∨ c = '\x7d') (hfuel : 2 * cs.length ≤ fuel) (rest : List Symbol) :
    ∃ after, readValue fuel (cs ++ some c :: rest) = some (j, after) ∧
      skipSpace after = some c :: rest := by
  rcases hc with rfl | rfl | rfl <;>
    exact h.padded hj (.of_head (by decide) (by decide) rest) hfuel

theorem items_succ {items : List Json} (h : ReadsUpTo fuel) (hs : SpellsItems items cs)
    (hfuel : 2 * cs.length + 1 ≤ fuel + 1) (rest : List Symbol) :
    readItems (fuel + 1) (cs ++ rest) = some (items, rest) := by
  cases hs with
  | last hitem =>
    simp only [List.length_append, List.length_singleton] at hfuel
    obtain ⟨after, hread, hafter⟩ := h.marked hitem (.inr (.inl rfl)) (by omega) rest
    rw [List.append_assoc, List.singleton_append, readItems, hread]
    simp only [hafter]
  | cons hitem hitems =>
    simp only [List.length_append, List.length_cons] at hfuel
    obtain ⟨after, hread, hafter⟩ := h.marked hitem (.inl rfl) (by omega) _
    rw [List.append_assoc, List.cons_append, readItems, hread]
    simp only [hafter]
    rw [h.items hitems (by omega)]
    rfl

theorem members_succ {members : List (RawText × Json)} (h : ReadsUpTo fuel)
    (hs : SpellsMembers members cs) (hfuel : 2 * cs.length + 1 ≤ fuel + 1) (rest : List Symbol) :
    readMembers (fuel + 1) (cs ++ rest) = some (members, rest) := by
  cases hs with
  | last hkey hvalue =>
    simp only [List.length_append, List.length_cons, List.length_nil] at hfuel
    obtain ⟨quoted, after, hquote, hread, hcolon⟩ := readString_key hkey _
    obtain ⟨after', hread', hafter⟩ := h.marked hvalue (.inr (.inr rfl)) (by omega) rest
    rw [List.append_assoc, List.cons_append, List.append_assoc, List.singleton_append, readMembers,
      hquote]
    simp only [hread, hcolon, hread', hafter]
  | @cons _ _ _ _ _ more hkey hvalue hmembers =>
    simp only [List.length_append, List.length_cons] at hfuel
    obtain ⟨quoted, after, hquote, hread, hcolon⟩ := readString_key hkey _
    obtain ⟨after', hread', hafter⟩ := h.marked hvalue (.inl rfl) (by omega) (more ++ rest)
    rw [List.append_assoc, List.cons_append, List.append_assoc, List.cons_append, readMembers,
      hquote]
    simp only [hread, hcolon, hread', hafter]
    rw [h.members hmembers (by omega)]
    rfl

theorem value_succ (h : ReadsUpTo fuel) (hj : SpellsValue j cs) (hrest : EndsValue rest)
    (hfuel : 2 * cs.length ≤ fuel + 1) : readValue (fuel + 1) (cs ++ rest) = some (j, rest) := by
  cases hj with
  | null | yes | no => rfl
  | positive hsign hm =>
    obtain ⟨c, d, more, rfl, hd⟩ := hm.head
    rw [List.cons_append, readValue_digit hd, ← List.cons_append, ← hsign,
      readNumber_magnitude hm hrest]
    rfl
  | negative hsign hm =>
    rw [List.cons_append, readValue, skipSpace_of_not (by decide)]
    simp only
    rw [← hsign, readNumber_magnitude hm hrest]
    rfl
  | string htext =>
    rw [List.cons_append, readValue, skipSpace_of_not (by decide), List.append_assoc,
      List.singleton_append]
    simp only [readString_text htext, Option.map_some]
  | emptyArray hws | emptyObject hws =>
    rw [List.cons_append, readValue, skipSpace_of_not (by decide), List.append_assoc]
    simp only [skipSpace_blanks hws, List.singleton_append]
    rw [skipSpace_of_not (by decide)]
    rfl
  | array hitems =>
    rw [List.length_cons] at hfuel
    rw [List.cons_append, readValue_array (hitems.head rest), h.items hitems (by omega)]
    rfl
  | object hmembers =>
    rw [List.length_cons] at hfuel
    rw [List.cons_append, readValue_object (hmembers.head rest), h.members hmembers (by omega)]
    rfl

theorem all (fuel : Nat) : ReadsUpTo fuel := by
  induction fuel with
  | zero =>
    refine ⟨fun hvalue _ hfuel => ?_, fun _ hfuel => ?_, fun _ hfuel => ?_⟩
    · obtain ⟨c, more, rfl, -⟩ := hvalue.head
      simp only [List.length_cons] at hfuel
      omega
    all_goals omega
  | succ fuel ih => exact ⟨ih.value_succ, ih.items_succ, ih.members_succ⟩

end ReadsUpTo

/-- Every spelling of a tree is read as this tree. -/
theorem Json.read?_spelled (h : Spells j cs) : Json.read? cs = some j := by
  obtain ⟨after, hread, hafter⟩ := (ReadsUpTo.all (2 * cs.length + 2)).padded h .nil (by omega)
  rw [List.append_nil] at hread
  simp only [Json.read?, hread, hafter]
  rfl

/-- Nothing spells two trees. -/
theorem Spells.unique {i : Json} (hi : Spells i cs) (hj : Spells j cs) : i = j :=
  Option.some.inj ((Json.read?_spelled hi).symm.trans (Json.read?_spelled hj))

end NodeWarden
