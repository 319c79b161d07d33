import Mathlib.Data.List.Infix
import NodeWarden.Json.Printer

/-! Where a key can be found in a document by its text alone. A quote that is not escaped begins or
ends a text, and a colon follows only the end of a key; so a word in quotes with a colon behind it
is a key, whatever characters the texts of the document are made of. -/

namespace NodeWarden

variable {word xs rest cs : List Char} {s : String}

/-! ## Escapes -/

/-- A character that is written as it is. -/
def IsPlain (c : Char) : Prop := escapeChar c = [c]

theorem isPlain_of_ne {c : Char} (hquote : c ≠ '"') (hslash : c ≠ '\\') (hcontrol : ¬ c < ' ') :
    IsPlain c := by
  have hother : ∀ d : Char, d < ' ' → c ≠ d := by
    rintro d hd rfl
    exact hcontrol hd
  rw [IsPlain, escapeChar, if_neg hquote, if_neg hslash, if_neg (hother _ (by decide)),
    if_neg (hother _ (by decide)), if_neg (hother _ (by decide)), if_neg (hother _ (by decide)),
    if_neg (hother _ (by decide)), if_neg hcontrol]

theorem not_isPlain_quote : ¬ IsPlain '"' := nofun

theorem not_isPlain_slash : ¬ IsPlain '\\' := nofun

theorem escaped_of_control {c : Char} (h : c < ' ') :
    (∃ ds, escapeChar c = '\\' :: ds) ∧ '"' ∉ escapeChar c := by
  have key : ∀ n < 32, (escapeChar (Char.ofNat n)).head? = some '\\' ∧
      '"' ∉ escapeChar (Char.ofNat n) := by decide
  have hc := key c.toNat h
  rw [Char.ofNat_toNat] at hc
  exact ⟨List.head?_eq_some_iff.1 hc.1, hc.2⟩

theorem isPlain_or_escaped (c : Char) :
    (IsPlain c ∧ c ≠ '"' ∧ c ≠ '\\') ∨ ∃ ds, escapeChar c = '\\' :: ds := by
  by_cases hquote : c = '"'
  · subst hquote
    exact .inr ⟨_, rfl⟩
  by_cases hslash : c = '\\'
  · subst hslash
    exact .inr ⟨_, rfl⟩
  by_cases hcontrol : c < ' '
  · exact .inr (escaped_of_control hcontrol).1
  · exact .inl ⟨isPlain_of_ne hquote hslash hcontrol, hquote, hslash⟩

theorem quote_notMem_escapeChar {c : Char} (h : c ≠ '"') : '"' ∉ escapeChar c := by
  by_cases hslash : c = '\\'
  · subst hslash
    decide
  by_cases hcontrol : c < ' '
  · exact (escaped_of_control hcontrol).2
  · rw [isPlain_of_ne h hslash hcontrol]
    simpa using Ne.symm h

/-- A text of plain characters, with the quote that ends it, is what a written text begins with just
if it is this text. -/
theorem prefix_escaped_iff {ns : List Char} (hns : ∀ n ∈ ns, IsPlain n) :
    ns ++ '"' :: xs <+: cs.flatMap escapeChar ++ '"' :: rest ↔ cs = ns ∧ xs <+: rest := by
  induction ns generalizing cs with
  | nil =>
    cases cs with
    | nil => simp
    | cons c cs =>
      rw [List.flatMap_cons, List.nil_append]
      obtain ⟨hplain, hquote, -⟩ | ⟨ds, hds⟩ := isPlain_or_escaped c
      · rw [hplain]
        simp [List.cons_prefix_cons, Ne.symm hquote]
      · rw [hds]
        simp [List.cons_prefix_cons]
  | cons n ns ih =>
    have hn := hns n List.mem_cons_self
    have hns' : ∀ m ∈ ns, IsPlain m := fun m hm => hns m (List.mem_cons_of_mem n hm)
    cases cs with
    | nil =>
      have hquote : n ≠ '"' := by
        rintro rfl
        exact not_isPlain_quote hn
      simp [List.cons_prefix_cons, hquote]
    | cons c cs =>
      rw [List.flatMap_cons, List.cons_append]
      obtain ⟨hplain, -, -⟩ | ⟨ds, hds⟩ := isPlain_or_escaped c
      · rw [hplain, List.append_assoc, List.singleton_append, List.cons_prefix_cons, ih hns',
          List.cons.injEq, and_assoc, eq_comm]
      · have hslash : n ≠ '\\' := by
          rintro rfl
          exact not_isPlain_slash hn
        have hne : c ≠ n := by
          rintro rfl
          rw [hn] at hds
          exact hslash (List.cons.inj hds).1
        rw [hds]
        simp [List.cons_prefix_cons, hslash, hne]

theorem not_prefix_behind_slashes (ns : List Char) (slashes : Nat) :
    ¬ ns ++ ['"'] <+:
      List.replicate (slashes + 1) '\\' ++ (ns.flatMap escapeChar ++ rest) := by
  induction ns generalizing slashes with
  | nil => simp [List.replicate_succ, List.cons_prefix_cons]
  | cons n ns ih =>
    rw [List.replicate_succ, List.cons_append, List.cons_append, List.cons_prefix_cons]
    rintro ⟨rfl, hprefix⟩
    -- the slash that is matched adds two to those that are ahead
    have hahead : List.replicate slashes '\\' ++ (('\\' :: ns).flatMap escapeChar ++ rest) =
        List.replicate (slashes + 1 + 1) '\\' ++ (ns.flatMap escapeChar ++ rest) := by
      rw [List.replicate_succ', List.replicate_succ', List.append_assoc, List.append_assoc]
      rfl
    rw [hahead] at hprefix
    exact ih (slashes + 1) hprefix

/-- A text with a character that is not plain is not what it begins with when it is written: at the
first such character there is a slash, and if the character is a slash itself, the text stays
behind by one at every slash that follows. -/
theorem not_prefix_escaped {ns : List Char} (hns : ∃ x ∈ ns, ¬ IsPlain x) :
    ¬ ns ++ ['"'] <+: ns.flatMap escapeChar ++ rest := by
  induction ns with
  | nil => simp at hns
  | cons n ns ih =>
    rw [List.flatMap_cons, List.cons_append, List.append_assoc]
    obtain ⟨hplain, -, -⟩ | ⟨ds, hds⟩ := isPlain_or_escaped n
    · have hns' : ∃ x ∈ ns, ¬ IsPlain x := by
        obtain ⟨x, hx, hxplain⟩ := hns
        rcases List.mem_cons.1 hx with rfl | hx
        · exact absurd hplain hxplain
        · exact ⟨x, hx, hxplain⟩
      rw [hplain, List.singleton_append, List.cons_prefix_cons, and_iff_right rfl]
      exact ih hns'
    · by_cases hslash : n = '\\'
      · subst hslash
        exact fun hprefix =>
          not_prefix_behind_slashes ns 0 (List.cons_prefix_cons.1 hprefix).2
      · rw [hds, List.cons_append, List.cons_prefix_cons]
        exact fun hprefix => hslash hprefix.1

/-! ## Marks -/

/-- A word that is written as it is, and does not begin like anything that follows a text. -/
structure IsWord (word : List Char) : Prop where
  plain : ∀ c ∈ word, IsPlain c
  begins : ∃ c more, word = c :: more ∧ c ∉ [',', ':', ']', '\x7d']

/-- A word as a key, and what the text under this key begins with. -/
def keyMark (word xs : List Char) : List Char := '"' :: (word ++ '"' :: ':' :: '"' :: xs)

/-- What can follow a value. -/
def Closes (rest : List Char) : Prop := ∀ c ∈ rest.head?, c ∈ [',', ']', '\x7d']

theorem IsWord.not_prefix (hword : IsWord word) {c : Char} (hc : c ∈ [',', ':', ']', '\x7d']) :
    ¬ word ++ xs <+: c :: rest := by
  obtain ⟨d, more, rfl, hd⟩ := hword.begins
  rw [List.cons_append, List.cons_prefix_cons]
  rintro ⟨rfl, -⟩
  exact hd hc

theorem not_infix_nil : ¬ keyMark word xs <:+: [] := by
  simp [keyMark]

theorem infix_cons_iff_of_ne {c : Char} (h : c ≠ '"') :
    keyMark word xs <:+: c :: rest ↔ keyMark word xs <:+: rest := by
  rw [List.infix_cons_iff, keyMark, List.cons_prefix_cons]
  simp [Ne.symm h]

theorem infix_append_iff_of_notMem (h : '"' ∉ cs) :
    keyMark word xs <:+: cs ++ rest ↔ keyMark word xs <:+: rest := by
  induction cs with
  | nil => rfl
  | cons c cs ih =>
    rw [List.mem_cons, not_or] at h
    rw [List.cons_append, infix_cons_iff_of_ne (Ne.symm h.1), ih h.2]

/-- Inside a text a mark begins at an escaped quote at most, and then the text is a key. -/
theorem infix_escaped_iff (hword : IsWord word)
    (hend : ¬ word ++ '"' :: ':' :: '"' :: xs <+: rest)
    (hquote : '"' ∈ cs → ¬ ':' :: '"' :: xs <+: rest) :
    keyMark word xs <:+: cs.flatMap escapeChar ++ '"' :: rest ↔ keyMark word xs <:+: rest := by
  induction cs with
  | nil =>
    rw [List.flatMap_nil, List.nil_append, List.infix_cons_iff, keyMark, List.cons_prefix_cons]
    simp [hend]
  | cons c cs ih =>
    have hbehind := ih fun hmem => hquote (List.mem_cons_of_mem c hmem)
    rw [List.flatMap_cons, List.append_assoc]
    by_cases hc : c = '"'
    · subst hc
      have hcolon := hquote List.mem_cons_self
      change keyMark word xs <:+: '\\' :: '"' :: (cs.flatMap escapeChar ++ '"' :: rest) ↔ _
      rw [List.infix_cons_iff, List.infix_cons_iff, hbehind, keyMark, List.cons_prefix_cons,
        List.cons_prefix_cons, prefix_escaped_iff hword.plain]
      simp [hcolon]
    · rw [infix_append_iff_of_notMem (quote_notMem_escapeChar hc), hbehind]

theorem infix_quoted_iff (hword : IsWord word)
    (hend : ¬ word ++ '"' :: ':' :: '"' :: xs <+: rest)
    (hquote : '"' ∈ s.toList → ¬ ':' :: '"' :: xs <+: rest) :
    keyMark word xs <:+: quoted s ++ rest ↔
      (s.toList = word ∧ ':' :: '"' :: xs <+: rest) ∨ keyMark word xs <:+: rest := by
  have hquoted : quoted s ++ rest = '"' :: (s.toList.flatMap escapeChar ++ '"' :: rest) := by
    simp [quoted]
  rw [hquoted, List.infix_cons_iff, infix_escaped_iff hword hend hquote, keyMark,
    List.cons_prefix_cons, prefix_escaped_iff hword.plain]
  simp

/-- A text that is a value is passed over. -/
theorem infix_value_iff (hword : IsWord word) (hrest : Closes rest) :
    keyMark word xs <:+: quoted s ++ rest ↔ keyMark word xs <:+: rest := by
  have hcolon : ¬ ':' :: '"' :: xs <+: rest := by
    rintro ⟨more, rfl⟩
    exact absurd (hrest ':' rfl) (by decide)
  have hend : ¬ word ++ '"' :: ':' :: '"' :: xs <+: rest := by
    cases rest with
    | nil =>
      obtain ⟨c, more, rfl, -⟩ := hword.begins
      simp
    | cons c rest =>
      have hall : ∀ d ∈ [',', ']', '\x7d'], d ∈ [',', ':', ']', '\x7d'] := by simp
      exact hword.not_prefix (hall c (hrest c rfl))
  rw [infix_quoted_iff hword hend fun _ => hcolon]
  simp [hcolon]

/-- A key is found if it is the word and the text under it begins as it should. -/
theorem infix_key_iff (hword : IsWord word) (hs : '"' ∉ s.toList) :
    keyMark word xs <:+: quoted s ++ ':' :: rest ↔
      (s.toList = word ∧ '"' :: xs <+: rest) ∨ keyMark word xs <:+: rest := by
  rw [infix_quoted_iff hword (hword.not_prefix (by decide)) fun hmem => absurd hmem hs,
    List.cons_prefix_cons, and_iff_right rfl]
  exact or_congr_right (infix_cons_iff_of_ne (by decide))

/-! ## Documents -/

mutual

/-- The keys of a document, with those of what is in it. -/
def Doc.keys : Doc → List String
  | .null => []
  | .flag _ => []
  | .text _ => []
  | .list items => itemsKeys items
  | .record members => membersKeys members

def itemsKeys : List Doc → List String
  | [] => []
  | item :: items => item.keys ++ itemsKeys items

def membersKeys : List (String × Doc) → List String
  | [] => []
  | (key, value) :: members => key :: (value.keys ++ membersKeys members)

end

/-- A key that is not the word, and has no quote in it that would be escaped. -/
def IsOtherKey (word : List Char) (key : String) : Prop := '"' ∉ key.toList ∧ key.toList ≠ word

theorem infix_otherKey_iff (hword : IsWord word) (hkey : IsOtherKey word s) :
    keyMark word xs <:+: quoted s ++ ':' :: rest ↔ keyMark word xs <:+: rest := by
  rw [infix_key_iff hword hkey.1]
  simp [hkey.2]

theorem closes_nil : Closes [] := nofun

theorem closes_compactItems (items : List Doc) (rest : List Char) :
    Closes (compactItems items ++ rest) := by
  cases items <;> simp [Closes, compactItems]

theorem closes_compactMembers (members : List (String × Doc)) (rest : List Char) :
    Closes (compactMembers members ++ rest) := by
  cases members <;> simp [Closes, compactMembers]

theorem quote_notMem_flagWord (b : Bool) : '"' ∉ flagWord b := by
  cases b <;> decide

mutual

/-- A document without the key is passed over. -/
theorem infix_compactChars_iff (hword : IsWord word) : (d : Doc) → {rest : List Char} →
    (∀ k ∈ d.keys, IsOtherKey word k) → Closes rest →
    (keyMark word xs <:+: d.compactChars ++ rest ↔ keyMark word xs <:+: rest)
  | .null, _, _, _ => infix_append_iff_of_notMem (by decide)
  | .flag b, _, _, _ => infix_append_iff_of_notMem (quote_notMem_flagWord b)
  | .text _, _, _, hrest => infix_value_iff hword hrest
  | .list [], _, _, _ => infix_append_iff_of_notMem (by decide)
  | .list (item :: items), _, hkeys, _ => by
    rw [Doc.keys, itemsKeys, List.forall_mem_append] at hkeys
    rw [Doc.compactChars, List.append_assoc, List.cons_append,
      infix_cons_iff_of_ne (by decide), infix_compactChars_iff hword item hkeys.1
        (closes_compactItems items _), infix_compactItems_iff hword items hkeys.2]
  | .record [], _, _, _ => infix_append_iff_of_notMem (by decide)
  | .record ((key, value) :: members), _, hkeys, _ => by
    rw [Doc.keys, membersKeys, List.forall_mem_cons, List.forall_mem_append] at hkeys
    obtain ⟨hkey, hvalue, hmembers⟩ := hkeys
    simp only [Doc.compactChars, List.append_assoc, List.cons_append]
    rw [infix_cons_iff_of_ne (by decide), infix_otherKey_iff hword hkey,
      infix_compactChars_iff hword value hvalue (closes_compactMembers members _),
      infix_compactMembers_iff hword members hmembers]

theorem infix_compactItems_iff (hword : IsWord word) : (items : List Doc) → {rest : List Char} →
    (∀ k ∈ itemsKeys items, IsOtherKey word k) →
    (keyMark word xs <:+: compactItems items ++ rest ↔ keyMark word xs <:+: rest)
  | [], _, _ => infix_append_iff_of_notMem (by decide)
  | item :: items, _, hkeys => by
    rw [itemsKeys, List.forall_mem_append] at hkeys
    rw [compactItems, List.append_assoc, List.cons_append,
      infix_cons_iff_of_ne (by decide), infix_compactChars_iff hword item hkeys.1
        (closes_compactItems items _), infix_compactItems_iff hword items hkeys.2]

theorem infix_compactMembers_iff (hword : IsWord word) : (members : List (String × Doc)) →
    {rest : List Char} → (∀ k ∈ membersKeys members, IsOtherKey word k) →
    (keyMark word xs <:+: compactMembers members ++ rest ↔ keyMark word xs <:+: rest)
  | [], _, _ => infix_append_iff_of_notMem (by decide)
  | (key, value) :: members, _, hkeys => by
    rw [membersKeys, List.forall_mem_cons, List.forall_mem_append] at hkeys
    obtain ⟨hkey, hvalue, hmembers⟩ := hkeys
    simp only [compactMembers, List.append_assoc, List.cons_append]
    rw [infix_cons_iff_of_ne (by decide), infix_otherKey_iff hword hkey,
      infix_compactChars_iff hword value hvalue (closes_compactMembers members _),
      infix_compactMembers_iff hword members hmembers]

end

theorem presentMembers_cons (key : String) (value : Option Doc)
    (table : List (String × Option Doc)) :
    presentMembers ((key, value) :: table) =
      (value.map (key, ·)).toList ++ presentMembers table := by
  cases value <;> rfl

/-- The keys of the members that have a value are those of the table and those of its values. -/
theorem forall_membersKeys_presentMembers {P : String → Prop} {table : List (String × Option Doc)}
    (hkeys : ∀ m ∈ table, P m.1) (hvalues : ∀ m ∈ table, ∀ d ∈ m.2, ∀ k ∈ d.keys, P k) :
    ∀ k ∈ membersKeys (presentMembers table), P k := by
  induction table with
  | nil => exact nofun
  | cons m table ih =>
    obtain ⟨hkey, hkeys'⟩ := List.forall_mem_cons.1 hkeys
    obtain ⟨hvalue, hvalues'⟩ := List.forall_mem_cons.1 hvalues
    have hrest := ih hkeys' hvalues'
    obtain ⟨key, value⟩ := m
    cases value with
    | none => exact hrest
    | some d =>
      change ∀ k ∈ key :: (d.keys ++ membersKeys (presentMembers table)), P k
      exact List.forall_mem_cons.2 ⟨hkey, List.forall_mem_append.2 ⟨hvalue d rfl, hrest⟩⟩

end NodeWarden
