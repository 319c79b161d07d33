import Mathlib.Data.List.Basic
import NodeWarden.Name
import NodeWarden.Proofs.Numeral

/-! Generated names. A usable stem and a suffix make a name, which ends in a dash and the eight
digits of the suffix. Whatever dashes and digits the stem has of its own, stem and suffix are found
again in the name, so that it is known by its own stem and by no other. More names are known by a
stem than are made of it: those whose digits have capitals, and those that have no stem at all. -/

namespace NodeWarden

theorem isNameText_iff {cs : List Char} :
    isNameText cs = true ↔ cs ≠ [] ∧ ∀ c ∈ cs, isBlank c = false ∧ isControl c = false := by
  simp [isNameText, isNameChar]

theorem length_suffixChars (suffix : UInt32) : (suffixChars suffix).length = 8 :=
  length_hexPadded 8 _

theorem suffixChars_injective {u v : UInt32} (h : suffixChars u = suffixChars v) : u = v := by
  have hwidth : ∀ w : UInt32, w.toNat < Nat.pow 16 8 := fun w => w.toNat_lt
  exact UInt32.toNat_inj.1 (hexPadded_injective (hwidth u) (hwidth v) h)

/-- Every run of eight digits without capitals is a suffix. -/
theorem exists_suffixChars_iff {ds : List Char} : (∃ suffix, suffixChars suffix = ds) ↔
    ds.length = 8 ∧ (∀ c ∈ ds, isHexDigit c = true) ∧ ∀ c ∈ ds, c.isUpper = false := by
  constructor
  · rintro ⟨suffix, rfl⟩
    exact ⟨length_suffixChars suffix, hexPadded_isHexDigit 8 _, isUpper_hexPadded 8 _⟩
  · rintro ⟨hlength, hdigits, hsmall⟩
    obtain ⟨hsame, hbound⟩ :=
      hexPadded_hexadecimalValue fun c hc => ⟨hdigits c hc, hsmall c hc⟩
    rw [hlength] at hsame hbound
    exact ⟨UInt32.ofNatLT (hexadecimalValue ds) hbound, hsame⟩

/-- Ends of the same length are the same, and so is what is before them. -/
theorem eq_of_tails {as bs ds es : List Char} (h : as ++ '-' :: ds = bs ++ '-' :: es)
    (hlength : ds.length = es.length) : as = bs ∧ ds = es := by
  obtain ⟨hfront, htail⟩ := List.append_inj' h (by simpa using hlength)
  exact ⟨hfront, (List.cons.inj htail).2⟩

namespace NodeName

variable {stem other : String} {suffix : UInt32} {n : NodeName}

theorem eq_of_text {m n : NodeName} (h : m.text = n.text) : m = n := by
  cases m
  cases n
  cases h
  rfl

theorem parse_text (n : NodeName) : parse n.text = .ok n := by
  rw [parse, dif_pos n.valid]

/-- A name is made of its stem, a dash and its suffix, if the stem is usable. -/
theorem fromParts_eq_ok_iff : fromParts stem suffix = .ok n ↔
    isNameText stem.toList = true ∧ n.text.toList = stem.toList ++ '-' :: suffixChars suffix := by
  unfold fromParts
  split
  · rename_i hstem
    rw [Except.ok.injEq, and_iff_right hstem]
    constructor
    · rintro rfl
      exact String.toList_ofList
    · intro htext
      exact eq_of_text (String.toList_inj.1 (String.toList_ofList.trans htext.symm))
  · rename_i hstem
    simp [hstem]

theorem exists_fromParts (h : isNameText stem.toList = true) (suffix : UInt32) :
    ∃ n, fromParts stem suffix = .ok n := by
  refine ⟨⟨String.ofList (stem.toList ++ '-' :: suffixChars suffix), ?_⟩, ?_⟩
  · rw [String.toList_ofList]
    exact isNameText_join h suffix
  · exact fromParts_eq_ok_iff.2 ⟨h, String.toList_ofList⟩

theorem exists_fromParts_iff : (∃ n, fromParts stem suffix = .ok n) ↔
    stem ≠ "" ∧ ∀ c ∈ stem.toList, isBlank c = false ∧ isControl c = false := by
  have hempty : stem.toList ≠ [] ↔ stem ≠ "" := not_congr String.toList_eq_nil_iff
  rw [← hempty, ← isNameText_iff]
  constructor
  · rintro ⟨n, hn⟩
    exact (fromParts_eq_ok_iff.1 hn).1
  · exact fun hstem => exists_fromParts hstem suffix

theorem hasStem_iff : n.hasStem stem = true ↔
    ∃ digits, n.text.toList = stem.toList ++ '-' :: digits ∧ digits.length = 8 ∧
      ∀ c ∈ digits, isHexDigit c = true := by
  unfold hasStem
  constructor
  · intro h
    split at h
    · rename_i digits hdigits
      rw [List.isPrefixOf?_eq_some_iff_append_eq] at hdigits
      rw [Bool.and_eq_true, beq_iff_eq, List.all_eq_true] at h
      exact ⟨digits, by rw [← hdigits, List.append_assoc]; rfl, h⟩
    · cases h
  · rintro ⟨digits, htext, hlength, hdigits⟩
    have hrest : (stem.toList ++ ['-']).isPrefixOf? n.text.toList = some digits := by
      rw [List.isPrefixOf?_eq_some_iff_append_eq, htext, List.append_assoc]
      rfl
    rw [hrest]
    simpa [hlength] using hdigits

/-- A generated name has no stem but its own. -/
theorem hasStem_generated_iff (h : fromParts stem suffix = .ok n) :
    n.hasStem other = true ↔ other = stem := by
  obtain ⟨-, htext⟩ := fromParts_eq_ok_iff.1 h
  rw [hasStem_iff]
  constructor
  · rintro ⟨digits, hother, hlength, -⟩
    rw [htext] at hother
    have hstem := (eq_of_tails hother (by rw [length_suffixChars, hlength])).1
    exact String.toList_inj.1 hstem.symm
  · rintro rfl
    exact ⟨_, htext, length_suffixChars suffix, hexPadded_isHexDigit 8 _⟩

/-- The same name is not made in two ways. -/
theorem fromParts_again_iff (h : fromParts stem suffix = .ok n) {suffix' : UInt32} :
    fromParts other suffix' = .ok n ↔ other = stem ∧ suffix' = suffix := by
  constructor
  · intro h'
    obtain ⟨-, htext⟩ := fromParts_eq_ok_iff.1 h
    obtain ⟨-, htext'⟩ := fromParts_eq_ok_iff.1 h'
    rw [htext] at htext'
    obtain ⟨hstem, hsuffix⟩ := eq_of_tails htext' (by rw [length_suffixChars, length_suffixChars])
    exact ⟨String.toList_inj.1 hstem.symm, suffixChars_injective hsuffix.symm⟩
  · rintro ⟨rfl, rfl⟩
    exact h

/-- A name is made of a stem and a suffix if and only if the stem has a character, and no blanks or
controls among them. The name that is made is read as itself; it is known by its own stem and by
no other, and no other stem or suffix makes it. -/
theorem made_of_parts (stem other : String) (suffix suffix' : UInt32) :
    ((∃ n, fromParts stem suffix = .ok n) ↔
      stem ≠ "" ∧ ∀ c ∈ stem.toList, isBlank c = false ∧ isControl c = false) ∧
    ∀ n, fromParts stem suffix = .ok n →
      parse n.text = .ok n ∧ (n.hasStem other = true ↔ other = stem) ∧
      (fromParts other suffix' = .ok n ↔ other = stem ∧ suffix' = suffix) :=
  ⟨exists_fromParts_iff, fun n h =>
    ⟨parse_text n, hasStem_generated_iff h, fromParts_again_iff h⟩⟩

/-- The stem looks like a generated name. -/
theorem made_of_parts_nested : ∃ n, fromParts "a-00000001" 0xab = .ok n ∧
    n.text = "a-00000001-000000ab" ∧ parse n.text = .ok n ∧ n.hasStem "a" = false ∧
    n.hasStem "a-00000001" = true ∧ fromParts "a" 1 ≠ .ok n := by
  have hmade : fromParts "a-00000001" 0xab = .ok _ := rfl
  obtain ⟨hparse, hstem, hagain⟩ := (made_of_parts "a-00000001" "a" 0xab 1).2 _ hmade
  obtain ⟨-, hown, -⟩ := (made_of_parts "a-00000001" "a-00000001" 0xab 0xab).2 _ hmade
  refine ⟨_, hmade, by decide +kernel, hparse, ?_, hown.2 rfl, fun h => ?_⟩
  · exact Bool.eq_false_iff.2 fun h => absurd (hstem.1 h) (by decide)
  · exact absurd (hagain.1 h).1 (by decide)

/-- The characters of a name are fit for a stem. -/
theorem isNameText_stem {digits : List Char} (hstem : stem ≠ "")
    (htext : n.text.toList = stem.toList ++ '-' :: digits) : isNameText stem.toList = true := by
  have hvalid := n.valid
  rw [htext, isNameText_iff] at hvalid
  rw [isNameText_iff]
  exact ⟨mt String.toList_eq_nil_iff.1 hstem,
    fun c hc => hvalid.2 c (List.mem_append_left _ hc)⟩

theorem drop_stem {digits : List Char} (htext : n.text.toList = stem.toList ++ '-' :: digits) :
    n.text.toList.drop (stem.toList.length + 1) = digits := by
  rw [htext, ← List.drop_drop, List.drop_left, List.drop_succ_cons, List.drop_zero]

/-- A name was made of a stem, with some suffix, just if it is known by the stem, the stem has a
character and there are no capitals among the digits. -/
theorem made_iff_known (n : NodeName) (stem : String) :
    (∃ suffix, fromParts stem suffix = .ok n) ↔
      n.hasStem stem = true ∧ stem ≠ "" ∧
        ∀ c ∈ n.text.toList.drop (stem.toList.length + 1), c.isUpper = false := by
  constructor
  · rintro ⟨suffix, h⟩
    obtain ⟨hstem, htext⟩ := fromParts_eq_ok_iff.1 h
    refine ⟨(hasStem_generated_iff h).2 rfl, ?_, ?_⟩
    · exact (exists_fromParts_iff.1 ⟨n, h⟩).1
    · rw [drop_stem htext]
      exact isUpper_hexPadded 8 _
  · rintro ⟨hknown, hstem, hsmall⟩
    obtain ⟨digits, htext, hlength, hdigits⟩ := hasStem_iff.1 hknown
    rw [drop_stem htext] at hsmall
    obtain ⟨suffix, rfl⟩ := exists_suffixChars_iff.2 ⟨hlength, hdigits, hsmall⟩
    exact ⟨suffix, fromParts_eq_ok_iff.2 ⟨isNameText_stem hstem htext, htext⟩⟩

/-- Names that are known by a stem and that no suffix makes of it: one with capitals, and one that
has no stem. -/
theorem known_unmade :
    (∃ n, parse "bridge-0000BEEF" = .ok n ∧ n.hasStem "bridge" = true ∧
      ∀ suffix, fromParts "bridge" suffix ≠ .ok n) ∧
    ∃ n, parse "-0000beef" = .ok n ∧ n.hasStem "" = true ∧
      ∀ suffix, fromParts "" suffix ≠ .ok n := by
  constructor
  · refine ⟨⟨"bridge-0000BEEF", by decide⟩, rfl, by decide +kernel, fun suffix h => ?_⟩
    have hdrop := drop_stem (fromParts_eq_ok_iff.1 h).2
    have hcapital : 'B' ∈ suffixChars suffix := by
      rw [← hdrop]
      decide
    exact absurd (isUpper_hexPadded 8 _ _ hcapital) (by decide)
  · refine ⟨⟨"-0000beef", by decide⟩, rfl, by decide +kernel, fun suffix h => ?_⟩
    exact (exists_fromParts_iff.1 ⟨_, h⟩).1 rfl

end NodeName

end NodeWarden
