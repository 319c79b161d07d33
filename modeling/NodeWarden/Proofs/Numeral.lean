import Mathlib.Data.List.Induction
import NodeWarden.Address.Socket

/-! Numerals. A decimal number is read from digits behind a plus sign or none, however many zeros
lead, and it is their value; there is no other numeral, and none above the limit. Hexadecimal
digits of a fixed width have the number itself for their value as far as the width goes, and there
are no others without capitals. -/

namespace NodeWarden

variable {limit acc n : Nat} {cs : List Char}

/-- Some digits, perhaps behind a plus sign, and their value. -/
inductive IsNumeral : List Char → Nat → Prop
  | plain {ds : List Char} : ds ≠ [] → (∀ c ∈ ds, isDigit c = true) → IsNumeral ds (decimalValue ds)
  | signed {ds : List Char} : ds ≠ [] → (∀ c ∈ ds, isDigit c = true) →
      IsNumeral ('+' :: ds) (decimalValue ds)

theorem le_foldl_digits (acc : Nat) (cs : List Char) :
    acc ≤ cs.foldl (fun n d => n * 10 + (d.toNat - 48)) acc := by
  induction cs generalizing acc with
  | nil => exact Nat.le_refl acc
  | cons c cs ih =>
    have hrest := ih (acc * 10 + (c.toNat - 48))
    rw [List.foldl_cons]
    omega

theorem digit?_eq_none : digit? c = none ↔ isDigit c = false := by
  rw [isDigit, Option.isSome_eq_false_iff, Option.isNone_iff_eq_none]

theorem digit?_of_isDigit {c : Char} (h : isDigit c = true) : digit? c = some (c.toNat - 48) := by
  rw [isDigit, digit?, Option.isSome_ite] at h
  rw [digit?, if_pos h]

theorem readDigits_eq_ok_iff (hacc : acc ≤ limit) :
    readDigits limit acc cs = .ok n ↔ (∀ c ∈ cs, isDigit c = true) ∧
      cs.foldl (fun n d => n * 10 + (d.toNat - 48)) acc = n ∧ n ≤ limit := by
  induction cs generalizing acc with
  | nil =>
    simp only [readDigits, Except.ok.injEq, List.not_mem_nil, false_implies, implies_true,
      List.foldl_nil, true_and]
    exact ⟨fun h => ⟨h, h ▸ hacc⟩, fun h => h.1⟩
  | cons c cs ih =>
    rw [List.forall_mem_cons, List.foldl_cons, readDigits]
    cases hc : isDigit c with
    | false => simp [digit?_eq_none.2 hc]
    | true =>
      simp only [digit?_of_isDigit hc, true_and]
      by_cases hle : acc * 10 + (c.toNat - 48) ≤ limit
      · rw [if_pos hle, ih hle]
      · -- what is above the limit stays above it
        rw [if_neg hle]
        have hmore := le_foldl_digits (acc * 10 + (c.toNat - 48)) cs
        constructor
        · exact nofun
        · rintro ⟨-, hvalue, hn⟩
          omega

theorem readNumeral_eq_ok_iff : readNumeral limit cs = .ok n ↔ IsNumeral cs n ∧ n ≤ limit := by
  constructor
  · intro h
    unfold readNumeral at h
    split at h
    · cases h
    · cases h
    · rename_i ds hne
      obtain ⟨hdigits, rfl, hle⟩ := (readDigits_eq_ok_iff (Nat.zero_le _)).1 h
      exact ⟨.signed hne hdigits, hle⟩
    · rename_i hne _ _
      obtain ⟨hdigits, rfl, hle⟩ := (readDigits_eq_ok_iff (Nat.zero_le _)).1 h
      exact ⟨.plain hne hdigits, hle⟩
  · rintro ⟨hnumeral, hle⟩
    have hread : ∀ ds : List Char, (∀ c ∈ ds, isDigit c = true) → decimalValue ds = n →
        readDigits limit 0 ds = .ok n := fun ds hdigits hvalue =>
      (readDigits_eq_ok_iff (Nat.zero_le _)).2 ⟨hdigits, hvalue, hle⟩
    unfold readNumeral
    cases hnumeral with
    | plain hne hdigits =>
      split
      · exact absurd rfl hne
      · exact absurd (hdigits '+' List.mem_cons_self) (by decide)
      · exact absurd (hdigits '+' List.mem_cons_self) (by decide)
      · exact hread _ hdigits rfl
    | @signed ds hne hdigits =>
      cases ds with
      | nil => exact absurd rfl hne
      | cons d ds => exact hread _ hdigits rfl

theorem le_of_readNumeral (h : readNumeral limit cs = .ok n) : n ≤ limit :=
  (readNumeral_eq_ok_iff.1 h).2

/-! ## Hexadecimal digits of a fixed width -/

theorem hexadecimalValue_snoc {d : Nat} (h : d < 16) (ds : List Char) :
    hexadecimalValue (ds ++ [hexDigit d]) = hexadecimalValue ds * 16 + d := by
  rw [hexadecimalValue, List.foldl_append, List.foldl_cons, List.foldl_nil, hexValue?_hexDigit h]
  rfl

theorem hexadecimalValue_hexPadded (width n : Nat) :
    hexadecimalValue (hexPadded width n) = n % Nat.pow 16 width := by
  induction width generalizing n with
  | zero => exact (Nat.mod_one n).symm
  | succ width ih =>
    have hpow : Nat.pow 16 (width + 1) = 16 * Nat.pow 16 width := Nat.mul_comm _ _
    rw [hexPadded, hexadecimalValue_snoc (Nat.mod_lt n (by decide)), ih, hpow, Nat.mod_mul,
      Nat.mul_comm, Nat.add_comm]

/-- Numbers that fit in the width are told apart. -/
theorem hexPadded_injective {width m n : Nat} (hm : m < Nat.pow 16 width)
    (hn : n < Nat.pow 16 width) (h : hexPadded width m = hexPadded width n) : m = n := by
  have hvalue := congrArg hexadecimalValue h
  rwa [hexadecimalValue_hexPadded, hexadecimalValue_hexPadded, Nat.mod_eq_of_lt hm,
    Nat.mod_eq_of_lt hn] at hvalue

theorem isUpper_hexDigit {d : Nat} (h : d < 16) : (hexDigit d).isUpper = false := by
  have hall : ∀ d < 16, (hexDigit d).isUpper = false := by decide
  exact hall d h

theorem hexDigit_of_not_isUpper {c : Char} (h : isHexDigit c = true) (hc : c.isUpper = false) :
    ∃ d < 16, c = hexDigit d := by
  have key : ∀ n < 128, isHexDigit (Char.ofNat n) = true → (Char.ofNat n).isUpper = false →
      ∃ d < 16, Char.ofNat n = hexDigit d := by decide
  have hcode := key c.toNat (toNat_lt_of_isHexDigit h)
  rw [Char.ofNat_toNat] at hcode
  exact hcode h hc

theorem isUpper_hexPadded (width n : Nat) : ∀ c ∈ hexPadded width n, c.isUpper = false := by
  induction width generalizing n with
  | zero => exact fun c hc => nomatch hc
  | succ width ih =>
    intro c hc
    rcases List.mem_append.1 hc with hc | hc
    · exact ih _ c hc
    · rw [List.mem_singleton.1 hc]
      exact isUpper_hexDigit (Nat.mod_lt _ (by decide))

/-- Digits without capitals are those of their value, which their number has room for. -/
theorem hexPadded_hexadecimalValue {ds : List Char}
    (h : ∀ c ∈ ds, isHexDigit c = true ∧ c.isUpper = false) :
    hexPadded ds.length (hexadecimalValue ds) = ds ∧
      hexadecimalValue ds < Nat.pow 16 ds.length := by
  induction ds using List.reverseRecOn with
  | nil => exact ⟨rfl, by decide⟩
  | append_singleton ds c ih =>
    rw [List.forall_mem_append, List.forall_mem_singleton] at h
    obtain ⟨hdigits, hbound⟩ := ih h.1
    obtain ⟨d, hd, rfl⟩ := hexDigit_of_not_isUpper h.2.1 h.2.2
    have hpow : Nat.pow 16 (ds.length + 1) = Nat.pow 16 ds.length * 16 := rfl
    have hfront : (hexadecimalValue ds * 16 + d) / 16 = hexadecimalValue ds := by omega
    have hlast : (hexadecimalValue ds * 16 + d) % 16 = d := by omega
    rw [hexadecimalValue_snoc hd, List.length_append, List.length_singleton, hexPadded, hpow,
      hfront, hlast, hdigits]
    exact ⟨rfl, by omega⟩

end NodeWarden
