import Mathlib.Data.List.Infix
import Mathlib.Data.List.TakeWhile
import NodeWarden.Address.Socket
import NodeWarden.Spec.Check

/-! The texts of socket addresses. A reader leaves the end of what it was given, so whatever is
read as a socket address begins with a digit or a bracket and ends with the digits of its port.
There are no blanks around it: a text means the same socket with the blanks at its ends and
without them. The text of an address is read with its port, if it is read, so the texts of
addresses with different ports are told apart. -/

namespace NodeWarden

variable {α : Type} {c : Char} {cs rest : List Char}

theorem expect_eq_some : expect c cs = some rest ↔ cs = c :: rest := by
  cases cs with
  | nil => simp [expect]
  | cons d ds =>
    rw [expect, Option.ite_none_right_eq_some, Option.some.injEq, List.cons.injEq]
    exact and_congr_left fun _ => eq_comm

/-- Some digits stand before the rest. -/
def DigitsBefore (cs rest : List Char) : Prop :=
  ∃ d ds, cs = d :: (ds ++ rest) ∧ ∀ c ∈ d :: ds, isDigit c = true

theorem DigitsBefore.suffix (h : DigitsBefore cs rest) : rest <:+ cs := by
  obtain ⟨d, ds, rfl, -⟩ := h
  exact ⟨d :: ds, rfl⟩

theorem digitsBefore_span (hsome : (cs.span isDigit).1.isEmpty = false) :
    DigitsBefore cs (cs.span isDigit).2 := by
  rw [List.span_eq_takeWhile_dropWhile] at hsome ⊢
  have hwhole := List.takeWhile_append_dropWhile (p := isDigit) (l := cs)
  cases hdigits : cs.takeWhile isDigit with
  | nil => simp [hdigits] at hsome
  | cons d ds =>
    rw [hdigits] at hwhole
    refine ⟨d, ds, hwhole.symm, fun c hc => ?_⟩
    rw [← hdigits] at hc
    exact List.mem_takeWhile_imp hc

theorem readDecimal_digits {limit n : Nat} (h : readDecimal limit cs = some (n, rest)) :
    DigitsBefore cs rest := by
  unfold readDecimal at h
  dsimp only at h
  split at h
  · cases h
  · rename_i hnot
    cases h
    exact digitsBefore_span (by simp_all)

theorem readOctet_digits {n : Nat} (h : readOctet cs = some (n, rest)) : DigitsBefore cs rest := by
  unfold readOctet at h
  dsimp only at h
  split at h
  · cases h
  · rename_i hnot
    cases h
    exact digitsBefore_span (by simp_all)

theorem readGroup_suffix {n : Nat} (h : readGroup cs = some (n, rest)) : rest <:+ cs := by
  unfold readGroup at h
  dsimp only at h
  split at h
  · cases h
  · cases h
    rw [List.span_eq_takeWhile_dropWhile]
    exact List.dropWhile_suffix _

/-- A further octet stands behind a point. -/
theorem pointed_suffix {n : Nat} (h : (expect '.' cs >>= readOctet) = some (n, rest)) :
    rest <:+ cs := by
  obtain ⟨tail, htail, hread⟩ := Option.bind_eq_some_iff.1 h
  rw [expect_eq_some.1 htail]
  exact (readOctet_digits hread).suffix.trans (List.suffix_cons _ _)

theorem readDotted_digits {octets : List Nat} (h : readDotted cs = some (octets, rest)) :
    ∃ after, DigitsBefore cs after ∧ rest <:+ after := by
  unfold readDotted at h
  obtain ⟨⟨a, r1⟩, h1, h⟩ := Option.bind_eq_some_iff.1 h
  obtain ⟨⟨b, r2⟩, h2, h⟩ := Option.bind_eq_some_iff.1 h
  obtain ⟨⟨c, r3⟩, h3, h⟩ := Option.bind_eq_some_iff.1 h
  obtain ⟨⟨d, r4⟩, h4, h⟩ := Option.bind_eq_some_iff.1 h
  cases h
  exact ⟨r1, readOctet_digits h1,
    ((pointed_suffix h4).trans (pointed_suffix h3)).trans (pointed_suffix h2)⟩

theorem readDotted_suffix {octets : List Nat} (h : readDotted cs = some (octets, rest)) :
    rest <:+ cs := by
  obtain ⟨after, hdigits, hrest⟩ := readDotted_digits h
  exact hrest.trans hdigits.suffix

/-- What stands behind a colon, or all of it at the beginning. -/
theorem groups_start {first : Bool} {here : List Char}
    (h : (if first then some cs else expect ':' cs) = some here) : here <:+ cs := by
  split at h
  · cases h
    exact List.suffix_refl _
  · rw [expect_eq_some.1 h]
    exact List.suffix_cons _ _

theorem readGroups_suffix (room : Nat) (first : Bool) (cs : List Char) :
    (readGroups room first cs).rest <:+ cs := by
  induction room generalizing first cs with
  | zero => exact List.suffix_refl cs
  | succ room ih =>
    unfold readGroups
    dsimp only
    split
    · rename_i hdotted
      split at hdotted
      · cases hdotted
      · obtain ⟨here, hhere, hread⟩ := Option.bind_eq_some_iff.1 hdotted
        exact (readDotted_suffix hread).trans (groups_start hhere)
    · split
      · rename_i hgroup
        obtain ⟨here, hhere, hread⟩ := Option.bind_eq_some_iff.1 hgroup
        exact ((ih _ _).trans (readGroup_suffix hread)).trans (groups_start hhere)
      · exact List.suffix_refl cs

theorem readIpv6_suffix {bits : BitVec 128} (h : readIpv6 cs = some (bits, rest)) :
    rest <:+ cs := by
  have hhead := readGroups_suffix 8 true cs
  unfold readIpv6 at h
  dsimp only at h
  split at h
  · cases h
    exact hhead
  · split at h
    · cases h
    · obtain ⟨gap, hgap, h⟩ := Option.bind_eq_some_iff.1 h
      cases h
      obtain ⟨colon, hcolon, hgap⟩ := Option.bind_eq_some_iff.1 hgap
      rw [expect_eq_some.1 hcolon, expect_eq_some.1 hgap] at hhead
      exact ((readGroups_suffix _ _ gap).trans
        ((List.suffix_cons _ _).trans (List.suffix_cons _ _))).trans hhead

theorem readScope_suffix (cs : List Char) : (readScope cs).2 <:+ cs := by
  unfold readScope
  cases hscope : expect '%' cs >>= readDecimal 4294967295 with
  | none => exact List.suffix_refl _
  | some p =>
    rw [Option.getD_some]
    obtain ⟨tail, htail, hread⟩ := Option.bind_eq_some_iff.1 hscope
    rw [expect_eq_some.1 htail]
    exact (readDecimal_digits hread).suffix.trans (List.suffix_cons _ _)

/-- The text of a socket address begins with a digit or a bracket. -/
def OpensSocket (cs : List Char) : Prop := ∃ c tail, cs = c :: tail ∧ (isDigit c = true ∨ c = '[')

theorem isBlank_of_isDigit (h : isDigit c = true) : isBlank c = false := by
  have hbounds : 48 ≤ c.toNat ∧ c.toNat ≤ 57 := by
    rw [isDigit, digit?, Option.isSome_ite] at h
    exact h
  unfold isBlank
  simp only [Bool.or_eq_false_iff, Bool.and_eq_false_iff, decide_eq_false_iff_not,
    beq_eq_false_iff_ne]
  omega

/-- The first character and the last are no blanks. -/
structure Bounded (cs : List Char) : Prop where
  first : ∃ c tail, cs = c :: tail ∧ isBlank c = false
  last : ∃ init c, cs = init ++ [c] ∧ isBlank c = false

theorem Bounded.trimChars_eq (h : Bounded cs) : trimChars cs = cs := by
  have hdrop : ∀ (c : Char) (tail : List Char), isBlank c = false →
      dropBlanks (c :: tail) = c :: tail := by
    intro c tail hc
    rw [dropBlanks, List.dropWhile_cons_of_neg (by simp [hc])]
  obtain ⟨⟨c, tail, hfirst, hc⟩, init, d, hlast, hd⟩ := h
  have hfront : dropBlanks cs = cs := by
    rw [hfirst]
    exact hdrop c tail hc
  rw [trimChars, hfront, hlast, List.reverse_append, List.reverse_singleton, List.singleton_append,
    hdrop d _ hd, List.reverse_cons, List.reverse_reverse]

theorem OpensSocket.first (h : OpensSocket cs) : ∃ c tail, cs = c :: tail ∧ isBlank c = false := by
  obtain ⟨c, tail, rfl, hdigit | rfl⟩ := h
  · exact ⟨c, tail, rfl, isBlank_of_isDigit hdigit⟩
  · exact ⟨'[', tail, rfl, by decide⟩

theorem last_digit (front : List Char) {ds : List Char} (hne : ds ≠ [])
    (hdigits : ∀ c ∈ ds, isDigit c = true) :
    ∃ init c, front ++ ds = init ++ [c] ∧ isBlank c = false := by
  refine ⟨front ++ ds.dropLast, ds.getLast hne, ?_,
    isBlank_of_isDigit (hdigits _ (List.getLast_mem hne))⟩
  rw [List.append_assoc, List.dropLast_append_getLast]

theorem le_of_readDecimal {limit n : Nat} (h : readDecimal limit cs = some (n, rest)) :
    n ≤ limit := by
  unfold readDecimal at h
  dsimp only at h
  split at h
  · cases h
  · rename_i hnot
    cases h
    simp only [Bool.or_eq_true, decide_eq_true_eq, not_or, Nat.not_lt] at hnot
    exact hnot.2

theorem readDecimal_value {limit n : Nat} {cs : List Char}
    (h : readDecimal limit cs = some (n, [])) : decimalValue cs = n := by
  have hwhole := List.takeWhile_append_dropWhile (p := isDigit) (l := cs)
  simp only [readDecimal, List.span_eq_takeWhile_dropWhile] at h
  split at h
  · cases h
  · rw [Option.some.injEq, Prod.mk.injEq] at h
    rw [h.2, List.append_nil] at hwhole
    rw [← h.1, hwhole]

/-- A port that ends a text is the digits behind the colon. -/
theorem readPortPart_end {port : Nat} (h : readPortPart rest = some (port, [])) :
    ∃ ds, rest = ':' :: ds ∧ ds ≠ [] ∧ (∀ c ∈ ds, isDigit c = true) ∧ decimalValue ds = port ∧
      port ≤ 65535 := by
  obtain ⟨ds, hds, hread⟩ := Option.bind_eq_some_iff.1 h
  obtain ⟨d, digits, hwhole, hdigits⟩ := readDecimal_digits hread
  rw [List.append_nil] at hwhole
  subst hwhole
  exact ⟨_, expect_eq_some.1 hds, List.cons_ne_nil d digits, hdigits, readDecimal_value hread,
    le_of_readDecimal hread⟩

theorem readPortPart_last {port : Nat} (h : readPortPart rest = some (port, []))
    (hrest : rest <:+ cs) : ∃ init c, cs = init ++ [c] ∧ isBlank c = false := by
  obtain ⟨ds, rfl, hne, hdigits, -⟩ := readPortPart_end h
  obtain ⟨before, rfl⟩ := hrest
  simpa using last_digit (before ++ [':']) hne hdigits

theorem colon_notMem {ds : List Char} (hdigits : ∀ c ∈ ds, isDigit c = true) : ':' ∉ ds := by
  intro hcolon
  exact absurd (hdigits _ hcolon) (by decide)

theorem readSocketV4_port {a : SocketAddr} (h : readSocketV4 cs = some (a, [])) :
    ∃ rest, rest <:+ cs ∧ readPortPart rest = some (a.port, []) := by
  obtain ⟨⟨octets, rest⟩, hoctets, h⟩ := Option.bind_eq_some_iff.1 h
  obtain ⟨⟨port, last⟩, hport, h⟩ := Option.bind_eq_some_iff.1 h
  cases h
  exact ⟨rest, readDotted_suffix hoctets, hport⟩

theorem readSocketV6_port {a : SocketAddr} (h : readSocketV6 cs = some (a, [])) :
    ∃ rest, rest <:+ cs ∧ readPortPart rest = some (a.port, []) := by
  obtain ⟨⟨bits, rest⟩, hbits, h⟩ := Option.bind_eq_some_iff.1 h
  obtain ⟨⟨port, last⟩, hport, h⟩ := Option.bind_eq_some_iff.1 h
  cases h
  obtain ⟨inner, hinner, hbits⟩ := Option.bind_eq_some_iff.1 hbits
  obtain ⟨after, hafter, hport⟩ := Option.bind_eq_some_iff.1 hport
  have hscope := readScope_suffix rest
  have hbracket : expect ']' (readScope rest).2 = some after := hafter
  rw [expect_eq_some.1 hbracket] at hscope
  refine ⟨after, ?_, hport⟩
  rw [expect_eq_some.1 hinner]
  exact (((List.suffix_cons ']' after).trans hscope).trans (readIpv6_suffix hbits)).trans
    (List.suffix_cons _ _)

theorem readSocketV4_opens {a : SocketAddr} (h : readSocketV4 cs = some (a, [])) :
    OpensSocket cs := by
  obtain ⟨⟨octets, rest⟩, hoctets, -⟩ := Option.bind_eq_some_iff.1 h
  obtain ⟨after, ⟨d, ds, rfl, hdigits⟩, -⟩ := readDotted_digits hoctets
  exact ⟨d, _, rfl, .inl (hdigits d List.mem_cons_self)⟩

theorem readSocketV6_opens {a : SocketAddr} (h : readSocketV6 cs = some (a, [])) :
    OpensSocket cs := by
  obtain ⟨⟨bits, rest⟩, hbits, -⟩ := Option.bind_eq_some_iff.1 h
  obtain ⟨inner, hinner, -⟩ := Option.bind_eq_some_iff.1 hbits
  exact ⟨'[', inner, expect_eq_some.1 hinner, .inr rfl⟩

theorem decimalValue_toDigits (n : Nat) : decimalValue (Nat.toDigits 10 n) = n := by
  have hdigits : Nat.ofDigitChars 10 (Nat.toDigits 10 n) 0 = n :=
    Nat.ofDigitChars_toDigits (by decide) (by decide)
  unfold Nat.ofDigitChars at hdigits
  unfold decimalValue
  simpa only [Nat.mul_comm, show '0'.toNat = 48 from rfl] using hdigits

theorem isDigit_of_mem_toDigits {n : Nat} {c : Char} (h : c ∈ Nat.toDigits 10 n) :
    isDigit c = true := by
  have hdigit := Nat.isDigit_of_mem_toDigits (by decide) (by decide) h
  simpa [isDigit, digit?, Char.isDigit, Char.le_def, Option.isSome_ite] using hdigit

namespace SocketAddr

variable {s : String} {a b : SocketAddr}

theorem reads_of_parse? (h : parse? s = some a) :
    readSocketV4 s.toList = some (a, []) ∨ readSocketV6 s.toList = some (a, []) := by
  unfold parse? wholly at h
  split at h
  · rename_i hread
    cases h
    rw [readSocket] at hread
    cases hv4 : readSocketV4 s.toList with
    | some p =>
      rw [hv4] at hread
      cases hread
      exact .inl rfl
    | none =>
      rw [hv4] at hread
      exact .inr hread
  · cases h

/-- The text of a socket address ends with its port. -/
theorem port_at_end (h : parse? s = some a) :
    ∃ rest, rest <:+ s.toList ∧ readPortPart rest = some (a.port, []) :=
  (reads_of_parse? h).elim readSocketV4_port readSocketV6_port

theorem opens_of_parse? (h : parse? s = some a) : OpensSocket s.toList :=
  (reads_of_parse? h).elim readSocketV4_opens readSocketV6_opens

theorem bounded_of_parse? (h : parse? s = some a) : Bounded s.toList := by
  obtain ⟨rest, hrest, hport⟩ := port_at_end h
  exact ⟨(opens_of_parse? h).first, readPortPart_last hport hrest⟩

/-- There are no blanks at the ends of a socket address. -/
theorem trim_of_parse? (h : parse? s = some a) : trim s = s := by
  rw [trim, (bounded_of_parse? h).trimChars_eq, String.ofList_toList]

/-- The text ends with a colon and the digits of the port. -/
theorem text_end (a : SocketAddr) :
    ∃ front, a.text.toList = front ++ ':' :: Nat.toDigits 10 a.port := by
  unfold text
  split
  · exact ⟨a.ip.text.toList, by simp⟩
  · exact ⟨'[' :: (a.ip.text ++ (if a.scope = 0 then "" else "%" ++ toString a.scope)).toList ++
      [']'], by simp⟩

theorem opens_text (a : SocketAddr) : OpensSocket a.text.toList := by
  unfold text
  cases a.ip with
  | v6 bits =>
    simp only [String.append_assoc, String.toList_append]
    exact ⟨'[', _, rfl, .inr rfl⟩
  | v4 bits =>
    obtain ⟨d, ds, hdigits⟩ := List.exists_cons_of_ne_nil
      (@Nat.toDigits_ne_nil (bits.toNat / Nat.pow 256 3 % 256) 10)
    have hdigit : isDigit d = true := isDigit_of_mem_toDigits (by rw [hdigits]; simp)
    have htext : ∃ tail, (Ip.v4 bits).text.toList = d :: tail := by
      simp only [Ip.text, dottedText, octetsOf, List.map_cons, String.intercalate_cons_cons,
        String.append_assoc, String.toList_append, Nat.toString_eq_repr, Nat.toList_repr, hdigits]
      exact ⟨_, rfl⟩
    obtain ⟨tail, htext⟩ := htext
    refine ⟨d, tail ++ (":" ++ toString a.port).toList, ?_, .inl hdigit⟩
    simp [htext]

theorem splitLast_text (a : SocketAddr) :
    ∃ front, splitLast ':' a.text.toList = some (front, Nat.toDigits 10 a.port) := by
  obtain ⟨front, htext⟩ := a.text_end
  refine ⟨front, ?_⟩
  rw [htext, splitLast_append (colon_notMem fun _ => isDigit_of_mem_toDigits)]

theorem bounded_text (a : SocketAddr) : Bounded a.text.toList := by
  refine ⟨a.opens_text.first, ?_⟩
  obtain ⟨front, htext⟩ := a.text_end
  rw [htext]
  simpa using last_digit (front ++ [':']) Nat.toDigits_ne_nil fun _ => isDigit_of_mem_toDigits

/-- However the text of a socket address is read, its port is the same. -/
theorem port_of_parse? (h : parse? a.text = some b) : b.port = a.port := by
  obtain ⟨rest, ⟨front, hfront⟩, hread⟩ := port_at_end h
  obtain ⟨ds, rfl, -, hdigits, hport, -⟩ := readPortPart_end hread
  obtain ⟨front', hsplit⟩ := a.splitLast_text
  rw [← hfront, splitLast_append (colon_notMem hdigits)] at hsplit
  cases hsplit
  rw [← hport, decimalValue_toDigits]

/-- Texts of addresses with different ports are not taken for the same socket. -/
theorem not_same_of_port (hport : a.port ≠ b.port) : sameSocket a.text b.text = false := by
  have htrim : ∀ c : SocketAddr, trim c.text = c.text := fun c => by
    rw [trim, c.bounded_text.trimChars_eq, String.ofList_toList]
  have htext : a.text ≠ b.text := by
    intro htext
    obtain ⟨_, ha⟩ := a.splitLast_text
    obtain ⟨_, hb⟩ := b.splitLast_text
    rw [htext, hb, Option.some.injEq, Prod.mk.injEq] at ha
    have hvalue := congrArg decimalValue ha.2
    rw [decimalValue_toDigits, decimalValue_toDigits] at hvalue
    exact hport hvalue.symm
  unfold sameSocket
  rw [htrim, htrim]
  split
  · rename_i a' b' ha hb
    rw [meets, port_of_parse? ha, port_of_parse? hb]
    simp [hport]
  · simpa using htext

end SocketAddr

end NodeWarden
