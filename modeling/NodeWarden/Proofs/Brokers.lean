import Mathlib.Data.List.Forall2
import NodeWarden.Bridge.Settings
import NodeWarden.Proofs.Check
import NodeWarden.Proofs.LogLine
import NodeWarden.Proofs.Socket

/-! The broker a node is told of. The seeds are cut at their commas, for which there is one way
only, and the first piece that is not blank is the broker, without the blanks at its ends. Where
an entry ends and the next one begins is no more than a comma. -/

namespace NodeWarden

variable {mark : Char} {cs : List Char} {parts : List (List Char)}

/-! ## Pieces -/

theorem splitEach_of_notMem (h : mark ∉ cs) : splitEach mark cs = [cs] := by
  induction cs with
  | nil => rfl
  | cons c cs ih =>
    rw [List.mem_cons, not_or] at h
    rw [splitEach, if_neg (Ne.symm h.1), ih h.2]

/-- Texts with a mark between them come apart as each of them does by itself. -/
theorem splitEach_intercalate (h : parts ≠ []) :
    splitEach mark ([mark].intercalate parts) = parts.flatMap (splitEach mark) := by
  induction parts with
  | nil => exact absurd rfl h
  | cons part parts ih =>
    cases parts with
    | nil => rw [List.intercalate_singleton, List.flatMap_singleton]
    | cons next parts =>
      rw [List.intercalate_cons_cons, List.append_assoc, List.singleton_append,
        splitEach_append_mark, ih (List.cons_ne_nil next parts), ← List.flatMap_cons]

theorem intercalate_splitEach (mark : Char) (cs : List Char) :
    [mark].intercalate (splitEach mark cs) = cs := by
  induction cs with
  | nil => rfl
  | cons c cs ih =>
    have hne := splitEach_ne_nil mark cs
    by_cases hc : c = mark
    · rw [splitEach, if_pos hc, List.intercalate_cons_of_ne_nil hne, ih, hc]
      rfl
    · cases hsplit : splitEach mark cs with
      | nil => exact absurd hsplit hne
      | cons part parts =>
        simp only [splitEach, if_neg hc, hsplit]
        rw [hsplit] at ih
        cases parts with
        | nil =>
          rw [List.intercalate_singleton] at ih ⊢
          rw [ih]
        | cons next parts =>
          rw [List.intercalate_cons_cons] at ih ⊢
          rw [List.cons_append, List.cons_append, ih]

theorem splitEach_eq_iff : splitEach mark cs = parts ↔
    parts ≠ [] ∧ [mark].intercalate parts = cs ∧ ∀ part ∈ parts, mark ∉ part := by
  constructor
  · rintro rfl
    exact ⟨splitEach_ne_nil mark cs, intercalate_splitEach mark cs,
      fun part => not_mem_of_mem_splitEach⟩
  · rintro ⟨hne, rfl, hapart⟩
    have hsingle : ∀ part ∈ parts, splitEach mark part = [part] := fun part hpart =>
      splitEach_of_notMem (hapart part hpart)
    rw [splitEach_intercalate hne, List.flatMap_congr hsingle, List.flatMap_singleton']

/-- The texts between the commas of an entry. -/
structure IsCut (entry : String) (pieces : List String) : Prop where
  nonempty : pieces ≠ []
  joined : String.intercalate "," pieces = entry
  apart : ∀ piece ∈ pieces, ',' ∉ piece.toList

variable {entry text core server : String} {pieces seeds : List String}

theorem isCut_iff : IsCut entry pieces ↔ splitText ',' entry = pieces := by
  have hchars : splitText ',' entry = pieces ↔
      splitEach ',' entry.toList = pieces.map String.toList := by
    rw [splitText]
    constructor
    · rintro rfl
      simp
    · intro h
      simp [h]
  have hjoined : String.intercalate "," pieces = entry ↔
      [','].intercalate (pieces.map String.toList) = entry.toList := by
    rw [← String.toList_inj, String.toList_intercalate]
    rfl
  rw [hchars, splitEach_eq_iff, ← hjoined]
  constructor
  · intro h
    exact ⟨by simpa using h.nonempty, h.joined, by simpa using h.apart⟩
  · rintro ⟨hnonempty, hjoined, hapart⟩
    exact ⟨by simpa using hnonempty, hjoined, by simpa using hapart⟩

theorem forall₂_isCut_iff {cuts : List (List String)} :
    List.Forall₂ IsCut seeds cuts ↔ seeds.map (splitText ',') = cuts := by
  have hcut : IsCut = fun entry pieces => splitText ',' entry = pieces := by
    funext entry pieces
    exact propext isCut_iff
  rw [hcut, ← List.forall₂_map_left_iff (R := Eq), List.forall₂_eq_eq_eq]

/-! ## Blanks at the ends -/

/-- What is left of a text without the blanks at its two ends, if it is not blank. -/
structure IsTrimmed (text core : String) : Prop where
  ends : ∃ front behind, text.toList = front ++ (core.toList ++ behind) ∧
    (∀ c ∈ front, isBlank c = true) ∧ ∀ c ∈ behind, isBlank c = true
  bounded : Bounded core.toList

theorem exists_front_dropBlanks (cs : List Char) :
    ∃ front, cs = front ++ dropBlanks cs ∧ ∀ c ∈ front, isBlank c = true :=
  ⟨cs.takeWhile isBlank, List.takeWhile_append_dropWhile.symm,
    fun _ => List.all_eq_true.1 List.all_takeWhile _⟩

theorem exists_behind_trimChars (cs : List Char) :
    ∃ behind, dropBlanks cs = trimChars cs ++ behind ∧ ∀ c ∈ behind, isBlank c = true := by
  obtain ⟨behind, hbehind, hblank⟩ := exists_front_dropBlanks (dropBlanks cs).reverse
  refine ⟨behind.reverse, ?_, fun c hc => hblank c (List.mem_reverse.1 hc)⟩
  rw [trimChars, ← List.reverse_append, ← hbehind, List.reverse_reverse]

theorem bounded_trimChars (h : cs.all isBlank = false) : Bounded (trimChars cs) := by
  have hne : trimChars cs ≠ [] := by
    rw [Ne, trimChars_eq_nil_iff, h]
    decide
  constructor
  · -- what is cut off at the end leaves the first character where it is
    obtain ⟨c, tail, hfirst⟩ := List.exists_cons_of_ne_nil hne
    obtain ⟨behind, hbehind, -⟩ := exists_behind_trimChars cs
    rw [hfirst] at hbehind
    exact ⟨c, tail, hfirst, head?_dropBlanks cs c (by rw [hbehind]; rfl)⟩
  · have hlast := head?_dropBlanks (dropBlanks cs).reverse
    cases hbehind : dropBlanks (dropBlanks cs).reverse with
    | nil => exact absurd (by rw [trimChars, hbehind]; rfl) hne
    | cons d front =>
      rw [hbehind] at hlast
      exact ⟨front.reverse, d, by rw [trimChars, hbehind, List.reverse_cons], hlast d rfl⟩

theorem isTrimmed_trim (h : Filled text) : IsTrimmed text (trim text) := by
  rw [← not_not (a := Filled text), ← isBlankText_iff, isBlankText, Bool.not_eq_true] at h
  obtain ⟨front, hfront, hblank⟩ := exists_front_dropBlanks text.toList
  obtain ⟨behind, hbehind, hblank'⟩ := exists_behind_trimChars text.toList
  rw [hbehind] at hfront
  constructor
  · rw [trim, String.toList_ofList]
    exact ⟨front, behind, hfront, hblank, hblank'⟩
  · rw [trim, String.toList_ofList]
    exact bounded_trimChars h

theorem IsTrimmed.trim_eq (h : IsTrimmed text core) : trim text = core := by
  obtain ⟨⟨front, behind, htext, hfront, hbehind⟩, ⟨c, tail, hfirst, hc⟩, init, d, hlast, hd⟩ := h
  have hbegin : dropBlanks text.toList = core.toList ++ behind := by
    rw [htext]
    refine dropBlanks_append hfront ?_
    simpa [hfirst] using hc
  have hend : dropBlanks (core.toList ++ behind).reverse = core.toList.reverse := by
    rw [List.reverse_append]
    refine dropBlanks_append (by simpa using hbehind) ?_
    simpa [hlast] using hd
  rw [trim, trimChars, hbegin, hend, List.reverse_reverse, String.ofList_toList]

theorem filled_of_bounded (h : Bounded text.toList) : Filled text := by
  obtain ⟨c, tail, hfirst, hc⟩ := h.first
  exact ⟨c, by simp [hfirst], hc⟩

theorem isTrimmed_iff : IsTrimmed text core ↔ Filled text ∧ trim text = core := by
  constructor
  · intro h
    refine ⟨?_, h.trim_eq⟩
    obtain ⟨front, behind, htext, -⟩ := h.ends
    obtain ⟨c, hc, hsolid⟩ := filled_of_bounded h.bounded
    exact ⟨c, by simp [htext, hc], hsolid⟩
  · rintro ⟨hfilled, rfl⟩
    exact isTrimmed_trim hfilled

/-! ## The first that is filled -/

/-- The search goes by the pieces, and the blanks are taken from what is found. -/
theorem firstBootstrapServer_eq (seeds : List String) : firstBootstrapServer seeds =
    match (seeds.flatMap (splitText ',')).find? (!isBlankText ·) with
    | some piece => .ok (trim piece)
    | none => .error (.settings "seed_brokers must name at least one broker") := by
  have hparts : (seeds.flatMap fun entry => (splitEach ',' entry.toList).map trimChars) =
      (seeds.flatMap (splitText ',')).map fun piece => trimChars piece.toList := by
    rw [List.map_flatMap]
    exact List.flatMap_congr fun entry _ => by simp [splitText]
  have hfilled : (fun part : List Char => !part.isEmpty) ∘
      (fun piece : String => trimChars piece.toList) = (!isBlankText ·) := by
    funext piece
    rw [Function.comp_apply, isBlankText, Bool.eq_iff_iff, Bool.not_eq_true', Bool.not_eq_true',
      ← Bool.not_eq_true, ← Bool.not_eq_true, List.isEmpty_iff, trimChars_eq_nil_iff]
  rw [firstBootstrapServer, hparts, List.find?_map, hfilled]
  cases (seeds.flatMap (splitText ',')).find? (!isBlankText ·) with
  | none => rfl
  | some piece => rfl

theorem firstBootstrapServer_congr {others : List String}
    (h : seeds.flatMap (splitText ',') = others.flatMap (splitText ',')) :
    firstBootstrapServer seeds = firstBootstrapServer others := by
  rw [firstBootstrapServer_eq, firstBootstrapServer_eq, h]

theorem firstBootstrapServer_eq_ok_iff : firstBootstrapServer seeds = .ok server ↔
    ∃ passed piece later, seeds.flatMap (splitText ',') = passed ++ piece :: later ∧
      (∀ p ∈ passed, ¬ Filled p) ∧ IsTrimmed piece server := by
  rw [firstBootstrapServer_eq]
  constructor
  · intro h
    split at h
    · rename_i piece hfind
      cases h
      obtain ⟨hpiece, passed, later, hpieces, hpassed⟩ := List.find?_eq_some_iff_append.1 hfind
      refine ⟨passed, piece, later, hpieces, fun p hp => ?_, isTrimmed_trim ?_⟩
      · rw [← isBlankText_iff]
        simpa using hpassed p hp
      · by_contra hblank
        simp [isBlankText_iff.2 hblank] at hpiece
    · cases h
  · rintro ⟨passed, piece, later, hpieces, hpassed, htrimmed⟩
    obtain ⟨hpiece, rfl⟩ := isTrimmed_iff.1 htrimmed
    have hfind : (seeds.flatMap (splitText ',')).find? (!isBlankText ·) = some piece := by
      refine List.find?_eq_some_iff_append.2 ⟨?_, passed, later, hpieces, fun p hp => ?_⟩
      · simpa using mt isBlankText_iff.1 (not_not.2 hpiece)
      · simpa using isBlankText_iff.2 (hpassed p hp)
    rw [hfind]

theorem firstBootstrapServer_eq_error_iff : (∃ e, firstBootstrapServer seeds = .error e) ↔
    ∀ p ∈ seeds.flatMap (splitText ','), ¬ Filled p := by
  have hblank : (seeds.flatMap (splitText ',')).find? (!isBlankText ·) = none ↔
      ∀ p ∈ seeds.flatMap (splitText ','), ¬ Filled p := by
    simp only [List.find?_eq_none, Bool.not_eq_true', Bool.not_eq_false, isBlankText_iff]
  rw [firstBootstrapServer_eq, ← hblank]
  constructor
  · rintro ⟨e, he⟩
    split at he
    · cases he
    · assumption
  · intro hnone
    exact ⟨_, by rw [hnone]⟩

theorem splitText_intercalate (h : seeds ≠ []) :
    splitText ',' (String.intercalate "," seeds) = seeds.flatMap (splitText ',') := by
  have hne : seeds.map String.toList ≠ [] := by simpa using h
  have hcomma : ",".toList = [','] := rfl
  rw [splitText, String.toList_intercalate, hcomma, splitEach_intercalate hne, List.flatMap_map,
    List.map_flatMap]
  rfl

/-- It makes no difference which entry names which brokers. -/
theorem firstBootstrapServer_joined (seeds : List String) :
    firstBootstrapServer [String.intercalate "," seeds] = firstBootstrapServer seeds := by
  cases seeds with
  | nil => rfl
  | cons entry entries =>
    refine firstBootstrapServer_congr ?_
    rw [List.flatMap_singleton, splitText_intercalate (List.cons_ne_nil entry entries)]

/-- What is left of a piece has no more commas than the piece, and it has none. -/
theorem comma_notMem_of_firstBootstrapServer (h : firstBootstrapServer seeds = .ok server) :
    ',' ∉ server.toList := by
  obtain ⟨passed, piece, later, hpieces, -, htrimmed⟩ := firstBootstrapServer_eq_ok_iff.1 h
  have hmem : piece ∈ seeds.flatMap (splitText ',') := by simp [hpieces]
  obtain ⟨entry, -, hentry⟩ := List.mem_flatMap.1 hmem
  have hcomma := (isCut_iff.2 rfl : IsCut entry (splitText ',' entry)).apart piece hentry
  obtain ⟨front, behind, hpiece, -⟩ := htrimmed.ends
  simp only [hpiece, List.mem_append, not_or] at hcomma
  exact hcomma.2.1

theorem bounded_of_firstBootstrapServer (h : firstBootstrapServer seeds = .ok server) :
    Bounded server.toList := by
  obtain ⟨passed, piece, later, -, -, htrimmed⟩ := firstBootstrapServer_eq_ok_iff.1 h
  exact htrimmed.bounded

/-- Whichever entries the brokers are spread over, the node is told of the same one. There is none
just if all pieces of all entries are blank; else it is the first piece that is not, without the
blanks at its ends, so that it neither begins nor ends with one, and no comma is in it. -/
theorem broker_of_seeds (seeds : List String) :
    firstBootstrapServer [String.intercalate "," seeds] = firstBootstrapServer seeds ∧
    ∃ cuts, (∀ others, List.Forall₂ IsCut seeds others ↔ cuts = others) ∧
      ((∃ e, firstBootstrapServer seeds = .error e) ↔ ∀ p ∈ cuts.flatten, ¬ Filled p) ∧
      ∀ server, (firstBootstrapServer seeds = .ok server ↔
          ∃ passed piece later, cuts.flatten = passed ++ piece :: later ∧
            (∀ p ∈ passed, ¬ Filled p) ∧ IsTrimmed piece server) ∧
        (firstBootstrapServer seeds = .ok server →
          server ≠ "" ∧ ',' ∉ server.toList ∧ Bounded server.toList) := by
  refine ⟨firstBootstrapServer_joined seeds, seeds.map (splitText ','),
    fun others => forall₂_isCut_iff, ?_⟩
  rw [← List.flatMap_def]
  refine ⟨firstBootstrapServer_eq_error_iff, fun server => ⟨firstBootstrapServer_eq_ok_iff, ?_⟩⟩
  intro h
  have hbounded := bounded_of_firstBootstrapServer h
  refine ⟨?_, comma_notMem_of_firstBootstrapServer h, hbounded⟩
  rintro rfl
  obtain ⟨c, tail, hfirst, -⟩ := hbounded.first
  cases hfirst

/-- Blanks that are not ASCII, empty pieces, and a broker behind the commas of an earlier entry. -/
theorem broker_of_seeds_scattered :
    firstBootstrapServer [" ,", "", ",\u3000b2:9092\u00a0,b3"] = .ok "b2:9092" ∧
    firstBootstrapServer [" ,,,,\u3000b2:9092\u00a0,b3"] = .ok "b2:9092" ∧
    ',' ∉ "b2:9092".toList ∧ Bounded "b2:9092".toList := by
  have hfirst : firstBootstrapServer [" ,", "", ",\u3000b2:9092\u00a0,b3"] = .ok "b2:9092" := by
    decide +kernel
  obtain ⟨hjoined, cuts, -, -, hserver⟩ := broker_of_seeds [" ,", "", ",\u3000b2:9092\u00a0,b3"]
  obtain ⟨-, hcomma, hbounded⟩ := (hserver "b2:9092").2 hfirst
  exact ⟨hfirst, hjoined.trans hfirst, hcomma, hbounded⟩

end NodeWarden
