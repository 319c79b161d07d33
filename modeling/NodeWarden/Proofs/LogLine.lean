import NodeWarden.Log.Record

/-! Which lines are log records. A line is taken apart at its blanks, and there is one way at most
to do that: a timestamp without blanks, a gap, the word of a level, a gap, and a message that goes
on to the end of the line. The reader finds this record, and finds none in other lines. -/

namespace NodeWarden

/-- The blanks between two fields, of which there is one at least. -/
structure Gap where
  chars : List Char
  nonempty : chars ≠ []
  blank : ∀ c ∈ chars, isBlank c = true

/-- A line of five parts. The timestamp and the message may be empty. -/
structure LogLine where
  timestamp : List Char
  firstGap : Gap
  level : LogLevel
  secondGap : Gap
  message : List Char
  timestamp_solid : ∀ c ∈ timestamp, isBlank c = false
  message_begins : ∀ c ∈ message.head?, isBlank c = false

namespace LogLine

def chars (l : LogLine) : List Char :=
  l.timestamp ++ (l.firstGap.chars ++ (l.level.word.toList ++ (l.secondGap.chars ++ l.message)))

def record (l : LogLine) : LogRecord :=
  ⟨String.ofList l.timestamp, l.level, String.ofList l.message⟩

end LogLine

variable {cs field rest : List Char}

/-- What is left behind blanks, when it does not begin with one. -/
theorem dropBlanks_append {gap : List Char} (hgap : ∀ c ∈ gap, isBlank c = true)
    (hrest : ∀ c ∈ rest.head?, isBlank c = false) : dropBlanks (gap ++ rest) = rest := by
  rw [dropBlanks, List.dropWhile_append_of_pos hgap]
  cases rest with
  | nil => rfl
  | cons c rest => simp [hrest c rfl]

theorem head?_dropBlanks (cs : List Char) : ∀ c ∈ (dropBlanks cs).head?, isBlank c = false := by
  intro c hc
  have hfirst := List.head?_dropWhile_not isBlank cs
  rw [dropBlanks, Option.mem_def] at hc
  rw [hc] at hfirst
  exact hfirst

/-- A field is all that stands in front of the first gap, and what is left begins behind it. -/
theorem splitField_eq_some_iff : splitField cs = some (field, rest) ↔
    ∃ gap : Gap, cs = field ++ (gap.chars ++ rest) ∧ (∀ c ∈ field, isBlank c = false) ∧
      ∀ c ∈ rest.head?, isBlank c = false := by
  constructor
  · intro h
    rw [splitField] at h
    split at h
    · cases h
    · rename_i b more hbehind
      cases h
      have hb : isBlank b = true := by
        have hfirst := List.head?_dropWhile_not (!isBlank ·) cs
        rw [hbehind] at hfirst
        simpa using hfirst
      refine ⟨⟨b :: more.takeWhile isBlank, by simp, ?_⟩, ?_, ?_, head?_dropBlanks more⟩
      · intro c hc
        rcases List.mem_cons.1 hc with rfl | hc
        · exact hb
        · exact List.all_eq_true.1 List.all_takeWhile c hc
      · rw [List.cons_append, dropBlanks, List.takeWhile_append_dropWhile, ← hbehind,
          List.takeWhile_append_dropWhile]
      · intro c hc
        simpa using List.all_eq_true.1 List.all_takeWhile c hc
  · rintro ⟨⟨gap, hnonempty, hgap⟩, rfl, hfield, hrest⟩
    cases gap with
    | nil => exact absurd rfl hnonempty
    | cons b gap =>
      have hb := hgap b List.mem_cons_self
      have hsolid : ∀ c ∈ field, (!isBlank c) = true := by
        intro c hc
        rw [hfield c hc]
        rfl
      have hbehind : (field ++ (b :: gap ++ rest)).dropWhile (!isBlank ·) = b :: (gap ++ rest) := by
        rw [List.dropWhile_append_of_pos hsolid]
        simp [hb]
      have hfront : (field ++ (b :: gap ++ rest)).takeWhile (!isBlank ·) = field := by
        rw [List.takeWhile_append_of_pos hsolid]
        simp [hb]
      rw [splitField, hbehind]
      simp only [hfront]
      rw [dropBlanks_append (fun c hc => hgap c (List.mem_cons_of_mem _ hc)) hrest]

theorem LogLevel.parse?_eq_some_iff {word : String} {level : LogLevel} :
    LogLevel.parse? word = some level ↔ word = level.word := by
  constructor
  · intro h
    have hword := List.find?_some h
    exact (beq_iff_eq.1 hword).symm
  · rintro rfl
    exact parse?_word level

/-- The word of a level is a field: there is no blank in it. -/
theorem LogLevel.word_solid (level : LogLevel) : ∀ c ∈ level.word.toList, isBlank c = false := by
  have hall : level.word.toList.all (!isBlank ·) = true := by cases level <;> decide
  intro c hc
  simpa using List.all_eq_true.1 hall c hc

theorem LogLevel.word_begins (level : LogLevel) (more : List Char) :
    ∀ c ∈ (level.word.toList ++ more).head?, isBlank c = false := by
  have hnonempty : level.word.toList ≠ [] := by cases level <;> decide
  obtain ⟨first, word, hword⟩ := List.exists_cons_of_ne_nil hnonempty
  have hsolid := level.word_solid
  rw [hword] at hsolid ⊢
  intro c hc
  cases hc
  exact hsolid _ List.mem_cons_self

theorem LogLevel.word_injective {a b : LogLevel} (h : a.word = b.word) : a = b := by
  rw [← Option.some_inj, ← parse?_word a, h, parse?_word]

namespace LogLine

theorem splitField_chars (l : LogLine) : splitField l.chars =
    some (l.timestamp, l.level.word.toList ++ (l.secondGap.chars ++ l.message)) :=
  splitField_eq_some_iff.2 ⟨l.firstGap, rfl, l.timestamp_solid, l.level.word_begins _⟩

theorem splitField_behind (l : LogLine) :
    splitField (l.level.word.toList ++ (l.secondGap.chars ++ l.message)) =
      some (l.level.word.toList, l.message) :=
  splitField_eq_some_iff.2 ⟨l.secondGap, rfl, l.level.word_solid, l.message_begins⟩

theorem parse?_chars (l : LogLine) : LogRecord.parse? (String.ofList l.chars) = some l.record := by
  rw [LogRecord.parse?, String.toList_ofList, l.splitField_chars]
  simp only [Option.bind_eq_bind, Option.bind_some, l.splitField_behind, String.ofList_toList,
    LogLevel.parse?_word]
  rfl

/-- A record was found because the line has its parts. -/
theorem of_parse? {line : String} {r : LogRecord} (h : LogRecord.parse? line = some r) :
    ∃ l : LogLine, l.chars = line.toList ∧ l.record = r := by
  rw [LogRecord.parse?] at h
  obtain ⟨⟨timestamp, behind⟩, hfirst, h⟩ := Option.bind_eq_some_iff.1 h
  obtain ⟨⟨word, message⟩, hsecond, h⟩ := Option.bind_eq_some_iff.1 h
  obtain ⟨level, hlevel, h⟩ := Option.bind_eq_some_iff.1 h
  cases h
  obtain ⟨firstGap, hline, hsolid, -⟩ := splitField_eq_some_iff.1 hfirst
  obtain ⟨secondGap, rfl, -, hbegins⟩ := splitField_eq_some_iff.1 hsecond
  have hword : word = level.word.toList := by
    rw [← LogLevel.parse?_eq_some_iff.1 hlevel, String.toList_ofList]
  subst hword
  exact ⟨⟨timestamp, firstGap, level, secondGap, message, hsolid, hbegins⟩, hline.symm, rfl⟩

/-- The parts are those that the reader splits off, and what stays between them are the gaps. -/
theorem eq_of_chars {l m : LogLine} (h : l.chars = m.chars) : l = m := by
  have hfirst := l.splitField_chars
  rw [h, m.splitField_chars, Option.some.injEq, Prod.mk.injEq] at hfirst
  obtain ⟨htimestamp, hbehind⟩ := hfirst
  have hsecond := l.splitField_behind
  rw [← hbehind, m.splitField_behind, Option.some.injEq, Prod.mk.injEq] at hsecond
  obtain ⟨hword, hmessage⟩ := hsecond
  have hlevel := LogLevel.word_injective (String.toList_inj.1 hword)
  obtain ⟨timestamp, ⟨gap, _, _⟩, level, ⟨gap', _, _⟩, message, _, _⟩ := l
  obtain ⟨_, ⟨other, _, _⟩, _, ⟨other', _, _⟩, _, _, _⟩ := m
  subst htimestamp hlevel hmessage
  have hsecondGap : other' = gap' :=
    List.append_cancel_right (List.append_cancel_left hbehind)
  subst hsecondGap
  have hfirstGap : gap = other := List.append_cancel_right (List.append_cancel_left h)
  subst hfirstGap
  rfl

/-- A record is read from a line just if the line has the five parts and the record is made of
them as they stand there; no line has them in two ways, and every other line is passed over. -/
theorem parse?_iff_parts (line : String) :
    (∀ r, LogRecord.parse? line = some r ↔ ∃ l : LogLine, l.chars = line.toList ∧ l.record = r) ∧
      (∀ l m : LogLine, l.chars = line.toList → m.chars = line.toList → l = m) ∧
      (LogRecord.parse? line = none ↔ ∀ l : LogLine, l.chars ≠ line.toList) := by
  have hread : ∀ l : LogLine, l.chars = line.toList →
      LogRecord.parse? line = some l.record := by
    intro l hl
    have hparse := l.parse?_chars
    rwa [hl, String.ofList_toList] at hparse
  refine ⟨fun r => ⟨of_parse?, ?_⟩, ?_, ?_⟩
  · rintro ⟨l, hl, rfl⟩
    exact hread l hl
  · intro l m hl hm
    exact eq_of_chars (hl.trans hm.symm)
  · constructor
    · intro hnone l hl
      rw [hread l hl] at hnone
      cases hnone
    · intro hlines
      cases hparse : LogRecord.parse? line with
      | none => rfl
      | some r =>
        obtain ⟨l, hl, -⟩ := of_parse? hparse
        exact absurd hl (hlines l)

/-- Blanks of two kinds, none of them ASCII, and a message that ends in one. -/
example : LogRecord.parse? "\u3000\u00a0WARN\u2003 slow  lag " =
    some ⟨"", .warn, "slow  lag "⟩ := by
  decide

end LogLine

end NodeWarden
