import NodeWarden.Proofs.Output

/-! Lines that are read call by call. However a stream is cut into chunks, each call answers the
next line of the whole stream, and once there is none left every call answers that. What the
buffer holds in between never grows past the limit. The reader of a watch, as long as nothing
else ends its turns, hands on what the calls answer. -/

namespace NodeWarden

/-- What the buffer holds at each turn of a call. -/
def buffersOf : LineBuffer → List (List UInt8) → List LineBuffer
  | b, [] => [b]
  | b, chunk :: chunks =>
    match splitLine chunk with
    | (part, some _) => [b, b.add part]
    | (part, none) => b :: buffersOf (b.add part) chunks

/-- The chunks that are left after some calls. -/
def leftAfter : Nat → List (List UInt8) → List (List UInt8)
  | 0, chunks => chunks
  | calls + 1, chunks => leftAfter calls (nextLine {} chunks).2

/-- What the next call answers after some calls. -/
def answerAfter (calls : Nat) (chunks : List (List UInt8)) : Option String :=
  (nextLine {} (leftAfter calls chunks)).1

variable {chunks : List (List UInt8)}

/-- Every stream is its ended lines and what stands behind the last line feed. -/
theorem linePieces_split (bs : List UInt8) :
    ∃ ended rest, bs = ended.flatMap (· ++ [10]) ++ rest ∧ (∀ line ∈ ended, 10 ∉ line) ∧
      10 ∉ rest ∧ linePieces bs = ended ++ if rest = [] then [] else [rest] := by
  induction bs with
  | nil => exact ⟨[], [], rfl, by simp, by simp, rfl⟩
  | cons b bs ih =>
    obtain ⟨ended, rest, hbs, hended, hrest, hpieces⟩ := ih
    by_cases hb : b = 10
    · refine ⟨[] :: ended, rest, ?_, ?_, hrest, ?_⟩
      · rw [hb, hbs]
        rfl
      · simpa using hended
      · rw [linePieces, if_pos hb, hpieces]
        rfl
    · cases ended with
      | nil =>
        refine ⟨[], b :: rest, by rw [hbs]; rfl, by simp, by simp [hrest, Ne.symm hb], ?_⟩
        rw [linePieces, if_neg hb, hpieces]
        by_cases hnil : rest = [] <;> simp [hnil]
      | cons line ended =>
        refine ⟨(b :: line) :: ended, rest, by rw [hbs]; rfl, ?_, hrest, ?_⟩
        · simpa [Ne.symm hb] using hended
        · rw [linePieces, if_neg hb, hpieces]
          rfl

/-- A call that already holds a part of a line answers the line, and leaves the lines behind it. -/
theorem nextLine_holding {held : List UInt8} (hheld : 10 ∉ held) (hchunks : ∀ c ∈ chunks, c ≠ []) :
    (nextLine (.holding held) chunks).1 = (streamLines (held ++ chunks.flatten)).head? ∧
      streamLines (nextLine (.holding held) chunks).2.flatten =
        (streamLines (held ++ chunks.flatten)).tail ∧
      ∀ c ∈ (nextLine (.holding held) chunks).2, c ≠ [] := by
  induction chunks generalizing held with
  | nil =>
    rw [nextLine, List.flatten_nil, List.append_nil]
    by_cases hnil : held = []
    · subst hnil
      exact ⟨rfl, rfl, by simp⟩
    · rw [if_pos ((LineBuffer.begun_holding held).2 hnil), LineBuffer.text_holding, streamLines,
        linePieces_tail hheld hnil]
      exact ⟨rfl, rfl, by simp⟩
  | cons chunk chunks ih =>
    obtain ⟨hchunk, hchunks⟩ := List.forall_mem_cons.1 hchunks
    rw [nextLine]
    split
    · rename_i part rest hsplit
      obtain ⟨hpart, hparts⟩ := splitLine_eq_append hsplit
      rw [Option.map_some, Option.getD_some] at hparts
      have hline : 10 ∉ held ++ part := List.not_mem_append hheld hpart
      have hleft : (if rest.isEmpty then chunks else rest :: chunks).flatten =
          rest ++ chunks.flatten := by
        cases rest <;> rfl
      have hstream : streamLines (held ++ (chunk :: chunks).flatten) =
          pieceText (held ++ part) :: streamLines (rest ++ chunks.flatten) := by
        rw [← streamLines_line hline, hparts]
        simp
      rw [hstream, hleft, LineBuffer.text_add_holding]
      refine ⟨rfl, rfl, ?_⟩
      cases rest with
      | nil => exact hchunks
      | cons b rest => exact List.forall_mem_cons.2 ⟨List.cons_ne_nil b rest, hchunks⟩
    · rename_i part hsplit
      obtain ⟨hpart, hparts⟩ := splitLine_eq_append hsplit
      rw [Option.map_none, Option.getD_none, List.append_nil] at hparts
      subst hparts
      have hline : 10 ∉ held ++ chunk := List.not_mem_append hheld hpart
      have hcall := ih hline hchunks
      rw [List.append_assoc] at hcall
      rwa [LineBuffer.add_holding hchunk, List.flatten_cons]

theorem nextLine_start (hchunks : ∀ c ∈ chunks, c ≠ []) :
    (nextLine {} chunks).1 = (streamLines chunks.flatten).head? ∧
      streamLines (nextLine {} chunks).2.flatten = (streamLines chunks.flatten).tail ∧
      ∀ c ∈ (nextLine {} chunks).2, c ≠ [] :=
  nextLine_holding List.not_mem_nil hchunks

theorem answerAfter_eq (hchunks : ∀ c ∈ chunks, c ≠ []) (calls : Nat) :
    answerAfter calls chunks = (streamLines chunks.flatten)[calls]? := by
  induction calls generalizing chunks with
  | zero =>
    rw [← List.head?_eq_getElem?]
    exact (nextLine_start hchunks).1
  | succ calls ih =>
    obtain ⟨-, htail, hleft⟩ := nextLine_start hchunks
    calc answerAfter (calls + 1) chunks = answerAfter calls (nextLine {} chunks).2 := rfl
      _ = (streamLines (nextLine {} chunks).2.flatten)[calls]? := ih hleft
      _ = (streamLines chunks.flatten)[calls + 1]? := by rw [htail, List.getElem?_tail]

theorem length_kept_of_mem {b b' : LineBuffer} (hb : b.kept.length ≤ lineLimit)
    (h : b' ∈ buffersOf b chunks) : b'.kept.length ≤ lineLimit := by
  induction chunks generalizing b with
  | nil =>
    rw [List.mem_singleton.1 h]
    exact hb
  | cons chunk chunks ih =>
    rw [buffersOf] at h
    split at h
    · rename_i part rest hsplit
      simp only [List.mem_cons, List.not_mem_nil, or_false] at h
      rcases h with rfl | rfl
      · exact hb
      · exact LineBuffer.kept_add_length hb part
    · rename_i part hsplit
      rcases List.mem_cons.1 h with rfl | h
      · exact hb
      · exact ih (LineBuffer.kept_add_length hb part) h

/-- A call answers what the buffer holds at its last turn. -/
theorem nextLine_getLast (b : LineBuffer) (chunks : List (List UInt8)) :
    ∃ last, (buffersOf b chunks).getLast? = some last ∧
      (nextLine b chunks).1 = if last.begun then some last.text else none := by
  induction chunks generalizing b with
  | nil => exact ⟨b, rfl, rfl⟩
  | cons chunk chunks ih =>
    obtain ⟨⟨part, rest?⟩, hsplit⟩ : ∃ parts, splitLine chunk = parts := ⟨_, rfl⟩
    cases rest? with
    | some rest =>
      simp only [buffersOf, nextLine, hsplit]
      exact ⟨b.add part, rfl, rfl⟩
    | none =>
      obtain ⟨last, hlast, hanswer⟩ := ih (b.add part)
      simp only [buffersOf, nextLine, hsplit]
      exact ⟨last, by rw [List.getLast?_cons, hlast]; rfl, hanswer⟩

open Watch in
/-- A reader whose turns nothing else ends hands on the lines of what has arrived. -/
theorem handed_undisturbed {s : OutputStream} {grace : Nat} {log : List Watch.Entry} {w : Watch}
    (h : Run (Watch.step grace) {} log w)
    (hown : ∀ u ∈ log, isOwn s u.event = true ∨ ∃ bytes, u.event = .arrive s bytes)
    (hend : EndIsFinal s log) (hclosed : w.source? s = none) :
    handed s log = streamLines (arrived s log) := by
  have hread : ∀ u ∈ log, ∀ s' fault, u.event ≠ .fail s' fault := by
    intro u hu s' fault he
    have hthis := hown u hu
    rw [he] at hthis
    rcases hthis with hthis | ⟨bytes, hthis⟩ <;> cases hthis
  have ht := tracked_run h hread hend
  obtain ⟨hheld, hunread⟩ := ht.atEnd (ht.closed hclosed)
  have hnever : ∀ u ∈ log, ¬ BreaksOff s u := by
    rintro u hu ⟨hends, hother, -⟩
    rcases hown u hu with hthis | ⟨bytes, he⟩
    · rw [hthis] at hother
      cases hother
    · rw [endsTurn, he] at hends
      cases hends
  rw [ht.lines, ← ht.whole.2 hnever, survivors, hheld, hunread, List.append_nil, List.append_nil]

open Watch in
/-- Each call answers the next line of the stream that the chunks make up, whole lines first, then
what stands behind the last line feed unless nothing does, and from then on nothing. A line is
shown as the text of its first bytes, less one carriage return at their end. The buffer stays
within the limit at every turn, and a call answers what it holds at the last. The reader of a
watch that takes the same stream, with no turn ended elsewhere, hands on the same lines. -/
theorem lines_of_calls (hchunks : ∀ c ∈ chunks, c ≠ []) :
    (∀ calls, answerAfter calls chunks = (streamLines chunks.flatten)[calls]?) ∧
    (∃ ended rest, chunks.flatten = ended.flatMap (· ++ [10]) ++ rest ∧
      (∀ line ∈ ended, 10 ∉ line) ∧ 10 ∉ rest ∧
      streamLines chunks.flatten = (ended ++ if rest = [] then [] else [rest]).map fun line =>
        lossyText (dropReturn (line.take lineLimit))) ∧
    (∀ calls, (∀ b ∈ buffersOf {} (leftAfter calls chunks), b.kept.length ≤ lineLimit) ∧
      ∃ last, (buffersOf {} (leftAfter calls chunks)).getLast? = some last ∧
        answerAfter calls chunks = if last.begun then some last.text else none) ∧
    ∀ s grace log w, Run (Watch.step grace) {} log w →
      (∀ u ∈ log, isOwn s u.event = true ∨ ∃ bytes, u.event = .arrive s bytes) →
      EndIsFinal s log → w.source? s = none → arrived s log = chunks.flatten →
        ∀ calls, answerAfter calls chunks = (handed s log)[calls]? := by
  refine ⟨answerAfter_eq hchunks, ?_, ?_, ?_⟩
  · obtain ⟨ended, rest, hbytes, hended, hrest, hpieces⟩ := linePieces_split chunks.flatten
    refine ⟨ended, rest, hbytes, hended, hrest, ?_⟩
    rw [streamLines, hpieces]
    rfl
  · intro calls
    exact ⟨fun b hb => length_kept_of_mem (Nat.zero_le _) hb, nextLine_getLast _ _⟩
  · intro s grace log w h hown hend hclosed harrived calls
    rw [handed_undisturbed h hown hend hclosed, harrived]
    exact answerAfter_eq hchunks calls

/-- Cut within a character, before a line feed and behind one, with a line that is never ended. -/
def tornChunks : List (List UInt8) := [[104, 0xC3], [0xA9, 13], [10, 10, 120], [13]]

/-- A watch takes them chunk by chunk. -/
def tornEvents : List WatchEvent :=
  [.arrive .stdout [104, 0xC3], .read .stdout, .arrive .stdout [0xA9, 13], .read .stdout,
    .arrive .stdout [10, 10, 120], .read .stdout, .read .stdout, .read .stdout,
    .arrive .stdout [13], .read .stdout, .finish .stdout, .finish .stdout]

open Watch in
theorem lines_of_calls_torn :
    (∀ c ∈ tornChunks, c ≠ []) ∧ answerAfter 0 tornChunks = some "hé" ∧
      answerAfter 1 tornChunks = some "" ∧ answerAfter 2 tornChunks = some "x" ∧
      (∀ calls, 3 ≤ calls → answerAfter calls tornChunks = none) ∧
      ∃ log w, play (Watch.step 0) {} tornEvents = some (log, w) ∧ handed .stdout log = ["hé", "", "x"] ∧
        ∀ calls, answerAfter calls tornChunks = (handed .stdout log)[calls]? := by
  have hchunks : ∀ c ∈ tornChunks, c ≠ [] := by decide
  have hlines : streamLines tornChunks.flatten = ["hé", "", "x"] := rfl
  obtain ⟨hanswers, -, -, hwatch⟩ := lines_of_calls hchunks
  rw [hlines] at hanswers
  have hplay : play (Watch.step 0) {} tornEvents = some (_, _) := rfl
  refine ⟨hchunks, hanswers 0, hanswers 1, hanswers 2, ?_, _, _, hplay, rfl,
    hwatch .stdout 0 _ _ (.of_play hplay) ?_ ?_ rfl rfl⟩
  · exact fun calls hcalls => (hanswers calls).trans (List.getElem?_eq_none hcalls)
  · simp [isOwn]
  · simp [EndIsFinal]

end NodeWarden
