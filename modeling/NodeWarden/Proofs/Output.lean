import NodeWarden.Proofs.Watch

/-! The lines that the watch hands on. What is handed on of a stream is the lines of the bytes
that were kept of it, and all its bytes are kept unless a turn ends elsewhere, by the other
stream, a stop or the deadline, while a line of it is half read: then that half is gone. -/

namespace NodeWarden.Watch

/-- The event is one of the stream's own reader. -/
def isOwn (s : OutputStream) : WatchEvent → Bool
  | .read s' | .finish s' => s' == s
  | _ => false

/-- The turn ends with this step, and the next one begins every line anew. -/
def endsTurn (u : Entry) : Bool :=
  match u.event, u.effect with
  | .read _, .line _ | .finish _, _ | .noticeStop _, .nothing | .deadline _, _ => true
  | _, _ => false

def unread (w : Watch) (s : OutputStream) : List UInt8 :=
  ((w.source? s).map (·.unread)).getD []

/-- The bytes that arrive on a stream. -/
def arrivedBy (s : OutputStream) (u : Entry) : List UInt8 :=
  match u.event with
  | .arrive s' bytes => if s' = s then bytes else []
  | _ => []

/-- The bytes that the reader of a stream takes. -/
def takenBy (s : OutputStream) (u : Entry) : List UInt8 :=
  if isOwn s u.event then
    (u.before.unread s).take ((u.before.unread s).length - (u.after.unread s).length)
  else []

/-- The line of a stream that is handed on. -/
def handedBy? (s : OutputStream) (u : Entry) : Option String :=
  match u.effect with
  | .line text => if isOwn s u.event then some text else none
  | _ => none

def arrived (s : OutputStream) (log : List Entry) : List UInt8 := log.flatMap (arrivedBy s)

def handed (s : OutputStream) (log : List Entry) : List String := log.filterMap (handedBy? s)

/-- The turn ends elsewhere while a line of the stream is half read. -/
def BreaksOff (s : OutputStream) (u : Entry) : Prop :=
  endsTurn u = true ∧ isOwn s u.event = false ∧
    ∃ o, u.before.source? s = some o ∧ o.line.begun = true

/-- What was read of a stream: the bytes of the lines that were handed on, with their line
feeds, and those of the line that is being read. -/
structure Intake where
  kept : List UInt8 := []
  held : List UInt8 := []

def Intake.take (s : OutputStream) (i : Intake) (u : Entry) : Intake :=
  if endsTurn u then
    if isOwn s u.event then ⟨i.kept ++ (i.held ++ takenBy s u), []⟩ else ⟨i.kept, []⟩
  else ⟨i.kept, i.held ++ takenBy s u⟩

def intake (s : OutputStream) (log : List Entry) : Intake := log.foldl (Intake.take s) {}

/-- The bytes of a stream that were not lost. -/
def survivors (s : OutputStream) (log : List Entry) (w : Watch) : List UInt8 :=
  (intake s log).kept ++ ((intake s log).held ++ w.unread s)

variable {s : OutputStream} {log : List Entry} {w w' : Watch} {u : Entry}

theorem arrived_snoc : arrived s (log ++ [u]) = arrived s log ++ arrivedBy s u := by
  simp [arrived]

theorem handed_snoc : handed s (log ++ [u]) = handed s log ++ (handedBy? s u).toList :=
  filterMap_snoc (handedBy? s) log u

theorem intake_snoc : intake s (log ++ [u]) = (intake s log).take s u := by
  simp [intake]

theorem unread_eq {o : OutputSource} (ho : w.source? s = some o) : w.unread s = o.unread := by
  simp [unread, ho]

theorem isOwn_read (s : OutputStream) : isOwn s (.read s) = true := beq_self_eq_true s

theorem isOwn_finish (s : OutputStream) : isOwn s (.finish s) = true := beq_self_eq_true s

theorem takenBy_of_not_own {e : WatchEvent} {outcome : WatchOutcome} (h : isOwn s e = false) :
    takenBy s ⟨w, e, outcome, w'⟩ = [] := by
  simp [takenBy, h]

theorem takenBy_of_own {e : WatchEvent} {outcome : WatchOutcome} {part : List UInt8}
    (h : isOwn s e = true) (hsplit : w.unread s = part ++ w'.unread s) :
    takenBy s ⟨w, e, outcome, w'⟩ = part := by
  rw [takenBy, if_pos h, hsplit]
  simp

theorem handed_of_not_own {e : WatchEvent} {outcome : WatchOutcome} (h : isOwn s e = false) :
    handed s (log ++ [⟨w, e, outcome, w'⟩]) = handed s log := by
  rw [handed_snoc]
  cases outcome <;> simp [handedBy?, h]

theorem ne_finish_of_not_own {e : WatchEvent} (h : isOwn s e = false) : e ≠ .finish s := by
  rintro rfl
  simp [isOwn] at h

theorem finished_snoc (h : ∃ v ∈ log, v.event = .finish s) :
    ∃ v ∈ log ++ [u], v.event = .finish s :=
  h.imp fun _ hv => ⟨List.mem_append_left _ hv.1, hv.2⟩

theorem finished_of_snoc (hu : u.event ≠ .finish s) (h : ∃ v ∈ log ++ [u], v.event = .finish s) :
    ∃ v ∈ log, v.event = .finish s := by
  obtain ⟨v, hv, he⟩ := h
  rcases List.mem_append.1 hv with hv | hv
  · exact ⟨v, hv, he⟩
  · rw [List.mem_singleton.1 hv] at he
    exact absurd he hu

theorem not_finished_snoc (h : ∀ v ∈ log, v.event ≠ .finish s) (hu : u.event ≠ .finish s) :
    ¬ ∃ v ∈ log ++ [u], v.event = .finish s := by
  intro hfinish
  obtain ⟨v, hv, he⟩ := finished_of_snoc hu hfinish
  exact h v hv he

/-- Where the reading of a stream stands after some steps. -/
structure Tracked (s : OutputStream) (log : List Entry) (w : Watch) : Prop where
  buffer : ∀ o, w.source? s = some o → o.line = .holding (intake s log).held
  closed : w.source? s = none → ∃ u ∈ log, u.event = .finish s
  unended : 10 ∉ (intake s log).held
  lines : handed s log = streamLines (intake s log).kept
  atEnd : (∃ u ∈ log, u.event = .finish s) → (intake s log).held = [] ∧ w.unread s = []
  beforeEnd : (∀ u ∈ log, u.event ≠ .finish s) → LineEnded (intake s log).kept
  sublist : (survivors s log w).Sublist (arrived s log)
  whole : survivors s log w = arrived s log ↔ ∀ u ∈ log, ¬ BreaksOff s u

theorem tracked_start : Tracked s [] {} where
  buffer o ho := by cases s <;> cases ho <;> rfl
  closed hnone := by cases s <;> cases hnone
  unended := List.not_mem_nil
  lines := rfl
  atEnd h := by simp at h
  beforeEnd _ := .inl rfl
  sublist := by cases s <;> exact List.Sublist.refl _
  whole := by cases s <;> simp [survivors, intake, unread, arrived, source?]

namespace Tracked

variable {o : OutputSource} {e : WatchEvent} {outcome : WatchOutcome}

theorem begun_iff (h : Tracked s log w) (ho : w.source? s = some o) :
    o.line.begun = true ↔ (intake s log).held ≠ [] := by
  rw [h.buffer o ho, LineBuffer.begun_holding]

/-- The end of a stream has not been found while there is something to read or to hand on. -/
theorem not_finished (h : Tracked s log w)
    (hmore : w.unread s ≠ [] ∨ (intake s log).held ≠ []) : ∀ u ∈ log, u.event ≠ .finish s := by
  intro u hu he
  obtain ⟨hheld, hunread⟩ := h.atEnd ⟨u, hu, he⟩
  rcases hmore with hmore | hmore
  · exact hmore hunread
  · exact hmore hheld

/-- A turn that ends elsewhere breaks a line off if some of it is held. -/
theorem breaksOff_iff (h : Tracked s log w) (hown : isOwn s e = false) :
    BreaksOff s ⟨w, e, outcome, w'⟩ ↔
      endsTurn ⟨w, e, outcome, w'⟩ = true ∧ (intake s log).held ≠ [] := by
  constructor
  · rintro ⟨hend, -, o, ho, hbegun⟩
    exact ⟨hend, (h.begun_iff ho).1 hbegun⟩
  · rintro ⟨hend, hheld⟩
    cases ho : w.source? s with
    | none => exact absurd (h.atEnd (h.closed ho)).1 hheld
    | some o => exact ⟨hend, hown, o, ho, (h.begun_iff ho).2 hheld⟩

/-- A step that is about something else and does not end the turn. -/
theorem idle (h : Tracked s log w) (hend : endsTurn ⟨w, e, outcome, w'⟩ = false)
    (hown : isOwn s e = false) (harrive : arrivedBy s ⟨w, e, outcome, w'⟩ = [])
    (hsource : w'.source? s = w.source? s) : Tracked s (log ++ [⟨w, e, outcome, w'⟩]) w' := by
  have hintake : intake s (log ++ [⟨w, e, outcome, w'⟩]) = intake s log := by
    rw [intake_snoc, Intake.take, hend, takenBy_of_not_own hown]
    simp
  have hsurvivors : survivors s (log ++ [⟨w, e, outcome, w'⟩]) w' = survivors s log w := by
    rw [survivors, hintake, unread, hsource, ← unread, survivors]
  have harrived : arrived s (log ++ [⟨w, e, outcome, w'⟩]) = arrived s log := by
    rw [arrived_snoc, harrive, List.append_nil]
  refine ⟨?_, ?_, ?_, ?_, ?_, ?_, ?_, ?_⟩
  · rw [hintake, hsource]
    exact h.buffer
  · rw [hsource]
    exact fun hnone => finished_snoc (h.closed hnone)
  · rw [hintake]
    exact h.unended
  · rw [handed_of_not_own hown, hintake]
    exact h.lines
  · rw [hintake, unread, hsource, ← unread]
    exact fun hfinish => h.atEnd (finished_of_snoc (ne_finish_of_not_own hown) hfinish)
  · rw [hintake]
    exact fun hnot => h.beforeEnd fun u hu => hnot u (List.mem_append_left _ hu)
  · rw [hsurvivors, harrived]
    exact h.sublist
  · rw [hsurvivors, harrived, h.whole, List.forall_mem_append, List.forall_mem_singleton,
      h.breaksOff_iff hown]
    simp [hend]

/-- A turn that ends elsewhere: what is held is lost. -/
theorem cut (h : Tracked s log w) (hend : endsTurn ⟨w, e, outcome, w'⟩ = true)
    (hown : isOwn s e = false) (harrive : arrivedBy s ⟨w, e, outcome, w'⟩ = [])
    (hsource : w'.source? s = (w.source? s).map OutputSource.restart) :
    Tracked s (log ++ [⟨w, e, outcome, w'⟩]) w' := by
  have hintake : intake s (log ++ [⟨w, e, outcome, w'⟩]) = ⟨(intake s log).kept, []⟩ := by
    rw [intake_snoc, Intake.take, hend, takenBy_of_not_own hown]
    simp [hown]
  have hunread : w'.unread s = w.unread s := by
    rw [unread, hsource]
    cases hs : w.source? s <;> simp [unread, hs, OutputSource.restart]
  have hsurvivors : survivors s (log ++ [⟨w, e, outcome, w'⟩]) w' =
      (intake s log).kept ++ w.unread s := by
    rw [survivors, hintake, hunread, List.nil_append]
  have harrived : arrived s (log ++ [⟨w, e, outcome, w'⟩]) = arrived s log := by
    rw [arrived_snoc, harrive, List.append_nil]
  refine ⟨?_, ?_, ?_, ?_, ?_, ?_, ?_, ?_⟩
  · rw [hintake, hsource]
    intro o ho
    obtain ⟨o', -, rfl⟩ := Option.map_eq_some_iff.1 ho
    rfl
  · rw [hsource]
    exact fun hnone => finished_snoc (h.closed (Option.map_eq_none_iff.1 hnone))
  · rw [hintake]
    exact List.not_mem_nil
  · rw [handed_of_not_own hown, hintake]
    exact h.lines
  · rw [hintake, hunread]
    exact fun hfinish => ⟨rfl, (h.atEnd (finished_of_snoc (ne_finish_of_not_own hown) hfinish)).2⟩
  · rw [hintake]
    exact fun hnot => h.beforeEnd fun u hu => hnot u (List.mem_append_left _ hu)
  · rw [hsurvivors, harrived]
    refine List.Sublist.trans ?_ h.sublist
    exact (List.sublist_append_right _ _).append_left _
  · rw [hsurvivors, harrived, List.forall_mem_append, List.forall_mem_singleton,
      h.breaksOff_iff hown, ← h.whole, survivors]
    by_cases hheld : (intake s log).held = []
    · simp [hheld]
    · -- a shorter list cannot be all that has arrived
      have hlength := h.sublist.length_le
      have hpos := List.length_pos_iff.2 hheld
      simp only [survivors, List.length_append] at hlength
      refine iff_of_false (fun heq => ?_) fun hboth => hboth.2 ⟨hend, hheld⟩
      rw [← heq, List.length_append] at hlength
      omega

/-- Bytes arrive on the stream. -/
theorem gain (h : Tracked s log w) (hopen : ∀ u ∈ log, u.event ≠ .finish s) (bytes : List UInt8) :
    Tracked s (log ++ [⟨w, .arrive s bytes, .nothing, w.arrive s bytes⟩]) (w.arrive s bytes) := by
  obtain ⟨o, ho⟩ : ∃ o, w.source? s = some o := by
    cases ho : w.source? s with
    | none =>
      obtain ⟨u, hu, he⟩ := h.closed ho
      exact absurd he (hopen u hu)
    | some o => exact ⟨o, rfl⟩
  have hsource : (w.arrive s bytes).source? s = some { o with unread := o.unread ++ bytes } := by
    rw [arrive, source?_setSource, ho]
    rfl
  have hintake : intake s (log ++ [⟨w, .arrive s bytes, .nothing, w.arrive s bytes⟩]) =
      intake s log := by
    rw [intake_snoc, Intake.take, takenBy_of_not_own rfl]
    simp [endsTurn]
  have hsurvivors : survivors s (log ++ [⟨w, .arrive s bytes, .nothing, w.arrive s bytes⟩])
      (w.arrive s bytes) = survivors s log w ++ bytes := by
    simp only [survivors, hintake, unread_eq hsource, unread_eq ho, List.append_assoc]
  have harrived : arrived s (log ++ [⟨w, .arrive s bytes, .nothing, w.arrive s bytes⟩]) =
      arrived s log ++ bytes := by
    rw [arrived_snoc]
    simp [arrivedBy]
  refine ⟨?_, ?_, ?_, ?_, ?_, ?_, ?_, ?_⟩
  · rw [hintake, hsource]
    rintro _ ⟨⟩
    exact h.buffer o ho
  · rw [hsource]
    exact fun hnone => nomatch hnone
  · rw [hintake]
    exact h.unended
  · rw [handed_of_not_own rfl, hintake]
    exact h.lines
  · exact fun hfinish => absurd hfinish (not_finished_snoc hopen (ne_finish_of_not_own rfl))
  · rw [hintake]
    exact fun _ => h.beforeEnd hopen
  · rw [hsurvivors, harrived]
    exact h.sublist.append_right bytes
  · rw [hsurvivors, harrived, List.append_left_inj, h.whole, List.forall_mem_append,
      List.forall_mem_singleton, h.breaksOff_iff rfl]
    simp [endsTurn]

/-- A step of the stream's own reader loses nothing. -/
theorem nothing_lost (h : Tracked s log w) {part : List UInt8} (hown : isOwn s e = true)
    (hsplit : w.unread s = part ++ w'.unread s) :
    (survivors s (log ++ [⟨w, e, outcome, w'⟩]) w').Sublist
        (arrived s (log ++ [⟨w, e, outcome, w'⟩])) ∧
      (survivors s (log ++ [⟨w, e, outcome, w'⟩]) w' =
          arrived s (log ++ [⟨w, e, outcome, w'⟩]) ↔
        ∀ u ∈ log ++ [⟨w, e, outcome, w'⟩], ¬ BreaksOff s u) := by
  have harrived : arrived s (log ++ [⟨w, e, outcome, w'⟩]) = arrived s log := by
    rw [arrived_snoc]
    cases e <;> simp [arrivedBy]
    simp [isOwn] at hown
  have hsurvivors : survivors s (log ++ [⟨w, e, outcome, w'⟩]) w' = survivors s log w := by
    rw [survivors, survivors, intake_snoc, Intake.take, takenBy_of_own hown hsplit, hsplit, hown]
    split <;> simp
  rw [harrived, hsurvivors]
  refine ⟨h.sublist, h.whole.trans ?_⟩
  rw [List.forall_mem_append, List.forall_mem_singleton]
  simp [BreaksOff, hown]

/-- A part of a line is read, and the line goes on. -/
theorem part (h : Tracked s log w) (ho : w.source? s = some o) (hmore : o.unread ≠ [])
    {part : List UInt8} (hsplit : splitLine o.unread = (part, none)) :
    Tracked s (log ++ [⟨w, .read s, .nothing, w.setSource s (some ⟨[], o.line.add part⟩)⟩])
      (w.setSource s (some ⟨[], o.line.add part⟩)) := by
  obtain ⟨hfeed, hpart⟩ := splitLine_eq_append hsplit
  rw [Option.map_none, Option.getD_none, List.append_nil] at hpart
  have hsource := source?_setSource w s (some ⟨[], o.line.add part⟩)
  have hunread : w.unread s = part ++
      (w.setSource s (some ⟨[], o.line.add part⟩)).unread s := by
    rw [unread_eq ho, unread_eq hsource, hpart, List.append_nil]
  have hopen := h.not_finished (.inl (by rwa [unread_eq ho]))
  have hintake : intake s (log ++ [⟨w, .read s, .nothing, w.setSource s (some ⟨[], o.line.add part⟩)⟩]) =
      ⟨(intake s log).kept, (intake s log).held ++ part⟩ := by
    rw [intake_snoc, Intake.take, takenBy_of_own (isOwn_read s) hunread]
    simp [endsTurn]
  obtain ⟨hsublist, hwhole⟩ := h.nothing_lost (isOwn_read s) hunread
  refine ⟨?_, ?_, ?_, ?_, ?_, ?_, hsublist, hwhole⟩
  · rw [hintake, hsource]
    rintro _ ⟨⟩
    rw [h.buffer o ho, LineBuffer.add_holding (hpart ▸ hmore)]
  · rw [hsource]
    exact fun hnone => nomatch hnone
  · rw [hintake]
    exact fun hmem => (List.mem_append.1 hmem).elim h.unended hfeed
  · rw [handed_snoc, hintake]
    simpa [handedBy?] using h.lines
  · exact fun hfinish => absurd hfinish (not_finished_snoc hopen (by simp))
  · rw [hintake]
    exact fun _ => h.beforeEnd hopen

/-- The rest of a line is read with its line feed, and the line is handed on. -/
theorem line (h : Tracked s log w) (ho : w.source? s = some o) {part rest : List UInt8}
    (hsplit : splitLine o.unread = (part, some rest)) :
    Tracked s (log ++ [⟨w, .read s, .line (o.line.add part).text,
        (w.setSource s (some { o with unread := rest })).nextTurn⟩])
      (w.setSource s (some { o with unread := rest })).nextTurn := by
  obtain ⟨hfeed, hparts⟩ := splitLine_eq_append hsplit
  rw [Option.map_some, Option.getD_some] at hparts
  have hsource : (w.setSource s (some { o with unread := rest })).nextTurn.source? s =
      some { o with unread := rest, line := {} } := by
    rw [source?_nextTurn, source?_setSource]
    rfl
  have hunread : w.unread s = (part ++ [10]) ++
      (w.setSource s (some { o with unread := rest })).nextTurn.unread s := by
    rw [unread_eq ho, unread_eq hsource, hparts, List.append_assoc, List.singleton_append]
  have hopen := h.not_finished (.inl (by rw [unread_eq ho, hparts]; simp))
  have hintake : intake s (log ++ [⟨w, .read s, .line (o.line.add part).text,
      (w.setSource s (some { o with unread := rest })).nextTurn⟩]) =
      ⟨(intake s log).kept ++ ((intake s log).held ++ part ++ [10]), []⟩ := by
    rw [intake_snoc, Intake.take, takenBy_of_own (isOwn_read s) hunread]
    simp [endsTurn, isOwn]
  obtain ⟨hsublist, hwhole⟩ := h.nothing_lost (isOwn_read s) hunread
  refine ⟨?_, ?_, ?_, ?_, ?_, ?_, hsublist, hwhole⟩
  · rw [hintake, hsource]
    rintro _ ⟨⟩
    rfl
  · rw [hsource]
    exact fun hnone => nomatch hnone
  · rw [hintake]
    exact List.not_mem_nil
  · have hline : 10 ∉ (intake s log).held ++ part := fun hmem =>
      (List.mem_append.1 hmem).elim h.unended hfeed
    rw [handed_snoc, hintake, streamLines_append (h.beforeEnd hopen), h.lines, streamLines,
      streamLines, linePieces_line hline, h.buffer o ho, LineBuffer.text_add_holding]
    simp [handedBy?, isOwn]
  · exact fun hfinish => absurd hfinish (not_finished_snoc hopen (by simp))
  · rw [hintake]
    exact fun _ => lineEnded_line _ _

/-- The stream is at its end, and what is held is its last line. -/
theorem tail (h : Tracked s log w) (ho : w.source? s = some o) (hunread : o.unread = [])
    (hbegun : o.line.begun = true) :
    Tracked s (log ++ [⟨w, .finish s, .line o.line.text, w.nextTurn⟩]) w.nextTurn := by
  have hsource : w.nextTurn.source? s = some { o with line := {} } := by
    rw [source?_nextTurn, ho]
    rfl
  have hnext : w.nextTurn.unread s = [] := by rw [unread_eq hsource, hunread]
  have hheld := (h.begun_iff ho).1 hbegun
  have hopen := h.not_finished (.inr hheld)
  have hsplit : w.unread s = [] ++ w.nextTurn.unread s := by rw [unread_eq ho, hnext, hunread]; rfl
  have hintake : intake s (log ++ [⟨w, .finish s, .line o.line.text, w.nextTurn⟩]) =
      ⟨(intake s log).kept ++ (intake s log).held, []⟩ := by
    rw [intake_snoc, Intake.take, takenBy_of_own (isOwn_finish s) hsplit]
    simp [endsTurn, isOwn]
  obtain ⟨hsublist, hwhole⟩ := h.nothing_lost (isOwn_finish s) hsplit
  refine ⟨?_, ?_, ?_, ?_, ?_, ?_, hsublist, hwhole⟩
  · rw [hintake, hsource]
    rintro _ ⟨⟩
    rfl
  · rw [hsource]
    exact fun hnone => nomatch hnone
  · rw [hintake]
    exact List.not_mem_nil
  · rw [handed_snoc, hintake, streamLines_append (h.beforeEnd hopen), h.lines, streamLines,
      streamLines, linePieces_tail h.unended hheld, h.buffer o ho]
    simp [handedBy?, isOwn, LineBuffer.text_holding]
  · rw [hintake]
    exact fun _ => ⟨rfl, hnext⟩
  · exact fun hnot => absurd rfl (hnot _ (List.mem_append_right _ (List.mem_singleton_self _)))

/-- The stream is at its end with no line begun, and is closed. -/
theorem close (h : Tracked s log w) (ho : w.source? s = some o) (hunread : o.unread = [])
    (hbegun : o.line.begun = false) :
    Tracked s (log ++ [⟨w, .finish s, .nothing, (w.setSource s none).nextTurn⟩])
      (w.setSource s none).nextTurn := by
  have hsource : (w.setSource s none).nextTurn.source? s = none := by
    rw [source?_nextTurn, source?_setSource]
    rfl
  have hnext : (w.setSource s none).nextTurn.unread s = [] := by simp [unread, hsource]
  have hheld : (intake s log).held = [] := by
    by_cases hheld : (intake s log).held = []
    · exact hheld
    · rw [(h.begun_iff ho).2 hheld] at hbegun
      cases hbegun
  have hsplit : w.unread s = [] ++ (w.setSource s none).nextTurn.unread s := by
    rw [unread_eq ho, hnext, hunread]
    rfl
  have hintake : intake s (log ++ [⟨w, .finish s, .nothing, (w.setSource s none).nextTurn⟩]) =
      ⟨(intake s log).kept, []⟩ := by
    rw [intake_snoc, Intake.take, takenBy_of_own (isOwn_finish s) hsplit]
    simp [endsTurn, isOwn, hheld]
  obtain ⟨hsublist, hwhole⟩ := h.nothing_lost (isOwn_finish s) hsplit
  have hfinished : ∃ u ∈ log ++ [⟨w, .finish s, .nothing, (w.setSource s none).nextTurn⟩],
      u.event = .finish s := ⟨_, List.mem_append_right _ (List.mem_singleton_self _), rfl⟩
  refine ⟨?_, ?_, ?_, ?_, ?_, ?_, hsublist, hwhole⟩
  · rw [hsource]
    exact fun _ ho' => nomatch ho'
  · exact fun _ => hfinished
  · rw [hintake]
    exact List.not_mem_nil
  · rw [handed_snoc, hintake]
    simpa [handedBy?] using h.lines
  · rw [hintake]
    exact fun _ => ⟨rfl, hnext⟩
  · obtain ⟨u, hu, he⟩ := hfinished
    exact fun hnot => absurd he (hnot u hu)

end Tracked

theorem tracked_change {grace : Nat} {e : WatchEvent} {outcome : WatchOutcome}
    (h : Tracked s log w) (hc : Change grace w e outcome w') (hread : ∀ s' fault, e ≠ .fail s' fault)
    (harrive : ∀ bytes, e = .arrive s bytes → ∀ u ∈ log, u.event ≠ .finish s) :
    Tracked s (log ++ [⟨w, e, outcome, w'⟩]) w' := by
  cases hc with
  | @arrive s' bytes =>
    by_cases hs : s' = s
    · subst hs
      exact h.gain (harrive bytes rfl) bytes
    · exact h.idle rfl rfl (if_neg hs) (source?_setSource_ne w hs _)
  | @readPart s' o part ho hmore hsplit =>
    by_cases hs : s' = s
    · subst hs
      exact h.part ho hmore hsplit
    · exact h.idle rfl (beq_false_of_ne hs) rfl (source?_setSource_ne w hs _)
  | @readLine s' o part rest ho hsplit =>
    by_cases hs : s' = s
    · subst hs
      exact h.line ho hsplit
    · exact h.cut rfl (beq_false_of_ne hs) rfl
        (by rw [source?_nextTurn, source?_setSource_ne w hs])
  | @lastLine s' o ho hunread hbegun =>
    by_cases hs : s' = s
    · subst hs
      exact h.tail ho hunread hbegun
    · exact h.cut rfl (beq_false_of_ne hs) rfl (source?_nextTurn w s)
  | @close s' o ho hunread hbegun =>
    by_cases hs : s' = s
    · subst hs
      exact h.close ho hunread hbegun
    · exact h.cut rfl (beq_false_of_ne hs) rfl
        (by rw [source?_nextTurn, source?_setSource_ne w hs])
  | fail _ => exact absurd rfl (hread _ _)
  | lose _ _ => exact h.idle rfl rfl rfl rfl
  | stop _ _ =>
    refine h.cut rfl rfl rfl ?_
    rw [source?_nextTurn]
    cases s <;> rfl
  | deadline _ _ =>
    refine h.cut rfl rfl rfl ?_
    rw [source?_nextTurn]
    cases s <;> rfl
  | reap _ => exact h.idle rfl rfl rfl rfl

/-- Nothing is written to a stream once its end was found. -/
def EndIsFinal (s : OutputStream) (log : List Entry) : Prop :=
  log.Pairwise fun u v => u.event = .finish s → ∀ bytes, v.event ≠ .arrive s bytes

theorem tracked_run {grace : Nat} (h : Run (step grace) {} log w)
    (hread : ∀ u ∈ log, ∀ s' fault, u.event ≠ .fail s' fault) (hend : EndIsFinal s log) :
    Tracked s log w := by
  induction h with
  | nil => exact tracked_start
  | snoc _ hstep ih =>
    rw [List.forall_mem_append, List.forall_mem_singleton] at hread
    obtain ⟨hbefore, -, hlast⟩ := List.pairwise_append.1 hend
    refine tracked_change (ih hread.1 hbefore) (change_of_step hstep) hread.2 ?_
    rintro bytes rfl u hu hfinish
    exact hlast u hu _ (List.mem_singleton_self _) hfinish bytes rfl

/-- Of a stream that was read to its end, the lines of the bytes that were not lost are handed
on. They are the lines of the stream, with nothing lost, exactly if no turn ended elsewhere
while a line of the stream was half read. -/
theorem handed_lines_iff {grace : Nat} (h : Run (step grace) {} log w)
    (hread : ∀ u ∈ log, ∀ s' fault, u.event ≠ .fail s' fault) (hend : EndIsFinal s log)
    (hclosed : w.source? s = none) :
    handed s log = streamLines (survivors s log w) ∧
      (handed s log = streamLines (arrived s log) ∧ survivors s log w = arrived s log ↔
        ∀ u ∈ log, ¬ BreaksOff s u) := by
  have ht := tracked_run h hread hend
  have hlines : handed s log = streamLines (survivors s log w) := by
    obtain ⟨hheld, hunread⟩ := ht.atEnd (ht.closed hclosed)
    rw [ht.lines, survivors, hheld, hunread, List.append_nil, List.append_nil]
  refine ⟨hlines, ?_⟩
  rw [← ht.whole]
  constructor
  · exact fun hboth => hboth.2
  · exact fun heq => ⟨by rw [hlines, heq], heq⟩

/-- The line `hello` of the standard output, written in two parts, and the line `x` of the
standard error before it or between the parts. -/
def twoParts (between : Bool) : List WatchEvent :=
  let first := [.arrive .stdout [104, 101, 108], .read .stdout]
  let other := [.arrive .stderr [120, 10], .read .stderr]
  let rest := [.arrive .stdout [108, 111, 10], .read .stdout, .finish .stdout, .finish .stderr]
  (if between then first ++ other else other ++ first) ++ rest

theorem handed_lines_whole :
    ∃ log w, play (step 0) {} (twoParts false) = some (log, w) ∧
      (handed .stdout log = streamLines (survivors .stdout log w) ∧
        (handed .stdout log = streamLines (arrived .stdout log) ∧
            survivors .stdout log w = arrived .stdout log ↔ ∀ u ∈ log, ¬ BreaksOff .stdout u)) ∧
      arrived .stdout log = [104, 101, 108, 108, 111, 10] ∧ handed .stdout log = ["hello"] := by
  have hplay : play (step 0) {} (twoParts false) = some (_, _) := rfl
  refine ⟨_, _, hplay, handed_lines_iff (.of_play hplay) ?_ ?_ rfl, rfl, rfl⟩
  · simp
  · simp [EndIsFinal]

/-- A line of the other stream between the two parts takes the first part with it. -/
theorem half_line_lost :
    ∃ log w, play (step 0) {} (twoParts true) = some (log, w) ∧
      w.source? .stdout = none ∧ arrived .stdout log = [104, 101, 108, 108, 111, 10] ∧
      streamLines (arrived .stdout log) = ["hello"] ∧ handed .stdout log = ["lo"] :=
  ⟨_, _, rfl, rfl, rfl, rfl, rfl⟩

end NodeWarden.Watch
