import NodeWarden.Proofs.Stages

/-! Whether the end of a node was asked for. Holders of the handle ask for it by a stop, by a
delete, whose first step is the stop, and by dropping the handle. The exit counts as asked for
exactly if one of these came before it was judged, and such an exit is never reported. A delete that
is called past the handle, without the stop, counts only while it goes on. -/

namespace NodeWarden

namespace Watch

@[simp] theorem stopSeen_setSource (w : Watch) (s : OutputStream) (o : Option OutputSource) :
    (w.setSource s o).stopSeen = w.stopSeen := by
  cases s <;> rfl

@[simp] theorem stopSeen_nextTurn (w : Watch) : w.nextTurn.stopSeen = w.stopSeen := rfl

theorem stopSeen_change {grace : Nat} {w w' : Watch} {e : WatchEvent} {o : WatchOutcome}
    (h : Change grace w e o w') (hseen : w'.stopSeen = true) :
    w.stopSeen = true ∨ ∃ now, e = .noticeStop now := by
  cases h with
  | stop _ _ => exact .inr ⟨_, rfl⟩
  | _ => exact .inl (by simpa [arrive] using hseen)

end Watch

theorem Teardown.isTornDown_markRunning (t : Teardown) :
    t.markRunning.1.state.isTornDown = t.state.isTornDown := by
  by_cases hs : t.state = .starting
  · simp [markRunning, move, hs, NodeState.isTornDown]
  · simp [markRunning, move, hs]

namespace Life

variable {name : NodeName} {stopGrace n : Nat} {l l' start : Life} {e : LifeEvent}
  {effects : List LifeEffect} {log pre post : List Entry} {u : Entry} {x : NodeExit}

/-- What the holders of a handle do to end the node. -/
def asksForEnd : LifeEvent → Bool
  | .askStop | .dropHandle | .callDelete _ => true
  | _ => false

/-- What is a stop to the watch. -/
def asksForStop : LifeEvent → Bool
  | .askStop | .dropHandle => true
  | _ => false

theorem stopPending_change_iff (h : Change l e effects l') :
    l'.stopPending = true ↔ l.stopPending = true ∨ asksForStop e = true := by
  cases h <;> simp [stopPending, asksForStop]

theorem stopPending_of_seen_change (hseen : l.watch.stopSeen = true → l.stopPending = true)
    (h : Change l e effects l') : l'.watch.stopSeen = true → l'.stopPending = true := by
  have hkeep : l.stopPending = true → l'.stopPending = true := fun hpending =>
    (stopPending_change_iff h).2 (.inl hpending)
  cases h with
  | watch _ hnotice hwatch =>
    intro hnow
    rcases Watch.stopSeen_change (Watch.change_of_step hwatch) hnow with hbefore | ⟨now, he⟩
    · exact hseen hbefore
    · exact hnotice now he
  | _ => exact fun hnow => hkeep (hseen hnow)

/-- Who deletes a node through its handle has asked for its stop before. -/
def ByHandle (u : Entry) : Prop := ∀ id, u.event = .callDelete id → u.before.stopAsked = true

theorem stopPending_change (hby : ByHandle ⟨l, e, effects, l'⟩) (h : Change l e effects l') :
    l'.stopPending = true ↔ l.stopPending = true ∨ asksForEnd e = true := by
  cases h with
  | claimDelete _ | skipDelete _ =>
    have hasked : l.stopAsked = true := hby _ rfl
    simp [stopPending, hasked]
  | _ => simp [stopPending, asksForEnd]

theorem stopPending_run (h : Run step { name, stopGrace } log l) (hby : ∀ u ∈ log, ByHandle u) :
    l.stopPending = true ↔ ∃ u ∈ log, asksForEnd u.event = true := by
  induction h with
  | nil => simp [stopPending]
  | @snoc log l l' e effects hrun hstep ih =>
    rw [stopPending_change (hby _ (by simp)) (change_of_step hstep),
      ih fun u hu => hby u (List.mem_append_left _ hu)]
    constructor
    · rintro (⟨u, hu, hasks⟩ | hasks)
      · exact ⟨u, List.mem_append_left _ hu, hasks⟩
      · exact ⟨_, List.mem_append_right _ List.mem_cons_self, hasks⟩
    · rintro ⟨u, hu, hasks⟩
      rw [List.mem_append, List.mem_singleton] at hu
      rcases hu with hu | rfl
      · exact .inl ⟨u, hu, hasks⟩
      · exact .inr hasks

/-- Until the exit is out, all that makes it count as asked for was brought about by a stop or
by the loss of the handle. -/
structure Prompted (l : Life) : Prop where
  seen : l.watch.stopSeen = true → l.stopPending = true
  down : l.exit = none → l.state.isTornDown = true → l.stopPending = true

theorem prompted_change (hs : l.Sound) (hp : l.Prompted) (hby : ByHandle ⟨l, e, effects, l'⟩)
    (h : Change l e effects l') : l'.Prompted := by
  have hdown : ∀ c ∈ l.teardown.inFlight, l.exit = none → l.stopPending = true := by
    intro c hc hexit
    obtain ⟨-, hstate, -⟩ := hs.teardown.inFlight_eq hc
    exact hp.down hexit (by rw [state, hstate]; rfl)
  have hstage := hs.stage
  refine ⟨stopPending_of_seen_change hp.seen h, ?_⟩
  cases h with
  | markRunning =>
    intro hexit hdown
    rw [state, Teardown.isTornDown_markRunning] at hdown
    exact hp.down hexit hdown
  | askStop _ | dropHandle _ => simp [stopPending]
  | claimDelete _ =>
    intro _ _
    simp [stopPending, show l.stopAsked = true from hby _ rfl]
  | answerOwner hc | answerMonitor hc _ | answerEarly hc _ =>
    exact fun hexit _ => hdown _ hc hexit
  | publish _ =>
    intro hexit
    cases hexit
  | claim hst _ =>
    rw [hst] at hstage
    intro hexit
    rw [hstage.1] at hexit
    cases hexit
  | _ => exact hp.down

theorem prompted_start (name : NodeName) (stopGrace : Nat) :
    Prompted { name, stopGrace } := by
  refine ⟨?_, ?_⟩
  · intro hseen
    cases hseen
  · intro _ hdown
    cases hdown

theorem prompted_run (h : Run step { name, stopGrace } log l) (hby : ∀ u ∈ log, ByHandle u) :
    l.Sound ∧ l.Prompted := by
  refine h.invariant (P := fun l => l.Sound ∧ l.Prompted)
    ⟨sound_start name stopGrace, prompted_start name stopGrace⟩ ?_ hby
  intro u hu hbefore hstep
  have hchange := change_of_step hstep
  exact ⟨sound_change hbefore.1 hchange, prompted_change hbefore.1 hbefore.2 hu hchange⟩

theorem stopRequested_iff_or : l.stopRequested = true ↔
    (l.watch.stopSeen = true ∨ l.stopPending = true) ∨ l.state = .deleting := by
  simp [stopRequested, stopPending, or_assoc]

theorem stopRequested_iff (hp : l.Prompted) (hexit : l.exit = none) :
    l.stopRequested = true ↔ l.stopPending = true := by
  rw [stopRequested_iff_or]
  constructor
  · rintro ((hseen | hpending) | hgoing)
    · exact hp.seen hseen
    · exact hpending
    · exact hp.down hexit (by rw [hgoing]; rfl)
  · exact fun hpending => .inl (.inr hpending)

theorem stopRequested_ofEnd (ended : Except String ExitStatus) (readFault : Option String)
    (stopRequested : Bool) :
    (NodeExit.ofEnd ended readFault stopRequested).stopRequested = stopRequested := by
  unfold NodeExit.ofEnd
  split <;> rfl

/-- The exit that is out was judged once. It counts as asked for exactly if a stop, a delete or
the loss of the handle came before that, and one that does is never reported. -/
theorem asked_for_iff (h : Run step { name, stopGrace } log l) (hby : ∀ u ∈ log, ByHandle u) :
    ∀ x ∈ published log,
      (∃ pre u post, log = pre ++ u :: post ∧ u.event = .judge ∧
        (∀ v ∈ pre ++ post, v.event ≠ .judge) ∧
        (x.stopRequested = true ↔ ∃ v ∈ pre, asksForEnd v.event = true)) ∧
      (x.stopRequested = true → reports log = []) := by
  intro x hx
  rw [published_run h, Option.mem_toList] at hx
  constructor
  · obtain ⟨pre, u, post, rfl, hjudge, honce, hexit, ended, rfl⟩ := judge_of_exit h hx
    have hpre := h.cut.1
    have hbypre : ∀ v ∈ pre, ByHandle v := fun v hv => hby v (List.mem_append_left _ hv)
    refine ⟨pre, u, post, rfl, hjudge, honce, ?_⟩
    rw [stopRequested_ofEnd, stopRequested_iff (prompted_run hpre hbypre).2 hexit,
      stopPending_run hpre hbypre]
  · intro hasked
    rcases report_of_exit h hx with ⟨-, hnone⟩ | ⟨_, u, _, -, -, -, hone, hreports⟩
    · exact hnone
    · rw [hone, hreports]
      simp [Teardown.unexpected?, hasked]

/-- The program ends by itself. The owner's delete comes when the watch is over, and is done
before the exit is judged: only the stop that was sent with it shows that it was asked for. -/
def lateDeleteEvents : List LifeEvent :=
  [.markRunning, .watch (.finish .stdout), .watch (.finish .stderr),
    .watch (.reap (.ok (.code 1))), .askStop, .callDelete 0, .answerDelete (.owner 0) (.ok ()),
    .judge, .publish, .report, .claim]

theorem asked_for_iff_late :
    ∃ log l x, play step { name := ⟨"n", by decide⟩, stopGrace := 0 } lateDeleteEvents =
        some (log, l) ∧ (∀ u ∈ log, ByHandle u) ∧ x ∈ published log ∧ l.state = .deleted ∧
      x.stopRequested = true ∧ reports log = [] ∧
      ∃ pre u post, log = pre ++ u :: post ∧ u.event = .judge ∧
        ∃ v ∈ pre, asksForEnd v.event = true := by
  have hplay : play step { name := ⟨"n", by decide⟩, stopGrace := 0 } lateDeleteEvents =
      some (_, _) := rfl
  have hasked := asked_for_iff (.of_play hplay) (by simp [ByHandle])
  obtain ⟨⟨pre, u, post, hlog, hjudge, -, hiff⟩, hnone⟩ := hasked _ List.mem_cons_self
  exact ⟨_, _, _, hplay, by simp [ByHandle], List.mem_cons_self, rfl, rfl, hnone rfl,
    pre, u, post, hlog, hjudge, hiff.1 rfl⟩

/-! A delete may also be called past the handle, with no stop before it. -/

theorem stopPending_run_iff (h : Run step { name, stopGrace } log l) :
    l.stopPending = true ↔ ∃ u ∈ log, asksForStop u.event = true := by
  induction h with
  | nil => simp [stopPending]
  | @snoc log l l' e effects _ hstep ih =>
    rw [stopPending_change_iff (change_of_step hstep), ih]
    simp [or_and_right, exists_or]

/-- The watch sees no stop that was not asked for. -/
theorem stopPending_of_seen (h : Run step { name, stopGrace } log l) :
    l.watch.stopSeen = true → l.stopPending = true := by
  refine h.always (P := fun l => l.watch.stopSeen = true → l.stopPending = true) ?_ ?_
  · intro hseen
    cases hseen
  · intro u hseen hstep
    exact stopPending_of_seen_change hseen (change_of_step hstep)

/-- The exit that is out counts as asked for exactly if a stop or the loss of the handle came before
it was judged, or the node was being deleted then. A delete past the handle that was over by then is
forgotten. -/
theorem asked_or_deleting_iff (h : Run step { name, stopGrace } log l) :
    ∀ x ∈ published log, ∃ pre u post, log = pre ++ u :: post ∧ u.event = .judge ∧
      (x.stopRequested = true ↔
        (∃ v ∈ pre, asksForStop v.event = true) ∨ u.before.state = .deleting) := by
  intro x hx
  rw [published_run h, Option.mem_toList] at hx
  obtain ⟨pre, u, post, rfl, hjudge, -, -, ended, rfl⟩ := judge_of_exit h hx
  have hpre := h.cut.1
  refine ⟨pre, u, post, rfl, hjudge, ?_⟩
  rw [stopRequested_ofEnd, stopRequested_iff_or, ← stopPending_run_iff hpre,
    or_iff_right_of_imp (stopPending_of_seen hpre)]

/-- The delete is called at the node itself and is over before the program ends. -/
example : (play step { name := ⟨"n", by decide⟩, stopGrace := 0 }
    [.markRunning, .callDelete 0, .answerDelete (.owner 0) (.ok ()), .watch (.finish .stdout),
      .watch (.finish .stderr), .watch (.reap (.ok (.code 1))), .judge, .publish]).map
        (fun (log, l) => ((published log).map (·.stopRequested), l.state)) =
    some ([false], .deleted) := rfl

end Life

end NodeWarden
