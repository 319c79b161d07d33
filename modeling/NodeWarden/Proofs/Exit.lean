import NodeWarden.Proofs.Life
import NodeWarden.Proofs.Watch

/-! How a node ends. Its exit is published once, before it is reported or the monitor calls for
the delete, and stays what it is. When the monitor is done and nobody waits for a delete, the
node is deleted, and one external delete has been issued, whatever came first: the end of the
program, a stop, a delete or the handle being dropped. -/

namespace NodeWarden

theorem Watch.lost_of_change {grace : Nat} {w w' : Watch} {e : WatchEvent}
    (h : Change grace w e .lost w') : ∃ now, e = .noticeStop now ∧ clockLimit ≤ now + grace := by
  cases h with
  | lose _ hlimit => exact ⟨_, rfl, hlimit⟩

/-- Whoever gives up no delete leaves no node behind that is going for ever. -/
theorem Teardown.going_change {t t' : Teardown} {e : TeardownEvent} {reply : Option Reply}
    (h : Change t e reply t') (hstay : ∀ c, e ≠ .abandon c)
    (ht : t.state = .deleting → t.inFlight ≠ []) : t'.state = .deleting → t'.inFlight ≠ [] := by
  cases h with
  | start _ | run _ | fail _ | answer _ => exact nofun
  | keep _ | skip _ => exact ht
  | claim _ => exact fun _ => List.cons_ne_nil _ _
  | abandon _ => exact absurd rfl (hstay _)

namespace Life

variable {l l' : Life} {e : LifeEvent} {effects : List LifeEffect} {log : List Entry}

def published? (u : Entry) : Option NodeExit :=
  match u.event with
  | .publish => u.after.exit
  | _ => none

/-- The exits that were published. -/
def published (log : List Entry) : List NodeExit := log.filterMap published?

def issuer? : LifeEffect → Option Caller
  | .issueDelete c => some c
  | _ => none

/-- Who issued the external deletes. -/
def issuers (log : List Entry) : List Caller := log.flatMap fun u => u.effect.filterMap issuer?

theorem fixed_change (h : Change l e effects l') :
    l'.name = l.name ∧ l'.stopGrace = l.stopGrace := by
  cases h <;> exact ⟨rfl, rfl⟩

theorem fixed_run {name : NodeName} {stopGrace : Nat} (h : Run step { name, stopGrace } log l) :
    l.name = name ∧ l.stopGrace = stopGrace := by
  refine h.always (P := fun l => l.name = name ∧ l.stopGrace = stopGrace) ⟨rfl, rfl⟩ ?_
  intro u hbefore hstep
  obtain ⟨hname, hgrace⟩ := fixed_change (change_of_step hstep)
  exact ⟨hname.trans hbefore.1, hgrace.trans hbefore.2⟩

theorem exit_change (hs : l.Sound) (h : Change l e effects l') :
    (e = .publish ∧ l.exit = none ∧ l'.exit ≠ none) ∨ (e ≠ .publish ∧ l'.exit = l.exit) := by
  cases h with
  | publish hjudged =>
    have hstage := hs.stage
    rw [hjudged] at hstage
    exact .inl ⟨rfl, hstage.1, nofun⟩
  | _ => exact .inr ⟨nofun, rfl⟩

/-- The watch forwards lines and kills the program, and does nothing else. -/
theorem filterMap_effectsOf {α : Type} {f : LifeEffect → Option α}
    (hforward : ∀ r, f (.forward r) = none) (hkill : f .kill = none) (name : NodeName)
    (o : WatchOutcome) : (effectsOf name o).filterMap f = [] := by
  cases o with
  | line text => cases hline : forwardLine name text <;> simp [effectsOf, hline, hforward]
  | kill | lost => simp [effectsOf, hkill]
  | _ => rfl

theorem issued_change (h : Change l e effects l') :
    l'.teardown.issued = l.teardown.issued + (effects.filterMap issuer?).length := by
  cases h with
  | markRunning => exact Teardown.issued_markRunning _
  | watch _ _ _ => rw [filterMap_effectsOf (fun _ => rfl) rfl]; rfl
  | @report exit _ => cases hr : l.teardown.unexpected? l.name.text exit <;> simp [issuer?]
  | _ => rfl

theorem exit_stays {x : NodeExit} (hs : l.Sound) (h : Change l e effects l')
    (hx : l.exit = some x) : l'.exit = some x := by
  rcases exit_change hs h with ⟨-, hnone, -⟩ | ⟨-, hsame⟩
  · rw [hx] at hnone
    cases hnone
  · rw [hsame, hx]

theorem exit_run {x : NodeExit} (hs : l.Sound) (hx : l.exit = some x) (h : Run step l log l') :
    l'.exit = some x := by
  have hboth : l'.Sound ∧ l'.exit = some x := by
    refine h.always (P := fun l => l.Sound ∧ l.exit = some x) ⟨hs, hx⟩ ?_
    intro u hbefore hstep
    have hchange := change_of_step hstep
    exact ⟨sound_change hbefore.1 hchange, exit_stays hbefore.1 hchange hbefore.2⟩
  exact hboth.2

theorem published_run {name : NodeName} {stopGrace : Nat}
    (h : Run step { name, stopGrace } log l) : published log = l.exit.toList := by
  induction h with
  | nil => rfl
  | @snoc log l l' e effects hrun hstep ih =>
    rw [published, filterMap_snoc, ← published, ih]
    rcases exit_change (sound_run hrun) (change_of_step hstep) with ⟨rfl, hnone, -⟩ | ⟨hne, hsame⟩
    · rw [hnone]
      rfl
    · have hnot : published? ⟨l, e, effects, l'⟩ = none := by
        cases e with
        | publish => exact absurd rfl hne
        | _ => rfl
      rw [hnot, hsame, Option.toList_none, List.append_nil]

theorem issuers_run {name : NodeName} {stopGrace : Nat}
    (h : Run step { name, stopGrace } log l) : (issuers log).length = l.teardown.issued := by
  induction h with
  | nil => rfl
  | snoc _ hstep ih =>
    rw [issuers, List.flatMap_append, ← issuers, List.length_append, ih,
      issued_change (change_of_step hstep), List.flatMap_singleton]

theorem going_run {name : NodeName} {stopGrace : Nat} (h : Run step { name, stopGrace } log l)
    (hstay : ∀ u ∈ log, ∀ id, u.event ≠ .abandonDelete id) :
    l.state = .deleting → l.teardown.inFlight ≠ [] := by
  refine h.invariant (P := fun l => l.state = .deleting → l.teardown.inFlight ≠ [])
    (by simp [state]) ?_ hstay
  intro u hu hgoing hstep
  have hchange := change_of_step hstep
  cases he : teardownEvent? u.event with
  | none =>
    rw [state, teardown_unchanged hchange he]
    exact hgoing
  | some te =>
    obtain ⟨reply, hteardown⟩ := teardown_change hchange he
    refine Teardown.going_change hteardown ?_ hgoing
    rintro c rfl
    cases hevent : u.event <;> rw [hevent] at he <;> cases he
    exact hu _ hevent

theorem not_lost_change (h : Change l e effects l')
    (hclock : ∀ now, e = .watch (.noticeStop now) → now + l.stopGrace < clockLimit)
    (hl : l.stage ≠ .lost) : l'.stage ≠ .lost := by
  cases h with
  | @watch we w o _ _ hwatch =>
    cases o with
    | lost =>
      obtain ⟨now, rfl, hlimit⟩ := Watch.lost_of_change (Watch.change_of_step hwatch)
      exact absurd (hclock now rfl) (Nat.not_lt.2 hlimit)
    | _ => exact nofun
  | skip _ _ =>
    dsimp only
    split <;> exact nofun
  | judge _ | publish _ | report _ | claim _ _ | answerMonitor _ _ => exact nofun
  | _ => exact hl

/-- The monitor is not lost while every deadline can be told. -/
theorem not_lost_run {name : NodeName} {stopGrace : Nat} (h : Run step { name, stopGrace } log l)
    (hclock : ∀ u ∈ log, ∀ now, u.event = .watch (.noticeStop now) → now + stopGrace < clockLimit) :
    l.name = name ∧ l.stopGrace = stopGrace ∧ l.stage ≠ .lost := by
  refine h.invariant (P := fun l => l.name = name ∧ l.stopGrace = stopGrace ∧ l.stage ≠ .lost)
    ⟨rfl, rfl, by simp⟩ ?_ hclock
  intro u hu hbefore hstep
  obtain ⟨hname, hgrace, hstage⟩ := hbefore
  have hchange := change_of_step hstep
  obtain ⟨hname', hgrace'⟩ := fixed_change hchange
  refine ⟨hname'.trans hname, hgrace'.trans hgrace, not_lost_change hchange ?_ hstage⟩
  rw [hgrace]
  exact hu

/-- The monitor reports and claims only an exit that is out. -/
theorem out_of_change (hs : l.Sound) (h : Change l e effects l') (he : e = .report ∨ e = .claim) :
    ∃ x, l.exit = some x ∧ (l.stage = .published x ∨ l.stage = .reported x) := by
  have hstage := hs.stage
  cases h with
  | report hst =>
    rw [hst] at hstage
    exact ⟨_, hstage.1, .inl hst⟩
  | claim hst _ | skip hst _ =>
    rw [hst] at hstage
    exact ⟨_, hstage.1, .inr hst⟩
  | _ => rcases he with he | he <;> cases he

theorem stage_of_isFinished (hlost : l.stage ≠ .lost) (hfinished : l.isFinished = true) :
    l.stage = .finished := by
  cases hst : l.stage with
  | finished => rfl
  | lost => exact absurd hst hlost
  | _ => simp [isFinished, hst] at hfinished

/-- A monitor that is done and was not lost has published its exit, and leaves the node torn down. -/
theorem settled_of_finished (hs : l.Sound) (hlost : l.stage ≠ .lost)
    (hfinished : l.isFinished = true) : l.exit ≠ none ∧ l.state.isTornDown = true := by
  have hstage := hs.stage
  rw [stage_of_isFinished hlost hfinished] at hstage
  exact ⟨hstage.1, hstage.2.2⟩

theorem isTornDown_of_finished (hs : l.Sound) (hlost : l.stage ≠ .lost)
    (hfinished : l.isFinished = true) : l.state.isTornDown = true :=
  (settled_of_finished hs hlost hfinished).2

theorem deleted_of_isTornDown (hs : l.Sound) (hdown : l.state.isTornDown = true)
    (hgoing : l.state ≠ .deleting) : l.state = .deleted := by
  cases hst : l.state with
  | deleted => rfl
  | deleting => exact absurd hst hgoing
  | failed => exact absurd hst hs.begun.2
  | _ => rw [hst] at hdown; cases hdown

theorem issued_of_isTornDown (hs : l.Sound) (hdown : l.state.isTornDown = true) :
    l.teardown.issued = 1 := by
  by_cases hgoing : l.state = .deleting
  · rw [hs.teardown.issued, if_pos (.inl hgoing)]
  · rw [hs.teardown.issued, if_pos (.inr (deleted_of_isTornDown hs hdown hgoing))]

/-- Of a node whose program was started: the exit is published at most once and does not change
after that, and it is out before it is reported or the monitor calls for the delete. If nobody
gave up a delete and every deadline could be told, then once the monitor is done and nobody
waits for a delete, the node is deleted by one external delete. -/
theorem exit_then_deleted {name : NodeName} {stopGrace : Nat}
    (h : Run step { name, stopGrace } log l) :
    (published log = l.exit.toList ∧ (published log).length ≤ 1) ∧
    (∀ pre u post, log = pre ++ u :: post →
      (∀ x, u.before.exit = some x → u.after.exit = some x ∧ l.exit = some x) ∧
      (u.event = .report ∨ u.event = .claim → ∃ x, published pre = [x] ∧
        (u.before.stage = .published x ∨ u.before.stage = .reported x))) ∧
    ((∀ u ∈ log, ∀ id, u.event ≠ .abandonDelete id) →
      (∀ u ∈ log, ∀ now, u.event = .watch (.noticeStop now) → now + stopGrace < clockLimit) →
      l.isFinished = true → l.teardown.inFlight = [] →
        l.name = name ∧ l.state = .deleted ∧ ∃ c, issuers log = [c]) := by
  refine ⟨⟨published_run h, ?_⟩, ?_, ?_⟩
  · rw [published_run h]
    cases l.exit <;> simp
  · rintro pre u post rfl
    obtain ⟨hpre, hstep, hpost⟩ := h.cut
    have hs := sound_run hpre
    have hchange := change_of_step hstep
    constructor
    · intro x hx
      have hafter := exit_stays hs hchange hx
      exact ⟨hafter, exit_run (sound_change hs hchange) hafter hpost⟩
    · intro he
      obtain ⟨x, hx, hst⟩ := out_of_change hs hchange he
      refine ⟨x, ?_, hst⟩
      rw [published_run hpre, hx]
      rfl
  · intro hstay hclock hfinished hnobody
    have hs := sound_run h
    obtain ⟨hname, -, hlost⟩ := not_lost_run h hclock
    have hgoing : l.state ≠ .deleting := fun hst => going_run h hstay hst hnobody
    have hdeleted := deleted_of_isTornDown hs (isTornDown_of_finished hs hlost hfinished) hgoing
    refine ⟨hname, hdeleted, List.length_eq_one_iff.1 ?_⟩
    rw [issuers_run h, hs.teardown.issued, if_pos (.inr hdeleted)]

/-- The program ends before its creator has noted that it runs, and an owner claims the delete
between the publication of the exit and the monitor's own call. -/
def overtakenEvents : List LifeEvent :=
  [.watch (.finish .stdout), .watch (.finish .stderr), .watch (.reap (.ok (.code 1))), .judge,
    .publish, .callDelete 0, .markRunning, .report, .claim, .dropHandle,
    .answerDelete (.owner 0) (.ok ())]

theorem exit_then_deleted_overtaken :
    ∃ log l, play step { name := ⟨"n", by decide⟩, stopGrace := 0 } overtakenEvents = some (log, l) ∧
      published log = [⟨some 1, false, none, false⟩] ∧ l.state = .deleted ∧
      issuers log = [.owner 0] ∧ ∃ c, issuers log = [c] := by
  have hplay : play step { name := ⟨"n", by decide⟩, stopGrace := 0 } overtakenEvents =
      some (_, _) := rfl
  obtain ⟨-, -, hend⟩ := exit_then_deleted (.of_play hplay)
  obtain ⟨-, hdeleted, hone⟩ := hend (by simp) (by simp) rfl rfl
  exact ⟨_, _, hplay, rfl, hdeleted, rfl, hone⟩

end Life

end NodeWarden
