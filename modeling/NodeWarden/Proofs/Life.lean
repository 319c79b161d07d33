import NodeWarden.Life
import NodeWarden.Proofs.Teardown

/-! What each step of a node's life does, and what holds all along it: the exit is known
from its publication on, the monitor waits for a delete only after that, and its task is over
only when the node is being torn down. -/

namespace NodeWarden.Life

abbrev Entry := Step Life LifeEvent (List LifeEffect)

def stageAfter : WatchOutcome → MonitorStage
  | .ended ended => .reaped ended
  | .lost => .lost
  | _ => .watching

def effectsOf (name : NodeName) : WatchOutcome → List LifeEffect
  | .line text => ((forwardLine name text).map .forward).toList
  | .kill | .lost => [.kill]
  | _ => []

/-- What an event does, guards included. -/
inductive Change (l : Life) : LifeEvent → List LifeEffect → Life → Prop
  | markRunning : Change l .markRunning [] { l with teardown := l.teardown.markRunning.1 }
  | askStop : l.handleHeld = true → Change l .askStop [] { l with stopAsked := true }
  | dropHandle : l.handleHeld = true → Change l .dropHandle [] { l with handleHeld := false }
  | claimDelete {id : Nat} : l.state.isTornDown = false →
      Change l (.callDelete id) [.issueDelete (.owner id)]
        { l with teardown := ⟨.deleting, .owner id :: l.teardown.inFlight, l.teardown.issued + 1⟩ }
  | skipDelete {id : Nat} : l.state.isTornDown = true →
      Change l (.callDelete id) [.reply (.owner id) (.ok ())] l
  | answerOwner {id : Nat} {r : DeleteResult} : .owner id ∈ l.teardown.inFlight →
      Change l (.answerDelete (.owner id) r) [.reply (.owner id) r]
        { l with teardown := l.teardown.answer (.owner id) }
  | answerMonitor {r : DeleteResult} {exit : NodeExit} : .monitor ∈ l.teardown.inFlight →
      l.stage = .deleting exit →
      Change l (.answerDelete .monitor r) [.reply .monitor r]
        { l with teardown := l.teardown.answer .monitor, stage := .finished }
  | answerEarly {r : DeleteResult} : .monitor ∈ l.teardown.inFlight →
      (∀ exit, l.stage ≠ .deleting exit) →
      Change l (.answerDelete .monitor r) [.reply .monitor r]
        { l with teardown := l.teardown.answer .monitor }
  | abandonDelete {id : Nat} : .owner id ∈ l.teardown.inFlight →
      Change l (.abandonDelete id) [] { l with teardown := l.teardown.abandon (.owner id) }
  | watch {e : WatchEvent} {w : Watch} {o : WatchOutcome} : l.stage = .watching →
      (∀ now, e = .noticeStop now → l.stopPending = true) →
      l.watch.step l.stopGrace e = some (w, o) →
      Change l (.watch e) (effectsOf l.name o) { l with watch := w, stage := stageAfter o }
  | judge {ended : Except String ExitStatus} : l.stage = .reaped ended →
      Change l .judge []
        { l with stage := .judged (.ofEnd ended l.watch.readFault l.stopRequested) }
  | publish {exit : NodeExit} : l.stage = .judged exit →
      Change l .publish [] { l with stage := .published exit, exit := some exit }
  | report {exit : NodeExit} : l.stage = .published exit →
      Change l .report ((l.teardown.unexpected? l.name.text exit).map .report).toList
        { l with stage := .reported exit }
  | claim {exit : NodeExit} : l.stage = .reported exit → l.state.isTornDown = false →
      Change l .claim [.issueDelete .monitor]
        { l with
          teardown := ⟨.deleting, .monitor :: l.teardown.inFlight, l.teardown.issued + 1⟩
          stage := .deleting exit }
  | skip {exit : NodeExit} : l.stage = .reported exit → l.state.isTornDown = true →
      Change l .claim [.reply .monitor (.ok ())]
        { l with stage := if .monitor ∈ l.teardown.inFlight then .deleting exit else .finished }

theorem change_of_stepWatch {l l' : Life} {e : WatchEvent} {effects : List LifeEffect}
    (hnotice : ∀ now, e = .noticeStop now → l.stopPending = true)
    (h : l.stepWatch e = some (l', effects)) : Change l (.watch e) effects l' := by
  unfold stepWatch at h
  split at h
  · rename_i hstage
    cases hw : l.watch.step l.stopGrace e with
    | none => simp [hw] at h
    | some p =>
      obtain ⟨w, o⟩ := p
      have hchange := Change.watch hstage hnotice hw
      cases o <;> simp [hw] at h <;> obtain ⟨rfl, rfl⟩ := h <;>
        simpa [stageAfter, effectsOf, hstage] using hchange
  · cases h

theorem change_of_step {l l' : Life} {e : LifeEvent} {effects : List LifeEffect}
    (h : l.step e = some (l', effects)) : Change l e effects l' := by
  cases e with
  | markRunning =>
    cases h
    exact .markRunning
  | askStop =>
    rw [step] at h
    split at h
    · rename_i hheld
      cases h
      exact .askStop hheld
    · cases h
  | dropHandle =>
    rw [step] at h
    split at h
    · rename_i hheld
      cases h
      exact .dropHandle hheld
    · cases h
  | callDelete id =>
    cases ht : l.state.isTornDown with
    | true =>
      simp only [step, callDelete, Teardown.call_skips ht, Option.some.injEq, Prod.mk.injEq] at h
      obtain ⟨rfl, rfl⟩ := h
      exact .skipDelete ht
    | false =>
      simp only [step, callDelete, Teardown.call_claims ht, Option.some.injEq, Prod.mk.injEq] at h
      obtain ⟨rfl, rfl⟩ := h
      exact .claimDelete ht
  | answerDelete c r =>
    by_cases hc : c ∈ l.teardown.inFlight <;> simp [step, answerDelete, hc] at h
    cases c with
    | owner id =>
      obtain ⟨rfl, rfl⟩ := h
      exact .answerOwner hc
    | monitor =>
      split at h <;> simp at h <;> obtain ⟨rfl, rfl⟩ := h
      · rename_i hstage
        exact .answerMonitor hc hstage
      · rename_i hstage
        exact .answerEarly hc fun exit he => hstage exit rfl he
  | abandonDelete id =>
    by_cases hc : .owner id ∈ l.teardown.inFlight <;> simp [step, hc] at h
    obtain ⟨rfl, rfl⟩ := h
    exact .abandonDelete hc
  | watch e =>
    cases e with
    | noticeStop now =>
      by_cases hp : l.stopPending = true <;> simp [step, hp] at h
      exact change_of_stepWatch (fun _ _ => hp) h
    | _ => exact change_of_stepWatch (fun _ he => nomatch he) h
  | judge =>
    rw [step] at h
    split at h
    · rename_i hstage
      cases h
      exact .judge hstage
    · cases h
  | publish =>
    rw [step] at h
    split at h
    · rename_i hstage
      cases h
      exact .publish hstage
    · cases h
  | report =>
    rw [step] at h
    split at h
    · rename_i hstage
      cases h
      exact .report hstage
    · cases h
  | claim =>
    rw [step] at h
    split at h
    · rename_i exit hstage
      cases ht : l.state.isTornDown with
      | true =>
        simp only [callDelete, Teardown.call_skips ht, Option.some.injEq, Prod.mk.injEq] at h
        obtain ⟨rfl, rfl⟩ := h
        exact .skip hstage ht
      | false =>
        simp only [callDelete, Teardown.call_claims ht, List.mem_cons, true_or, if_true,
          Option.some.injEq, Prod.mk.injEq] at h
        obtain ⟨rfl, rfl⟩ := h
        exact .claim hstage ht
    · cases h

/-- What an event of a node's life is to its teardown. -/
def teardownEvent? : LifeEvent → Option TeardownEvent
  | .markRunning => some .markRunning
  | .callDelete id => some (.call (.owner id))
  | .answerDelete c r => some (.answer c r)
  | .abandonDelete id => some (.abandon (.owner id))
  | .claim => some (.call .monitor)
  | _ => none

theorem teardown_unchanged {l l' : Life} {e : LifeEvent} {effects : List LifeEffect}
    (h : Change l e effects l') (he : teardownEvent? e = none) : l'.teardown = l.teardown := by
  cases h with
  | markRunning | claimDelete _ | skipDelete _ | answerOwner _ | answerMonitor _ _ | answerEarly _ _
  | abandonDelete _ | claim _ _ | skip _ _ => cases he
  | _ => rfl

theorem teardown_change {l l' : Life} {e : LifeEvent} {effects : List LifeEffect}
    {te : TeardownEvent} (h : Change l e effects l') (he : teardownEvent? e = some te) :
    ∃ reply, Teardown.Change l.teardown te reply l'.teardown := by
  cases h with
  | markRunning =>
    cases he
    exact ⟨none, Teardown.change_of_step rfl⟩
  | claimDelete ht | claim _ ht =>
    cases he
    exact ⟨_, .claim ht⟩
  | skipDelete ht | skip _ ht =>
    cases he
    exact ⟨_, .skip ht⟩
  | answerOwner hc | answerMonitor hc _ | answerEarly hc _ =>
    cases he
    exact ⟨_, .answer hc⟩
  | abandonDelete hc =>
    cases he
    exact ⟨_, .abandon hc⟩
  | _ => cases he

/-- What a stage of the monitor says about the exit and about who waits for the teardown. -/
def Stands (l : Life) : MonitorStage → Prop
  | .published exit | .reported exit => l.exit = some exit ∧ .monitor ∉ l.teardown.inFlight
  | .deleting exit => l.exit = some exit ∧ .monitor ∈ l.teardown.inFlight
  | .finished => l.exit ≠ none ∧ .monitor ∉ l.teardown.inFlight ∧ l.state.isTornDown = true
  | _ => l.exit = none ∧ .monitor ∉ l.teardown.inFlight

/-- A node whose program runs has left its creation behind and has not failed to start. -/
structure Sound (l : Life) : Prop where
  teardown : l.teardown.Sound
  begun : l.state ≠ .created ∧ l.state ≠ .failed
  stage : l.Stands l.stage

/-- A stage stands as long as the exit and the monitor's place in the teardown stay. -/
theorem Stands.keep {l l' : Life} {stage : MonitorStage} (h : l.Stands stage)
    (hexit : l'.exit = l.exit)
    (hmonitor : .monitor ∈ l'.teardown.inFlight ↔ .monitor ∈ l.teardown.inFlight)
    (hdown : l.state.isTornDown = true → l'.state.isTornDown = true) : l'.Stands stage := by
  cases stage <;> simp only [Stands, hexit, hmonitor] at h ⊢
  case finished => exact ⟨h.1, h.2.1, hdown h.2.2⟩
  all_goals exact h

theorem isTornDown_change {t t' : Teardown} {e : TeardownEvent} {reply : Option Teardown.Reply}
    (h : Teardown.Change t e reply t') (ht : t.state.isTornDown = true) :
    t'.state.isTornDown = true := by
  cases h with
  | start hs | run hs | fail hs => rw [hs] at ht; cases ht
  | keep _ | skip _ | abandon _ => exact ht
  | claim _ | answer _ => rfl

theorem begun_change {t t' : Teardown} {e : TeardownEvent} {reply : Option Teardown.Reply}
    (h : Teardown.Change t e reply t') (hstart : e ≠ .markStarting) (hfail : e ≠ .markFailed)
    (ht : t.state ≠ .created ∧ t.state ≠ .failed) :
    t'.state ≠ .created ∧ t'.state ≠ .failed := by
  cases h with
  | start _ => exact absurd rfl hstart
  | fail _ => exact absurd rfl hfail
  | keep _ | skip _ | abandon _ => exact ht
  | run _ | claim _ | answer _ => exact ⟨nofun, nofun⟩

theorem sound_change {l l' : Life} {e : LifeEvent} {effects : List LifeEffect} (hs : l.Sound)
    (h : Change l e effects l') : l'.Sound := by
  obtain ⟨hteardown, hbegun, hstage⟩ := hs
  have hparts : l'.teardown.Sound ∧ (l'.state ≠ .created ∧ l'.state ≠ .failed) ∧
      (l.state.isTornDown = true → l'.state.isTornDown = true) := by
    cases he : teardownEvent? e with
    | none =>
      have heq := teardown_unchanged h he
      simp only [state, heq] at hbegun ⊢
      exact ⟨hteardown, hbegun, id⟩
    | some te =>
      obtain ⟨reply, hchange⟩ := teardown_change h he
      refine ⟨Teardown.sound_change hteardown hchange, begun_change hchange ?_ ?_ hbegun,
        isTornDown_change hchange⟩
      all_goals
        rintro rfl
        cases e <;> cases he
  obtain ⟨hteardown', hbegun', hdown⟩ := hparts
  refine ⟨hteardown', hbegun', ?_⟩
  cases h with
  | markRunning => exact hstage.keep rfl (by rw [Teardown.inFlight_markRunning]) hdown
  | askStop _ | dropHandle _ => exact hstage.keep rfl Iff.rfl id
  | claimDelete _ => exact hstage.keep rfl (by simp) hdown
  | skipDelete _ => exact hstage
  | answerOwner _ | abandonDelete _ =>
    exact hstage.keep rfl (List.mem_erase_of_ne (by simp)) hdown
  | answerMonitor hc hdeleting =>
    obtain ⟨hin, -⟩ := hteardown.inFlight_eq hc
    simp only [hdeleting, Stands] at hstage
    exact ⟨by simp [hstage.1], by simp [Teardown.answer, hin], rfl⟩
  | answerEarly hc hdeleting =>
    -- the monitor waits for a delete in no other stage
    cases hst : l.stage <;> simp_all [Stands]
  | @watch _ _ o hwatching _ _ =>
    rw [hwatching] at hstage
    cases o <;> exact hstage
  | judge hreaped =>
    rw [hreaped] at hstage
    exact hstage
  | publish hjudged =>
    rw [hjudged] at hstage
    exact ⟨rfl, hstage.2⟩
  | report hpublished =>
    rw [hpublished] at hstage
    exact hstage
  | claim hreported _ =>
    rw [hreported] at hstage
    exact ⟨hstage.1, List.mem_cons_self⟩
  | skip hreported ht =>
    rw [hreported] at hstage
    simp only [if_neg hstage.2]
    exact ⟨by simp [hstage.1], hstage.2, ht⟩

theorem sound_start (name : NodeName) (stopGrace : Nat) : Sound { name, stopGrace } where
  teardown := ⟨rfl, fun h => absurd rfl h, Nat.zero_le _⟩
  begun := ⟨nofun, nofun⟩
  stage := ⟨rfl, List.not_mem_nil⟩

theorem sound_run {name : NodeName} {stopGrace : Nat} {log : List Entry} {l : Life}
    (h : Run step { name, stopGrace } log l) : l.Sound :=
  h.always (sound_start name stopGrace) fun _ hs hstep => sound_change hs (change_of_step hstep)

end NodeWarden.Life
