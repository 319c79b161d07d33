import NodeWarden.Proofs.Exit

/-! The stages of a monitor. It passes them in order, each of them once, so the exit that is out
was judged by one step, and what is reported is reported by one step after that. -/

namespace NodeWarden

/-- How far the monitor is at a stage; a lost one has got nowhere. -/
def MonitorStage.place : MonitorStage → Nat
  | .watching | .lost => 0
  | .reaped _ => 1
  | .judged _ => 2
  | .published _ => 3
  | .reported _ => 4
  | .deleting _ | .finished => 5

namespace Life

variable {name : NodeName} {stopGrace n : Nat} {l l' start : Life} {e : LifeEvent}
  {effects : List LifeEffect} {log pre post : List Entry} {u : Entry} {x : NodeExit}

/-- The place that an event of the monitor leads on from. -/
def passes? : LifeEvent → Option Nat
  | .judge => some 1
  | .publish => some 2
  | .report => some 3
  | .claim => some 4
  | _ => none

/-- Past the watch, every place is left by an event of its own, for the next one. -/
theorem place_change (h : Change l e effects l') :
    (passes? e = some l.stage.place ∧ l'.stage.place = l.stage.place + 1) ∨
      (passes? e = none ∧ (l'.stage.place = l.stage.place ∨
        l.stage.place = 0 ∧ l'.stage.place ≤ 1)) := by
  cases h with
  | @watch _ _ o hst _ _ =>
    refine .inr ⟨rfl, .inr ⟨by rw [hst]; rfl, ?_⟩⟩
    cases o <;> simp [stageAfter, MonitorStage.place]
  | judge hst | publish hst | report hst | claim hst _ =>
    exact .inl ⟨by rw [hst]; rfl, by rw [hst]; rfl⟩
  | skip hst _ =>
    refine .inl ⟨by rw [hst]; rfl, ?_⟩
    rw [hst]
    dsimp only
    split <;> rfl
  | answerMonitor _ hst => exact .inr ⟨rfl, .inl (by rw [hst]; rfl)⟩
  | _ => exact .inr ⟨rfl, .inl rfl⟩

theorem place_run (h : Run step start log l) : start.stage.place ≤ l.stage.place := by
  refine h.always (P := fun l => start.stage.place ≤ l.stage.place) (Nat.le_refl _) ?_
  intro u hle hstep
  have hchange := place_change (change_of_step hstep)
  omega

/-- A place that is left is not left again. -/
theorem place_of_passes (h : Run step start log l) (hu : u ∈ log)
    (hpass : passes? u.event = some n) : start.stage.place ≤ n ∧ n < l.stage.place := by
  obtain ⟨pre, post, rfl⟩ := List.append_of_mem hu
  obtain ⟨hpre, hstep, hpost⟩ := h.cut
  have hbefore := place_run hpre
  have hafter := place_run hpost
  rcases place_change (change_of_step hstep) with ⟨hat, hnext⟩ | ⟨hnone, -⟩
  · rw [hpass, Option.some.injEq] at hat
    omega
  · rw [hpass] at hnone
    cases hnone

/-- A monitor that is past a place has left it by one step. -/
theorem passed_once (h : Run step { name, stopGrace } log l) (hn : 0 < n)
    (hlt : n < l.stage.place) :
    ∃ pre u post, log = pre ++ u :: post ∧ passes? u.event = some n ∧
      ∀ v ∈ pre ++ post, passes? v.event ≠ some n := by
  induction h with
  | nil => exact absurd hlt (Nat.not_lt_zero n)
  | @snoc log l l' e effects hrun hstep ih =>
    have hchange := place_change (change_of_step hstep)
    by_cases hbefore : n < l.stage.place
    · obtain ⟨pre, u, post, rfl, hu, honce⟩ := ih hbefore
      refine ⟨pre, u, post ++ [⟨l, e, effects, l'⟩], by simp, hu, ?_⟩
      intro v hv hpass
      rw [← List.append_assoc, List.mem_append] at hv
      rcases hv with hv | hv
      · exact honce v hv hpass
      · have hplace := place_of_passes (.snoc .nil hstep) hv hpass
        omega
    · -- the step itself leaves the place, and the run up to it has not
      obtain ⟨hpass, hnext⟩ | ⟨-, hsame⟩ := hchange
      · have hhere : l.stage.place = n := by omega
        rw [hhere] at hpass
        refine ⟨log, ⟨l, e, effects, l'⟩, [], rfl, hpass, ?_⟩
        intro v hv hpassed
        rw [List.append_nil] at hv
        exact hbefore (place_of_passes hrun hv hpassed).2
      · omega

/-! The exit that was judged. -/

/-- The monitor has judged the exit, whether or not it is out. -/
def Judged (l : Life) (x : NodeExit) : Prop := l.stage = .judged x ∨ l.exit = some x

theorem judged_change (hs : l.Sound) (h : Change l e effects l') (hx : l.Judged x) :
    l'.Judged x := by
  rcases hx with hst | hexit
  · cases h with
    | publish hj =>
      rw [hst] at hj
      cases hj
      exact .inr rfl
    | watch hj _ _ | judge hj | report hj | claim hj _ | skip hj _ | answerMonitor _ hj =>
      rw [hst] at hj
      cases hj
    | _ => exact .inl hst
  · exact .inr (exit_stays hs h hexit)

theorem judged_run (hs : start.Sound) (hx : start.Judged x) (h : Run step start log l) :
    l.Sound ∧ l.Judged x := by
  refine h.always (P := fun l => l.Sound ∧ l.Judged x) ⟨hs, hx⟩ ?_
  intro u hbefore hstep
  have hchange := change_of_step hstep
  exact ⟨sound_change hbefore.1 hchange, judged_change hbefore.1 hchange hbefore.2⟩

theorem exit_of_judged {y : NodeExit} (hs : l.Sound) (hx : l.Judged x) (hy : l.exit = some y) :
    x = y := by
  rcases hx with hst | hexit
  · have hstage := hs.stage
    rw [hst] at hstage
    rw [hstage.1] at hy
    cases hy
  · rw [hexit] at hy
    cases hy
    rfl

theorem place_of_exit (hs : l.Sound) (hx : l.exit = some x) : 2 < l.stage.place := by
  have hstage := hs.stage
  cases hst : l.stage with
  | watching | reaped _ | judged _ | lost =>
    rw [hst] at hstage
    rw [hstage.1] at hx
    cases hx
  | _ => simp [MonitorStage.place]

/-! What is reported. -/

def reported? : LifeEffect → Option NodeError
  | .report e => some e
  | _ => none

/-- The errors that were reported. -/
def reports (log : List Entry) : List NodeError := log.flatMap fun u => u.effect.filterMap reported?

theorem reports_append (log log' : List Entry) :
    reports (log ++ log') = reports log ++ reports log' :=
  List.flatMap_append

theorem reports_change (h : Change l e effects l') (he : e ≠ .report) :
    effects.filterMap reported? = [] := by
  cases h with
  | watch _ _ _ => exact filterMap_effectsOf (fun _ => rfl) rfl _ _
  | report _ => exact absurd rfl he
  | _ => rfl

theorem reports_nil (h : Run step start log l) (hno : ∀ u ∈ log, u.event ≠ .report) :
    reports log = [] := by
  rw [reports, List.flatMap_eq_nil_iff]
  intro u hu
  exact reports_change (change_of_step (h.step_of_mem hu)) (hno u hu)

theorem reports_of_report (h : Change l .report effects l') :
    ∃ y, l.stage = .published y ∧
      effects.filterMap reported? = (l.teardown.unexpected? l.name.text y).toList := by
  cases h with
  | @report y hst =>
    refine ⟨y, hst, ?_⟩
    cases hr : l.teardown.unexpected? l.name.text y <;> simp [reported?]

theorem event_eq_judge (hpass : passes? e = some 1) : e = .judge := by
  cases e <;> cases hpass
  rfl

theorem event_eq_report (hpass : passes? e = some 3) : e = .report := by
  cases e <;> cases hpass
  rfl

/-- The exit that is out was judged by one step of the monitor. -/
theorem judge_of_exit (h : Run step { name, stopGrace } log l) (hx : l.exit = some x) :
    ∃ pre u post, log = pre ++ u :: post ∧ u.event = .judge ∧
      (∀ v ∈ pre ++ post, v.event ≠ .judge) ∧ u.before.exit = none ∧
      ∃ ended, x = .ofEnd ended u.before.watch.readFault u.before.stopRequested := by
  have hplace := place_of_exit (sound_run h) hx
  obtain ⟨pre, u, post, rfl, hpass, honce⟩ := passed_once h (n := 1) (by decide) (by omega)
  obtain ⟨hpre, hstep, hpost⟩ := h.cut
  have hs := sound_run hpre
  have hchange := change_of_step hstep
  have hjudge := event_eq_judge hpass
  refine ⟨pre, u, post, rfl, hjudge, fun v hv he => honce v hv (by rw [he]; rfl), ?_⟩
  obtain ⟨before, event, effect, after⟩ := u
  dsimp only at hjudge hs hchange hpost
  subst hjudge
  cases hchange with
  | judge hst =>
    have hstage := hs.stage
    rw [hst] at hstage
    obtain ⟨hlast, hjudged⟩ := judged_run (sound_change hs (.judge hst)) (.inl rfl) hpost
    exact ⟨hstage.1, _, (exit_of_judged hlast hjudged hx).symm⟩

/-- Once the exit is out, it is still to be reported, or one step has decided about that. -/
theorem report_of_exit (h : Run step { name, stopGrace } log l) (hx : l.exit = some x) :
    (l.stage = .published x ∧ reports log = []) ∨
      ∃ pre u post, log = pre ++ u :: post ∧ u.event = .report ∧ u.before.exit = some x ∧
        reports log = reports [u] ∧
        reports [u] = (u.before.teardown.unexpected? name.text x).toList := by
  have hs := sound_run h
  have hplace := place_of_exit hs hx
  by_cases hlt : 3 < l.stage.place
  · obtain ⟨pre, u, post, rfl, hpass, honce⟩ := passed_once h (by decide) hlt
    obtain ⟨hpre, hstep, hpost⟩ := h.cut
    have hreport := event_eq_report hpass
    have hno : ∀ v ∈ pre ++ post, v.event ≠ .report := fun v hv he =>
      honce v hv (by rw [he]; rfl)
    refine .inr ⟨pre, u, post, rfl, hreport, ?_⟩
    obtain ⟨before, event, effect, after⟩ := u
    dsimp only at hreport hpre hstep hpost
    subst hreport
    have hbefore := sound_run hpre
    have hchange := change_of_step hstep
    obtain ⟨y, hst, heffect⟩ := reports_of_report hchange
    have hstage := hbefore.stage
    rw [hst] at hstage
    have hy := exit_run (sound_change hbefore hchange) (exit_stays hbefore hchange hstage.1) hpost
    obtain rfl : x = y := Option.some.inj (hx.symm.trans hy)
    refine ⟨hstage.1, ?_, ?_⟩
    · rw [reports_append, reports_nil hpre fun v hv => hno v (List.mem_append_left _ hv),
        ← List.singleton_append, reports_append,
        reports_nil hpost fun v hv => hno v (List.mem_append_right _ hv), List.nil_append,
        List.append_nil]
    · rw [(fixed_run hpre).1] at heffect
      simpa [reports] using heffect
  · have hstage := hs.stage
    refine .inl ⟨?_, reports_nil h fun u hu he => ?_⟩
    · cases hst : l.stage with
      | published y =>
        rw [hst] at hstage
        obtain rfl : x = y := Option.some.inj (hx.symm.trans hstage.1)
        rfl
      | _ =>
        simp only [hst, MonitorStage.place] at hplace hlt
        omega
    · exact hlt (place_of_passes h hu (by rw [he]; rfl)).2

end Life

end NodeWarden
