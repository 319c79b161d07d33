/-! Runs of a machine that takes one event at a time: the steps taken, each between two
states. What every step preserves holds after a run, and a run can be cut at any of its
steps into two runs. -/

namespace NodeWarden

/-- The state a step was taken in, the event, what the step did, and the state it led to. -/
structure Step (σ ε ω : Type) where
  before : σ
  event : ε
  effect : ω
  after : σ

variable {σ ε ω : Type} {step : σ → ε → Option (σ × ω)}

/-- The steps by which a machine gets from one state to another. -/
inductive Run (step : σ → ε → Option (σ × ω)) (start : σ) : List (Step σ ε ω) → σ → Prop
  | nil : Run step start [] start
  | snoc {log : List (Step σ ε ω)} {s s' : σ} {e : ε} {o : ω} : Run step start log s →
      step s e = some (s', o) → Run step start (log ++ [⟨s, e, o, s'⟩]) s'

/-- Takes events in order, if every one of them can happen. -/
def play (step : σ → ε → Option (σ × ω)) : σ → List ε → Option (List (Step σ ε ω) × σ)
  | s, [] => some ([], s)
  | s, e :: es =>
    match step s e with
    | none => none
    | some (s', o) => (play step s' es).map fun (log, last) => (⟨s, e, o, s'⟩ :: log, last)

theorem filterMap_snoc {α β : Type} (f : α → Option β) (log : List α) (u : α) :
    (log ++ [u]).filterMap f = log.filterMap f ++ (f u).toList := by
  cases h : f u <;> simp [h]

namespace Run

variable {start s : σ} {log pre post : List (Step σ ε ω)} {u : Step σ ε ω}

theorem cons {s' : σ} {e : ε} {o : ω} (hstep : step start e = some (s', o))
    (h : Run step s' log s) : Run step start (⟨start, e, o, s'⟩ :: log) s := by
  induction h with
  | nil => exact Run.snoc .nil hstep
  | snoc _ hlast ih => exact ih.snoc hlast

theorem append {s' : σ} {log' : List (Step σ ε ω)} (h : Run step start log s)
    (h' : Run step s log' s') : Run step start (log ++ log') s' := by
  induction h' with
  | nil => rwa [List.append_nil]
  | snoc _ hlast ih =>
    rw [← List.append_assoc]
    exact ih.snoc hlast

theorem of_play {es : List ε} (h : play step start es = some (log, s)) : Run step start log s := by
  induction es generalizing start log with
  | nil =>
    cases h
    exact .nil
  | cons e es ih =>
    rw [play] at h
    split at h
    · cases h
    · rename_i hstep
      obtain ⟨⟨rest, last⟩, hrest, heq⟩ := Option.map_eq_some_iff.1 h
      cases heq
      exact cons hstep (ih hrest)

/-- A run up to a step, the step, and the run from there. -/
theorem cut (h : Run step start (pre ++ u :: post) s) :
    Run step start pre u.before ∧ step u.before u.event = some (u.after, u.effect) ∧
      Run step u.after post s := by
  generalize hlog : pre ++ u :: post = log at h
  induction h generalizing post with
  | nil => exact absurd hlog (by simp)
  | snoc hrun hstep ih =>
    rcases List.eq_nil_or_concat post with rfl | ⟨rest, v, rfl⟩
    · obtain ⟨rfl, hu⟩ := List.append_inj' hlog rfl
      cases hu
      exact ⟨hrun, hstep, .nil⟩
    · rw [List.concat_eq_append, ← List.cons_append, ← List.append_assoc] at hlog
      obtain ⟨hpre, hv⟩ := List.append_inj' hlog rfl
      cases hv
      obtain ⟨hbefore, hu, hafter⟩ := ih hpre
      rw [List.concat_eq_append]
      exact ⟨hbefore, hu, hafter.snoc hstep⟩

theorem step_of_mem (h : Run step start log s) (hu : u ∈ log) :
    step u.before u.event = some (u.after, u.effect) := by
  obtain ⟨pre, post, rfl⟩ := List.append_of_mem hu
  exact h.cut.2.1

/-- What the steps of some kind preserve holds after a run of such steps. -/
theorem invariant {A : Step σ ε ω → Prop} {P : σ → Prop} (h0 : P start)
    (hP : ∀ u : Step σ ε ω, A u → P u.before → step u.before u.event = some (u.after, u.effect) →
      P u.after)
    (h : Run step start log s) (hA : ∀ u ∈ log, A u) : P s := by
  induction h with
  | nil => exact h0
  | @snoc log t t' e o _ hstep ih =>
    have ht := ih fun u hu => hA u (List.mem_append_left _ hu)
    exact hP ⟨t, e, o, t'⟩ (hA _ (by simp)) ht hstep

/-- What every step preserves holds after every run. -/
theorem always {P : σ → Prop} (h0 : P start)
    (hP : ∀ u : Step σ ε ω, P u.before → step u.before u.event = some (u.after, u.effect) →
      P u.after)
    (h : Run step start log s) : P s :=
  h.invariant (A := fun _ => True) h0 (fun u _ => hP u) fun _ _ => trivial

/-- What a run is to a part of the machine, if some steps are steps of the part and all others leave
it as it is. -/
theorem project {σ' ε' ω' : Type} {step' : σ' → ε' → Option (σ' × ω')} (part : σ → σ')
    (part? : Step σ ε ω → Option (Step σ' ε' ω'))
    (hpart : ∀ u : Step σ ε ω, step u.before u.event = some (u.after, u.effect) →
      (part? u = none ∧ part u.after = part u.before) ∨
      ∃ e o, part? u = some ⟨part u.before, e, o, part u.after⟩ ∧
        step' (part u.before) e = some (part u.after, o))
    (h : Run step start log s) : Run step' (part start) (log.filterMap part?) (part s) := by
  induction h with
  | nil => exact .nil
  | @snoc log t t' e o _ hstep ih =>
    rw [filterMap_snoc]
    rcases hpart ⟨t, e, o, t'⟩ hstep with ⟨hnone, hsame⟩ | ⟨e', o', hsome, hstep'⟩
    · rw [hnone, hsame, Option.toList_none, List.append_nil]
      exact ih
    · rw [hsome, Option.toList_some]
      exact ih.snoc hstep'

end Run

end NodeWarden
