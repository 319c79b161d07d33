import NodeWarden.Proofs.Run
import NodeWarden.Teardown

/-! The external delete of a node. However its callers, its marks and the answers of the
control plane follow each other, at most one external delete is issued: one is out or has
been as soon as the node is being torn down, and it is the call that moved the node there
which gets its answer. -/

namespace NodeWarden.Teardown

abbrev Reply := Caller × DeleteResult

abbrev Entry := Step Teardown TeardownEvent (Option Reply)

/-- What an event does, guards included. -/
inductive Change (t : Teardown) : TeardownEvent → Option Reply → Teardown → Prop
  | start : t.state = .created → Change t .markStarting none { t with state := .starting }
  | run : t.state = .starting → Change t .markRunning none { t with state := .running }
  | fail : t.state = .starting → Change t .markFailed none { t with state := .failed }
  | keep {e : TeardownEvent} : e = .markStarting ∨ e = .markRunning ∨ e = .markFailed →
      Change t e none t
  | claim {c : Caller} : t.state.isTornDown = false →
      Change t (.call c) none ⟨.deleting, c :: t.inFlight, t.issued + 1⟩
  | skip {c : Caller} : t.state.isTornDown = true → Change t (.call c) (some (c, .ok ())) t
  | answer {c : Caller} {r : DeleteResult} : c ∈ t.inFlight →
      Change t (.answer c r) (some (c, r)) ⟨.deleted, t.inFlight.erase c, t.issued⟩
  | abandon {c : Caller} : c ∈ t.inFlight →
      Change t (.abandon c) none ⟨t.state, t.inFlight.erase c, t.issued⟩

theorem call_claims {t : Teardown} (h : t.state.isTornDown = false) (c : Caller) :
    t.call c = (⟨.deleting, c :: t.inFlight, t.issued + 1⟩, true) := by
  rw [Teardown.call, if_neg (by simp [h])]

theorem call_skips {t : Teardown} (h : t.state.isTornDown = true) (c : Caller) :
    t.call c = (t, false) := if_pos h

theorem inFlight_markRunning (t : Teardown) : t.markRunning.1.inFlight = t.inFlight := by
  unfold markRunning move
  split <;> rfl

theorem issued_markRunning (t : Teardown) : t.markRunning.1.issued = t.issued := by
  unfold markRunning move
  split <;> rfl

theorem change_of_step {t t' : Teardown} {e : TeardownEvent} {reply : Option Reply}
    (h : t.step e = some (t', reply)) : Change t e reply t' := by
  cases e with
  | markStarting =>
    by_cases hs : t.state = .created <;> simp [step, markStarting, move, hs] at h <;>
      obtain ⟨rfl, rfl⟩ := h
    · exact .start hs
    · exact .keep (.inl rfl)
  | markRunning =>
    by_cases hs : t.state = .starting <;> simp [step, markRunning, move, hs] at h <;>
      obtain ⟨rfl, rfl⟩ := h
    · exact .run hs
    · exact .keep (.inr (.inl rfl))
  | markFailed =>
    by_cases hs : t.state = .starting <;> simp [step, markFailed, move, hs] at h <;>
      obtain ⟨rfl, rfl⟩ := h
    · exact .fail hs
    · exact .keep (.inr (.inr rfl))
  | call c =>
    cases hs : t.state.isTornDown with
    | true =>
      simp only [step, call_skips hs, Option.some.injEq, Prod.mk.injEq] at h
      obtain ⟨rfl, rfl⟩ := h
      exact .skip hs
    | false =>
      simp only [step, call_claims hs, Option.some.injEq, Prod.mk.injEq] at h
      obtain ⟨rfl, rfl⟩ := h
      exact .claim hs
  | answer c r =>
    by_cases hc : c ∈ t.inFlight <;> simp [step, Teardown.answer, hc] at h
    obtain ⟨rfl, rfl⟩ := h
    exact .answer hc
  | abandon c =>
    by_cases hc : c ∈ t.inFlight <;> simp [step, Teardown.abandon, hc] at h
    obtain ⟨rfl, rfl⟩ := h
    exact .abandon hc

/-- One external delete was issued if the node is going or gone, and none before; it is out
only while the node is going. -/
structure Sound (t : Teardown) : Prop where
  issued : t.issued = if t.state = .deleting ∨ t.state = .deleted then 1 else 0
  going : t.inFlight ≠ [] → t.state = .deleting
  alone : t.inFlight.length ≤ t.issued

theorem Sound.inFlight_eq {t : Teardown} (h : t.Sound) {c : Caller} (hc : c ∈ t.inFlight) :
    t.inFlight = [c] ∧ t.state = .deleting ∧ t.issued = 1 := by
  have hstate := h.going (List.ne_nil_of_mem hc)
  have hissued : t.issued = 1 := by rw [h.issued, if_pos (.inl hstate)]
  obtain ⟨d, hd⟩ := List.length_eq_one_iff.1
    (Nat.le_antisymm (hissued ▸ h.alone) (List.length_pos_of_mem hc))
  rw [hd, List.mem_singleton] at hc
  exact ⟨by rw [hd, hc], hstate, hissued⟩

theorem Sound.fresh {t : Teardown} (h : t.Sound) (ht : t.state.isTornDown = false) :
    t.inFlight = [] ∧ t.issued = 0 := by
  have hissued : t.issued = 0 := by
    rw [h.issued, if_neg]
    rintro (hs | hs) <;> rw [hs] at ht <;> cases ht
  exact ⟨List.eq_nil_of_length_eq_zero (Nat.le_zero.1 (hissued ▸ h.alone)), hissued⟩

theorem sound_change {t t' : Teardown} {e : TeardownEvent} {reply : Option Reply} (h : t.Sound)
    (hc : Change t e reply t') : t'.Sound := by
  cases hc with
  | start hs | run hs | fail hs =>
    obtain ⟨hin, hissued⟩ := h.fresh (by rw [hs]; rfl)
    exact ⟨by simp [hissued], fun hne => absurd hin hne, by simp [hin]⟩
  | keep _ => exact h
  | claim ht =>
    obtain ⟨hin, hissued⟩ := h.fresh ht
    exact ⟨by simp [hissued], fun _ => rfl, by simp [hin]⟩
  | skip _ => exact h
  | answer hc =>
    obtain ⟨hin, -, hissued⟩ := h.inFlight_eq hc
    exact ⟨by simp [hissued], fun hne => absurd (by simp [hin]) hne, by simp [hin]⟩
  | abandon hc =>
    obtain ⟨hin, hs, hissued⟩ := h.inFlight_eq hc
    exact ⟨by simp [hs, hissued], fun _ => hs, by simp [hin]⟩

theorem sound_created : Sound {} := ⟨rfl, fun h => absurd rfl h, Nat.zero_le _⟩

theorem sound_run {log : List Entry} {t : Teardown} (h : Run step {} log t) : t.Sound :=
  h.always sound_created fun _ hs hstep => sound_change hs (change_of_step hstep)

/-! Who issued the external delete, and what became of it. -/

def claimer? (u : Entry) : Option Caller :=
  match u.event, u.effect with
  | .call c, none => some c
  | _, _ => none

def answer? (u : Entry) : Option Reply :=
  match u.event with
  | .answer c r => some (c, r)
  | _ => none

def leaver? (u : Entry) : Option Caller :=
  match u.event with
  | .abandon c => some c
  | _ => none

/-- The callers whose call was not answered at once. -/
def claimers (log : List Entry) : List Caller := log.filterMap claimer?

/-- The answers of the control plane, each with the caller that waited for it. -/
def answers (log : List Entry) : List Reply := log.filterMap answer?

/-- The callers who gave up waiting. -/
def leavers (log : List Entry) : List Caller := log.filterMap leaver?

@[simp] theorem claimers_snoc (log : List Entry) (u : Entry) :
    claimers (log ++ [u]) = claimers log ++ (claimer? u).toList := filterMap_snoc claimer? log u

@[simp] theorem answers_snoc (log : List Entry) (u : Entry) :
    answers (log ++ [u]) = answers log ++ (answer? u).toList := filterMap_snoc answer? log u

@[simp] theorem leavers_snoc (log : List Entry) (u : Entry) :
    leavers (log ++ [u]) = leavers log ++ (leaver? u).toList := filterMap_snoc leaver? log u

/-- The step is the call that moves the node into its teardown and issues the external delete. -/
def Claims (u : Entry) (c : Caller) : Prop :=
  u.before.state.isTornDown = false ∧ u.after.state = .deleting ∧
    u.after.issued = u.before.issued + 1 ∧ u.effect = none ∧ c ∈ u.after.inFlight

/-- The step is a call that is told at once that all is well; nothing is changed or issued. -/
def Skips (u : Entry) (c : Caller) : Prop :=
  u.before.state.isTornDown = true ∧ u.after = u.before ∧ u.effect = some (c, .ok ())

theorem claims_or_skips {t t' : Teardown} {c : Caller} {reply : Option Reply}
    (h : Change t (.call c) reply t') :
    Claims ⟨t, .call c, reply, t'⟩ c ∨ Skips ⟨t, .call c, reply, t'⟩ c := by
  cases h with
  | keep hm => simp at hm
  | claim ht => exact .inl ⟨ht, rfl, rfl, rfl, List.mem_cons_self⟩
  | skip ht => exact .inr ⟨ht, rfl, rfl⟩

theorem effect_of_answer {t t' : Teardown} {c : Caller} {r : DeleteResult} {reply : Option Reply}
    (h : Change t (.answer c r) reply t') : reply = some (c, r) := by
  cases h with
  | keep hm => simp at hm
  | answer _ => rfl

/-- Whoever issued an external delete waits for it, was answered or gave up. -/
structure Accounted (log : List Entry) (t : Teardown) : Prop where
  number : (claimers log).length = t.issued
  fates : claimers log = t.inFlight ++ ((answers log).map (·.1) ++ leavers log)

theorem Accounted.silent {log : List Entry} {t : Teardown} (h : Accounted log t)
    (hin : t.inFlight = []) (hissued : t.issued = 0) :
    claimers log = [] ∧ answers log = [] ∧ leavers log = [] := by
  have hnil := List.eq_nil_of_length_eq_zero (h.number.trans hissued)
  have hrest := h.fates
  rw [hnil, hin, List.nil_append] at hrest
  obtain ⟨ha, hl⟩ := List.append_eq_nil_iff.1 hrest.symm
  exact ⟨hnil, List.map_eq_nil_iff.1 ha, hl⟩

theorem Accounted.waiting {log : List Entry} {t : Teardown} {c : Caller} (h : Accounted log t)
    (hin : t.inFlight = [c]) (hissued : t.issued = 1) :
    claimers log = [c] ∧ answers log = [] ∧ leavers log = [] := by
  have hfates := h.fates
  have hnumber := h.number
  rw [hin] at hfates
  rw [hfates, hissued, List.length_append, List.length_singleton] at hnumber
  have hrest := List.eq_nil_of_length_eq_zero (Nat.add_left_cancel hnumber)
  obtain ⟨ha, hl⟩ := List.append_eq_nil_iff.1 hrest
  exact ⟨by rw [hfates, hrest]; rfl, List.map_eq_nil_iff.1 ha, hl⟩

theorem accounted_change {log : List Entry} {t t' : Teardown} {e : TeardownEvent}
    {reply : Option Reply} (hs : t.Sound) (h : Accounted log t) (hc : Change t e reply t') :
    Accounted (log ++ [⟨t, e, reply, t'⟩]) t' := by
  cases hc with
  | start _ | run _ | fail _ | skip _ =>
    exact ⟨by simpa [claimer?] using h.number, by simpa [claimer?, answer?, leaver?] using h.fates⟩
  | keep hm =>
    rcases hm with rfl | rfl | rfl <;>
      exact ⟨by simpa [claimer?] using h.number,
        by simpa [claimer?, answer?, leaver?] using h.fates⟩
  | claim ht =>
    obtain ⟨hin, hissued⟩ := hs.fresh ht
    obtain ⟨hclaimers, hanswers, hleavers⟩ := h.silent hin hissued
    exact ⟨by simp [claimer?, hclaimers, hissued],
      by simp [claimer?, answer?, leaver?, hclaimers, hanswers, hleavers, hin]⟩
  | answer hc | abandon hc =>
    obtain ⟨hin, -, hissued⟩ := hs.inFlight_eq hc
    obtain ⟨hclaimers, hanswers, hleavers⟩ := h.waiting hin hissued
    exact ⟨by simp [claimer?, hclaimers, hissued],
      by simp [claimer?, answer?, leaver?, hclaimers, hanswers, hleavers, hin]⟩

theorem accounted_run {log : List Entry} {t : Teardown} (h : Run step {} log t) : Accounted log t := by
  induction h with
  | nil => exact ⟨rfl, rfl⟩
  | snoc hrun hstep ih => exact accounted_change (sound_run hrun) ih (change_of_step hstep)

/-- Whatever result the external delete comes to, the caller that waits for it is given it. -/
theorem step_answer {t : Teardown} {c : Caller} (hc : c ∈ t.inFlight) (r : DeleteResult) :
    t.step (.answer c r) = some (t.answer c, some (c, r)) := if_pos hc

/-- At most one external delete is issued: none before the node is being torn down and one from
then on. A call either claims the teardown or is told at once that all is well. The one
caller that claimed it waits, has given up or was given the result of the external delete. -/
theorem one_external_delete {log : List Entry} {t : Teardown} (h : Run step {} log t) :
    (t.issued ≤ 1 ∧ (t.issued = 1 ↔ t.state = .deleting ∨ t.state = .deleted) ∧
      (t.issued = 0 ↔ t.state = .created ∨ t.state = .starting ∨ t.state = .running ∨
        t.state = .failed)) ∧
    (∀ u ∈ log, ∀ c, u.event = .call c → Claims u c ∨ Skips u c) ∧
    ((claimers log).length = t.issued ∧
      claimers log = t.inFlight ++ ((answers log).map (·.1) ++ leavers log)) ∧
    (∀ u ∈ log, ∀ c r, u.event = .answer c r → u.effect = some (c, r)) ∧
    ∀ c ∈ t.inFlight, ∀ r, t.step (.answer c r) = some (t.answer c, some (c, r)) := by
  have hs := sound_run h
  have ha := accounted_run h
  have hchange : ∀ u ∈ log, Change u.before u.event u.effect u.after := fun u hu =>
    change_of_step (h.step_of_mem hu)
  refine ⟨⟨?_, ?_, ?_⟩, ?_, ⟨ha.number, ha.fates⟩, ?_, fun c hc r => step_answer hc r⟩
  · rw [hs.issued]; split <;> omega
  · rw [hs.issued]; split <;> simp_all
  · rw [hs.issued]; cases t.state <;> simp
  · rintro ⟨before, event, effect, after⟩ hu c rfl
    exact claims_or_skips (hchange _ hu)
  · rintro ⟨before, event, effect, after⟩ hu c r rfl
    exact effect_of_answer (hchange _ hu)

/-- Three callers and the exit of the program, with an external delete that fails. -/
def crowdedEvents : List TeardownEvent :=
  [.markStarting, .call (.owner 0), .call .monitor, .markRunning, .call (.owner 1),
    .answer (.owner 0) (.error (.listFailed "down")), .call (.owner 2)]

theorem one_external_delete_crowded :
    ∃ log t, play step {} crowdedEvents = some (log, t) ∧
      t.state = .deleted ∧ t.issued = 1 ∧ claimers log = [.owner 0] ∧
      answers log = [(.owner 0, .error (.listFailed "down"))] ∧
      (∀ u ∈ log, ∀ c, u.event = .call c → Claims u c ∨ Skips u c) ∧
      claimers log = t.inFlight ++ ((answers log).map (·.1) ++ leavers log) := by
  have hplay : play step {} crowdedEvents = some (_, _) := rfl
  obtain ⟨⟨-, hissued, -⟩, hcalls, ⟨-, hfates⟩, -⟩ := one_external_delete (.of_play hplay)
  exact ⟨_, _, hplay, rfl, hissued.2 (.inr rfl), rfl, rfl, hcalls, hfates⟩

end NodeWarden.Teardown
