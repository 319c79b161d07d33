import Mathlib.Logic.Basic
import NodeWarden.Proofs.Teardown

/-! An external delete whose caller gives up waiting, as one does that has set itself a deadline.
Nobody is left to note that the node is deleted: it is going for good, with nothing in flight,
and every later call is told that all is well. While nobody gives up, the node is going just as
long as its external delete is in flight. -/

namespace NodeWarden.Teardown

variable {log later : List Entry} {t t' : Teardown} {e : TeardownEvent} {reply : Option Reply}
  {c : Caller}

/-- Going, with nobody left who could end that. -/
def Stranded (t : Teardown) : Prop := t.state = .deleting ∧ t.inFlight = []

theorem stranded_change (hs : t.Sound) (h : Change t e reply t') :
    t'.Stranded ↔ t.Stranded ∨ ∃ c, e = .abandon c := by
  unfold Stranded
  cases h with
  | start hat | run hat | fail hat => simp [hat]
  | keep hm => rcases hm with rfl | rfl | rfl <;> simp
  | claim hup =>
    have hat : t.state ≠ .deleting := by
      intro hgoing
      rw [hgoing] at hup
      cases hup
    simp [hat]
  | skip _ => simp
  | answer hc =>
    -- its caller was still waiting, so the node was not stranded before
    obtain ⟨hin, -, -⟩ := hs.inFlight_eq hc
    simp [hin]
  | abandon hc =>
    obtain ⟨hin, hgoing, -⟩ := hs.inFlight_eq hc
    simp [hin, hgoing]

theorem leaver?_ne_none (u : Entry) : leaver? u ≠ none ↔ ∃ c, u.event = .abandon c := by
  unfold leaver?
  cases u.event <;> simp

theorem stranded_run (h : Run step {} log t) : t.Stranded ↔ leavers log ≠ [] := by
  induction h with
  | nil => simp [Stranded, leavers]
  | snoc hrun hstep ih =>
    rw [stranded_change (sound_run hrun) (change_of_step hstep), ih, leavers_snoc]
    simp only [ne_eq, List.append_eq_nil_iff, Option.toList_eq_nil_iff, not_and_or]
    exact or_congr_right (leaver?_ne_none ⟨_, _, _, _⟩).symm

/-- The node is going while its external delete is in flight, and if a caller gave up, for good. -/
theorem going_iff (h : Run step {} log t) :
    t.state = .deleting ↔ t.inFlight ≠ [] ∨ leavers log ≠ [] := by
  rw [← stranded_run h]
  constructor
  · intro hgoing
    by_cases hin : t.inFlight = []
    · exact .inr ⟨hgoing, hin⟩
    · exact .inl hin
  · rintro (hin | ⟨hgoing, -⟩)
    · exact (sound_run h).going hin
    · exact hgoing

/-- No event moves a stranded node, and a call is told that all is well. -/
theorem Stranded.stays (h : t.Stranded) (hc : Change t e reply t') :
    t' = t ∧ ∀ c, e = .call c → reply = some (c, .ok ()) := by
  obtain ⟨hgoing, hin⟩ := h
  cases hc with
  | start hat | run hat | fail hat =>
    rw [hgoing] at hat
    cases hat
  | keep hm => exact ⟨rfl, fun c hc => by rcases hm with rfl | rfl | rfl <;> cases hc⟩
  | claim hup =>
    rw [hgoing] at hup
    cases hup
  | skip _ => exact ⟨rfl, fun c hc => by cases hc; rfl⟩
  | answer hc | abandon hc =>
    rw [hin] at hc
    cases hc

theorem stranded_for_good (h : t.Stranded) (hrun : Run step t later t') :
    t' = t ∧ ∀ u ∈ later, ∀ c, u.event = .call c → u.effect = some (c, .ok ()) := by
  induction hrun with
  | nil => exact ⟨rfl, fun u hu => nomatch hu⟩
  | snoc _ hstep ih =>
    obtain ⟨rfl, hcalls⟩ := ih
    obtain ⟨rfl, hcall⟩ := h.stays (change_of_step hstep)
    refine ⟨rfl, fun u hu => ?_⟩
    rcases List.mem_append.1 hu with hu | hu
    · exact hcalls u hu
    · rw [List.mem_singleton.1 hu]
      exact hcall

/-- An owner whose deadline passes while the external delete is pending. -/
example : ∃ log t, play step {} [.markStarting, .markRunning, .call (.owner 0), .abandon (.owner 0),
    .call .monitor] = some (log, t) ∧ t.Stranded :=
  ⟨_, _, rfl, rfl, rfl⟩

end NodeWarden.Teardown
