import NodeWarden.Proofs.Asked

/-! An end that nobody asked for. The monitor reports it once, when it comes to that, unless a
delete has claimed the teardown since the exit was judged: an owner who sees the exit and deletes
the node at once can be faster, and then nothing is reported. -/

namespace NodeWarden.Life

variable {name : NodeName} {stopGrace : Nat} {l l' : Life} {e : LifeEvent}
  {effects : List LifeEffect} {log pre post : List Entry} {u : Entry}

theorem issuers_append (log log' : List Entry) :
    issuers (log ++ log') = issuers log ++ issuers log' :=
  List.flatMap_append

/-- The monitor issues a delete nowhere but at its own call. -/
theorem claim_of_issueDelete (h : Change l e effects l')
    (hc : .monitor ∈ effects.filterMap issuer?) : e = .claim := by
  cases h with
  | claim _ _ => rfl
  | watch _ _ _ =>
    rw [filterMap_effectsOf (fun _ => rfl) rfl] at hc
    cases hc
  | @report exit _ =>
    cases hr : l.teardown.unexpected? l.name.text exit <;> simp [hr, issuer?] at hc
  | _ => simp [issuer?] at hc

/-- Until the monitor has reported, deletes are issued by owners. -/
theorem owner_of_issuer (h : Run step { name, stopGrace } log l) (hplace : l.stage.place ≤ 4)
    {c : Caller} (hc : c ∈ issuers log) : ∃ id, c = .owner id := by
  cases c with
  | owner id => exact ⟨id, rfl⟩
  | monitor =>
    obtain ⟨u, hu, hissuer⟩ := List.mem_flatMap.1 hc
    have hclaim := claim_of_issueDelete (change_of_step (h.step_of_mem hu)) hissuer
    have hpassed := place_of_passes h hu (n := 4) (by rw [hclaim]; rfl)
    omega

theorem issuers_nil_iff (h : Run step { name, stopGrace } log l) :
    issuers log = [] ↔ l.state.isTornDown = false := by
  have hs := sound_run h
  rw [← List.length_eq_zero_iff, issuers_run h]
  constructor
  · intro hissued
    cases hdown : l.state.isTornDown with
    | false => rfl
    | true =>
      rw [issued_of_isTornDown hs hdown] at hissued
      cases hissued
  · exact fun hup => (hs.teardown.fresh hup).2

/-- Nobody has called for a delete before an exit that was not asked for is judged. -/
theorem issuers_nil_of_unasked (h : Run step { name, stopGrace } log l)
    (hby : ∀ u ∈ log, ByHandle u) (hexit : l.exit = none) (hunasked : l.stopRequested = false) :
    issuers log = [] := by
  have hp := (prompted_run h hby).2
  rw [issuers_nil_iff h]
  cases hdown : l.state.isTornDown with
  | false => rfl
  | true =>
    rw [(stopRequested_iff hp hexit).2 (hp.down hexit hdown)] at hunasked
    cases hunasked

theorem effects_of_judge (h : Change l .judge effects l') : effects = [] := by
  cases h
  rfl

theorem place_of_report (h : Change l .report effects l') : l.stage.place = 3 := by
  rcases place_change h with ⟨hat, -⟩ | ⟨hnone, -⟩
  · exact (Option.some.inj hat).symm
  · cases hnone

/-- An exit that nobody asked for is still to be reported, which nothing can keep the monitor
from, or it came to the report after the exit was judged. If no delete was issued in between,
it is reported there, and only there; if an owner issued one in between, it never is. -/
theorem unasked_exit_reported (h : Run step { name, stopGrace } log l)
    (hby : ∀ u ∈ log, ByHandle u) :
    ∀ x ∈ published log, x.stopRequested = false →
      (l.stage = .published x ∧ reports log = [] ∧ (l.step .report).isSome = true) ∨
      ∃ pre j mid r post, log = pre ++ j :: mid ++ r :: post ∧ j.event = .judge ∧
        r.event = .report ∧ issuers pre = [] ∧ reports log = reports [r] ∧
        (issuers mid = [] ∧ reports log = [.exitedUnexpectedly name.text x] ∨
          (∃ id, issuers mid = [.owner id]) ∧ reports log = []) := by
  intro x hx hunasked
  rw [published_run h, Option.mem_toList] at hx
  rcases report_of_exit h hx with ⟨hst, hnone⟩ |
    ⟨before, r, post, rfl, hreport, hxr, hone, hreports⟩
  · exact .inl ⟨hst, hnone, by rw [step, hst]; rfl⟩
  · obtain ⟨hbefore, hstep, -⟩ := h.cut
    have hbybefore : ∀ v ∈ before, ByHandle v := fun v hv => hby v (List.mem_append_left _ hv)
    obtain ⟨pre, j, mid, rfl, hjudge, -, hexit, ended, rfl⟩ := judge_of_exit hbefore hxr
    obtain ⟨hpre, hstepj, -⟩ := hbefore.cut
    rw [stopRequested_ofEnd] at hunasked
    have hnobody := issuers_nil_of_unasked hpre
      (fun v hv => hbybefore v (List.mem_append_left _ hv)) hexit hunasked
    have hsilent : j.effect = [] := effects_of_judge (hjudge ▸ change_of_step hstepj)
    have hmid : issuers (pre ++ j :: mid) = issuers mid := by
      rw [issuers_append, hnobody, List.nil_append]
      simp [issuers, hsilent]
    have hplace := place_of_report (hreport ▸ change_of_step hstep)
    refine .inr ⟨pre, j, mid, r, post, rfl, hjudge, hreport, hnobody, hone, ?_⟩
    rw [hone, hreports, ← hmid]
    cases hdown : r.before.state.isTornDown with
    | false =>
      refine .inl ⟨(issuers_nil_iff hbefore).2 hdown, ?_⟩
      simp [Teardown.unexpected?, stopRequested_ofEnd, hunasked, show
        r.before.teardown.state.isTornDown = false from hdown]
    | true =>
      have hissued : (issuers (pre ++ j :: mid)).length = 1 := by
        rw [issuers_run hbefore, issued_of_isTornDown (sound_run hbefore) hdown]
      obtain ⟨c, hc⟩ := List.length_eq_one_iff.1 hissued
      obtain ⟨id, rfl⟩ := owner_of_issuer hbefore (by omega) (hc ▸ List.mem_singleton_self c)
      refine .inr ⟨⟨id, hc⟩, ?_⟩
      simp [Teardown.unexpected?, show r.before.teardown.state.isTornDown = true from hdown]

/-- The program crashes, and the owner, who has seen the exit, deletes the node after the monitor
has reported it. -/
def slowOwnerEvents : List LifeEvent :=
  [.markRunning, .watch (.finish .stdout), .watch (.finish .stderr),
    .watch (.reap (.ok (.code 3))), .judge, .publish, .report, .askStop, .callDelete 0, .claim,
    .answerDelete (.owner 0) (.ok ())]

theorem unasked_exit_reported_slow :
    ∃ log l x, play step { name := ⟨"n", by decide⟩, stopGrace := 0 } slowOwnerEvents =
        some (log, l) ∧ (∀ u ∈ log, ByHandle u) ∧ x ∈ published log ∧ x.stopRequested = false ∧
      issuers log = [.owner 0] ∧ reports log = [.exitedUnexpectedly "n" x] := by
  have hplay : play step { name := ⟨"n", by decide⟩, stopGrace := 0 } slowOwnerEvents =
      some (_, _) := rfl
  have hreported := unasked_exit_reported (.of_play hplay) (by simp [ByHandle])
    ⟨some 3, false, none, false⟩ List.mem_cons_self rfl
  refine ⟨_, _, ⟨some 3, false, none, false⟩, hplay, by simp [ByHandle], List.mem_cons_self, rfl,
    rfl, ?_⟩
  rcases hreported with ⟨hst, -, -⟩ | ⟨_, _, mid, _, _, -, -, -, -, -, hend⟩
  · cases hst
  · rcases hend with ⟨-, hone⟩ | ⟨-, hnone⟩
    · exact hone
    · cases hnone

/-- The same owner, called up by the publication of the exit, is faster than the monitor. -/
def fastOwnerEvents : List LifeEvent :=
  [.markRunning, .watch (.finish .stdout), .watch (.finish .stderr),
    .watch (.reap (.ok (.code 3))), .judge, .publish, .askStop, .callDelete 0, .report, .claim,
    .answerDelete (.owner 0) (.ok ())]

/-- A crash that is out and that nobody asked for is never reported. -/
theorem crash_unreported :
    ∃ log l, play step { name := ⟨"n", by decide⟩, stopGrace := 0 } fastOwnerEvents =
        some (log, l) ∧ (∀ u ∈ log, ByHandle u) ∧
      published log = [⟨some 3, false, none, false⟩] ∧ l.stage = .finished ∧
      l.state = .deleted ∧ l.teardown.inFlight = [] ∧ reports log = [] :=
  ⟨_, _, rfl, by simp [ByHandle], rfl, rfl, rfl, rfl, rfl⟩

end NodeWarden.Life
