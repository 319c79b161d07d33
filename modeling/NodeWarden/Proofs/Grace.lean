import NodeWarden.Proofs.Crash
import NodeWarden.Proofs.Deadline
import NodeWarden.Proofs.Numeral

/-! Whether the monitor of a node survives a stop. The grace is any number of seconds that fits in
64 bits, and a deadline that is past the clock's last second cannot be told. Where the deadline
can be told, the monitor goes on to the exit and the delete. Where it cannot, the monitor is
lost there and takes the program with it: no exit is published, and it issues no delete. -/

namespace NodeWarden

namespace Settings

variable {isFile : String → Bool} {lookup : String → Option String} {s : Settings}

theorem seconds_of_readStopGrace {value : Option String} {grace : Nat}
    (h : readStopGrace value = .ok grace) :
    ∃ secs < UInt64.size, grace = secs * nanosPerSecond := by
  cases value with
  | none =>
    cases h
    exact ⟨5, by decide, rfl⟩
  | some value =>
    cases hsecs : readSeconds (trimChars value.toList) with
    | error e => simp [readStopGrace, hsecs] at h
    | ok secs =>
      have hle := le_of_readNumeral hsecs
      simp only [readStopGrace, hsecs, Except.ok.injEq] at h
      exact ⟨secs, Nat.lt_succ_of_le hle, h.symm⟩

/-- The grace of settings that are accepted is some seconds that fit in 64 bits. -/
theorem seconds_of_ofVariables (h : ofVariables isFile lookup = .ok s) :
    ∃ secs < UInt64.size, s.stopGrace = secs * nanosPerSecond := by
  obtain ⟨layout, grace, -, hgrace, rfl⟩ := ofVariables_eq_ok_iff.1 h
  exact seconds_of_readStopGrace hgrace

end Settings

/-- A time that is some whole seconds later can be told while its seconds fit in 63 bits. -/
theorem lt_clockLimit_iff (now secs : Nat) :
    now + secs * nanosPerSecond < clockLimit ↔ now / nanosPerSecond + secs < 0x8000000000000000 := by
  rw [clockLimit, ← Nat.div_lt_iff_lt_mul (by decide), Nat.add_mul_div_right _ _ (by decide)]

theorem Watch.stopSeen_stays {grace : Nat} {w w' : Watch} {e : WatchEvent} {o : WatchOutcome}
    (h : Change grace w e o w') (hseen : w.stopSeen = true) : w'.stopSeen = true := by
  cases h with
  | stop _ _ => rfl
  | _ => simpa [arrive] using hseen

namespace Life

variable {name : NodeName} {stopGrace : Nat} {l l' m : Life} {e : LifeEvent}
  {effects : List LifeEffect} {log : List Entry} {x : NodeExit}

/-! A monitor that is lost. -/

theorem lost_change (hlost : l.stage = .lost) (h : Change l e effects l') :
    l'.stage = .lost ∧ l'.exit = l.exit ∧ .monitor ∉ effects.filterMap issuer? := by
  refine ⟨?_, ?_, ?_⟩
  · cases h with
    | watch hst _ _ | answerMonitor _ hst | judge hst | publish hst | report hst | claim hst _
    | skip hst _ =>
      rw [hlost] at hst
      cases hst
    | _ => exact hlost
  · cases h with
    | publish hst =>
      rw [hlost] at hst
      cases hst
    | _ => rfl
  · intro hissued
    obtain rfl := claim_of_issueDelete h hissued
    cases h with
    | claim hst _ | skip hst _ =>
      rw [hlost] at hst
      cases hst

theorem lost_run (hlost : l.stage = .lost) (hexit : l.exit = none) (h : Run step l log m) :
    m.stage = .lost ∧ m.exit = none ∧ .monitor ∉ issuers log := by
  induction h with
  | nil => exact ⟨hlost, hexit, List.not_mem_nil⟩
  | snoc _ hstep ih =>
    obtain ⟨hst, hnone, hissuers⟩ := ih
    obtain ⟨hst', hsame, hissuer⟩ := lost_change hst (change_of_step hstep)
    refine ⟨hst', hsame.trans hnone, ?_⟩
    rw [issuers_append, List.mem_append, not_or]
    exact ⟨hissuers, by simpa [issuers] using hissuer⟩

/-! A monitor that has handled a stop. -/

/-- The monitor has handled a stop and was not lost by that. -/
structure Survived (l : Life) : Prop where
  sound : l.Sound
  seen : l.watch.stopSeen = true
  stage : l.stage ≠ .lost

theorem survived_change (hs : l.Survived) (h : Change l e effects l') : l'.Survived := by
  refine ⟨sound_change hs.sound h, ?_, not_lost_change h ?_ hs.stage⟩
  · cases h with
    | watch _ _ hwatch => exact Watch.stopSeen_stays (Watch.change_of_step hwatch) hs.seen
    | _ => exact hs.seen
  · -- a second stop is never handled, whatever its deadline would be
    rintro now rfl
    cases h with
    | watch _ _ hwatch =>
      have hunseen := Watch.unseen_of_noticeStop (Watch.change_of_step hwatch)
      rw [hs.seen] at hunseen
      cases hunseen

theorem survived_run (hs : l.Survived) (h : Run step l log m) : m.Survived :=
  h.always hs fun _ hbefore hstep => survived_change hbefore (change_of_step hstep)

/-! Its way to the end. -/

/-- There is a way for the monitor to finish. -/
def CanFinish (l : Life) : Prop := ∃ log m, Run step l log m ∧ m.isFinished = true

theorem CanFinish.next (hs : l.Sound) (hstep : l.step e = some (l', effects))
    (h : l'.Sound → l'.CanFinish) : l.CanFinish := by
  obtain ⟨log, m, hrun, hfinished⟩ := h (sound_change hs (change_of_step hstep))
  exact ⟨_, m, hrun.cons hstep, hfinished⟩

theorem canFinish_of_finished (hst : l.stage = .finished) : l.CanFinish :=
  ⟨[], l, .nil, by rw [isFinished, hst]⟩

theorem canFinish_of_deleting (hs : l.Sound) (hst : l.stage = .deleting x) : l.CanFinish := by
  have hstage := hs.stage
  rw [hst] at hstage
  have hstep : l.step (.answerDelete .monitor (.ok ())) =
      some ({ l with teardown := l.teardown.answer .monitor, stage := .finished },
        [.reply .monitor (.ok ())]) := by
    simp [step, answerDelete, hstage.2, hst]
  apply CanFinish.next hs hstep
  intro _
  exact canFinish_of_finished rfl

theorem canFinish_of_reported (hs : l.Sound) (hst : l.stage = .reported x) : l.CanFinish := by
  obtain ⟨l', effects, hstep, hafter⟩ : ∃ l' effects, l.step .claim = some (l', effects) ∧
      (l'.stage = .deleting x ∨ l'.stage = .finished) := by
    refine ⟨_, _, by rw [step, hst], ?_⟩
    dsimp only
    split
    · exact .inl rfl
    · exact .inr rfl
  apply CanFinish.next hs hstep
  intro hs'
  rcases hafter with hdeleting | hfinished
  · exact canFinish_of_deleting hs' hdeleting
  · exact canFinish_of_finished hfinished

theorem canFinish_of_published (hs : l.Sound) (hst : l.stage = .published x) : l.CanFinish := by
  obtain ⟨l', effects, hstep, hst'⟩ : ∃ l' effects, l.step .report = some (l', effects) ∧
      l'.stage = .reported x := ⟨_, _, by rw [step, hst], rfl⟩
  apply CanFinish.next hs hstep
  intro hs'
  exact canFinish_of_reported hs' hst'

theorem canFinish_of_judged (hs : l.Sound) (hst : l.stage = .judged x) : l.CanFinish := by
  obtain ⟨l', effects, hstep, hst'⟩ : ∃ l' effects, l.step .publish = some (l', effects) ∧
      l'.stage = .published x := ⟨_, _, by rw [step, hst], rfl⟩
  apply CanFinish.next hs hstep
  intro hs'
  exact canFinish_of_published hs' hst'

theorem canFinish_of_reaped {ended : Except String ExitStatus} (hs : l.Sound)
    (hst : l.stage = .reaped ended) : l.CanFinish := by
  obtain ⟨l', effects, hstep, x, hst'⟩ : ∃ l' effects, l.step .judge = some (l', effects) ∧
      ∃ x, l'.stage = .judged x := ⟨_, _, by rw [step, hst], _, rfl⟩
  apply CanFinish.next hs hstep
  intro hs'
  exact canFinish_of_judged hs' hst'

theorem canFinish_of_closed (hs : l.Sound) (hst : l.stage = .watching)
    (hclosed : l.watch.streamsOpen = false) : l.CanFinish := by
  have hstep : l.step (.watch (.reap (.ok (.code 0)))) =
      some ({ l with stage := .reaped (.ok (.code 0)) }, []) := by
    simp [step, stepWatch, hst, Watch.step, hclosed]
  apply CanFinish.next hs hstep
  intro hs'
  exact canFinish_of_reaped hs' rfl

theorem canFinish_of_watching (hs : l.Sound) (hst : l.stage = .watching) : l.CanFinish := by
  cases hopen : l.watch.streamsOpen with
  | false => exact canFinish_of_closed hs hst hopen
  | true =>
    -- whatever is left to read, a stream that cannot be read closes both
    obtain ⟨s, o, ho⟩ : ∃ s o, l.watch.source? s = some o := by
      rw [Watch.streamsOpen, Bool.or_eq_true, Option.isSome_iff_exists,
        Option.isSome_iff_exists] at hopen
      rcases hopen with ⟨o, ho⟩ | ⟨o, ho⟩
      · exact ⟨.stdout, o, ho⟩
      · exact ⟨.stderr, o, ho⟩
    obtain ⟨l', effects, hstep, hst', hclosed⟩ : ∃ l' effects,
        l.step (.watch (.fail s "")) = some (l', effects) ∧ l'.stage = .watching ∧
          l'.watch.streamsOpen = false := by
      simp [step, stepWatch, hst, Watch.step, Watch.fail, ho, Watch.streamsOpen]
    apply CanFinish.next hs hstep
    intro hs'
    exact canFinish_of_closed hs' hst' hclosed

/-- From every stage but one there is a way to the end. -/
theorem canFinish (hs : l.Sound) (hlost : l.stage ≠ .lost) : l.CanFinish := by
  cases hst : l.stage with
  | watching => exact canFinish_of_watching hs hst
  | reaped _ => exact canFinish_of_reaped hs hst
  | judged _ => exact canFinish_of_judged hs hst
  | published _ => exact canFinish_of_published hs hst
  | reported _ => exact canFinish_of_reported hs hst
  | deleting _ => exact canFinish_of_deleting hs hst
  | finished => exact canFinish_of_finished hst
  | lost => exact absurd hst hlost

/-- What a stop does to a watch that has handled none. -/
theorem step_noticeStop (hwatching : l.stage = .watching) (hpending : l.stopPending = true)
    (hseen : l.watch.stopSeen = false) (now : Nat) :
    l.step (.watch (.noticeStop now)) =
      if now + l.stopGrace < clockLimit then
        some ({ l with
          watch := { l.watch with
            stopSeen := true, deadline := some (now + l.stopGrace) }.nextTurn }, [])
      else some ({ l with stage := .lost }, [.kill]) := by
  by_cases hlimit : now + l.stopGrace < clockLimit
  · simp [step, stepWatch, hwatching, hpending, Watch.step, Watch.noticeStop, hseen, hlimit,
      Nat.not_le.2 hlimit]
  · simp [step, stepWatch, hwatching, hpending, Watch.step, Watch.noticeStop, hseen, hlimit,
      Nat.not_lt.1 hlimit]

/-- A grace that the environment sets is some seconds that fit in 64 bits. If they fit, with those
of the time at which the first stop is handled, in 63, the monitor survives the stop, can always
finish, and once it has, the exit is out and one external delete was issued. If not, the
monitor is lost: the program is killed at once, and no exit and no delete of the monitor's
ever follows. -/
theorem stop_survived_or_lost {isFile : String → Bool} {lookup : String → Option String}
    {s : Settings} (hs : Settings.ofVariables isFile lookup = .ok s)
    (h : Run step { name, stopGrace := s.stopGrace } log l) (hwatching : l.stage = .watching)
    (hpending : l.stopPending = true) (hseen : l.watch.stopSeen = false) (now : Nat) :
    ∃ secs < UInt64.size, s.stopGrace = secs * nanosPerSecond ∧
      ∃ l' effects, l.step (.watch (.noticeStop now)) = some (l', effects) ∧
        ((now / nanosPerSecond + secs < 0x8000000000000000 ∧ effects = [] ∧
          l'.watch.deadline = some (now + s.stopGrace) ∧
          ∀ later m, Run step l' later m → m.stage ≠ .lost ∧ m.CanFinish ∧
            (m.isFinished = true →
              m.exit ≠ none ∧ m.state.isTornDown = true ∧ m.teardown.issued = 1)) ∨
        (0x8000000000000000 ≤ now / nanosPerSecond + secs ∧ effects = [.kill] ∧
          ∀ later m, Run step l' later m →
            m.stage = .lost ∧ m.exit = none ∧ .monitor ∉ issuers later)) := by
  obtain ⟨secs, hsecs, hgrace⟩ := Settings.seconds_of_ofVariables hs
  obtain ⟨-, hfixed⟩ := fixed_run h
  have hsound := sound_run h
  have hstep := step_noticeStop hwatching hpending hseen now
  have hseconds : l.stopGrace = secs * nanosPerSecond := hfixed.trans hgrace
  refine ⟨secs, hsecs, hgrace, ?_⟩
  by_cases hlimit : now + l.stopGrace < clockLimit
  · rw [if_pos hlimit] at hstep
    rw [hseconds, lt_clockLimit_iff] at hlimit
    refine ⟨_, _, hstep, .inl ⟨hlimit, rfl, by rw [← hfixed]; rfl, ?_⟩⟩
    intro later m hlater
    have hm := survived_run ⟨sound_change hsound (change_of_step hstep), rfl,
      by rw [hwatching]; exact nofun⟩ hlater
    refine ⟨hm.stage, canFinish hm.sound hm.stage, fun hfinished => ?_⟩
    obtain ⟨hexit, hdown⟩ := settled_of_finished hm.sound hm.stage hfinished
    exact ⟨hexit, hdown, issued_of_isTornDown hm.sound hdown⟩
  · rw [if_neg hlimit] at hstep
    rw [hseconds, lt_clockLimit_iff, Nat.not_lt] at hlimit
    have hstage := hsound.stage
    rw [hwatching] at hstage
    refine ⟨_, _, hstep, .inr ⟨hlimit, rfl, ?_⟩⟩
    intro later m hlater
    exact lost_run (l := { l with stage := .lost }) rfl hstage.1 hlater

/-- A grace that can be told until the clock is at 807 seconds, and a handle dropped just before. -/
theorem stop_survived_or_lost_just :
    ∃ s log l, Settings.ofVariables (fun _ => false) (onlyGrace "9223372036854775001") = .ok s ∧
      play step { name := ⟨"n", by decide⟩, stopGrace := s.stopGrace } [.markRunning, .dropHandle] =
        some (log, l) ∧
      l.stage = .watching ∧ l.stopPending = true ∧ l.watch.stopSeen = false ∧
      ∃ l' effects, l.step (.watch (.noticeStop 806999999999)) = some (l', effects) ∧
        effects = [] ∧ ∀ later m, Run step l' later m → m.stage ≠ .lost ∧ m.CanFinish ∧
          (m.isFinished = true →
            m.exit ≠ none ∧ m.state.isTornDown = true ∧ m.teardown.issued = 1) := by
  have hs : Settings.ofVariables (fun _ => false) (onlyGrace "9223372036854775001") =
      .ok { stopGrace := 9223372036854775001 * nanosPerSecond } := rfl
  have hplay : play step
      { name := ⟨"n", by decide⟩, stopGrace := 9223372036854775001 * nanosPerSecond }
      [.markRunning, .dropHandle] = some (_, _) := rfl
  obtain ⟨secs, -, hsecs, l', effects, hstep, ⟨-, hnone, -, hlater⟩ | ⟨hpast, -⟩⟩ :=
    stop_survived_or_lost hs (.of_play hplay) rfl rfl rfl 806999999999
  · exact ⟨_, _, _, hs, hplay, rfl, rfl, rfl, l', effects, hstep, hnone, hlater⟩
  · simp only [nanosPerSecond] at hsecs hpast
    omega

/-- The greatest grace is accepted. The handle is dropped, and the monitor is lost: the node stays
where it is, no exit follows, and the monitor never deletes it. -/
theorem monitor_lost :
    ∃ s log l, Settings.ofVariables (fun _ => false) (onlyGrace "18446744073709551615") = .ok s ∧
      play step { name := ⟨"n", by decide⟩, stopGrace := s.stopGrace }
        [.markRunning, .dropHandle, .watch (.noticeStop 0)] = some (log, l) ∧
      l.state = .running ∧ issuers log = [] ∧
      ∀ later m, Run step l later m → m.stage = .lost ∧ m.exit = none ∧ .monitor ∉ issuers later := by
  have hs : Settings.ofVariables (fun _ => false) (onlyGrace "18446744073709551615") =
      .ok { stopGrace := 18446744073709551615 * nanosPerSecond } := rfl
  have hplay : play step
      { name := ⟨"n", by decide⟩, stopGrace := 18446744073709551615 * nanosPerSecond }
      [.markRunning, .dropHandle, .watch (.noticeStop 0)] = some (_, _) := rfl
  exact ⟨_, _, _, hs, hplay, rfl, rfl, fun later m hm => lost_run rfl rfl hm⟩

end Life

end NodeWarden
