import NodeWarden.Proofs.Asked

/-! When the watch kills a program. The first stop that it handles, or the loss of the handle,
sets its one deadline, a grace later. It kills the program as soon as a stream cannot be read,
and once the deadline has come; no later stop sets the deadline again or moves it. The watch is
over only when both streams are closed. A deadline that the clock cannot tell is never set: the
stop that would set it kills the program there and then, and with that the watch is lost. -/

namespace NodeWarden

namespace Watch

@[simp] theorem deadline_setSource (w : Watch) (s : OutputStream) (o : Option OutputSource) :
    (w.setSource s o).deadline = w.deadline := by
  cases s <;> rfl

@[simp] theorem deadline_nextTurn (w : Watch) : w.nextTurn.deadline = w.deadline := rfl

/-- How far a watch has come with its deadline, by the times at which a stop was handled and at
which the program was killed for it. -/
inductive Timed (grace : Nat) (w : Watch) : List Nat → List Nat → Prop
  | calm : w.stopSeen = false → w.deadline = none → Timed grace w [] []
  | due {first : Nat} : w.stopSeen = true → first + grace < clockLimit →
      w.deadline = some (first + grace) → Timed grace w [first] []
  | spent {first now : Nat} : w.stopSeen = true → first + grace < clockLimit → w.deadline = none →
      first + grace ≤ now → Timed grace w [first] [now]

variable {grace first now : Nat} {w w' : Watch} {e : WatchEvent} {o : WatchOutcome}
  {stops kills : List Nat} {s : OutputStream}

theorem Timed.keep (h : w.Timed grace stops kills) (hseen : w'.stopSeen = w.stopSeen)
    (hdeadline : w'.deadline = w.deadline) : w'.Timed grace stops kills := by
  cases h with
  | calm hs hd => exact .calm (hseen.trans hs) (hdeadline.trans hd)
  | due hs hlt hd => exact .due (hseen.trans hs) hlt (hdeadline.trans hd)
  | spent hs hlt hd hle => exact .spent (hseen.trans hs) hlt (hdeadline.trans hd) hle

/-- A stop is handled only by a watch that has handled none. -/
theorem Timed.of_unseen (h : w.Timed grace stops kills) (hseen : w.stopSeen = false) :
    stops = [] ∧ kills = [] := by
  cases h with
  | calm _ _ => exact ⟨rfl, rfl⟩
  | due hs _ _ | spent hs _ _ _ =>
    rw [hseen] at hs
    cases hs

/-- A deadline is set only between the stop and the kill. -/
theorem Timed.of_deadline {due : Nat} (h : w.Timed grace stops kills)
    (hdue : w.deadline = some due) :
    w.stopSeen = true ∧ kills = [] ∧ due < clockLimit ∧
      ∃ first, stops = [first] ∧ due = first + grace := by
  cases h with
  | calm _ hd | spent _ _ hd _ =>
    rw [hdue] at hd
    cases hd
  | due hs hlt hd =>
    rw [hdue] at hd
    cases hd
    exact ⟨hs, rfl, hlt, _, rfl, rfl⟩

theorem unseen_of_noticeStop (h : Change grace w (.noticeStop now) o w') : w.stopSeen = false := by
  cases h with
  | lose hseen _ | stop hseen _ => exact hseen

/-- What is not about a stop or its deadline leaves both as they are. -/
theorem clock_unchanged (h : Change grace w e o w') (hstop : ∀ now, e ≠ .noticeStop now)
    (hdeadline : ∀ now, e ≠ .deadline now) :
    w'.stopSeen = w.stopSeen ∧ w'.deadline = w.deadline := by
  cases h with
  | lose _ _ | stop _ _ => exact absurd rfl (hstop _)
  | deadline _ _ => exact absurd rfl (hdeadline _)
  | _ => simp [arrive]

theorem closed_setSource {s' : OutputStream} {source : Option OutputSource}
    (h : (w.setSource s' source).source? s = none) :
    (s' = s ∧ source = none) ∨ w.source? s = none := by
  by_cases hs : s' = s
  · subst hs
    rw [source?_setSource] at h
    exact .inl ⟨rfl, h⟩
  · rw [source?_setSource_ne w hs] at h
    exact .inr h

/-- A stream is closed at the end that its reader finds, or because a stream cannot be read. -/
theorem closed_change (h : Change grace w e o w') (hclosed : w'.source? s = none) :
    w.source? s = none ∨ e = .finish s ∨ ∃ s' fault, e = .fail s' fault := by
  cases h with
  | arrive =>
    rcases closed_setSource hclosed with ⟨rfl, hnone⟩ | hnone
    · exact .inl (Option.map_eq_none_iff.1 hnone)
    · exact .inl hnone
  | readPart _ _ _ =>
    rcases closed_setSource hclosed with ⟨-, hnone⟩ | hnone
    · cases hnone
    · exact .inl hnone
  | readLine _ _ =>
    rw [source?_nextTurn, Option.map_eq_none_iff] at hclosed
    rcases closed_setSource hclosed with ⟨-, hnone⟩ | hnone
    · cases hnone
    · exact .inl hnone
  | close _ _ _ =>
    rw [source?_nextTurn, Option.map_eq_none_iff] at hclosed
    rcases closed_setSource hclosed with ⟨rfl, -⟩ | hnone
    · exact .inr (.inl rfl)
    · exact .inl hnone
  | fail _ => exact .inr (.inr ⟨_, _, rfl⟩)
  | lastLine _ _ _ | stop _ _ | deadline _ _ =>
    rw [source?_nextTurn, Option.map_eq_none_iff] at hclosed
    exact .inl hclosed
  | lose _ _ | reap _ => exact .inl hclosed

end Watch

namespace Life

variable {name : NodeName} {stopGrace : Nat} {l l' : Life} {e : LifeEvent}
  {effects : List LifeEffect} {log : List Entry} {stopTimes killTimes : List Nat}

/-- When a stop was handled. -/
def stopHandled? (u : Entry) : Option Nat :=
  match u.event with
  | .watch (.noticeStop now) => some now
  | _ => none

def stopsHandled (log : List Entry) : List Nat := log.filterMap stopHandled?

/-- When the program was killed at its deadline. -/
def graceKill? (u : Entry) : Option Nat :=
  match u.event with
  | .watch (.deadline now) => some now
  | _ => none

def graceKills (log : List Entry) : List Nat := log.filterMap graceKill?

/-- The program is killed. -/
def Kills (u : Entry) : Prop := .kill ∈ u.effect

/-- The deadline that a stop sets: none if the clock cannot tell it. -/
def deadlineFrom? (stopGrace first : Nat) : Option Nat :=
  if first + stopGrace < clockLimit then some (first + stopGrace) else none

/-- A stream is at its end, or one of them cannot be read. -/
def Closes (s : OutputStream) (u : Entry) : Prop :=
  u.event = .watch (.finish s) ∨ ∃ s' fault, u.event = .watch (.fail s' fault)

/-- How far the watch has come with its deadline, or that the deadline could not be told and the
watch is lost. -/
inductive Timed (l : Life) (stops kills : List Nat) : Prop
  | going : l.stage ≠ .lost → l.watch.Timed l.stopGrace stops kills → Timed l stops kills
  | lost {first : Nat} : l.stage = .lost → l.watch.deadline = none → stops = [first] → kills = [] →
      clockLimit ≤ first + l.stopGrace → Timed l stops kills

theorem Timed.length_stops (ht : l.Timed stopTimes killTimes) : stopTimes.length ≤ 1 := by
  cases ht with
  | going _ ht => cases ht <;> simp
  | lost _ _ hstops => simp [hstops]

theorem Timed.length_kills (ht : l.Timed stopTimes killTimes) :
    killTimes.length ≤ stopTimes.length := by
  cases ht with
  | going _ ht => cases ht <;> simp
  | lost _ _ _ hkills => simp [hkills]

/-- Until the program is killed for it, the deadline is what the one stop made it. -/
theorem Timed.deadline_eq (ht : l.Timed stopTimes killTimes) :
    l.watch.deadline =
      if killTimes = [] then stopTimes.head?.bind (deadlineFrom? l.stopGrace) else none := by
  cases ht with
  | going _ ht =>
    cases ht with
    | calm _ hd | spent _ _ hd _ => rw [hd]; rfl
    | due _ hlt hd => simp [hd, deadlineFrom?, hlt]
  | lost _ hd hstops hkills hlimit => simp [hd, hstops, hkills, deadlineFrom?, hlimit]

theorem Timed.lost_iff (ht : l.Timed stopTimes killTimes) :
    l.stage = .lost ↔ ∃ first, stopTimes = [first] ∧ clockLimit ≤ first + l.stopGrace := by
  cases ht with
  | going hnot ht =>
    refine ⟨fun hlost => absurd hlost hnot, ?_⟩
    rintro ⟨first, rfl, hlimit⟩
    cases ht with
    | due _ hlt _ | spent _ hlt _ _ => exact absurd hlimit (Nat.not_le.2 hlt)
  | lost hlost _ hstops _ hlimit => exact ⟨fun _ => ⟨_, hstops, hlimit⟩, fun _ => hlost⟩

theorem Timed.of_watching (ht : l.Timed stopTimes killTimes) (hwatching : l.stage = .watching) :
    l.watch.Timed l.stopGrace stopTimes killTimes := by
  cases ht with
  | going _ ht => exact ht
  | lost hlost =>
    rw [hwatching] at hlost
    cases hlost

/-- What is no step of the watch leaves the watch as it is, and neither loses it nor gets it back. -/
theorem watch_unchanged (h : Change l e effects l') (he : ∀ we, e ≠ .watch we) :
    l'.watch = l.watch ∧ (l'.stage = .lost ↔ l.stage = .lost) := by
  cases h with
  | watch _ _ _ => exact absurd rfl (he _)
  | answerMonitor _ hst | judge hst | publish hst | report hst | claim hst _ => simp [hst]
  | skip hst _ =>
    refine ⟨rfl, ?_⟩
    dsimp only
    split <;> simp [hst]
  | _ => exact ⟨rfl, Iff.rfl⟩

theorem Timed.keep (ht : l.Timed stopTimes killTimes) (hgrace : l'.stopGrace = l.stopGrace)
    (hwatch : l'.watch = l.watch) (hlost : l'.stage = .lost ↔ l.stage = .lost) :
    l'.Timed stopTimes killTimes := by
  cases ht with
  | going hnot ht => exact .going (fun hl' => hnot (hlost.1 hl')) (by rwa [hgrace, hwatch])
  | lost hl hdeadline hstops hkills hlimit =>
    exact .lost (hlost.2 hl) (by rwa [hwatch]) hstops hkills (by rwa [hgrace])

theorem not_lost_stageAfter {o : WatchOutcome} (ho : o ≠ .lost) : stageAfter o ≠ .lost := by
  cases o with
  | lost => exact absurd rfl ho
  | _ => exact nofun

theorem timed_watch {we : WatchEvent} {w : Watch} {o : WatchOutcome}
    (ht : l.watch.Timed l.stopGrace stopTimes killTimes)
    (hl' : l' = { l with watch := w, stage := stageAfter o })
    (h : Watch.Change l.stopGrace l.watch we o w) :
    l'.Timed (stopTimes ++ (stopHandled? ⟨l, .watch we, effects, l'⟩).toList)
      (killTimes ++ (graceKill? ⟨l, .watch we, effects, l'⟩).toList) := by
  subst hl'
  cases we with
  | noticeStop now =>
    cases h with
    | lose hseen hlimit =>
      obtain ⟨rfl, rfl⟩ := ht.of_unseen hseen
      cases ht with
      | calm _ hnone => exact .lost rfl hnone rfl rfl hlimit
    | stop hseen hlt =>
      obtain ⟨rfl, rfl⟩ := ht.of_unseen hseen
      exact .going nofun (.due rfl hlt rfl)
  | deadline now =>
    cases h with
    | deadline hdue hle =>
      obtain ⟨hseen, rfl, hlt, first, rfl, rfl⟩ := ht.of_deadline hdue
      exact .going nofun (.spent hseen hlt rfl hle)
  | _ =>
    obtain ⟨hseen, hdeadline⟩ := Watch.clock_unchanged h nofun nofun
    have hgoing : stageAfter o ≠ .lost := by
      refine not_lost_stageAfter ?_
      rintro rfl
      obtain ⟨now, hnotice, -⟩ := Watch.lost_of_change h
      cases hnotice
    have hnext : Timed { l with watch := w, stage := stageAfter o } stopTimes killTimes :=
      .going hgoing (ht.keep hseen hdeadline)
    simpa [stopHandled?, graceKill?] using hnext

theorem timed_change (ht : l.Timed stopTimes killTimes) (h : Change l e effects l') :
    l'.Timed (stopTimes ++ (stopHandled? ⟨l, e, effects, l'⟩).toList)
      (killTimes ++ (graceKill? ⟨l, e, effects, l'⟩).toList) := by
  cases e with
  | watch we =>
    cases h with
    | watch hwatching _ hwatch =>
      exact timed_watch (ht.of_watching hwatching) rfl (Watch.change_of_step hwatch)
  | _ =>
    obtain ⟨hwatch, hlost⟩ := watch_unchanged h nofun
    simpa [stopHandled?, graceKill?] using ht.keep (fixed_change h).2 hwatch hlost

theorem timed_run (h : Run step { name, stopGrace } log l) :
    l.Timed (stopsHandled log) (graceKills log) := by
  induction h with
  | nil => exact .going nofun (.calm rfl rfl)
  | snoc _ hstep ih =>
    rw [stopsHandled, graceKills, filterMap_snoc, filterMap_snoc]
    exact timed_change ih (change_of_step hstep)

theorem closed_run (h : Run step { name, stopGrace } log l) (s : OutputStream) :
    l.watch.source? s = none → ∃ u ∈ log, Closes s u := by
  induction h with
  | nil => cases s <;> exact nofun
  | @snoc log l l' e effects hrun hstep ih =>
    intro hclosed
    have hbefore : l.watch.source? s = none ∨ Closes s ⟨l, e, effects, l'⟩ := by
      cases change_of_step hstep with
      | watch _ _ hwatch =>
        rcases Watch.closed_change (Watch.change_of_step hwatch) hclosed with hnone | rfl |
          ⟨s', fault, rfl⟩
        · exact .inl hnone
        · exact .inr (.inl rfl)
        · exact .inr (.inr ⟨s', fault, rfl⟩)
      | _ => exact .inl hclosed
    rcases hbefore with hnone | hcloses
    · obtain ⟨u, hu, hcloses⟩ := ih hnone
      exact ⟨u, List.mem_append_left _ hu, hcloses⟩
    · exact ⟨_, List.mem_append_right _ List.mem_cons_self, hcloses⟩

theorem asksForStop_iff : asksForStop e = true ↔ e = .askStop ∨ e = .dropHandle := by
  cases e <;> simp [asksForStop]

/-- A stop is there to be noticed once one was asked for or the handle was lost. -/
theorem pending_run (h : Run step { name, stopGrace } log l) (hpending : l.stopPending = true) :
    ∃ u ∈ log, u.event = .askStop ∨ u.event = .dropHandle := by
  obtain ⟨u, hu, hasks⟩ := (stopPending_run_iff h).1 hpending
  exact ⟨u, hu, asksForStop_iff.1 hasks⟩

theorem cause_of_stop {now : Nat} (h : Change l e effects l')
    (hstop : stopHandled? ⟨l, e, effects, l'⟩ = some now) :
    l.stopPending = true ∧ l.stage = .watching ∧ l.watch.stopSeen = false := by
  cases h with
  | @watch we w o hwatching hnotice hwatch =>
    cases we with
    | noticeStop now =>
      refine ⟨hnotice now rfl, hwatching, ?_⟩
      exact Watch.unseen_of_noticeStop (Watch.change_of_step hwatch)
    | _ => cases hstop
  | _ => cases hstop

theorem cause_of_kill (h : Change l e effects l') (hkill : Kills ⟨l, e, effects, l'⟩) :
    (∃ s fault, e = .watch (.fail s fault)) ∨
      (∃ now due, e = .watch (.deadline now) ∧ l.stage = .watching ∧
        l.watch.deadline = some due ∧ due ≤ now) ∨
      ∃ now, e = .watch (.noticeStop now) ∧ clockLimit ≤ now + l.stopGrace ∧ l'.stage = .lost := by
  cases h with
  | @watch we w o hwatching _ hwatch =>
    cases o with
    | kill =>
      cases Watch.change_of_step hwatch with
      | fail _ => exact .inl ⟨_, _, rfl⟩
      | deadline hdue hle => exact .inr (.inl ⟨_, _, rfl, hwatching, hdue, hle⟩)
    | lost =>
      obtain ⟨now, rfl, hlimit⟩ := Watch.lost_of_change (Watch.change_of_step hwatch)
      exact .inr (.inr ⟨now, rfl, hlimit, rfl⟩)
    | line text => cases hline : forwardLine l.name text <;> simp [Kills, effectsOf, hline] at hkill
    | nothing | ended _ => cases hkill
  | report _ => simp [Kills] at hkill
  | _ => simp [Kills] at hkill

theorem kills_of_watch {we : WatchEvent} (h : Change l (.watch we) effects l')
    (hkill : ∀ o w, Watch.Change l.stopGrace l.watch we o w → o = .kill ∨ o = .lost) :
    Kills ⟨l, .watch we, effects, l'⟩ := by
  cases h with
  | watch _ _ hwatch =>
    rcases hkill _ _ (Watch.change_of_step hwatch) with rfl | rfl <;> exact List.mem_cons_self

theorem closed_of_reaped {ended : Except String ExitStatus} (h : Change l e effects l')
    (hwatching : l.stage = .watching) (hreaped : l'.stage = .reaped ended) :
    e = .watch (.reap ended) ∧ ∀ s, l.watch.source? s = none := by
  cases h with
  | @watch we w o _ _ hwatch =>
    cases o with
    | ended _ =>
      cases hreaped
      cases Watch.change_of_step hwatch with
      | reap hclosed =>
        refine ⟨rfl, fun s => ?_⟩
        simp only [Watch.streamsOpen, Bool.or_eq_false_iff, Option.isSome_eq_false_iff,
          Option.isNone_iff_eq_none] at hclosed
        cases s
        · exact hclosed.1
        · exact hclosed.2
    | _ => cases hreaped
  | skip _ _ =>
    dsimp only at hreaped
    split at hreaped <;> cases hreaped
  | answerMonitor _ _ | judge _ | publish _ | report _ | claim _ _ => cases hreaped
  | _ =>
    rw [hwatching] at hreaped
    cases hreaped

theorem deadline_passes_iff {now : Nat} (ht : l.Timed stopTimes killTimes) :
    (∃ l', l.step (.watch (.deadline now)) = some (l', [.kill])) ↔
      l.stage = .watching ∧ killTimes = [] ∧
        ∃ first, stopTimes = [first] ∧ first + l.stopGrace ≤ now := by
  constructor
  · rintro ⟨l', hstep⟩
    generalize [LifeEffect.kill] = effects at hstep
    cases change_of_step hstep with
    | watch hwatching _ hwatch =>
      cases Watch.change_of_step hwatch with
      | deadline hdue hle =>
        obtain ⟨-, rfl, -, first, rfl, rfl⟩ := (ht.of_watching hwatching).of_deadline hdue
        exact ⟨hwatching, rfl, first, rfl, hle⟩
  · rintro ⟨hwatching, rfl, first, rfl, hle⟩
    have hdeadline : l.watch.deadline = some (first + l.stopGrace) := by
      cases ht.of_watching hwatching with
      | due _ _ hdue => exact hdue
    simp [step, stepWatch, hwatching, Watch.step, Watch.passDeadline, hdeadline, hle]

/-- What the kill of a program has to do with the stops before it. -/
theorem kills_iff (ht : l.Timed stopTimes killTimes) (h : Change l e effects l') :
    Kills ⟨l, e, effects, l'⟩ ↔ (∃ s fault, e = .watch (.fail s fault)) ∨
      (∃ now first, e = .watch (.deadline now) ∧ stopTimes = [first] ∧ killTimes = [] ∧
        first + l.stopGrace ≤ now) ∨
      ∃ now, e = .watch (.noticeStop now) ∧ clockLimit ≤ now + l.stopGrace ∧ l'.stage = .lost := by
  constructor
  · intro hkill
    rcases cause_of_kill h hkill with hfail | ⟨now, due, rfl, hwatching, hdue, hle⟩ | hlost
    · exact .inl hfail
    · obtain ⟨-, hnone, -, first, hfirst, rfl⟩ := (ht.of_watching hwatching).of_deadline hdue
      exact .inr (.inl ⟨now, first, rfl, hfirst, hnone, hle⟩)
    · exact .inr (.inr hlost)
  · rintro (⟨s, fault, rfl⟩ | ⟨now, first, rfl, -⟩ | ⟨now, rfl, hlimit, -⟩)
    · refine kills_of_watch h fun o w hchange => .inl ?_
      cases hchange
      rfl
    · refine kills_of_watch h fun o w hchange => .inl ?_
      cases hchange
      rfl
    · refine kills_of_watch h fun o w hchange => .inr ?_
      cases hchange with
      | lose _ _ => rfl
      | stop _ hlt => exact absurd hlimit (Nat.not_le.2 hlt)

/-- The program is killed when a stream cannot be read, and a grace or more after the one stop that
the watch handled, for that stop once. There is one more kill, and it comes without any grace: if
the clock cannot tell the deadline of that stop, the program is killed as the stop is handled, and
the watch is lost. Whatever is asked later, the deadline stays what that stop made it until the
program is killed for it, and there is none after that. The watch is over only when both streams
are closed. -/
theorem killed_when_due (h : Run step { name, stopGrace } log l) :
    (∀ pre u post, log = pre ++ u :: post →
      (Kills u ↔ (∃ s fault, u.event = .watch (.fail s fault)) ∨
        (∃ now first, u.event = .watch (.deadline now) ∧ stopsHandled pre = [first] ∧
          graceKills pre = [] ∧ first + stopGrace ≤ now) ∨
        ∃ now, u.event = .watch (.noticeStop now) ∧ clockLimit ≤ now + stopGrace ∧
          u.after.stage = .lost) ∧
      (∀ now, stopHandled? u = some now → stopsHandled pre = [] ∧
        ∃ v ∈ pre, v.event = .askStop ∨ v.event = .dropHandle) ∧
      (∀ ended, u.before.stage = .watching → u.after.stage = .reaped ended →
        u.event = .watch (.reap ended) ∧
          ∀ s, u.before.watch.source? s = none ∧ ∃ v ∈ pre, Closes s v)) ∧
    (stopsHandled log).length ≤ 1 ∧ (graceKills log).length ≤ (stopsHandled log).length ∧
    l.watch.deadline =
      (if graceKills log = [] then (stopsHandled log).head?.bind (deadlineFrom? stopGrace)
        else none) ∧
    (l.stage = .lost ↔ ∃ first, stopsHandled log = [first] ∧ clockLimit ≤ first + stopGrace) ∧
    ∀ now, (∃ l', l.step (.watch (.deadline now)) = some (l', [.kill])) ↔
      l.stage = .watching ∧ graceKills log = [] ∧
        ∃ first, stopsHandled log = [first] ∧ first + stopGrace ≤ now := by
  have ht := timed_run h
  obtain ⟨-, hgrace⟩ := fixed_run h
  refine ⟨?_, ht.length_stops, ht.length_kills, ?_, ?_, ?_⟩
  · rintro pre u post rfl
    obtain ⟨hpre, hstep, -⟩ := h.cut
    have htpre := timed_run hpre
    have hchange := change_of_step hstep
    refine ⟨?_, ?_, ?_⟩
    · rw [← (fixed_run hpre).2]
      exact kills_iff htpre hchange
    · intro now hstop
      obtain ⟨hpending, hwatching, hseen⟩ := cause_of_stop hchange hstop
      exact ⟨((htpre.of_watching hwatching).of_unseen hseen).1, pending_run hpre hpending⟩
    · intro ended hwatching hreaped
      obtain ⟨hevent, hclosed⟩ := closed_of_reaped hchange hwatching hreaped
      exact ⟨hevent, fun s => ⟨hclosed s, closed_run hpre s (hclosed s)⟩⟩
  · subst hgrace
    exact ht.deadline_eq
  · subst hgrace
    exact ht.lost_iff
  · subst hgrace
    exact fun now => deadline_passes_iff ht

/-- Two stops are asked for and the handle is dropped, before and after the watch handles a stop. The
program writes on, and is killed five past its deadline. -/
def overdueEvents : List LifeEvent :=
  [.markRunning, .askStop, .watch (.noticeStop 100), .askStop, .dropHandle,
    .watch (.arrive .stdout [104, 105, 10]), .watch (.read .stdout), .watch (.deadline 125),
    .watch (.finish .stdout), .watch (.finish .stderr), .watch (.reap (.ok (.signal 9)))]

theorem killed_when_due_overdue :
    ∃ log l, play step { name := ⟨"n", by decide⟩, stopGrace := 20 } overdueEvents = some (log, l) ∧
      stopsHandled log = [100] ∧ graceKills log = [125] ∧ l.watch.deadline = none ∧
      ∃ pre u post, log = pre ++ u :: post ∧ Kills u ∧
        ∃ now first, u.event = .watch (.deadline now) ∧ stopsHandled pre = [first] ∧
          first + 20 ≤ now := by
  have hplay : play step { name := ⟨"n", by decide⟩, stopGrace := 20 } overdueEvents =
      some (_, _) := rfl
  obtain ⟨hsteps, -, -, hdeadline, -⟩ := killed_when_due (.of_play hplay)
  obtain ⟨hcause, -, -⟩ := hsteps [_, _, _, _, _, _, _] _ [_, _, _] rfl
  rcases hcause.1 List.mem_cons_self with ⟨_, _, hevent⟩ | ⟨now, first, hevent, hfirst, -, hle⟩ |
    ⟨_, hevent, -⟩
  · cases hevent
  · exact ⟨_, _, hplay, rfl, rfl, hdeadline, _, _, _, rfl, List.mem_cons_self, now, first, hevent,
      hfirst, hle⟩
  · cases hevent

/-- Variables that set a grace, and nothing else. -/
def onlyGrace (secs name : String) : Option String :=
  if name = "SEALINK_STOP_GRACE_SECS" then some secs else none

/-- The least grace whose deadline the clock can tell at no time. It is accepted, and the program is
killed in the moment in which the stop is handled, though every stream could be read. -/
theorem killed_without_grace :
    ∃ s log l pre u, Settings.ofVariables (fun _ => false) (onlyGrace "9223372036854775808") = .ok s ∧
      play step { name := ⟨"n", by decide⟩, stopGrace := s.stopGrace }
        [.markRunning, .askStop, .watch (.noticeStop 0)] = some (log, l) ∧
      log = pre ++ [u] ∧ Kills u ∧ u.event = .watch (.noticeStop 0) ∧ stopsHandled log = [0] ∧
      graceKills log = [] ∧ ¬ 0 + s.stopGrace ≤ 0 := by
  have hs : Settings.ofVariables (fun _ => false) (onlyGrace "9223372036854775808") =
      .ok { stopGrace := 9223372036854775808 * nanosPerSecond } := rfl
  have hplay : play step
      { name := ⟨"n", by decide⟩, stopGrace := 9223372036854775808 * nanosPerSecond }
      [.markRunning, .askStop, .watch (.noticeStop 0)] = some (_, _) := rfl
  exact ⟨_, _, _, [_, _], _, hs, hplay, rfl, List.mem_cons_self, rfl, rfl, rfl, by decide⟩

end Life

end NodeWarden
