import NodeWarden.Monitor
import NodeWarden.Proofs.Lines
import NodeWarden.Proofs.Run

/-! What each step of the watch over a program does, and what it does to one of its streams. -/

namespace NodeWarden.Watch

abbrev Entry := Step Watch WatchEvent WatchOutcome

/-- What an event does, guards included. -/
inductive Change (grace : Nat) (w : Watch) : WatchEvent → WatchOutcome → Watch → Prop
  | arrive {s : OutputStream} {bytes : List UInt8} :
      Change grace w (.arrive s bytes) .nothing (w.arrive s bytes)
  | readPart {s : OutputStream} {o : OutputSource} {part : List UInt8} : w.source? s = some o →
      o.unread ≠ [] → splitLine o.unread = (part, none) →
      Change grace w (.read s) .nothing (w.setSource s (some ⟨[], o.line.add part⟩))
  | readLine {s : OutputStream} {o : OutputSource} {part rest : List UInt8} :
      w.source? s = some o → splitLine o.unread = (part, some rest) →
      Change grace w (.read s) (.line (o.line.add part).text)
        (w.setSource s (some { o with unread := rest })).nextTurn
  | lastLine {s : OutputStream} {o : OutputSource} : w.source? s = some o → o.unread = [] →
      o.line.begun = true → Change grace w (.finish s) (.line o.line.text) w.nextTurn
  | close {s : OutputStream} {o : OutputSource} : w.source? s = some o → o.unread = [] →
      o.line.begun = false → Change grace w (.finish s) .nothing (w.setSource s none).nextTurn
  | fail {s : OutputStream} {o : OutputSource} {fault : String} : w.source? s = some o →
      Change grace w (.fail s fault) .kill
        { w with stdout := none, stderr := none, readFault := some fault }
  | lose {now : Nat} : w.stopSeen = false → clockLimit ≤ now + grace →
      Change grace w (.noticeStop now) .lost w
  | stop {now : Nat} : w.stopSeen = false → now + grace < clockLimit →
      Change grace w (.noticeStop now) .nothing
        { w with stopSeen := true, deadline := some (now + grace) }.nextTurn
  | deadline {now due : Nat} : w.deadline = some due → due ≤ now →
      Change grace w (.deadline now) .kill { w with deadline := none }.nextTurn
  | reap {ended : Except String ExitStatus} : w.streamsOpen = false →
      Change grace w (.reap ended) (.ended ended) w

theorem change_of_step {grace : Nat} {w w' : Watch} {e : WatchEvent} {outcome : WatchOutcome}
    (h : w.step grace e = some (w', outcome)) : Change grace w e outcome w' := by
  cases e with
  | arrive s bytes =>
    cases h
    exact .arrive
  | read s =>
    simp only [step, read] at h
    cases hs : w.source? s with
    | none => simp [hs] at h
    | some o =>
      by_cases hu : o.unread = [] <;> simp [hs, hu] at h
      split at h
      · rename_i part rest hsplit
        cases h
        exact .readLine hs hsplit
      · rename_i part hsplit
        cases h
        exact .readPart hs hu hsplit
  | finish s =>
    simp only [step, finish] at h
    cases hs : w.source? s with
    | none => simp [hs] at h
    | some o =>
      by_cases hu : o.unread = [] <;> simp [hs, hu] at h
      split at h
      · rename_i hb
        cases h
        exact .lastLine hs hu hb
      · rename_i hb
        cases h
        exact .close hs hu (by simpa using hb)
  | fail s fault =>
    simp only [step, fail] at h
    cases hs : w.source? s with
    | none => simp [hs] at h
    | some o =>
      simp [hs] at h
      obtain ⟨rfl, rfl⟩ := h
      exact .fail hs
  | noticeStop now =>
    simp only [step, noticeStop] at h
    cases hseen : w.stopSeen <;> simp [hseen] at h
    split at h <;> rename_i hlimit <;> cases h
    · exact .lose hseen hlimit
    · exact .stop hseen (Nat.lt_of_not_le hlimit)
  | deadline now =>
    simp only [step, passDeadline] at h
    split at h
    · rename_i due hdue
      split at h
      · rename_i hle
        cases h
        exact .deadline hdue hle
      · cases h
    · cases h
  | reap ended =>
    simp only [step] at h
    split at h
    · cases h
    · rename_i hopen
      cases h
      exact .reap (by simpa using hopen)

/-! One of the streams. -/

theorem source?_setSource (w : Watch) (s : OutputStream) (o : Option OutputSource) :
    (w.setSource s o).source? s = o := by
  cases s <;> rfl

theorem source?_setSource_ne (w : Watch) {s s' : OutputStream} (h : s' ≠ s)
    (o : Option OutputSource) : (w.setSource s' o).source? s = w.source? s := by
  cases s <;> cases s' <;> trivial

theorem source?_nextTurn (w : Watch) (s : OutputStream) :
    w.nextTurn.source? s = (w.source? s).map OutputSource.restart := by
  cases s <;> rfl

end NodeWarden.Watch
