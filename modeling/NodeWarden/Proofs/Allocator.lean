import Mathlib.Data.List.DropRight
import Mathlib.Data.List.Nodup
import NodeWarden.Address.Shared
import NodeWarden.Proofs.Run

/-! The ports that the calls of one allocator are given. The remembered ports are the last of those
that were noted, and a call is given an address at the turn at which its port is noted. A call that
has failed has noted nothing. -/

namespace NodeWarden

/-- The window holds the last of the ports that were noted, and no port comes back among them. -/
structure Windowed (noted : List Nat) (r : RecentPorts) : Prop where
  ports : r.ports = noted.rtake recentWindow
  apart : ∀ some, some <:+: noted → some.length ≤ recentWindow + 1 → some.Nodup

namespace Windowed

variable {noted : List Nat} {r : RecentPorts} {port : Nat}

theorem length (h : Windowed noted r) : r.ports.length = min recentWindow noted.length := by
  rw [h.ports, List.rtake, List.length_drop]
  omega

theorem suffix (h : Windowed noted r) : r.ports <:+ noted := by
  rw [h.ports, List.rtake]
  exact List.drop_suffix _ _

theorem nodup (h : Windowed noted r) : r.ports.Nodup := by
  have hlength := h.length
  exact h.apart _ h.suffix.isInfix (by omega)

/-- What was noted last and fits into the window is in it. -/
theorem mem_of_suffix (h : Windowed noted r) {last : List Nat} (hlast : last <:+ noted)
    (hfits : last.length ≤ recentWindow) (hport : port ∈ last) : port ∈ r.ports := by
  have hlength := h.length
  have hle := hlast.length_le
  have hsuffix := List.suffix_of_suffix_length_le hlast h.suffix (by omega)
  exact hsuffix.subset hport

theorem start : Windowed [] {} := by
  refine ⟨rfl, fun some hsome _ => ?_⟩
  rw [List.infix_nil.1 hsome]
  exact List.nodup_nil

/-- The oldest port makes room for a new one once the window is full. -/
theorem evict (noted : List Nat) :
    (if (noted.rtake recentWindow).length = recentWindow then (noted.rtake recentWindow).drop 1
      else noted.rtake recentWindow) = noted.rtake (recentWindow - 1) := by
  unfold List.rtake recentWindow
  rw [List.length_drop]
  split
  · rename_i hfull
    rw [List.drop_drop]
    congr 1
    omega
  · rename_i hroom
    have hshort : noted.length < 64 := by omega
    rw [Nat.sub_eq_zero_of_le (by omega), Nat.sub_eq_zero_of_le (by omega)]

theorem note (h : Windowed noted r) (hnew : port ∉ r.ports) :
    Windowed (noted ++ [port]) (r.remember port).1 := by
  constructor
  · have hkept : (r.remember port).1.ports = noted.rtake (recentWindow - 1) ++ [port] := by
      unfold RecentPorts.remember
      rw [if_neg (by simpa using hnew), h.ports, evict]
    rw [hkept]
    exact (List.rtake_concat_succ noted (recentWindow - 1) port).symm
  · intro some hsome hlength
    rcases List.infix_concat_iff.1 hsome with hend | hbefore
    · rcases List.suffix_concat_iff.1 hend with rfl | ⟨last, rfl, hlast⟩
      · exact List.nodup_nil
      · rw [List.length_append, List.length_singleton] at hlength
        have hlasts := h.apart last hlast.isInfix (by omega)
        have hport : port ∉ last := fun hport =>
          hnew (h.mem_of_suffix hlast (by omega) hport)
        simpa [List.nodup_append, hlasts] using fun other hother => ne_of_mem_of_not_mem hother hport
    · exact h.apart some hbefore hlength

end Windowed

/-- The address that a call is given with a port. -/
def addressOn (host : Ip) (port : Nat) : SocketAddr := { ip := host, port }

/-- What is left of a call that has a port to look up. -/
def lookUp (host : Ip) (attempts port : Nat) : Flow Allocation :=
  .ask (.remember port) fun (noted : Bool) =>
    if noted then .done (.ok (addressOn host port)) else findFreeWithin host attempts

theorem findFreeWithin_succ (host : Ip) (attempts : Nat) :
    findFreeWithin host (attempts + 1) = .ask (.bindAny host) fun
      | .error fault => .done (.error (.probe (host.text ++ ":0") fault))
      | .ok port => lookUp host attempts port := by
  rfl

/-- What a call was answered, what it looked up, and what is left of it. Ports that were known are
passed over, and the first that is not, or a fault, ends the call. -/
inductive Progress (host : Ip) :
    List (Except String Nat) → List Lookup → Option (Flow Allocation) → Prop
  | unborn : Progress host [] [] none
  | asking {ports : List Nat} (h : ports.length ≤ maxAttempts) :
      Progress host (ports.map .ok) (ports.map (⟨·, false⟩))
        (some (findFreeWithin host (maxAttempts - ports.length)))
  | holding {ports : List Nat} {port : Nat} (h : ports.length < maxAttempts) :
      Progress host ((ports ++ [port]).map .ok) (ports.map (⟨·, false⟩))
        (some (lookUp host (maxAttempts - (ports.length + 1)) port))
  | faulted {ports : List Nat} {fault : String} (h : ports.length < maxAttempts) :
      Progress host (ports.map .ok ++ [.error fault]) (ports.map (⟨·, false⟩))
        (some (.done (.error (.probe (host.text ++ ":0") fault))))
  | found {ports : List Nat} {port : Nat} (h : ports.length < maxAttempts) :
      Progress host ((ports ++ [port]).map .ok) (ports.map (⟨·, false⟩) ++ [⟨port, true⟩])
        (some (.done (.ok (addressOn host port))))

namespace Progress

variable {host : Ip} {answers : List (Except String Nat)} {lookups : List Lookup}

theorem of_bindAny {other : Ip} {next : (Request.bindAny other).Answer → Flow Allocation}
    (h : Progress host answers lookups (some (.ask (.bindAny other) next))) :
    ∃ ports : List Nat, ports.length < maxAttempts ∧ answers = ports.map .ok ∧
      lookups = ports.map (⟨·, false⟩) ∧
      (∀ fault, next (.error fault) = .done (.error (.probe (host.text ++ ":0") fault))) ∧
      ∀ port, next (.ok port) = lookUp host (maxAttempts - (ports.length + 1)) port := by
  generalize hflow : some (Flow.ask (.bindAny other) next) = flow at h
  cases h with
  | @asking ports hports =>
    have hleft := Option.some.inj hflow
    rcases Nat.lt_or_ge ports.length maxAttempts with hlt | hge
    · rw [show maxAttempts - ports.length = maxAttempts - (ports.length + 1) + 1 by omega,
        findFreeWithin_succ] at hleft
      cases hleft
      exact ⟨ports, hlt, rfl, rfl, fun _ => rfl, fun _ => rfl⟩
    · rw [Nat.sub_eq_zero_of_le hge] at hleft
      cases hleft
  | _ => cases hflow

theorem of_remember {port : Nat} {next : (Request.remember port).Answer → Flow Allocation}
    (h : Progress host answers lookups (some (.ask (.remember port) next))) :
    ∃ ports : List Nat, ports.length < maxAttempts ∧ answers = (ports ++ [port]).map .ok ∧
      lookups = ports.map (⟨·, false⟩) ∧ next (true : Bool) = .done (.ok (addressOn host port)) ∧
      next (false : Bool) = findFreeWithin host (maxAttempts - (ports.length + 1)) := by
  generalize hflow : some (Flow.ask (.remember port) next) = flow at h
  cases h with
  | @asking ports hports =>
    have hleft := Option.some.inj hflow
    rcases Nat.lt_or_ge ports.length maxAttempts with hlt | hge
    · rw [show maxAttempts - ports.length = maxAttempts - (ports.length + 1) + 1 by omega,
        findFreeWithin_succ] at hleft
      cases hleft
    · rw [Nat.sub_eq_zero_of_le hge] at hleft
      cases hleft
  | @holding ports _ hlt =>
    cases hflow
    exact ⟨ports, hlt, rfl, rfl, rfl, rfl⟩
  | _ => cases hflow

theorem bound {other : Ip} {next : (Request.bindAny other).Answer → Flow Allocation}
    (h : Progress host answers lookups (some (.ask (.bindAny other) next)))
    (answer : Except String Nat) :
    Progress host (answers ++ [answer]) lookups (some (next answer)) := by
  obtain ⟨ports, hlt, rfl, rfl, hfault, hport⟩ := h.of_bindAny
  cases answer with
  | error fault =>
    rw [hfault]
    exact .faulted hlt
  | ok port =>
    have hholding : Progress host ((ports ++ [port]).map .ok) (ports.map (⟨·, false⟩))
        (some (lookUp host (maxAttempts - (ports.length + 1)) port)) := .holding hlt
    rw [hport]
    rwa [List.map_append] at hholding

theorem turn {port : Nat} {next : (Request.remember port).Answer → Flow Allocation}
    (h : Progress host answers lookups (some (.ask (.remember port) next))) (noted : Bool) :
    Progress host answers (lookups ++ [⟨port, noted⟩]) (some (next noted)) := by
  obtain ⟨ports, hlt, rfl, rfl, hnew, hknown⟩ := h.of_remember
  cases noted with
  | true =>
    rw [hnew]
    exact .found hlt
  | false =>
    have hlength : (ports ++ [port]).length ≤ maxAttempts := by
      simpa using Nat.succ_le_of_lt hlt
    have hasking : Progress host _ _ _ := .asking hlength
    rw [hknown]
    simpa using hasking

/-- A call that has failed has noted no port. -/
theorem known_of_error {e : AddressError}
    (h : Progress host answers lookups (some (.done (.error e)))) :
    ∀ lookup ∈ lookups, lookup.noted = false := by
  generalize hflow : some (Flow.done (Except.error e)) = flow at h
  cases h with
  | unborn | found _ => cases hflow
  | asking _ | holding _ | faulted _ => simp

/-- A call gives up just when as many ports as it may ask for were all known. -/
theorem exhausted_iff {flow? : Option (Flow Allocation)} (h : Progress host answers lookups flow?) :
    flow? = some (.done (.error (.exhausted host.text))) ↔
      ∃ ports : List Nat, ports.length = maxAttempts ∧ answers = ports.map .ok ∧
        lookups = ports.map (⟨·, false⟩) := by
  constructor
  · intro hgone
    cases h with
    | @asking ports hports =>
      rcases Nat.lt_or_ge ports.length maxAttempts with hlt | hge
      · rw [show maxAttempts - ports.length = maxAttempts - (ports.length + 1) + 1 by omega,
          findFreeWithin_succ] at hgone
        cases hgone
      · exact ⟨ports, by omega, rfl, rfl⟩
    | _ => cases hgone
  · rintro ⟨ports, hlength, rfl, rfl⟩
    generalize hanswers : ports.map Except.ok = answers at h
    generalize hlookups : (ports.map fun port => Lookup.mk port false) = lookups at h
    have hasked : answers.length = maxAttempts := by rw [← hanswers, List.length_map, hlength]
    have hlooked : lookups.length = maxAttempts := by rw [← hlookups, List.length_map, hlength]
    cases h with
    | unborn => cases hasked
    | @asking others _ =>
      rw [List.length_map] at hasked
      rw [hasked, Nat.sub_self]
      rfl
    | holding hlt | faulted hlt =>
      simp only [List.length_append, List.length_map, List.length_singleton] at hasked hlooked
      omega
    | @found others port _ =>
      have hnoted : (⟨port, true⟩ : Lookup) ∈ ports.map (⟨·, false⟩) := by simp [hlookups]
      simp at hnoted

end Progress

namespace Allocator

abbrev Entry := Step Allocator AllocatorEvent (Option Lookup)

/-- What an event does, guards included. -/
inductive Change (host : Ip) (a : Allocator) : AllocatorEvent → Option Lookup → Allocator → Prop
  | begin : Change host a .begin none { a with calls := a.calls ++ [findFree host] }
  | bound {id : Nat} {answer : Except String Nat} {other : Ip}
      {next : (Request.bindAny other).Answer → Flow Allocation} :
      a.calls[id]? = some (.ask (.bindAny other) next) →
      Change host a (.bound id answer) none { a with calls := a.calls.set id (next answer) }
  | known {id port : Nat} {next : (Request.remember port).Answer → Flow Allocation} :
      a.calls[id]? = some (.ask (.remember port) next) → port ∈ a.recent.ports →
      Change host a (.turn id) (some ⟨port, false⟩)
        { a with calls := a.calls.set id (next (false : Bool)) }
  | note {id port : Nat} {next : (Request.remember port).Answer → Flow Allocation} :
      a.calls[id]? = some (.ask (.remember port) next) → port ∉ a.recent.ports →
      Change host a (.turn id) (some ⟨port, true⟩)
        ⟨(a.recent.remember port).1, a.calls.set id (next (true : Bool))⟩

theorem change_of_step {host : Ip} {a a' : Allocator} {e : AllocatorEvent} {lookup? : Option Lookup}
    (h : a.step host e = some (a', lookup?)) : Change host a e lookup? a' := by
  cases e with
  | begin =>
    cases h
    exact .begin
  | bound id answer =>
    simp only [step] at h
    split at h
    · rename_i hcall
      cases h
      exact .bound hcall
    · cases h
  | turn id =>
    simp only [step] at h
    split at h
    · rename_i port next hcall
      by_cases hport : port ∈ a.recent.ports
      · simp only [RecentPorts.remember_of_mem hport, Option.some.injEq, Prod.mk.injEq] at h
        obtain ⟨rfl, rfl⟩ := h
        exact .known hcall hport
      · have hnew : (a.recent.remember port).2 = true := (a.recent.remember_iff port).2 hport
        simp only [hnew, Option.some.injEq, Prod.mk.injEq] at h
        obtain ⟨rfl, rfl⟩ := h
        exact .note hcall hport
    · cases h

/-- The port that a step notes. -/
def noted? (u : Entry) : Option Nat :=
  match u.effect with
  | some ⟨port, true⟩ => some port
  | _ => none

/-- The address that a call is given by a step. -/
def given? (u : Entry) : Option SocketAddr :=
  match u.event.call?.bind (u.after.calls[·]?) with
  | some (.done (.ok address)) => some address
  | _ => none

def answer? (id : Nat) (u : Entry) : Option (Except String Nat) :=
  match u.event with
  | .bound other answer => if other = id then some answer else none
  | _ => none

def lookup? (id : Nat) (u : Entry) : Option Lookup :=
  match u.event with
  | .turn other => if other = id then u.effect else none
  | _ => none

/-- The ports that were noted, the first one first. -/
def noted (log : List Entry) : List Nat := log.filterMap noted?

/-- The addresses that calls were given, the first one first. -/
def given (log : List Entry) : List SocketAddr := log.filterMap given?

/-- What the system answered a call. -/
def answers (id : Nat) (log : List Entry) : List (Except String Nat) := log.filterMap (answer? id)

/-- What a call looked up. -/
def lookups (id : Nat) (log : List Entry) : List Lookup := log.filterMap (lookup? id)

variable {host : Ip} {a a' : Allocator} {e : AllocatorEvent} {l? : Option Lookup} {log : List Entry}

theorem getElem?_set_call {calls : List (Flow Allocation)} {i : Nat} {flow flow' : Flow Allocation}
    (h : calls[i]? = some flow) (id : Nat) :
    (calls.set i flow')[id]? = if i = id then some flow' else calls[id]? := by
  obtain ⟨hlt, -⟩ := List.getElem?_eq_some_iff.1 h
  rw [List.getElem?_set, if_pos hlt]

theorem windowed_change (hw : Windowed (noted log) a.recent) (h : Change host a e l? a') :
    Windowed (noted (log ++ [⟨a, e, l?, a'⟩])) a'.recent := by
  rw [noted, filterMap_snoc, ← noted]
  cases h with
  | begin | bound _ | known _ _ => simpa [noted?] using hw
  | note _ hnew => exact hw.note hnew

/-- Of a step of one call the others notice nothing. -/
theorem progress_set {u : Entry} {i : Nat} {flow flow' : Flow Allocation}
    (hp : ∀ id, Progress host (answers id log) (lookups id log) a.calls[id]?)
    (hcall : a.calls[i]? = some flow)
    (hown : Progress host (answers i log ++ (answer? i u).toList)
      (lookups i log ++ (lookup? i u).toList) (some flow'))
    (hothers : ∀ id, i ≠ id → answer? id u = none ∧ lookup? id u = none) (id : Nat) :
    Progress host (answers id (log ++ [u])) (lookups id (log ++ [u]))
      (a.calls.set i flow')[id]? := by
  rw [answers, lookups, filterMap_snoc, filterMap_snoc, ← answers, ← lookups,
    getElem?_set_call hcall]
  by_cases hi : i = id
  · rw [if_pos hi, ← hi]
    exact hown
  · obtain ⟨hanswer, hlookup⟩ := hothers id hi
    rw [if_neg hi, hanswer, hlookup]
    simpa using hp id

theorem progress_change
    (hp : ∀ id, Progress host (answers id log) (lookups id log) a.calls[id]?)
    (h : Change host a e l? a') (id : Nat) :
    Progress host (answers id (log ++ [⟨a, e, l?, a'⟩])) (lookups id (log ++ [⟨a, e, l?, a'⟩]))
      a'.calls[id]? := by
  have hid := hp id
  cases h with
  | begin =>
    rw [answers, lookups, filterMap_snoc, filterMap_snoc, ← answers, ← lookups]
    simp only [answer?, lookup?, Option.toList_none, List.append_nil]
    rcases Nat.lt_trichotomy id a.calls.length with hlt | rfl | hgt
    · rwa [List.getElem?_append_left hlt]
    · -- the call that begins is the one behind all others
      rw [List.getElem?_eq_none (Nat.le_refl _)] at hid
      rw [List.getElem?_concat_length]
      generalize answers a.calls.length log = as, lookups a.calls.length log = ls at hid
      cases hid with
      | unborn =>
        have hfirst : Progress host (([] : List Nat).map .ok) (([] : List Nat).map (⟨·, false⟩))
            (some (findFreeWithin host (maxAttempts - 0))) := .asking (Nat.zero_le _)
        exact hfirst
    · rw [List.getElem?_eq_none (Nat.le_of_lt hgt)] at hid
      rwa [List.getElem?_eq_none (by simpa using Nat.succ_le_of_lt hgt)]
  | @bound i answer _ _ hcall =>
    have hi := hp i
    rw [hcall] at hi
    refine progress_set hp hcall ?_ (fun id hne => by simp [answer?, lookup?, hne]) id
    simpa [answer?, lookup?] using hi.bound answer
  | @known i port _ hcall _ =>
    have hi := hp i
    rw [hcall] at hi
    refine progress_set hp hcall ?_ (fun id hne => by simp [answer?, lookup?, hne]) id
    simpa [answer?, lookup?] using hi.turn false
  | @note i port _ hcall _ =>
    have hi := hp i
    rw [hcall] at hi
    refine progress_set hp hcall ?_ (fun id hne => by simp [answer?, lookup?, hne]) id
    simpa [answer?, lookup?] using hi.turn true

/-- A call is given an address by the step that notes its port, and by no other. -/
theorem given_change (hp : ∀ id, Progress host (answers id log) (lookups id log) a.calls[id]?)
    (h : Change host a e l? a') :
    given? ⟨a, e, l?, a'⟩ = (noted? ⟨a, e, l?, a'⟩).map (addressOn host) := by
  cases h with
  | begin => rfl
  | @bound i answer _ next hcall =>
    have hi := hp i
    rw [hcall] at hi
    obtain ⟨ports, -, -, -, hfault, hport⟩ := hi.of_bindAny
    simp only [given?, AllocatorEvent.call?, Option.bind_some, getElem?_set_call hcall, if_pos]
    cases answer with
    | error fault => rw [hfault]; rfl
    | ok port => rw [hport]; rfl
  | @known i port next hcall _ =>
    have hi := hp i
    rw [hcall] at hi
    obtain ⟨ports, -, -, -, -, hknown⟩ := hi.of_remember
    simp only [given?, AllocatorEvent.call?, Option.bind_some, getElem?_set_call hcall, if_pos,
      hknown]
    cases maxAttempts - (ports.length + 1) <;> rfl
  | @note i port next hcall _ =>
    have hi := hp i
    rw [hcall] at hi
    obtain ⟨ports, -, -, -, hnew, -⟩ := hi.of_remember
    simp only [given?, AllocatorEvent.call?, Option.bind_some, getElem?_set_call hcall, if_pos, hnew]
    rfl

/-- What holds after every run: the window, the calls, and what they were given. -/
structure Sound (host : Ip) (log : List Entry) (a : Allocator) : Prop where
  window : Windowed (noted log) a.recent
  progress : ∀ id, Progress host (answers id log) (lookups id log) a.calls[id]?
  given : given log = (noted log).map (addressOn host)

theorem sound_run (h : Run (step host) {} log a) : Sound host log a := by
  induction h with
  | nil => exact ⟨.start, fun _ => .unborn, rfl⟩
  | @snoc log a a' e l? _ hstep ih =>
    have hchange := change_of_step hstep
    refine ⟨windowed_change ih.window hchange, progress_change ih.progress hchange, ?_⟩
    rw [given, noted, filterMap_snoc, filterMap_snoc, ← given, ← noted, ih.given,
      given_change ih.progress hchange, List.map_append]
    cases noted? ⟨a, e, l?, a'⟩ <;> rfl

theorem known_iff_of_turn {id : Nat} (h : Change host a (.turn id) l? a') :
    ∃ port noted, l? = some ⟨port, noted⟩ ∧ (noted = false ↔ port ∈ a.recent.ports) := by
  cases h with
  | known _ hport => exact ⟨_, false, rfl, by simpa using hport⟩
  | note _ hport => exact ⟨_, true, rfl, by simpa using hport⟩

/-- A call that has failed has left the window as it was, at each of its steps. -/
theorem recent_unchanged {f : AddressError} {id : Nat} (h : Run (step host) {} log a)
    (hfailed : a.calls[id]? = some (.done (.error f))) {u : Entry} (hu : u ∈ log)
    (hcall : u.event.call? = some id) : u.after.recent = u.before.recent := by
  have hprogress := (sound_run h).progress id
  rw [hfailed] at hprogress
  obtain ⟨before, event, effect, after⟩ := u
  have hchange : Change host before event effect after := change_of_step (h.step_of_mem hu)
  cases hchange with
  | begin | bound _ | known _ _ => rfl
  | @note i port _ _ _ =>
    obtain rfl : i = id := Option.some.inj hcall
    have hlookup : (⟨port, true⟩ : Lookup) ∈ lookups i log :=
      List.mem_filterMap.2 ⟨_, hu, by simp [lookup?]⟩
    cases hprogress.known_of_error _ hlookup

/-- The remembered ports are the last of those that were noted, the oldest first and none twice. The
addresses that calls are given are on the ports that were noted, in that order, so among any 65
in a row no two are the same. A port is passed over at a turn just when it is remembered then; a
call gives up just when all sixteen ports that it was answered were passed over, and whenever
it fails, none of its steps has changed what is remembered. -/
theorem ports_kept_apart (h : Run (step host) {} log a) :
    (a.recent.ports = (noted log).rtake recentWindow ∧
      a.recent.ports.length = min recentWindow (noted log).length ∧ a.recent.ports.Nodup) ∧
    (given log = (noted log).map (addressOn host) ∧
      ∀ some, some <:+: given log → some.length ≤ recentWindow + 1 → some.Nodup) ∧
    (∀ u ∈ log, ∀ id, u.event = .turn id → ∃ port noted, u.effect = some ⟨port, noted⟩ ∧
      (noted = false ↔ port ∈ u.before.recent.ports)) ∧
    (∀ id, Progress host (answers id log) (lookups id log) a.calls[id]?) ∧
    (∀ id, a.calls[id]? = some (.done (.error (.exhausted host.text))) ↔
      ∃ ports : List Nat, ports.length = maxAttempts ∧ answers id log = ports.map .ok ∧
        lookups id log = ports.map (⟨·, false⟩)) ∧
    ∀ id f, a.calls[id]? = some (.done (.error f)) → ∀ u ∈ log, u.event.call? = some id →
      u.after.recent = u.before.recent := by
  obtain ⟨hwindow, hprogress, hgiven⟩ := sound_run h
  refine ⟨⟨hwindow.ports, hwindow.length, hwindow.nodup⟩, ⟨hgiven, ?_⟩, ?_, hprogress,
    fun id => (hprogress id).exhausted_iff,
    fun id f hfailed u hu hcall => recent_unchanged h hfailed hu hcall⟩
  · intro some hsome hlength
    rw [hgiven] at hsome
    obtain ⟨ports, hports, rfl⟩ := List.infix_map_iff.1 hsome
    rw [List.length_map] at hlength
    refine List.Nodup.map ?_ (hwindow.apart ports hports hlength)
    intro port other heq
    exact congrArg SocketAddr.port heq
  · rintro ⟨before, event, effect, after⟩ hu id rfl
    exact known_iff_of_turn (change_of_step (h.step_of_mem hu))

/-- Two calls are answered the same port. The one that is second at the recent ports is answered
nothing else from then on. -/
def crowdedEvents : List AllocatorEvent :=
  [.begin, .begin, .bound 0 (.ok 40000), .bound 1 (.ok 40000), .turn 0, .turn 1] ++
    (List.replicate 15 [.bound 1 (.ok 40000), .turn 1]).flatten

theorem ports_kept_apart_crowded :
    ∃ log a, play (step .loopback) {} crowdedEvents = some (log, a) ∧
      a.recent.ports = [40000] ∧ given log = [addressOn .loopback 40000] ∧
      a.calls[1]? = some (.done (.error (.exhausted Ip.loopback.text))) ∧
      ∃ ports : List Nat, ports.length = maxAttempts ∧ answers 1 log = ports.map .ok ∧
        lookups 1 log = ports.map (⟨·, false⟩) := by
  have hplay : play (step .loopback) {} crowdedEvents = some (_, _) := rfl
  obtain ⟨-, -, -, -, hexhausted, -⟩ := ports_kept_apart (.of_play hplay)
  exact ⟨_, _, hplay, rfl, rfl, rfl, (hexhausted 1).1 rfl⟩

end Allocator

end NodeWarden
