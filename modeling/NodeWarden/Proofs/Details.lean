import Mathlib.Data.List.Infix
import NodeWarden.Registry

/-! When a node can be used in place of a new one: it is up, it listens on the address, and one
of its inlets leads to the brokers. -/

namespace NodeWarden

theorem containsText_iff {part cs : List Char} : containsText part cs = true ↔ part <:+: cs := by
  induction cs with
  | nil => rw [containsText, List.isEmpty_iff, List.infix_nil]
  | cons c cs ih =>
    rw [containsText, Bool.or_eq_true, List.isPrefixOf_iff_prefix, ih, List.infix_cons_iff]

/-- An end of a connection that the node has opened itself does not listen. -/
def TransportBinding.Incoming (t : TransportBinding) : Prop :=
  ∀ mode, t.mode = some mode → lowerAscii mode ≠ "outgoing"

def InletBinding.LeadsTo (i : InletBinding) (marker inletAddress : String) : Prop :=
  i.bindAddress = some inletAddress ∧
    ∃ route, i.outletRoute = some route ∧ marker.toList <:+: route.toList

/-- A node that is up, listens on the address and has an inlet that leads to the brokers; its
first such inlet listens on `inletAddress`. -/
structure NodeDetails.Serves (d : NodeDetails) (marker address inletAddress : String) : Prop where
  up : ∃ status, d.status = some status ∧ lowerAscii (trim status) ∈ runningWords
  listens : ∃ t ∈ d.transports, t.Incoming ∧
    ∃ socket, t.socketAddress = some socket ∧ sameSocket socket address = true
  inlet : ∃ passed i later, d.inlets = passed ++ i :: later ∧ i.LeadsTo marker inletAddress ∧
    ∀ p ∈ passed, ∀ other, ¬ p.LeadsTo marker other

variable {marker address inletAddress : String} {d : NodeDetails}

theorem isRunning_iff : d.isRunning = true ↔
    ∃ status, d.status = some status ∧ lowerAscii (trim status) ∈ runningWords := by
  have hlower : runningWords.map lowerAscii = runningWords := by decide
  rw [NodeDetails.isRunning, Option.any_eq_true]
  refine exists_congr fun status => and_congr_right fun _ => ?_
  rw [statusMeansRunning, List.any_eq_true, ← hlower, List.mem_map]
  exact exists_congr fun word => and_congr_right fun _ => eqIgnoreCase_iff.trans eq_comm

theorem accepts_iff {t : TransportBinding} : t.accepts address = true ↔
    t.Incoming ∧ ∃ socket, t.socketAddress = some socket ∧ sameSocket socket address = true := by
  have hlower : lowerAscii "outgoing" = "outgoing" := by decide
  rw [TransportBinding.accepts, Bool.and_eq_true, Option.any_eq_true, Bool.not_eq_true',
    Option.any_eq_false]
  refine and_congr_left fun _ => forall_congr' fun mode => imp_congr_right fun _ => ?_
  rw [← Bool.not_eq_true, eqIgnoreCase_iff, hlower]

theorem listensOn_iff : d.listensOn address = true ↔ ∃ t ∈ d.transports, t.Incoming ∧
    ∃ socket, t.socketAddress = some socket ∧ sameSocket socket address = true := by
  rw [NodeDetails.listensOn, List.any_eq_true]
  exact exists_congr fun t => and_congr_right fun _ => accepts_iff

/-- The inlet with its address, if it leads to the brokers. -/
def InletBinding.leading? (marker : String) (i : InletBinding) : Option (String × InletBinding) :=
  match i.bindAddress, i.outletRoute with
  | some address, some route =>
    if containsText marker.toList route.toList then some (address, i) else none
  | _, _ => none

theorem leading?_eq_some {i : InletBinding} {found : String × InletBinding} :
    i.leading? marker = some found ↔ i.LeadsTo marker found.1 ∧ found.2 = i := by
  unfold InletBinding.leading?
  constructor
  · intro h
    split at h
    · next hbind hroute =>
      rw [Option.ite_none_right_eq_some, containsText_iff] at h
      obtain ⟨hmarker, hfound⟩ := h
      cases hfound
      exact ⟨⟨hbind, _, hroute, hmarker⟩, rfl⟩
    · cases h
  · rintro ⟨⟨hbind, route, hroute, hmarker⟩, rfl⟩
    simp only [hbind, hroute, if_pos (containsText_iff.2 hmarker)]

theorem leading?_eq_none {i : InletBinding} :
    i.leading? marker = none ↔ ∀ other, ¬ i.LeadsTo marker other := by
  rw [Option.eq_none_iff_forall_ne_some]
  constructor
  · exact fun h other hleads => h (other, i) (leading?_eq_some.2 ⟨hleads, rfl⟩)
  · exact fun h found hfound => h found.1 (leading?_eq_some.1 hfound).1

theorem inletRoutedTo_eq : d.inletRoutedTo marker = d.inlets.findSome? (·.leading? marker) := rfl

theorem inletRoutedTo_iff :
    (d.inletRoutedTo marker).map (·.1) = some inletAddress ↔
      ∃ passed i later, d.inlets = passed ++ i :: later ∧ i.LeadsTo marker inletAddress ∧
        ∀ p ∈ passed, ∀ other, ¬ p.LeadsTo marker other := by
  rw [inletRoutedTo_eq, Option.map_eq_some_iff]
  constructor
  · rintro ⟨found, hfound, rfl⟩
    obtain ⟨passed, i, later, hinlets, hi, hpassed⟩ := List.findSome?_eq_some_iff.1 hfound
    exact ⟨passed, i, later, hinlets, (leading?_eq_some.1 hi).1,
      fun p hp => leading?_eq_none.1 (hpassed p hp)⟩
  · rintro ⟨passed, i, later, hinlets, hi, hpassed⟩
    have hleading : i.leading? marker = some (inletAddress, i) := leading?_eq_some.2 ⟨hi, rfl⟩
    have hnone : ∀ p ∈ passed, p.leading? marker = none := fun p hp =>
      leading?_eq_none.2 (hpassed p hp)
    exact ⟨(inletAddress, i),
      List.findSome?_eq_some_iff.2 ⟨passed, i, later, hinlets, hleading, hnone⟩, rfl⟩

theorem reusableInlet?_iff :
    reusableInlet? marker address d = some inletAddress ↔ d.Serves marker address inletAddress := by
  rw [reusableInlet?, Option.ite_none_right_eq_some, Bool.and_eq_true, isRunning_iff, listensOn_iff,
    inletRoutedTo_iff]
  exact ⟨fun ⟨⟨hup, hlistens⟩, hinlet⟩ => ⟨hup, hlistens, hinlet⟩,
    fun h => ⟨⟨h.up, h.listens⟩, h.inlet⟩⟩

end NodeWarden
