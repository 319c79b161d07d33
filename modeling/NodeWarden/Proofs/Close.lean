import NodeWarden.Proofs.Gone
import NodeWarden.Proofs.Held

/-! The close of a bridge. The client is closed first, at every close, and only when it has
answered is the node asked for its stop and its delete called for; the answer to the close comes
after both and is the client's own. However often a bridge is closed and whatever its program does
meanwhile, one external delete is issued at most, a node that was started here is gone or going
after a close, and a close waits for nothing but its client and that delete. -/

namespace NodeWarden

/-- What the client's answer to a close is to whoever closes: its failure counts as part of the
shutdown if the node was started here and is gone or going, and nothing else is ever told. -/
structure Told (n : NodeView) (result : Except ClientFault Unit) (told : Except BridgeError Unit) :
    Prop where
  ok : told = .ok () ↔ result = .ok ()
  shutdown : ∀ f, told = .error (.shutdown f) ↔
    result = .error f ∧ n.owned = true ∧ n.state.isTornDown = true
  client : ∀ f, told = .error (.client f) ↔
    result = .error f ∧ (n.owned = false ∨ n.state.isTornDown = false)
  only : ∀ e, told = .error e → ∃ f, e = .shutdown f ∨ e = .client f

theorem told_mapError (n : NodeView) (result : Except ClientFault Unit) :
    Told n result (result.mapError n.clientError) := by
  cases result with
  | ok u => constructor <;> simp [Except.mapError]
  | error f =>
    cases howned : n.owned <;> cases hdown : n.state.isTornDown <;>
      constructor <;>
      simp [Except.mapError, NodeView.clientError, NodeView.isGone, howned, hdown, eq_comm]

/-- A node whose life is sound has a sound teardown. -/
theorem HeldNode.Living.sound {n : HeldNode} (hl : n.Living) : n.Sound := by
  cases n with
  | owned l => exact Life.Sound.teardown hl
  | adopted _ _ => exact hl

namespace Bridged

variable {b b' : Bridged} {node : HeldNode} {e : BridgedEvent} {o : BridgedEffect}
  {log : List Entry} {u : Entry} {c : ClientCall} {told : Except BridgeError Unit}
  {did : List LifeEvent} {result : DeleteResult}

/-- What the bridge itself does to its node. -/
def ownStep? (u : Entry) : Option LifeEvent :=
  match u.event, u.effect with
  | .proceed, .node le _ => some le
  | _, _ => none

def ownSteps (log : List Entry) : List LifeEvent := log.filterMap ownStep?

/-- The step is one of the node's or a look at it, and no end of a call. -/
def Quiet (u : Entry) : Prop := (∀ be, u.event ≠ .bridge be) ∧ u.event ≠ .giveUp

/-- A call has been passed on to the client, and nothing has come of it yet. -/
def Calling (log : List Entry) (c : ClientCall) : Prop :=
  ∃ pre ask quiet, log = pre ++ ask :: quiet ∧ ask.event = .bridge (.call c) ∧
    ask.effect = .bridge (.askClient c) ∧ ∀ v ∈ quiet, Quiet v

/-- The client has answered a close that was passed on to it, and that is what whoever closes will
be told. Since then the bridge has done this to its node. -/
def Closed (log : List Entry) (did : List LifeEvent) (told : Except BridgeError Unit) : Prop :=
  ∃ pre answered quiet result, log = pre ++ answered :: quiet ∧ Calling pre .close ∧
    answered.event = .bridge (.clientAnswers result) ∧ answered.effect = .bridge .deleteNode ∧
    Told answered.before.view result told ∧ (∀ v ∈ quiet, Quiet v) ∧ ownSteps quiet = did

theorem Calling.snoc (h : Calling log c) (hu : Quiet u) : Calling (log ++ [u]) c := by
  obtain ⟨pre, ask, quiet, rfl, hask, heffect, hquiet⟩ := h
  refine ⟨pre, ask, quiet ++ [u], by simp, hask, heffect, ?_⟩
  simpa [or_imp, forall_and] using ⟨hquiet, hu⟩

theorem Closed.snoc (h : Closed log did told) (hu : Quiet u) :
    Closed (log ++ [u]) (did ++ (ownStep? u).toList) told := by
  obtain ⟨pre, answered, quiet, result, rfl, hcalling, hevent, heffect, htold, hquiet, rfl⟩ := h
  refine ⟨pre, answered, quiet ++ [u], result, by simp, hcalling, hevent, heffect, htold, ?_,
    filterMap_snoc _ _ _⟩
  simpa [or_imp, forall_and] using ⟨hquiet, hu⟩

/-- What was done since the client answered was done in the end. -/
theorem Closed.mem_ownSteps {le : LifeEvent} (h : Closed log did told) (hle : le ∈ did) :
    le ∈ ownSteps log := by
  obtain ⟨pre, answered, quiet, result, rfl, -, -, -, -, -, rfl⟩ := h
  rw [ownSteps, List.filterMap_append, List.filterMap_cons]
  refine List.mem_append_right _ ?_
  split
  · exact hle
  · exact List.mem_cons_of_mem _ hle

/-- What has been done is what the stage of the call says. Once the client has answered a close, that
and what is left to do to the node are a stop and a delete. -/
inductive Traced (log : List Entry) (b : Bridged) : Prop
  | idle : b.stage = .idle → Traced log b
  | calling {c : ClientCall} : b.stage = .calling c → Calling log c → Traced log b
  | deleting {did : List LifeEvent} {told : Except BridgeError Unit} : b.stage = .deleting told →
      Closed log did told → did ++ b.held.todo = [.askStop, .callDelete 0] → Traced log b

theorem Traced.of_calling (h : Traced log b) (hstage : b.stage = .calling c) : Calling log c := by
  cases h with
  | calling hat hcall =>
    rw [hstage] at hat
    cases hat
    exact hcall
  | idle hat | deleting hat _ _ =>
    rw [hstage] at hat
    cases hat

theorem Traced.of_deleting (h : Traced log b) (hstage : b.stage = .deleting told) :
    ∃ did, Closed log did told ∧ did ++ b.held.todo = [.askStop, .callDelete 0] := by
  cases h with
  | deleting hat hclosed hrest =>
    rw [hstage] at hat
    cases hat
    exact ⟨_, hclosed, hrest⟩
  | idle hat | calling hat _ =>
    rw [hstage] at hat
    cases hat

theorem Traced.snoc (h : Traced log b) (hu : Quiet u) (hstage : b'.stage = b.stage)
    (htodo : b.held.todo = (ownStep? u).toList ++ b'.held.todo) : Traced (log ++ [u]) b' := by
  cases h with
  | idle hidle => exact .idle (hstage.trans hidle)
  | calling hcalling hcall => exact .calling (hstage.trans hcalling) (hcall.snoc hu)
  | deleting hdeleting hclosed hrest =>
    rw [htodo, ← List.append_assoc] at hrest
    exact .deleting (hstage.trans hdeleting) (hclosed.snoc hu) hrest

theorem held_of_live {le : LifeEvent} (h : b.live le = some (b', o)) :
    b'.stage = b.stage ∧ ∃ effects, o = .node le effects ∧
      b.held.live HeldNode.step le = some (b'.held, effects) := by
  obtain ⟨⟨held, effects⟩, hlive, heq⟩ := Option.map_eq_some_iff.1 h
  cases heq
  exact ⟨rfl, effects, rfl, hlive⟩

theorem held_of_advance {be : BridgeEvent} (h : b.advance be = some (b', o)) :
    ∃ effect, o = .bridge effect ∧ BridgeStage.Change b.view b.stage be b'.stage effect ∧
      b'.held = if effect matches .deleteNode then b.held.deleteNode else b.held := by
  obtain ⟨⟨stage, effect⟩, hstep, heq⟩ := Option.map_eq_some_iff.1 h
  cases heq
  exact ⟨effect, rfl, BridgeStage.change_of_step hstep, rfl⟩

theorem live_of_node {le : LifeEvent} (h : b.step (.node le) = some (b', o)) :
    le.isOwnDelete = false ∧ b.live le = some (b', o) := by
  rw [step] at h
  split at h
  · cases h
  · rename_i hnot
    exact ⟨by simpa using hnot, h⟩

theorem live_of_proceed (h : b.step .proceed = some (b', o)) :
    ∃ le held, b.held.next? = some (le, held) ∧ { b with held }.live le = some (b', o) := by
  obtain ⟨⟨le, held⟩, hnext, hlive⟩ := Option.bind_eq_some_iff.1 h
  exact ⟨le, held, hnext, hlive⟩

theorem advance_of_bridge {be : BridgeEvent} (h : b.step (.bridge be) = some (b', o)) :
    (be = .nodeDeleted → b.isAnswered = true) ∧ b.advance be = some (b', o) := by
  cases be with
  | nodeDeleted =>
    rw [step] at h
    split at h
    · rename_i hanswered
      exact ⟨fun _ => hanswered, h⟩
    · cases h
  | call _ | clientAnswers _ =>
    refine ⟨fun hdeleted => ?_, h⟩
    cases hdeleted

theorem opened_of_giveUp (h : b.step .giveUp = some (b', o)) :
    b'.stage = .idle ∧ b'.held.todo = [] ∧ ∀ effects, o ≠ .node (.callDelete 0) effects := by
  rw [step] at h
  split at h
  · cases h
  · have hgiveUp := Option.some.inj h
    unfold giveUp at hgiveUp
    cases hlive : (opened b.held.node).live (.abandonDelete 0) with
    | none =>
      rw [hlive] at hgiveUp
      cases hgiveUp
      exact ⟨rfl, rfl, fun _ hcall => by cases hcall⟩
    | some p =>
      rw [hlive, Option.getD_some] at hgiveUp
      subst hgiveUp
      obtain ⟨hstage, effects, rfl, hheld⟩ := held_of_live hlive
      exact ⟨hstage, Held.todo_of_live hheld, fun _ hcall => by cases hcall⟩

theorem todo_of_isAnswered (h : b.isAnswered = true) : b.held.todo = [] := by
  rw [isAnswered, Bool.and_eq_true, List.isEmpty_iff] at h
  exact h.1

theorem traced_advance {be : BridgeEvent} (h : Traced log b) (hstep : b.advance be = some (b', o)) :
    Traced (log ++ [⟨b, .bridge be, o, b'⟩]) b' := by
  obtain ⟨effect, rfl, hchange, hheld⟩ := held_of_advance hstep
  generalize hbefore : b.stage = stage at hchange
  generalize hafter : b'.stage = stage' at hchange
  cases hchange with
  | refuse _ | answer _ | deleted => exact .idle hafter
  | @call c _ => exact .calling hafter ⟨log, _, [], rfl, rfl, rfl, by simp⟩
  | @close r =>
    have hcall := h.of_calling hbefore
    refine .deleting hafter
      ⟨log, _, [], r, rfl, hcall, rfl, rfl, told_mapError _ _, by simp, rfl⟩ ?_
    rw [hheld]
    rfl

theorem traced_step (h : Traced log b) (hstep : b.step e = some (b', o)) :
    Traced (log ++ [⟨b, e, o, b'⟩]) b' := by
  cases e with
  | node le =>
    obtain ⟨hstage, effects, rfl, hheld⟩ := held_of_live (live_of_node hstep).2
    exact h.snoc ⟨nofun, nofun⟩ hstage (Held.todo_of_live hheld).symm
  | proceed =>
    obtain ⟨le, held, hnext, hlive⟩ := live_of_proceed hstep
    obtain ⟨hstage, effects, rfl, hheld⟩ := held_of_live hlive
    refine h.snoc ⟨nofun, nofun⟩ hstage ?_
    rw [Held.todo_of_live hheld]
    exact Held.todo_of_next hnext
  | askRunning =>
    cases hstep
    exact h.snoc ⟨nofun, nofun⟩ rfl rfl
  | bridge be => exact traced_advance h (advance_of_bridge hstep).2
  | giveUp => exact .idle (opened_of_giveUp hstep).1

theorem traced_run (h : Run step (opened node) log b) : Traced log b := by
  induction h with
  | nil => exact .idle rfl
  | snoc _ hstep ih => exact traced_step ih hstep

/-- A delete that has returned was called for, and the stop went before it. -/
theorem closed_of_isAnswered (h : Traced log b) (hstage : b.stage = .deleting told)
    (hanswered : b.isAnswered = true) : Closed log [.askStop, .callDelete 0] told := by
  obtain ⟨did, hclosed, hrest⟩ := h.of_deleting hstage
  rw [todo_of_isAnswered hanswered, List.append_nil] at hrest
  rwa [hrest] at hclosed

/-- While the node's delete is awaited it is under way, and otherwise there is nothing to do. -/
structure Owes (b : Bridged) : Prop where
  deleting : ∀ closed, b.stage = .deleting closed → b.held.Deleting
  nothing : (∀ closed, b.stage ≠ .deleting closed) → b.held.todo = []

theorem owes_idle (hidle : b.stage = .idle) (hnothing : b.held.todo = []) : b.Owes where
  deleting := fun _ hstage => by
    rw [hidle] at hstage
    cases hstage
  nothing := fun _ => hnothing

theorem Owes.eq_deleting {le : LifeEvent} {todo : List LifeEvent} (h : b.Owes)
    (htodo : b.held.todo = le :: todo) : ∃ closed, b.stage = .deleting closed := by
  by_contra hnone
  rw [h.nothing fun closed hstage => hnone ⟨closed, hstage⟩] at htodo
  cases htodo

theorem owes_advance {be : BridgeEvent} (h : b.Owes) (hanswered : be = .nodeDeleted → b.isAnswered)
    (hstep : b.advance be = some (b', o)) : b'.Owes := by
  obtain ⟨effect, -, hchange, hheld⟩ := held_of_advance hstep
  have hnothing := h.nothing
  generalize hbefore : b.stage = stage at hchange hnothing
  generalize hafter : b'.stage = stage' at hchange
  cases hchange with
  | refuse _ | answer _ => exact owes_idle hafter (hheld ▸ hnothing nofun)
  | call _ =>
    refine ⟨fun closed hstage => ?_, fun _ => hheld ▸ hnothing nofun⟩
    rw [hafter] at hstage
    cases hstage
  | close =>
    refine ⟨fun _ _ => .stop (by rw [hheld]; rfl), fun hnot => absurd hafter (hnot _)⟩
  | deleted =>
    exact owes_idle hafter (hheld ▸ todo_of_isAnswered (hanswered rfl))

theorem owes_step (h : b.Owes) (hstep : b.step e = some (b', o)) : b'.Owes := by
  cases e with
  | node le =>
    obtain ⟨hown, hlive⟩ := live_of_node hstep
    obtain ⟨hstage, effects, -, hheld⟩ := held_of_live hlive
    have hstay : le ≠ .abandonDelete 0 := by
      rintro rfl
      cases hown
    refine ⟨fun closed hat => ?_, fun hat => ?_⟩
    · exact Held.deleting_live (h.deleting closed (hstage ▸ hat)) hstay hheld
    · exact (Held.todo_of_live hheld).trans (h.nothing (hstage ▸ hat))
  | proceed =>
    obtain ⟨le, held, hnext, hlive⟩ := live_of_proceed hstep
    obtain ⟨hstage, effects, -, hheld⟩ := held_of_live hlive
    obtain ⟨closed, hat⟩ := h.eq_deleting (Held.todo_of_next hnext)
    refine ⟨fun _ _ => Held.deleting_next (h.deleting closed hat) hnext hheld, fun hnot => ?_⟩
    exact absurd (hstage.trans hat) (hnot closed)
  | askRunning =>
    cases hstep
    exact h
  | bridge be =>
    obtain ⟨hanswered, hadvance⟩ := advance_of_bridge hstep
    exact owes_advance h hanswered hadvance
  | giveUp =>
    obtain ⟨hidle, hnothing, -⟩ := opened_of_giveUp hstep
    exact owes_idle hidle hnothing

theorem owes_run (h : Run step (opened node) log b) : b.Owes :=
  h.always (owes_idle rfl rfl) fun _ hbefore hstep => owes_step hbefore hstep

/-- Only a close whose client has answered has something to do to the node: the stop, and then the
delete. -/
theorem closed_of_proceed (h : Run step (opened node) log b)
    (hstep : b.step .proceed = some (b', o)) :
    ∃ le effects did rest told, o = .node le effects ∧ Closed log did told ∧
      did ++ le :: rest = [.askStop, .callDelete 0] := by
  obtain ⟨le, held, hnext, hlive⟩ := live_of_proceed hstep
  obtain ⟨-, effects, rfl, -⟩ := held_of_live hlive
  have htodo := Held.todo_of_next hnext
  obtain ⟨closed, hstage⟩ := (owes_run h).eq_deleting htodo
  obtain ⟨did, hclosed, hrest⟩ := (traced_run h).of_deleting hstage
  rw [htodo] at hrest
  exact ⟨le, effects, did, held.todo, closed, rfl, hclosed, hrest⟩

/-- Nobody but the bridge takes the steps of its own delete. -/
theorem event_of_callDelete {effects : List LifeEffect}
    (h : b.step e = some (b', .node (.callDelete 0) effects)) : e = .proceed := by
  cases e with
  | node le =>
    obtain ⟨hown, hlive⟩ := live_of_node h
    obtain ⟨-, _, heq, -⟩ := held_of_live hlive
    cases heq
    cases hown
  | proceed => rfl
  | askRunning => cases h
  | bridge be =>
    obtain ⟨_, heq, -⟩ := held_of_advance (advance_of_bridge h).2
    cases heq
  | giveUp => exact absurd rfl ((opened_of_giveUp h).2.2 effects)

/-- What was told to whoever called: a close was answered by its client, and the node's stop and its
delete were called for since, or it was no close. -/
inductive Answers (log : List Entry) (e : BridgedEvent) (told : Except BridgeError Unit) : Prop
  | close : e = .bridge .nodeDeleted → Closed log [.askStop, .callDelete 0] told →
      Answers log e told
  | call {c : ClientCall} : c ≠ .close → Calling log c → Answers log e told
  | refused : e = .bridge (.call .connect) → Answers log e told

theorem answers_of_step (h : Traced log b) (hstep : b.step e = some (b', .bridge (.answer told))) :
    Answers log e told := by
  cases change_of_step hstep with
  | bridge _ hchange =>
    have hanswered := (advance_of_bridge hstep).1
    generalize hbefore : b.stage = stage at hchange
    generalize b'.stage = stage' at hchange
    cases hchange with
    | refuse _ => exact .refused rfl
    | deleted => exact .close rfl (closed_of_isAnswered h hbefore (hanswered rfl))
    | answer hc => exact .call hc (h.of_calling hbefore)

theorem answer_of_nodeDeleted (hstep : b.step (.bridge .nodeDeleted) = some (b', o)) :
    ∃ told, b.stage = .deleting told ∧ b.isAnswered = true ∧ o = .bridge (.answer told) := by
  obtain ⟨hanswered, hadvance⟩ := advance_of_bridge hstep
  obtain ⟨effect, rfl, hchange, -⟩ := held_of_advance hadvance
  generalize hbefore : b.stage = stage at hchange
  generalize b'.stage = stage' at hchange
  cases hchange with
  | deleted => exact ⟨_, rfl, hanswered rfl, rfl⟩

theorem effect_of_close (h : b.step (.bridge (.call .close)) = some (b', o)) :
    o = .bridge (.askClient .close) := by
  obtain ⟨effect, rfl, hchange, -⟩ := held_of_advance (advance_of_bridge h).2
  generalize b.stage = stage at hchange
  generalize b'.stage = stage' at hchange
  cases hchange
  rfl

/-! The external deletes. -/

def issuersOf : BridgedEffect → List Caller
  | .node _ effects => effects.filterMap Life.issuer?
  | _ => []

/-- Who issued the external deletes. -/
def issuers (log : List Entry) : List Caller := log.flatMap fun u => issuersOf u.effect

theorem issued_change (h : Change b b' e o) :
    b'.held.node.issued = b.held.node.issued + (issuersOf o).length := by
  cases h with
  | node _ hnode _ => exact HeldNode.issued_step hnode
  | status hsame => rw [hsame]; rfl
  | bridge hnode _ | left hnode _ => rw [hnode]; rfl

theorem issuers_run (h : Run step (opened node) log b) :
    b.held.node.issued = node.issued + (issuers log).length := by
  induction h with
  | nil => rfl
  | snoc _ hstep ih =>
    rw [issued_change (change_of_step hstep), ih, issuers, issuers, List.flatMap_append,
      List.flatMap_singleton, List.length_append, Nat.add_assoc]

theorem living_run (hl : node.Living) (h : Run step (opened node) log b) : b.held.node.Living := by
  refine h.always (P := fun b => b.held.node.Living) hl ?_
  rintro ⟨before, event, effect, after⟩ hbefore hstep
  dsimp only at hbefore hstep ⊢
  cases change_of_step hstep with
  | node _ hnode _ => exact HeldNode.living_step hbefore hnode
  | status hsame => rwa [hsame]
  | bridge hsame _ | left hsame _ => rwa [hsame]

/-- However it is used, at most one external delete is issued for a node, and none for one that was
found running. -/
theorem issuers_le (hnode : node.Fresh) (h : Run step (opened node) log b) :
    (issuers log).length ≤ 1 ∧ (node.view.owned = false → issuers log = []) := by
  have hissued := issuers_run h
  rw [hnode.issued_eq, Nat.zero_add] at hissued
  rw [← List.length_eq_zero_iff, ← hissued]
  cases hnode with
  | started name stopGrace =>
    have hliving := living_run ((HeldNode.Fresh.started name stopGrace).living rfl) h
    exact ⟨HeldNode.issued_le hliving, nofun⟩
  | found name =>
    rw [(adopted_run h).1.node]
    exact ⟨Nat.zero_le 1, fun _ => rfl⟩

/-! A node that was started here, after a close. -/

theorem called_of_mem {le : LifeEvent} (hle : le ∈ ownSteps log) :
    ∃ u ∈ log, ∃ effects, u.effect = .node le effects := by
  obtain ⟨⟨before, event, effect, after⟩, hu, hown⟩ := List.mem_filterMap.1 hle
  refine ⟨_, hu, ?_⟩
  cases event <;> cases effect <;> cases hown
  exact ⟨_, rfl⟩

/-- Once its delete was called for, the node is gone or going, and that by one external delete. -/
theorem torn_down_of_called (hnode : node.Fresh) (howned : node.view.owned = true)
    (h : Run step (opened node) log b) (hcalled : .callDelete 0 ∈ ownSteps log) :
    b.view.state.isTornDown = true ∧ (issuers log).length = 1 := by
  have hliving := living_run (hnode.living howned) h
  have hdown : b.view.state.isTornDown = true := by
    obtain ⟨⟨before, event, effect, after⟩, hu, effects, rfl⟩ := called_of_mem hcalled
    obtain ⟨pre, post, rfl⟩ := List.append_of_mem hu
    obtain ⟨hpre, hstep, hpost⟩ := h.cut
    have hbefore := living_run (hnode.living howned) hpre
    cases change_of_step hstep with
    | node _ hcall _ =>
      have hafter := HeldNode.living_step hbefore hcall
      exact (owned_run hafter.sound hpost).2.down (HeldNode.isTornDown_callDelete hbefore hcall)
  refine ⟨hdown, ?_⟩
  have hissued := issuers_run h
  rw [hnode.issued_eq, Nat.zero_add, HeldNode.issued_of_isTornDown hliving hdown] at hissued
  exact hissued.symm

theorem view_owned (hnode : node.Fresh) (h : Run step (opened node) log b) :
    b.view.owned = node.view.owned := by
  cases hnode with
  | started name stopGrace =>
    have hliving := living_run ((HeldNode.Fresh.started name stopGrace).living rfl) h
    rw [view, HeldNode.owned_of_sound hliving.sound]
    rfl
  | found name => rw [view, (adopted_run h).1.node]

/-! The end of a close. -/

/-- The delete of the node returns, by the bridge's own steps and the answer of its external delete,
if one is out. -/
def Returns (b : Bridged) (result : DeleteResult) (told : Except BridgeError Unit) : Prop :=
  ∃ rest b', Run step b rest b' ∧ b'.stage = .deleting told ∧ b'.isAnswered = true ∧
    ∀ v ∈ rest, v.event = .proceed ∨ v.event = .node (.answerDelete (.owner 0) result)

/-- The call comes to its end by the bridge's own steps and the answer of its external delete, if
one is out. By then the node was asked for its stop and its delete was called for, once each since
the client answered, and a node that was started here is gone or going. -/
def Ends (log : List Entry) (b : Bridged) (result : DeleteResult) (told : Except BridgeError Unit) :
    Prop :=
  ∃ rest last b', Run step b (rest ++ [last]) b' ∧ last.event = .bridge .nodeDeleted ∧
    last.effect = .bridge (.answer told) ∧ b'.stage = .idle ∧
    (∀ v ∈ rest, v.event = .proceed ∨ v.event = .node (.answerDelete (.owner 0) result)) ∧
    Closed (log ++ rest) [.askStop, .callDelete 0] told ∧
    (b'.view.owned = true → b'.view.state.isTornDown = true)

theorem Returns.cons (hstep : b.step e = some (b', o))
    (he : e = .proceed ∨ e = .node (.answerDelete (.owner 0) result)) (h : b'.Returns result told) :
    b.Returns result told := by
  obtain ⟨rest, b'', hrun, hstage, hanswered, hrest⟩ := h
  refine ⟨⟨b, e, o, b'⟩ :: rest, b'', Run.cons hstep hrun, hstage, hanswered, ?_⟩
  simpa using ⟨he, hrest⟩

theorem step_node {le : LifeEvent} (h : le.isOwnDelete = false) :
    b.step (.node le) = b.live le := by
  rw [step, if_neg (by simp [h])]

theorem live_of_held {le : LifeEvent} {held : Held HeldNode} {effects : List LifeEffect}
    (h : b.held.live HeldNode.step le = some (held, effects)) :
    b.live le = some ({ b with held }, .node le effects) := by
  rw [live, h]
  rfl

theorem step_proceed {le : LifeEvent} {todo : List LifeEvent} {node : HeldNode}
    {effects : List LifeEffect} (htodo : b.held.todo = le :: todo)
    (hnode : b.held.node.step le = some (node, effects)) :
    ∃ b', b.step .proceed = some (b', .node le effects) ∧ b'.stage = b.stage ∧
      b'.held.node = node ∧ b'.held.todo = todo ∧
      b'.held.answer = (effects.findSome? LifeEffect.ownAnswer? <|> b.held.answer) := by
  have hnext : b.held.next? = some (le, { b.held with todo }) := by rw [Held.next?, htodo]
  let answer := effects.findSome? LifeEffect.ownAnswer? <|> b.held.answer
  refine ⟨{ b with held := { node, todo, answer } }, ?_, rfl, rfl, rfl, rfl⟩
  rw [step, hnext]
  exact live_of_held (Held.live_of_step hnode)

theorem returns_answered (hstage : b.stage = .deleting told) (htodo : b.held.todo = [])
    (hanswer : b.held.answer.isSome) : b.Returns result told := by
  have hanswered : b.isAnswered = true := by rw [isAnswered, htodo, hanswer]; rfl
  exact ⟨[], b, .nil, hstage, hanswered, by simp⟩

theorem returns_waits (hstage : b.stage = .deleting told) (htodo : b.held.todo = [])
    (hawaits : b.held.node.Awaits) : b.Returns result told := by
  obtain ⟨node, hnode⟩ := HeldNode.step_answerDelete hawaits result
  have hlive := live_of_held (Held.live_of_step hnode)
  exact .cons ((step_node rfl).trans hlive) (.inr rfl) (returns_answered hstage htodo rfl)

theorem returns_call (hstage : b.stage = .deleting told) (htodo : b.held.todo = [.callDelete 0]) :
    b.Returns result told := by
  obtain ⟨node, effects, hnode⟩ := HeldNode.step_callDelete b.held.node
  obtain ⟨b', hstep, hsame, hnode', htodo', hanswer⟩ := step_proceed htodo hnode
  refine .cons hstep (.inl rfl) ?_
  rcases HeldNode.awaits_callDelete hnode with hawaits | hown
  · exact returns_waits (hsame.trans hstage) htodo' (by rwa [hnode'])
  · exact returns_answered (hsame.trans hstage) htodo' (Held.isSome_of_answer hanswer (.inl hown))

theorem returns_stop (hstage : b.stage = .deleting told)
    (htodo : b.held.todo = [.askStop, .callDelete 0]) (hheld : b.held.node.IsHeld) :
    b.Returns result told := by
  obtain ⟨node, hnode⟩ := HeldNode.step_askStop hheld
  obtain ⟨b', hstep, hsame, -, htodo', -⟩ := step_proceed htodo hnode
  exact .cons hstep (.inl rfl) (returns_call (hsame.trans hstage) htodo')

theorem returns_of_deleting (hd : b.held.Deleting) (hstage : b.stage = .deleting told)
    (hheld : b.held.node.IsHeld) (result : DeleteResult) : b.Returns result told := by
  cases hd with
  | stop htodo => exact returns_stop hstage htodo hheld
  | call htodo => exact returns_call hstage htodo
  | waits htodo hawaits => exact returns_waits hstage htodo hawaits
  | answered htodo hsome => exact returns_answered hstage htodo hsome

theorem ends_of_returns (hnode : node.Fresh) (h : Run step (opened node) log b)
    (hreturns : b.Returns result told) : Ends log b result told := by
  obtain ⟨rest, m, hrun, hstage, hanswered, hrest⟩ := hreturns
  have hstep : m.step (.bridge .nodeDeleted) = some (⟨m.held, .idle⟩, .bridge (.answer told)) := by
    rw [step, if_pos hanswered, advance, hstage]
    rfl
  have hm := h.append hrun
  have hclosed := closed_of_isAnswered (traced_run hm) hstage hanswered
  refine ⟨rest, _, _, hrun.snoc hstep, rfl, rfl, rfl, hrest, hclosed, fun howned => ?_⟩
  have hstarted : node.view.owned = true := (view_owned hnode hm).symm.trans howned
  exact (torn_down_of_called hnode hstarted hm (hclosed.mem_ownSteps (by simp))).1

theorem isHeld_run (hnode : node.Fresh) (h : Run step (opened node) log b)
    (hdrop : ∀ u ∈ log, ∀ effects, u.effect ≠ .node .dropHandle effects) : b.held.node.IsHeld := by
  refine h.invariant (P := fun b => b.held.node.IsHeld) hnode.isHeld ?_ hdrop
  intro u hu hbefore hstep
  obtain ⟨before, event, effect, after⟩ := u
  dsimp only at hu hbefore hstep ⊢
  cases change_of_step hstep with
  | node _ hnode _ =>
    refine HeldNode.isHeld_step hbefore ?_ hnode
    rintro rfl
    exact hu _ rfl
  | status hsame => rwa [hsame]
  | bridge hsame _ | left hsame _ => rwa [hsame]

theorem step_close (hidle : b.stage = .idle) :
    b.step (.bridge (.call .close)) =
      some (⟨b.held, .calling .close⟩, .bridge (.askClient .close)) := by
  change b.advance (.call .close) = _
  rw [advance, hidle]
  rfl

theorem step_closed (hcalling : b.stage = .calling .close) (r : Except ClientFault Unit) :
    b.step (.bridge (.clientAnswers r)) =
      some (⟨b.held.deleteNode, .deleting (r.mapError b.view.clientError)⟩,
        .bridge .deleteNode) := by
  change b.advance (.clientAnswers r) = _
  rw [advance, hcalling]
  rfl

/-- A bridge that is used, closed and left in any order, whatever its client answers and whatever
its node's program, its monitor and others do meanwhile. The bridge's own delete, and the stop
before it, come after the client has answered the close. Every close is passed on to the client.
At most one external delete is issued, and none for a node that was found running. Whoever closes
is told what the client said, as `Told` has it, and nothing that the delete came to; by then the
stop and the delete were called for since the client answered, and a node that was started here
is gone or going, with its one external delete issued. An idle bridge can be closed, its client
can answer, and from there on the close ends, whatever the external delete comes to. -/
theorem closed_then_deleted (hnode : node.Fresh) (h : Run step (opened node) log b) :
    (∀ pre u post, log = pre ++ u :: post →
      u.event = .proceed ∨ (∃ effects, u.effect = .node (.callDelete 0) effects) →
        ∃ le effects did rest told, u.effect = .node le effects ∧ Closed pre did told ∧
          did ++ le :: rest = [.askStop, .callDelete 0]) ∧
    (∀ u ∈ log, u.event = .bridge (.call .close) → u.effect = .bridge (.askClient .close)) ∧
    ((issuers log).length ≤ 1 ∧ (node.view.owned = false → issuers log = [])) ∧
    (∀ pre u post, log = pre ++ u :: post → ∀ told, u.effect = .bridge (.answer told) →
      Answers pre u.event told) ∧
    (∀ pre u post, log = pre ++ u :: post → u.event = .bridge .nodeDeleted →
      (∃ told, Closed pre [.askStop, .callDelete 0] told ∧ u.effect = .bridge (.answer told)) ∧
      (node.view.owned = true →
        u.before.view.state.isTornDown = true ∧ (issuers pre).length = 1)) ∧
    (b.stage = .idle →
      ∃ b', b.step (.bridge (.call .close)) = some (b', .bridge (.askClient .close))) ∧
    (b.stage = .calling .close → ∀ r,
      ∃ b', b.step (.bridge (.clientAnswers r)) = some (b', .bridge .deleteNode)) ∧
    ∀ told, b.stage = .deleting told →
      (∀ u ∈ log, ∀ effects, u.effect ≠ .node .dropHandle effects) →
        ∀ result, Ends log b result told := by
  refine ⟨?_, ?_, issuers_le hnode h, ?_, ?_, fun hidle => ⟨_, step_close hidle⟩,
    fun hcalling r => ⟨_, step_closed hcalling r⟩, ?_⟩
  · rintro pre ⟨before, event, effect, after⟩ post rfl hu
    obtain ⟨hpre, hstep, -⟩ := h.cut
    have hevent : event = .proceed := by
      rcases hu with hu | ⟨effects, rfl⟩
      · exact hu
      · exact event_of_callDelete hstep
    subst hevent
    exact closed_of_proceed hpre hstep
  · rintro ⟨before, event, effect, after⟩ hu rfl
    exact effect_of_close (h.step_of_mem hu)
  · rintro pre ⟨before, event, effect, after⟩ post rfl told rfl
    obtain ⟨hpre, hstep, -⟩ := h.cut
    exact answers_of_step (traced_run hpre) hstep
  · rintro pre ⟨before, event, effect, after⟩ post rfl rfl
    obtain ⟨hpre, hstep, -⟩ := h.cut
    obtain ⟨told, hstage, hanswered, rfl⟩ := answer_of_nodeDeleted hstep
    have hclosed := closed_of_isAnswered (traced_run hpre) hstage hanswered
    refine ⟨⟨told, hclosed, rfl⟩, fun howned => ?_⟩
    exact torn_down_of_called hnode howned hpre (hclosed.mem_ownSteps (by simp))
  · intro told hstage hdrop result
    have hd := (owes_run h).deleting told hstage
    exact ends_of_returns hnode h
      (returns_of_deleting hd hstage (isHeld_run hnode h hdrop) result)

/-- The program ends while the client is being closed, and the monitor claims the delete before the
client fails. The bridge is closed once more while that delete is out, which then fails. -/
def crashedEvents : List BridgedEvent :=
  [.node .markRunning, .bridge (.call .transfer), .bridge (.clientAnswers (.ok ())),
    .bridge (.call .close), .node (.watch (.finish .stdout)), .node (.watch (.finish .stderr)),
    .node (.watch (.reap (.ok (.code 3)))), .node .judge, .node .publish, .node .report,
    .node .claim, .bridge (.clientAnswers (.error ⟨"eof", []⟩)), .proceed, .proceed,
    .bridge .nodeDeleted, .bridge (.call .close),
    .node (.answerDelete .monitor (.error (.listFailed "down"))),
    .bridge (.clientAnswers (.ok ()))]

theorem closed_then_deleted_crashed :
    (∃ log b, play step (opened (.owned { name := ⟨"n", by decide⟩, stopGrace := 0 }))
        crashedEvents = some (log, b) ∧
      (∃ u ∈ log, u.effect = .bridge (.answer (.error (.shutdown ⟨"eof", []⟩)))) ∧
      issuers log = [.monitor] ∧ (issuers log).length ≤ 1 ∧
      (∀ pre u post, log = pre ++ u :: post → u.event = .bridge .nodeDeleted →
        (issuers pre).length = 1) ∧
      ∀ result, Ends log b result (.ok ())) ∧
    ∃ log b, play step (opened (.adopt ⟨"n", by decide⟩)) adoptedEvents = some (log, b) ∧
      issuers log = [] ∧ b.stage = .idle := by
  constructor
  · have hplay : play step (opened (.owned { name := ⟨"n", by decide⟩, stopGrace := 0 }))
        crashedEvents = some (_, _) := rfl
    obtain ⟨-, -, ⟨hone, -⟩, -, hdeleted, -, -, hends⟩ :=
      closed_then_deleted (.started _ _) (.of_play hplay)
    exact ⟨_, _, hplay, ⟨_, List.mem_of_getElem? (i := 14) rfl, rfl⟩, rfl, hone,
      fun pre u post hlog hevent => ((hdeleted pre u post hlog hevent).2 rfl).2,
      hends _ rfl (by simp)⟩
  · have hplay : play step (opened (.adopt ⟨"n", by decide⟩)) adoptedEvents = some (_, _) := rfl
    obtain ⟨-, -, ⟨-, hnone⟩, -⟩ := closed_then_deleted (.found _) (.of_play hplay)
    exact ⟨_, _, hplay, hnone rfl, rfl⟩

end Bridged

end NodeWarden
