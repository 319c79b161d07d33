import NodeWarden.Bridge.Call
import NodeWarden.Proofs.Creation
import NodeWarden.Proofs.Life

/-! Nodes that are gone or going stay so, whatever is done to them, and nobody is led to them any
more: they are not asked for their status, their bridges do not connect, and what fails their
clients counts as part of the shutdown. A node that was found running is none of these, ever. -/

namespace NodeWarden

/-- What the state of a node may become. -/
structure NodeState.Leads (s s' : NodeState) : Prop where
  down : s.isTornDown = true → s'.isTornDown = true
  final : s.isTerminal = true → s' = s

theorem NodeState.Leads.refl (s : NodeState) : s.Leads s := ⟨id, fun _ => rfl⟩

theorem NodeState.Leads.trans {s s' s'' : NodeState} (h : s.Leads s') (h' : s'.Leads s'') :
    s.Leads s'' := by
  refine ⟨fun hdown => h'.down (h.down hdown), fun hfinal => ?_⟩
  have hsame := h.final hfinal
  rw [h'.final (by rw [hsame]; exact hfinal), hsame]

namespace Teardown

variable {t t' : Teardown} {e : TeardownEvent} {reply : Option Reply} {log : List Entry}

theorem leads_change (hs : t.Sound) (h : Change t e reply t') : t.state.Leads t'.state := by
  refine ⟨Life.isTornDown_change h, fun hfinal => ?_⟩
  cases h with
  | start hat | run hat | fail hat =>
    rw [hat] at hfinal
    cases hfinal
  | keep _ | skip _ | abandon _ => rfl
  | claim hup =>
    rw [NodeState.isTornDown_of_isTerminal hfinal] at hup
    cases hup
  | answer hc =>
    -- only a delete that is in flight is answered, and a node that is still going is not final
    rw [(hs.inFlight_eq hc).2.1] at hfinal
    cases hfinal

theorem leads_run (hs : t.Sound) (h : Run step t log t') : t'.Sound ∧ t.state.Leads t'.state := by
  refine h.always (P := fun t' => t'.Sound ∧ t.state.Leads t'.state) ⟨hs, .refl _⟩ ?_
  intro u hbefore hstep
  have hchange := change_of_step hstep
  exact ⟨sound_change hbefore.1 hchange, hbefore.2.trans (leads_change hbefore.1 hchange)⟩

end Teardown

theorem Life.leads_change {l l' : Life} {e : LifeEvent} {effects : List LifeEffect}
    (hs : l.teardown.Sound) (h : Change l e effects l') :
    l'.teardown.Sound ∧ l.state.Leads l'.state := by
  cases he : teardownEvent? e with
  | none =>
    rw [state, state, teardown_unchanged h he]
    exact ⟨hs, .refl _⟩
  | some te =>
    obtain ⟨reply, hchange⟩ := teardown_change h he
    exact ⟨Teardown.sound_change hs hchange, Teardown.leads_change hs hchange⟩

namespace HeldNode

variable {n n' : HeldNode} {e : LifeEvent} {effects : List LifeEffect}

/-- A node that was started here, and whose teardown is sound. -/
def Sound : HeldNode → Prop
  | .owned l => l.teardown.Sound
  | .adopted _ _ => False

theorem owned_of_sound (hs : n.Sound) : n.view.owned = true := by
  cases n with
  | owned _ => rfl
  | adopted _ _ => exact hs.elim

theorem sound_step (hs : n.Sound) (h : n.step e = some (n', effects)) :
    n'.Sound ∧ n.view.state.Leads n'.view.state := by
  cases n with
  | adopted _ _ => exact hs.elim
  | owned l =>
    obtain ⟨⟨l', effects⟩, hstep, heq⟩ := Option.map_eq_some_iff.1 h
    cases heq
    exact Life.leads_change hs (Life.change_of_step hstep)

/-- An adopted node is left as it is, and whoever calls for its delete is told that all is well. -/
theorem adopted_step {name : NodeName} (h : (adopt name).step e = some (n', effects)) :
    n' = adopt name ∧ ∀ x ∈ effects, ∃ c, x = .reply c (.ok ()) := by
  unfold adopt at h ⊢
  cases e <;> cases h <;> simp

end HeldNode

/-- What a bridge does, guards included. -/
inductive BridgeStage.Change (n : NodeView) :
    BridgeStage → BridgeEvent → BridgeStage → BridgeEffect → Prop
  | refuse : n.isGone = true →
      Change n .idle (.call .connect) .idle (.answer (.error (.node (.notRunning n.name.text))))
  | call {c : ClientCall} : (c = .connect → n.isGone = false) →
      Change n .idle (.call c) (.calling c) (.askClient c)
  | close {r : Except ClientFault Unit} :
      Change n (.calling .close) (.clientAnswers r) (.deleting (r.mapError n.clientError)) .deleteNode
  | answer {c : ClientCall} {r : Except ClientFault Unit} : c ≠ .close →
      Change n (.calling c) (.clientAnswers r) .idle (.answer (r.mapError n.clientError))
  | deleted {closed : Except BridgeError Unit} :
      Change n (.deleting closed) .nodeDeleted .idle (.answer closed)

theorem BridgeStage.change_of_step {n : NodeView} {stage stage' : BridgeStage} {e : BridgeEvent}
    {effect : BridgeEffect} (h : stage.step n e = some (stage', effect)) :
    Change n stage e stage' effect := by
  unfold step at h
  split at h
  · split at h <;> cases h
    · rename_i hgone
      exact .refuse hgone
    · rename_i hgone
      exact .call fun _ => by simpa using hgone
  · rename_i hnot
    cases h
    exact .call fun hc => absurd hc hnot
  · cases h
    exact .close
  · rename_i hnot
    cases h
    exact .answer hnot
  · cases h
    exact .deleted
  · cases h

/-- An answer that is the client's own, whatever has become of the node. -/
def FromClient (r : Except BridgeError Unit) : Prop := r = .ok () ∨ ∃ f, r = .error (.client f)

theorem fromClient_adopted (name : NodeName) (r : Except ClientFault Unit) :
    FromClient (r.mapError (NodeView.adopted name).clientError) := by
  cases r with
  | ok _ => exact .inl rfl
  | error f => exact .inr ⟨f, rfl⟩

/-- A call that waits for the node's delete has an answer of the client's own. -/
def BridgeStage.Plain : BridgeStage → Prop
  | .deleting closed => FromClient closed
  | _ => True

/-- Nothing deletes the node, and no answer says that it is gone. -/
def BridgedEffect.LeavesAlone : BridgedEffect → Prop
  | .node _ effects => ∀ x ∈ effects, ∃ c, x = .reply c (.ok ())
  | .status asked => asked.Avoids Request.touchesNodes
  | .bridge (.answer r) => FromClient r
  | _ => True

namespace BridgeStage

variable {n : NodeView} {stage stage' : BridgeStage} {effect : BridgeEffect}

theorem connect_gone (hgone : n.isGone = true)
    (h : Change n stage (.call .connect) stage' effect) :
    stage' = .idle ∧ effect = .answer (.error (.node (.notRunning n.name.text))) := by
  cases h with
  | refuse _ => exact ⟨rfl, rfl⟩
  | call hup =>
    rw [hup rfl] at hgone
    cases hgone

theorem fault_gone (hgone : n.isGone = true) {f : ClientFault}
    (h : Change n stage (.clientAnswers (.error f)) stage' effect) :
    effect = .answer (.error (.shutdown f)) ∨
      (effect = .deleteNode ∧ stage' = .deleting (.error (.shutdown f))) := by
  have hfault : (Except.error f : Except ClientFault Unit).mapError n.clientError =
      .error (.shutdown f) := by
    rw [Except.mapError, NodeView.clientError, if_pos hgone]
  cases h with
  | close => exact .inr ⟨rfl, by rw [hfault]⟩
  | answer _ => exact .inl (by rw [hfault])

theorem plain_change {name : NodeName} {e : BridgeEvent} (hp : stage.Plain)
    (h : Change (.adopted name) stage e stage' effect) :
    stage'.Plain ∧ (BridgedEffect.bridge effect).LeavesAlone := by
  cases h with
  | refuse hgone =>
    rw [NodeView.isGone_adopted] at hgone
    cases hgone
  | call _ => exact ⟨trivial, trivial⟩
  | close => exact ⟨fromClient_adopted name _, trivial⟩
  | answer _ => exact ⟨trivial, fromClient_adopted name _⟩
  | deleted => exact ⟨trivial, hp⟩

end BridgeStage

namespace Bridged

abbrev Entry := Step Bridged BridgedEvent BridgedEffect

variable {b b' : Bridged} {e : BridgedEvent} {o : BridgedEffect} {log : List Entry}

/-- What a step is to the node and to the bridge. -/
inductive Change (b b' : Bridged) : BridgedEvent → BridgedEffect → Prop
  | node {e : BridgedEvent} {le : LifeEvent} {effects : List LifeEffect} :
      e = .node le ∨ e = .proceed ∨ e = .giveUp →
      b.held.node.step le = some (b'.held.node, effects) → b'.stage = b.stage ∨ b'.stage = .idle →
      Change b b' e (.node le effects)
  | status : b' = b → Change b b' .askRunning (.status b.view.isRunning)
  | bridge {be : BridgeEvent} {effect : BridgeEffect} : b'.held.node = b.held.node →
      BridgeStage.Change b.view b.stage be b'.stage effect → Change b b' (.bridge be) (.bridge effect)
  | left : b'.held.node = b.held.node → b'.stage = .idle → Change b b' .giveUp .left

theorem of_live {le : LifeEvent} (h : b.live le = some (b', o)) :
    ∃ effects, o = .node le effects ∧ b.held.node.step le = some (b'.held.node, effects) ∧
      b'.stage = b.stage := by
  obtain ⟨⟨held, effects⟩, hlive, heq⟩ := Option.map_eq_some_iff.1 h
  cases heq
  exact ⟨effects, rfl, Held.node_of_live hlive, rfl⟩

theorem of_advance {be : BridgeEvent} (h : b.advance be = some (b', o)) :
    Change b b' (.bridge be) o := by
  obtain ⟨⟨stage, effect⟩, hstep, heq⟩ := Option.map_eq_some_iff.1 h
  cases heq
  refine .bridge ?_ (BridgeStage.change_of_step hstep)
  dsimp only
  split <;> rfl

theorem change_of_giveUp (b : Bridged) : Change b b.giveUp.1 .giveUp b.giveUp.2 := by
  unfold giveUp
  cases hlive : (opened b.held.node).live (.abandonDelete 0) with
  | none => exact .left rfl rfl
  | some p =>
    obtain ⟨effects, ho, hnode, hstage⟩ := of_live hlive
    rw [Option.getD_some, ho]
    exact .node (.inr (.inr rfl)) hnode (.inr hstage)

theorem change_of_step (h : b.step e = some (b', o)) : Change b b' e o := by
  cases e with
  | node le =>
    rw [step] at h
    split at h
    · cases h
    · obtain ⟨effects, rfl, hnode, hstage⟩ := of_live h
      exact .node (.inl rfl) hnode (.inl hstage)
  | proceed =>
    obtain ⟨⟨le, held⟩, hnext, hlive⟩ := Option.bind_eq_some_iff.1 h
    obtain ⟨effects, rfl, hnode, hstage⟩ := of_live hlive
    rw [Held.node_of_next hnext] at hnode
    exact .node (.inr (.inl rfl)) hnode (.inl hstage)
  | askRunning =>
    cases h
    exact .status rfl
  | bridge be =>
    cases be with
    | nodeDeleted =>
      rw [step] at h
      split at h
      · exact of_advance h
      · cases h
    | _ => exact of_advance h
  | giveUp =>
    rw [step] at h
    split at h
    · cases h
    · have hchange := change_of_giveUp b
      rwa [Option.some.inj h] at hchange

/-! A node that was started here. -/

theorem owned_change (hs : b.held.node.Sound) (h : Change b b' e o) :
    b'.held.node.Sound ∧ b.view.state.Leads b'.view.state := by
  cases h with
  | node _ hnode _ => exact HeldNode.sound_step hs hnode
  | status hsame =>
    rw [hsame]
    exact ⟨hs, .refl _⟩
  | bridge hnode _ | left hnode _ =>
    rw [view, view, hnode]
    exact ⟨hs, .refl _⟩

theorem owned_run (hs : b.held.node.Sound) (h : Run step b log b') :
    b'.held.node.Sound ∧ b.view.state.Leads b'.view.state := by
  refine h.always (P := fun b' => b'.held.node.Sound ∧ b.view.state.Leads b'.view.state)
    ⟨hs, .refl _⟩ ?_
  intro u hbefore hstep
  obtain ⟨hsound, hleads⟩ := owned_change hbefore.1 (change_of_step hstep)
  exact ⟨hsound, hbefore.2.trans hleads⟩

/-- Nobody is led to a node that is gone or going. -/
structure TurnedAway (u : Entry) : Prop where
  status : u.event = .askRunning → u.effect = .status (.done false)
  connect : u.event = .bridge (.call .connect) → u.after.stage = .idle ∧
    u.effect = .bridge (.answer (.error (.node (.notRunning u.before.view.name.text))))
  fault : ∀ f, u.event = .bridge (.clientAnswers (.error f)) →
    u.effect = .bridge (.answer (.error (.shutdown f))) ∨
    (u.effect = .bridge .deleteNode ∧ u.after.stage = .deleting (.error (.shutdown f)))

theorem turnedAway {u : Entry} (hs : u.before.held.node.Sound)
    (hdown : u.before.view.state.isTornDown = true)
    (h : Change u.before u.after u.event u.effect) : TurnedAway u := by
  obtain ⟨before, event, effect, after⟩ := u
  dsimp only at hs hdown h
  have hgone : before.view.isGone = true := by
    rw [NodeView.isGone, hdown, view, HeldNode.owned_of_sound hs]
    rfl
  cases h with
  | node hevent _ _ =>
    rcases hevent with rfl | rfl | rfl <;> exact ⟨nofun, nofun, nofun⟩
  | status _ =>
    refine ⟨fun _ => ?_, nofun, nofun⟩
    dsimp only
    rw [NodeView.isRunning_of_isTornDown hdown]
  | left _ _ => exact ⟨nofun, nofun, nofun⟩
  | @bridge be effect _ hbridge =>
    refine ⟨nofun, ?_, ?_⟩
    · intro he
      cases he
      obtain ⟨hidle, rfl⟩ := BridgeStage.connect_gone hgone hbridge
      exact ⟨hidle, rfl⟩
    · intro f he
      cases he
      rcases BridgeStage.fault_gone hgone hbridge with rfl | ⟨rfl, hstage⟩
      · exact .inl rfl
      · exact .inr ⟨rfl, hstage⟩

/-! A node that was found running. -/

structure Adopted (name : NodeName) (b : Bridged) : Prop where
  node : b.held.node = .adopt name
  plain : b.stage.Plain

theorem isRunning_avoids (n : NodeView) : n.isRunning.Avoids Request.touchesNodes := by
  unfold NodeView.isRunning
  split
  · exact Flow.avoids_pure
  · exact Flow.avoids_bind (Flow.avoids_request rfl) fun _ => Flow.avoids_pure

theorem adopted_change {name : NodeName} (ha : b.Adopted name) (h : Change b b' e o) :
    b'.Adopted name ∧ o.LeavesAlone := by
  obtain ⟨hadopted, hplain⟩ := ha
  cases h with
  | node _ hnode hstage =>
    rw [hadopted] at hnode
    obtain ⟨hsame, hreplies⟩ := HeldNode.adopted_step hnode
    refine ⟨⟨hsame, ?_⟩, hreplies⟩
    rcases hstage with hstage | hstage
    · rwa [hstage]
    · rw [hstage]
      trivial
  | status hsame =>
    rw [hsame]
    exact ⟨⟨hadopted, hplain⟩, isRunning_avoids _⟩
  | bridge hnode hbridge =>
    rw [view, hadopted, HeldNode.view_adopt] at hbridge
    obtain ⟨hplain', hleaves⟩ := BridgeStage.plain_change hplain hbridge
    exact ⟨⟨hnode.trans hadopted, hplain'⟩, hleaves⟩
  | left hnode hstage =>
    refine ⟨⟨hnode.trans hadopted, ?_⟩, trivial⟩
    rw [hstage]
    trivial

theorem adopted_run {name : NodeName} (h : Run step (opened (.adopt name)) log b) :
    b.Adopted name ∧ ∀ u ∈ log, u.effect.LeavesAlone := by
  induction h with
  | nil => exact ⟨⟨rfl, trivial⟩, fun u hu => nomatch hu⟩
  | snoc _ hstep ih =>
    obtain ⟨ha, hall⟩ := ih
    obtain ⟨ha', hlast⟩ := adopted_change ha (change_of_step hstep)
    refine ⟨ha', fun u hu => ?_⟩
    rcases List.mem_append.1 hu with hu | hu
    · exact hall u hu
    · rw [List.mem_singleton.1 hu]
      exact hlast

/-- A node that is gone or going stays so, whatever marks, calls and answers follow, and one that
is gone stays as it is. From there on nobody is led to it: it is not asked for its status, its
bridge does not connect, and every failure of the client counts as part of the shutdown. A node
that was found running is running all the time, and nothing deletes it or takes it for gone. -/
theorem gone_for_good :
    (∀ (t t' : Teardown) (early later : List Teardown.Entry), Run Teardown.step {} early t →
      Run Teardown.step t later t' → t.state.Leads t'.state) ∧
    (∀ (l : Life) (marks : List Teardown.Entry) (b b' : Bridged) (early later : List Entry),
      Run Teardown.step {} marks l.teardown →
      Run step (opened (.owned l)) early b → b.view.state.isTornDown = true →
      Run step b later b' →
        b.view.state.Leads b'.view.state ∧ ∀ u ∈ later, TurnedAway u) ∧
    ∀ (name : NodeName) (b : Bridged) (log : List Entry),
      Run step (opened (.adopt name)) log b →
        b.view = .adopted name ∧ ∀ u ∈ log, u.effect.LeavesAlone := by
  refine ⟨?_, ?_, ?_⟩
  · intro t t' early later hearly hlater
    exact (Teardown.leads_run (Teardown.sound_run hearly) hlater).2
  · intro l marks b b' early later hmarks hearly hdown hlater
    have hsound : b.held.node.Sound :=
      (owned_run (b := opened (.owned l)) (Teardown.sound_run hmarks) hearly).1
    refine ⟨(owned_run hsound hlater).2, fun u hu => ?_⟩
    obtain ⟨pre, post, rfl⟩ := List.append_of_mem hu
    obtain ⟨hpre, hstep, -⟩ := hlater.cut
    obtain ⟨hbefore, hleads⟩ := owned_run hsound hpre
    exact turnedAway hbefore (hleads.down hdown) (change_of_step hstep)
  · intro name b log hrun
    obtain ⟨ha, hall⟩ := adopted_run hrun
    refine ⟨?_, hall⟩
    rw [view, ha.node, HeldNode.view_adopt]

/-- A bridge is closed while its node runs. -/
def closeEvents : List BridgedEvent :=
  [.node .markRunning, .bridge (.call .close), .bridge (.clientAnswers (.ok ())), .proceed, .proceed]

/-- The delete fails, a mark comes late, and the bridge is used once more. -/
def lateEvents : List BridgedEvent :=
  [.node (.answerDelete (.owner 0) (.error (.listFailed "down"))), .bridge .nodeDeleted,
    .node .markRunning, .askRunning, .bridge (.call .connect), .bridge (.call .transfer),
    .bridge (.clientAnswers (.error ⟨"eof", []⟩))]

/-- A bridge over a node that was found running is closed, and its client fails at that. -/
def adoptedEvents : List BridgedEvent :=
  [.bridge (.call .close), .bridge (.clientAnswers (.error ⟨"eof", []⟩)), .proceed, .proceed,
    .bridge .nodeDeleted, .askRunning]

theorem gone_for_good_closed :
    (∃ early later t t', play Teardown.step {} [.markStarting, .markFailed] = some (early, t) ∧
      play Teardown.step t [.call (.owner 0), .markRunning] = some (later, t') ∧
      t.state = .failed ∧ t.state.Leads t'.state) ∧
    (∃ early later b b',
      play step (opened (.owned { name := ⟨"n", by decide⟩, stopGrace := 0 })) closeEvents =
        some (early, b) ∧
      play step b lateEvents = some (later, b') ∧ b.view.state = .deleting ∧
      b'.view.state = .deleted ∧ b.view.state.Leads b'.view.state ∧ ∀ u ∈ later, TurnedAway u) ∧
    ∃ log b, play step (opened (.adopt ⟨"n", by decide⟩)) adoptedEvents = some (log, b) ∧
      b.view = .adopted ⟨"n", by decide⟩ ∧ ∀ u ∈ log, u.effect.LeavesAlone := by
  obtain ⟨hmarks, howned, hadopted⟩ := gone_for_good
  refine ⟨?_, ?_, ?_⟩
  · have hfailed : play Teardown.step {} [.markStarting, .markFailed] =
        some (_, ⟨.failed, [], 0⟩) := rfl
    have hcalled : play Teardown.step ⟨.failed, [], 0⟩ [.call (.owner 0), .markRunning] =
        some (_, ⟨.failed, [], 0⟩) := rfl
    exact ⟨_, _, _, _, hfailed, hcalled, rfl, hmarks _ _ _ _ (.of_play hfailed) (.of_play hcalled)⟩
  · have hstart : play Teardown.step {} [.markStarting] = some (_, _) := rfl
    have hclose : play step (opened (.owned { name := ⟨"n", by decide⟩, stopGrace := 0 }))
        closeEvents = some (_, _) := rfl
    have hlate := fun later b' (hplay : play step _ lateEvents = some (later, b')) =>
      howned _ _ _ b' _ later (.of_play hstart) (.of_play hclose) rfl (.of_play hplay)
    exact ⟨_, _, _, _, hclose, rfl, rfl, rfl, hlate _ _ rfl⟩
  · have hplay : play step (opened (.adopt ⟨"n", by decide⟩)) adoptedEvents = some (_, _) := rfl
    obtain ⟨hview, hleft⟩ := hadopted _ _ _ (.of_play hplay)
    exact ⟨_, _, hplay, hview, hleft⟩

end Bridged

end NodeWarden
