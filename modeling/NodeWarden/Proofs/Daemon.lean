import NodeWarden.Daemon.Run
import NodeWarden.Proofs.Creation
import NodeWarden.Proofs.Stages

/-! The daemon from its start to its return. Up to the start of its node it has touched no node. From
there on its run is a run of the node's life, and it returns with the step that finds the node
deleted and the program's exit out, by whichever of them the one delete was claimed. -/

namespace NodeWarden

namespace Life

variable {name : NodeName} {stopGrace : Nat} {l : Life} {log : List Entry}

def deadline? (u : Entry) : Option Nat :=
  match u.event with
  | .watch (.noticeStop now) => some (now + u.before.stopGrace)
  | _ => none

/-- The deadline of every stop that was noticed can be told. -/
def Timely (log : List Entry) : Prop := ∀ d ∈ log.filterMap deadline?, d < clockLimit

instance (log : List Entry) : Decidable (Timely log) :=
  inferInstanceAs (Decidable (∀ d ∈ log.filterMap deadline?, d < clockLimit))

/-- The nodes whose external deletes were issued. -/
def deletes (log : List Entry) : List NodeName :=
  log.flatMap fun u => (u.effect.filterMap issuer?).map fun _ => u.before.name

theorem deletes_run (h : Run step { name, stopGrace } log l) :
    deletes log = (issuers log).map fun _ => name := by
  induction h with
  | nil => rfl
  | @snoc log l _ _ _ hrun _ ih =>
    rw [deletes, issuers, List.flatMap_append, List.flatMap_append, List.map_append, ← deletes,
      ← issuers, ih, List.flatMap_singleton, List.flatMap_singleton, (fixed_run hrun).1]

theorem not_lost_timely (h : Run step { name, stopGrace } log l) (hclock : Timely log) :
    l.stage ≠ .lost := by
  have hgrace : ∀ u ∈ log, u.before.stopGrace = stopGrace := by
    intro u hu
    obtain ⟨pre, post, rfl⟩ := List.append_of_mem hu
    exact (fixed_run h.cut.1).2
  refine (not_lost_run h ?_).2.2
  intro u hu now he
  refine hclock _ (List.mem_filterMap.2 ⟨u, hu, ?_⟩)
  rw [deadline?, he, hgrace u hu]

/-- A node that has come to its end, with its exit out, was deleted by one external delete. -/
theorem deleted_once (h : Run step { name, stopGrace } log l) (hclock : Timely log)
    (hterminal : l.state.isTerminal = true) (hsettled : l.exitSettled = true) :
    l.state = .deleted ∧ deletes log = [name] ∧ ∃ x, published log = [x] := by
  have hs := sound_run h
  have hdeleted : l.state = .deleted := by
    refine deleted_of_isTornDown hs (NodeState.isTornDown_of_isTerminal hterminal) ?_
    intro hgoing
    rw [hgoing] at hterminal
    cases hterminal
  refine ⟨hdeleted, ?_, ?_⟩
  · obtain ⟨c, hc⟩ : ∃ c, issuers log = [c] := by
      rw [← List.length_eq_one_iff, issuers_run h]
      exact issued_of_isTornDown hs (by rw [hdeleted]; rfl)
    rw [deletes_run h, hc]
    rfl
  · have hlost := not_lost_timely h hclock
    rw [published_run h]
    cases hexit : l.exit with
    | some x => exact ⟨x, rfl⟩
    | none =>
      rw [exitSettled, hexit, Option.isSome_none, Bool.false_or] at hsettled
      split at hsettled
      · contradiction
      · cases hsettled

end Life

/-! The node while it is tended. -/

namespace Tended

abbrev Entry := Step Tended TendedEvent TendedEffect

variable {name : NodeName} {stopGrace : Nat} {t t' : Tended} {e : TendedEvent} {o : TendedEffect}
  {log : List Entry}

def life? (u : Entry) : Option Life.Entry :=
  match u.effect with
  | .node e effects => some ⟨u.before.held.node, e, effects, u.after.held.node⟩
  | .daemon _ => none

/-- What happened to the node. -/
def life (log : List Entry) : List Life.Entry := log.filterMap life?

theorem node_of_live {le : LifeEvent} (h : t.live le = some (t', o)) :
    ∃ effects, o = .node le effects ∧ t.held.node.step le = some (t'.held.node, effects) := by
  obtain ⟨⟨held, effects⟩, hlive, heq⟩ := Option.map_eq_some_iff.1 h
  cases heq
  exact ⟨effects, rfl, Held.node_of_live hlive⟩

theorem node_of_advance {de : DaemonEvent} (h : t.advance de = some (t', o)) :
    ∃ effects, o = .daemon effects ∧ t'.held.node = t.held.node ∧
      t.stage.step t.held.node de = some (t'.stage, effects) := by
  unfold advance at h
  split at h
  · obtain ⟨⟨stage, effects⟩, hstep, heq⟩ := Option.map_eq_some_iff.1 h
    cases heq
    refine ⟨effects, rfl, ?_, hstep⟩
    dsimp only
    split <;> rfl
  · cases h

/-- A step is one of the node, or one of the daemon beside it. -/
theorem step_cases (h : t.step e = some (t', o)) :
    (∃ le effects, o = .node le effects ∧ t.held.node.step le = some (t'.held.node, effects)) ∨
      ∃ effects, o = .daemon effects ∧ t'.held.node = t.held.node := by
  have hdaemon : ∀ de, t.advance de = some (t', o) →
      ∃ effects, o = .daemon effects ∧ t'.held.node = t.held.node := by
    intro de hadvance
    obtain ⟨effects, ho, hnode, -⟩ := node_of_advance hadvance
    exact ⟨effects, ho, hnode⟩
  cases e with
  | node le =>
    rw [step] at h
    split at h
    · cases h
    · exact .inl ⟨le, node_of_live h⟩
  | proceed =>
    obtain ⟨⟨le, held⟩, hnext, hlive⟩ := Option.bind_eq_some_iff.1 h
    obtain ⟨effects, ho, hstep⟩ := node_of_live hlive
    rw [Held.node_of_next hnext] at hstep
    exact .inl ⟨le, effects, ho, hstep⟩
  | hearAnswer =>
    obtain ⟨r, -, hadvance⟩ := Option.bind_eq_some_iff.1 h
    exact .inr (hdaemon _ hadvance)
  | interrupt | noticeExit | noticeEnd => exact .inr (hdaemon _ h)

theorem life_run (h : Run step (begin name stopGrace) log t) :
    Run Life.step { name, stopGrace } (life log) t.held.node := by
  refine h.project (fun t => t.held.node) life? fun u hstep => ?_
  obtain ⟨before, event, effect, after⟩ := u
  rcases step_cases hstep with ⟨le, effects, rfl, hlife⟩ | ⟨effects, rfl, hnode⟩
  · exact .inr ⟨le, effects, rfl, hlife⟩
  · exact .inl ⟨rfl, hnode⟩

theorem of_noticeEnd (h : t.step .noticeEnd = some (t', o)) :
    t'.stage = .done t.held.node.state ∧ t.held.node.state.isTerminal = true ∧
      t.held.node.exitSettled = true ∧ life? ⟨t, .noticeEnd, o, t'⟩ = none := by
  obtain ⟨effects, rfl, -, hstep⟩ := node_of_advance h
  cases hstage : t.stage with
  | settling =>
    rw [hstage, DaemonStage.step] at hstep
    split at hstep
    · rename_i hend
      rw [Bool.and_eq_true] at hend
      simp only [Option.some.injEq, Prod.mk.injEq] at hstep
      exact ⟨hstep.1.symm, hend.1, hend.2, rfl⟩
    · cases hstep
  | _ =>
    rw [hstage] at hstep
    cases hstep

end Tended

open Exchange

/-- All was well up to the start of the node, and that failed. -/
def DaemonError.Unstartable (e : DaemonError) : Prop := ∃ f, e = .node f ∧ f.Unstartable

/-- How a daemon returns that has met no error. -/
inductive DaemonEnd
  | served (node : ReusableNode)
  | ended (state : NodeState)

namespace Daemon

variable {s : Surroundings} {talk : List Exchange} {log : List Tended.Entry}
  {outcome : Except DaemonError DaemonEnd}

/-- The daemon returns: what it asked of the world while it came up, what happened while it tended
its node, and what it returns with. -/
inductive Returned (s : Surroundings) :
    List Exchange → List Tended.Entry → Except DaemonError DaemonEnd → Prop
  | unloaded {e : DaemonError} : (load s).2 = .error e → Returned s [] [] (.error e)
  | unstarted {settings : Settings} {spec : NodeSpec} {talk : List Exchange} {e : DaemonError} :
      (load s).2 = .ok (settings, spec) →
      (start (supervisor settings) spec).Yields talk (.error e) → Returned s talk [] (.error e)
  | served {settings : Settings} {spec : NodeSpec} {talk : List Exchange} {node : ReusableNode} :
      (load s).2 = .ok (settings, spec) →
      (start (supervisor settings) spec).Yields talk (.ok (.served node)) →
      Returned s talk [] (.ok (.served node))
  | ended {settings : Settings} {spec : NodeSpec} {talk : List Exchange} {node : NewNode}
      {inlet listener : String} {log : List Tended.Entry} {t t' : Tended} {o : TendedEffect}
      {state : NodeState} :
      (load s).2 = .ok (settings, spec) →
      (start (supervisor settings) spec).Yields talk (.ok (.started node inlet listener)) →
      Run Tended.step (.begin node.name settings.stopGrace) log t →
      t.step .noticeEnd = some (t', o) → t'.stage = .done state →
      Returned s talk (log ++ [⟨t, .noticeEnd, o, t'⟩]) (.ok (.ended state))

/-- The start touches no node up to the making of its own, and comes to that or to nothing. -/
theorem start_cases {supervisor : Supervisor} {spec : NodeSpec} {r : Except DaemonError Startup}
    (h : (start supervisor spec).Yields talk r) :
    ((∀ x ∈ talk, x.request.touchesNodes = false) ∧ ∀ node inlet listener,
        r ≠ .ok (.started node inlet listener)) ∨
    ∃ first rest listener made, talk = first ++ rest ∧
      (∀ x ∈ first, x.request.touchesNodes = false) ∧
      (supervisor.create { spec with listenerAddress := some listener }).Yields rest made ∧
      r = (made.map (.started · spec.inlet.source listener)).mapError .node := by
  unfold start at h
  obtain ⟨first, rest, plan, rfl, hplan, hrest⟩ := Flow.yields_bind.1 h
  have huntouched :=
    Supervisor.planListener_avoids Request.touchesNodes_of_inquires _ first plan hplan
  rcases plan with e | (listener | node)
  · obtain ⟨rfl, rfl⟩ := Flow.yields_pure.1 hrest
    rw [List.append_nil]
    exact .inl ⟨huntouched, nofun⟩
  · obtain ⟨middle, last, made, rfl, hmade, hlast⟩ := Flow.yields_bind.1 hrest
    refine .inr ⟨first, middle, listener, made, ?_, huntouched, hmade, ?_⟩
    · cases made <;> rw [(Flow.yields_pure.1 hlast).1, List.append_nil]
    · cases made <;> exact (Flow.yields_pure.1 hlast).2
  · obtain ⟨rfl, rfl⟩ := Flow.yields_pure.1 hrest
    rw [List.append_nil]
    exact .inl ⟨huntouched, nofun⟩

theorem start_allOrNothing (supervisor : Supervisor) (spec : NodeSpec) :
    AllOrNothing DaemonError.Unstartable (start supervisor spec) := by
  intro talk e h
  rcases start_cases h with ⟨huntouched, -⟩ | ⟨first, rest, listener, made, rfl, hfirst, hmade, hr⟩
  · exact .of_untouched huntouched
  · cases made with
    | ok node => cases hr
    | error f =>
      cases hr
      obtain ⟨hstarted, hdeleted, hprepared⟩ := Supervisor.create_allOrNothing _ rest f hmade
      exact .after hfirst ⟨hstarted, hdeleted, fun hne => ⟨f, rfl, hprepared hne⟩⟩

theorem start_served {supervisor : Supervisor} {spec : NodeSpec} {node : ReusableNode}
    (h : (start supervisor spec).Yields talk (.ok (.served node))) :
    prepared talk = [] ∧ started talk = [] ∧ deleted talk = [] := by
  rcases start_cases h with ⟨huntouched, -⟩ | ⟨first, rest, listener, made, -, -, -, hr⟩
  · exact untouched_talk huntouched
  · cases made <;> cases hr

/-- A start that comes to its end has made one node, of a name that it drew a suffix for. -/
theorem start_started {supervisor : Supervisor} {spec : NodeSpec} {node : NewNode}
    {inlet listener : String}
    (h : (start supervisor spec).Yields talk (.ok (.started node inlet listener))) :
    ∃ (suffix : UInt32) (config : NodeConfig), ⟨.drawSuffix, suffix⟩ ∈ talk ∧
      NodeName.fromParts supervisor.settings.nameStem suffix = .ok node.name ∧
      supervisor.render { spec with listenerAddress := some listener } = .ok config ∧
      prepared talk = [(config.withName node.name.text).compact] ∧
      started talk = [node.name] ∧ deleted talk = [] := by
  rcases start_cases h with ⟨-, hnot⟩ | ⟨first, rest, listener', made, rfl, hfirst, hmade, hr⟩
  · exact absurd rfl (hnot node inlet listener)
  · cases made with
    | error f => cases hr
    | ok _ =>
      cases hr
      obtain ⟨suffix, config, rfl, hname, hrender, hconfig⟩ := Supervisor.create_yields_ok hmade
      obtain ⟨hprepared, hstarted, hdeleted⟩ := untouched_append hfirst
      refine ⟨suffix, config, by simp, hname, hrender, ?_, ?_, ?_⟩
      · rw [hprepared, ← hconfig]
        rfl
      · rw [hstarted]
        rfl
      · rw [hdeleted]
        rfl

def bareText : String :=
  "\x7b\"inlet\":\x7b\"from\":\"h:1\"\x7d,\"outlet\":\x7b\"bootstrap_server\":\"b:2\"\x7d\x7d"

/-- A spec file, and nothing else. -/
def bareSurroundings : Surroundings where
  lookup name := if name = "SEALINK_NODE_SPEC" then some "node.json" else none
  isFile _ := false
  read _ := .ok <| bareText.toList.map fun c => c.toNat.toUInt8

def bareSpec : NodeSpec where
  inlet := { source := "h:1" }
  outlet := { bootstrapServer := "b:2" }

theorem load_bare : (load bareSurroundings).2 = .ok ({}, bareSpec) := by decide +kernel

/-- An interrupt whose delete comes behind the monitor's own, which fails. -/
def overtakenEvents : List TendedEvent :=
  [.proceed, .interrupt, .proceed, .node (.watch (.noticeStop 0)), .node (.watch (.finish .stdout)),
    .node (.watch (.finish .stderr)), .node (.watch (.reap (.ok (.code 1)))), .node .judge,
    .node .publish, .node .report, .node .claim, .proceed, .hearAnswer,
    .node (.answerDelete .monitor (.error (.listFailed "down")))]

end Daemon

end NodeWarden
