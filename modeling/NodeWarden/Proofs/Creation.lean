import NodeWarden.Bridge.Open
import NodeWarden.Proofs.Listener

/-! What the making of a node or of a bridge leaves behind. The program of a node is started by the
last request of all, so a failure has started nothing; nothing is ever deleted on the way, and
the command of a node is built only to be run next. -/

namespace NodeWarden

/-- Requests by which nodes come and go. -/
def Request.touchesNodes : Request → Bool
  | .prepare _ | .spawn _ | .delete _ => true
  | _ => false

/-- Requests by which something is found out, and neither a node nor a client comes of them. -/
def Request.inquires : Request → Bool
  | .list | .details _ | .identity _ | .resolve _ _ | .bind _ | .bindAny _ | .remember _ => true
  | _ => false

theorem Request.touchesNodes_of_inquires (r : Request) (h : r.inquires = true) :
    r.touchesNodes = false := by
  cases r <;> first | rfl | cases h

namespace Exchange

def prepared? : Exchange → Option String
  | ⟨.prepare config, _⟩ => some config
  | _ => none

def started? : Exchange → Option NodeName
  | ⟨.spawn name, .ok _⟩ => some name
  | _ => none

def deleted? : Exchange → Option NodeName
  | ⟨.delete name, _⟩ => some name
  | _ => none

/-- The configurations for which a command was built. -/
def prepared (talk : List Exchange) : List String := talk.filterMap prepared?

/-- The nodes whose programs were started. -/
def started (talk : List Exchange) : List NodeName := talk.filterMap started?

/-- The nodes whose external deletes were issued. -/
def deleted (talk : List Exchange) : List NodeName := talk.filterMap deleted?

theorem untouched {x : Exchange} (h : x.request.touchesNodes = false) :
    prepared? x = none ∧ started? x = none ∧ deleted? x = none := by
  obtain ⟨r, answer⟩ := x
  cases r with
  | prepare _ | spawn _ | delete _ => cases h
  | _ => exact ⟨rfl, rfl, rfl⟩

end Exchange

open Exchange

variable {α β ε : Type} {talk first rest : List Exchange} {p : Prop}

theorem untouched_talk (h : ∀ x ∈ talk, x.request.touchesNodes = false) :
    prepared talk = [] ∧ started talk = [] ∧ deleted talk = [] :=
  ⟨List.filterMap_eq_nil_iff.2 fun x hx => (untouched (h x hx)).1,
    List.filterMap_eq_nil_iff.2 fun x hx => (untouched (h x hx)).2.1,
    List.filterMap_eq_nil_iff.2 fun x hx => (untouched (h x hx)).2.2⟩

/-- What touches no node does not count. -/
theorem untouched_append (h : ∀ x ∈ first, x.request.touchesNodes = false) :
    prepared (first ++ rest) = prepared rest ∧ started (first ++ rest) = started rest ∧
      deleted (first ++ rest) = deleted rest := by
  obtain ⟨hprepared, hstarted, hdeleted⟩ := untouched_talk h
  unfold prepared started deleted at *
  rw [List.filterMap_append, List.filterMap_append, List.filterMap_append, hprepared, hstarted,
    hdeleted]
  exact ⟨rfl, rfl, rfl⟩

/-- No program was started and no node was deleted, and a command was built only if it is that
command which could not be run. -/
structure LeftAlone (talk : List Exchange) (unstartable : Prop) : Prop where
  started : started talk = []
  deleted : deleted talk = []
  prepared : prepared talk ≠ [] → unstartable

theorem LeftAlone.of_untouched (h : ∀ x ∈ talk, x.request.touchesNodes = false) :
    LeftAlone talk p := by
  obtain ⟨hprepared, hstarted, hdeleted⟩ := untouched_talk h
  exact ⟨hstarted, hdeleted, fun hne => absurd hprepared hne⟩

theorem LeftAlone.after (hfirst : ∀ x ∈ first, x.request.touchesNodes = false)
    (h : LeftAlone rest p) : LeftAlone (first ++ rest) p := by
  obtain ⟨hprepared, hstarted, hdeleted⟩ := untouched_append hfirst
  refine ⟨?_, ?_, ?_⟩
  · rw [hstarted]
    exact h.started
  · rw [hdeleted]
    exact h.deleted
  · rw [hprepared]
    exact h.prepared

/-- Every failure, whatever the answers were, has left the nodes alone. -/
def AllOrNothing (unstartable : ε → Prop) (flow : Flow (Except ε α)) : Prop :=
  ∀ talk e, flow.Yields talk (.error e) → LeftAlone talk (unstartable e)

variable {unstartable : ε → Prop}

theorem AllOrNothing.of_avoids {flow : Flow (Except ε α)}
    (h : flow.Avoids Request.touchesNodes) : AllOrNothing unstartable flow := by
  intro talk e hyields
  exact .of_untouched (h talk _ hyields)

theorem AllOrNothing.bind {flow : Flow β} {f : β → Flow (Except ε α)}
    (h : flow.Avoids Request.touchesNodes) (hf : ∀ b, AllOrNothing unstartable (f b)) :
    AllOrNothing unstartable (flow >>= f) := by
  intro talk e hyields
  obtain ⟨first, rest, b, rfl, hfirst, hrest⟩ := Flow.yields_bind.1 hyields
  exact (hf b rest e hrest).after (h first b hfirst)

theorem AllOrNothing.map {flow : Flow (Except ε α)} (g : α → β)
    (h : AllOrNothing unstartable flow) :
    AllOrNothing unstartable (flow >>= fun r => pure (r.map g)) := by
  intro talk e hyields
  obtain ⟨first, rest, r, rfl, hfirst, hrest⟩ := Flow.yields_bind.1 hyields
  obtain ⟨rfl, hr⟩ := Flow.yields_pure.1 hrest
  rw [List.append_nil]
  cases r with
  | ok a => cases hr
  | error e' =>
    cases hr
    exact h first e hfirst

/-! What comes before a node is touched. -/

section

variable {kind : Request → Bool}

theorem findFreeWithin_avoids {host : Ip} (hbind : kind (.bindAny host) = false)
    (hremember : ∀ port, kind (.remember port) = false) (attempts : Nat) :
    (findFreeWithin host attempts).Avoids kind := by
  induction attempts with
  | zero => exact Flow.avoids_pure
  | succ attempts ih =>
    unfold findFreeWithin
    refine Flow.avoids_bind (Flow.avoids_request hbind) fun answer => ?_
    cases answer with
    | error fault => exact Flow.avoids_pure
    | ok port =>
      refine Flow.avoids_bind (Flow.avoids_request (hremember port)) fun isNew => ?_
      cases isNew with
      | true => exact Flow.avoids_pure
      | false => exact ih

theorem findAmong_avoids (hdetails : ∀ name, kind (.details name) = false)
    (marker address : String) (names : List NodeName) :
    (findAmong marker address names).Avoids kind := by
  induction names with
  | nil => exact Flow.avoids_pure
  | cons name names ih =>
    unfold findAmong
    refine Flow.avoids_bind (Flow.avoids_request (hdetails name)) fun answer => ?_
    cases answer with
    | error e => exact ih
    | ok d =>
      dsimp only
      split
      · exact Flow.avoids_pure
      · exact ih

theorem planTaken_avoids (hlist : kind .list = false)
    (hdetails : ∀ name, kind (.details name) = false) (marker address : String) :
    (planTaken marker address).Avoids kind := by
  unfold planTaken findByListener
  refine Flow.avoids_bind (Flow.avoids_bind (Flow.avoids_request hlist) fun listed => ?_)
    fun found => ?_
  · cases listed with
    | error e => exact Flow.avoids_pure
    | ok names => exact findAmong_avoids hdetails marker address names
  · split <;> exact Flow.avoids_pure

end

namespace Supervisor

variable {s : Supervisor}

section

variable {kind : Request → Bool}

theorem identifier_avoids {name : String} (hidentity : kind (.identity name) = false)
    (configured : Option String) : (identifier configured name).Avoids kind := by
  unfold identifier
  cases configured with
  | some _ => exact Flow.avoids_pure
  | none => exact Flow.avoids_request hidentity

variable (hkind : ∀ r, r.inquires = true → kind r = false)

include hkind

theorem allocateAddress_avoids : s.allocateAddress.Avoids kind := by
  unfold allocateAddress findFree
  refine Flow.avoids_bind (findFreeWithin_avoids (hkind _ rfl) (fun _ => hkind _ rfl) _)
    fun found => ?_
  cases found <;> exact Flow.avoids_pure

theorem planListener_avoids (address? : Option String) :
    (s.planListener address?).Avoids kind := by
  unfold planListener NodeWarden.planListener
  cases address? with
  | none =>
    refine Flow.avoids_bind (findFreeWithin_avoids (hkind _ rfl) (fun _ => hkind _ rfl) _)
      fun found => ?_
    cases found <;> exact Flow.avoids_pure
  | some address =>
    refine Flow.avoids_bind (probe_avoids (fun _ _ => hkind _ rfl) fun _ => hkind _ rfl)
      fun probed => ?_
    cases probed with
    | error e => exact Flow.avoids_pure
    | ok lease =>
      dsimp only
      split
      · exact Flow.avoids_pure
      · exact planTaken_avoids (hkind _ rfl) (fun _ => hkind _ rfl) s.marker address

end

/-! The making of a node. -/

theorem start_yields {node : NewNode} {r : Except NodeError NewNode} :
    (s.start node).Yields talk r ↔
      ∃ answer : Except String Unit,
        talk = [⟨.prepare node.config, ()⟩, ⟨.spawn node.name, answer⟩] ∧
        r = (answer.map fun _ => node).mapError (.spawnFailed node.name.text s.binary) := by
  unfold start
  refine (Flow.yields_request_bind (r := .prepare node.config)).trans ?_
  constructor
  · rintro ⟨_, rest, rfl, hrest⟩
    obtain ⟨answer, tail, rfl, htail⟩ := Flow.yields_request_bind.1 hrest
    refine ⟨answer, ?_⟩
    cases answer with
    | error fault | ok _ =>
      obtain ⟨rfl, rfl⟩ := Flow.yields_pure.1 htail
      exact ⟨rfl, rfl⟩
  · rintro ⟨answer, rfl, rfl⟩
    refine ⟨(), _, rfl, Flow.yields_request_bind.2 ⟨answer, [], rfl, ?_⟩⟩
    cases answer <;> exact .done _

theorem render_eq_ok_iff {spec : NodeSpec} {config : NodeConfig} : s.render spec = .ok config ↔
    spec.check = .ok () ∧ config = spec.render s.settings.layout := by
  rw [← NodeSpec.build_eq_ok_iff, render]
  cases spec.build s.settings.layout <;> simp [Except.mapError]

theorem render_eq_error_iff {spec : NodeSpec} {e : NodeError} : s.render spec = .error e ↔
    ∃ fault, spec.check = .error fault ∧ e = .configBuildFailed (.invalid fault) := by
  rw [render, NodeSpec.build]
  cases spec.check <;> simp [Except.mapError, eq_comm]

/-- What follows when the suffix of a name was drawn: there is no such name, or no configuration,
or the node is started under that name and with that configuration. -/
inductive Making (s : Supervisor) (spec : NodeSpec) (suffix : UInt32) :
    List Exchange → Except NodeError NewNode → Prop
  | unnamed {e : NameError} : NodeName.fromParts s.settings.nameStem suffix = .error e →
      Making s spec suffix [] (.error (.invalidName e))
  | unrendered {name : NodeName} {e : NodeError} :
      NodeName.fromParts s.settings.nameStem suffix = .ok name → s.render spec = .error e →
      Making s spec suffix [] (.error e)
  | started {name : NodeName} {config : NodeConfig} {rest : List Exchange}
      {r : Except NodeError NewNode} :
      NodeName.fromParts s.settings.nameStem suffix = .ok name → s.render spec = .ok config →
      (s.start ⟨name, (config.withName name.text).compact⟩).Yields rest r →
      Making s spec suffix rest r

theorem create_yields {spec : NodeSpec} {r : Except NodeError NewNode} :
    (s.create spec).Yields talk r ↔
      ∃ suffix rest, talk = ⟨.drawSuffix, suffix⟩ :: rest ∧ s.Making spec suffix rest r := by
  unfold create
  refine Flow.yields_request_bind.trans ?_
  refine exists₂_congr fun suffix rest => and_congr_right fun _ => ?_
  constructor
  · intro h
    cases hname : NodeName.fromParts s.settings.nameStem suffix with
    | error e =>
      rw [hname] at h
      obtain ⟨rfl, rfl⟩ := Flow.yields_pure.1 h
      exact .unnamed hname
    | ok name =>
      cases hrender : s.render spec with
      | error e =>
        simp only [hname, hrender] at h
        obtain ⟨rfl, rfl⟩ := Flow.yields_pure.1 h
        exact .unrendered hname hrender
      | ok config =>
        simp only [hname, hrender] at h
        exact .started hname hrender h
  · rintro (hname | ⟨hname, hrender⟩ | ⟨hname, hrender, hstart⟩)
    · simp only [hname]
      exact .done _
    · simp only [hname, hrender]
      exact .done _
    · simp only [hname, hrender]
      exact hstart

/-- A making that comes to its end has drawn the suffix of a name, rendered the configuration under
that name, and started that node with it. -/
theorem create_yields_ok {spec : NodeSpec} {node : NewNode}
    (h : (s.create spec).Yields talk (.ok node)) :
    ∃ (suffix : UInt32) (config : NodeConfig),
      talk = [⟨.drawSuffix, suffix⟩, ⟨.prepare node.config, ()⟩, ⟨.spawn node.name, .ok ()⟩] ∧
      NodeName.fromParts s.settings.nameStem suffix = .ok node.name ∧
      s.render spec = .ok config ∧ node.config = (config.withName node.name.text).compact := by
  obtain ⟨suffix, rest, rfl, hmaking⟩ := create_yields.1 h
  cases hmaking with
  | started hname hrender hstart =>
    obtain ⟨answer, rfl, hr⟩ := start_yields.1 hstart
    cases answer with
    | error fault => cases hr
    | ok _ =>
      cases hr
      exact ⟨suffix, _, rfl, hname, hrender, rfl⟩

/-- A making fails over its configuration only if the spec is refused, and then with what the spec
is refused for. -/
theorem check_of_create_yields {spec : NodeSpec} {e : ConfigError}
    (h : (s.create spec).Yields talk (.error (.configBuildFailed e))) :
    ∃ fault, spec.check = .error fault ∧ e = .invalid fault := by
  obtain ⟨suffix, rest, -, hmaking⟩ := create_yields.1 h
  cases hmaking with
  | unrendered _ hrender =>
    obtain ⟨fault, hcheck, he⟩ := render_eq_error_iff.1 hrender
    cases he
    exact ⟨fault, hcheck, rfl⟩
  | started _ _ hstart =>
    obtain ⟨answer, -, hr⟩ := start_yields.1 hstart
    cases answer <;> cases hr

end Supervisor

/-- A node that could not be started. -/
def NodeError.Unstartable (e : NodeError) : Prop :=
  ∃ name binary fault, e = .spawnFailed name binary fault

def BridgeError.Unstartable (e : BridgeError) : Prop := ∃ f, e = .node f ∧ f.Unstartable

namespace Supervisor

variable {s : Supervisor}

theorem start_allOrNothing (node : NewNode) :
    AllOrNothing NodeError.Unstartable (s.start node) := by
  intro talk e h
  obtain ⟨answer, rfl, hr⟩ := start_yields.1 h
  cases answer with
  | ok _ => cases hr
  | error fault =>
    cases hr
    exact ⟨rfl, rfl, fun _ => ⟨_, _, _, rfl⟩⟩

theorem create_allOrNothing (spec : NodeSpec) :
    AllOrNothing NodeError.Unstartable (s.create spec) := by
  unfold create
  refine .bind (Flow.avoids_request rfl) fun suffix => ?_
  cases NodeName.fromParts s.settings.nameStem suffix with
  | error e => exact .of_avoids Flow.avoids_pure
  | ok name =>
    dsimp only
    cases s.render spec with
    | error e => exact .of_avoids Flow.avoids_pure
    | ok config => exact start_allOrNothing _

theorem launch_allOrNothing (spec : NodeSpec) :
    AllOrNothing NodeError.Unstartable (s.launch spec) := by
  unfold launch
  split
  · exact create_allOrNothing spec
  · refine .bind (allocateAddress_avoids Request.touchesNodes_of_inquires) fun found => ?_
    cases found with
    | error e => exact .of_avoids Flow.avoids_pure
    | ok address => exact create_allOrNothing _

theorem openInlet_allOrNothing {node : Flow (Except NodeError BridgeNode)}
    (h : AllOrNothing NodeError.Unstartable node) (inletAddress : String) :
    AllOrNothing BridgeError.Unstartable (openInlet inletAddress node) := by
  unfold openInlet
  refine .bind (Flow.avoids_request rfl) fun made => ?_
  cases made with
  | error fault => exact .of_avoids Flow.avoids_pure
  | ok _ =>
    intro talk e hyields
    obtain ⟨first, rest, made, rfl, hfirst, hrest⟩ := Flow.yields_bind.1 hyields
    cases made with
    | ok node =>
      obtain ⟨-, hr⟩ := Flow.yields_pure.1 hrest
      cases hr
    | error f =>
      obtain ⟨rfl, hr⟩ := Flow.yields_pure.1 hrest
      cases hr
      obtain ⟨hstarted, hdeleted, hprepared⟩ := h first f hfirst
      rw [List.append_nil]
      exact ⟨hstarted, hdeleted, fun hne => ⟨f, rfl, hprepared hne⟩⟩

theorem openInput_allOrNothing (settings : InputSettings) :
    AllOrNothing BridgeError.Unstartable (s.openInput settings) := by
  unfold openInput
  cases firstBootstrapServer settings.seedBrokers with
  | error e => exact .of_avoids Flow.avoids_pure
  | ok bootstrap =>
    refine .bind (identifier_avoids rfl _) fun consumer => ?_
    cases consumer with
    | error e => exact .of_avoids Flow.avoids_pure
    | ok consumer =>
      refine .bind (identifier_avoids rfl _) fun producer => ?_
      cases producer with
      | error e => exact .of_avoids Flow.avoids_pure
      | ok producer =>
        refine .bind (planListener_avoids Request.touchesNodes_of_inquires _) fun plan => ?_
        rcases plan with e | (listener | found)
        · exact .of_avoids Flow.avoids_pure
        · refine .bind (allocateAddress_avoids Request.touchesNodes_of_inquires) fun address => ?_
          cases address with
          | error e => exact .of_avoids Flow.avoids_pure
          | ok inletAddress => exact openInlet_allOrNothing (.map _ (create_allOrNothing _)) _
        · exact openInlet_allOrNothing (.of_avoids Flow.avoids_pure) _

theorem openOutput_allOrNothing (settings : OutputSettings) :
    AllOrNothing BridgeError.Unstartable (s.openOutput settings) := by
  unfold openOutput
  cases settings.check with
  | error e => exact .of_avoids Flow.avoids_pure
  | ok _ =>
    dsimp only
    cases firstBootstrapServer settings.seedBrokers with
    | error e => exact .of_avoids Flow.avoids_pure
    | ok bootstrap =>
      refine .bind (allocateAddress_avoids Request.touchesNodes_of_inquires) fun address => ?_
      cases address with
      | error e => exact .of_avoids Flow.avoids_pure
      | ok inletAddress => exact openInlet_allOrNothing (.map _ (launch_allOrNothing _)) _

/-! Settings are found unusable at once or not at all. -/

/-- The flow never comes to a fault of the settings. -/
def Settled (flow : Flow (Except BridgeError α)) : Prop :=
  ∀ talk reason, ¬ flow.Yields talk (.error (.settings reason))

theorem Settled.pure {r : Except BridgeError α} (hr : ∀ reason, r ≠ .error (.settings reason)) :
    Settled (Pure.pure r) := by
  intro talk reason h
  exact hr reason (Flow.yields_pure.1 h).2.symm

theorem Settled.bind {flow : Flow β} {f : β → Flow (Except BridgeError α)}
    (hf : ∀ b, Settled (f b)) : Settled (flow >>= f) := by
  intro talk reason h
  obtain ⟨first, rest, b, -, -, hrest⟩ := Flow.yields_bind.1 h
  exact hf b rest reason hrest

theorem openInlet_settled (inletAddress : String) (node : Flow (Except NodeError BridgeNode)) :
    Settled (openInlet inletAddress node) := by
  unfold openInlet
  refine .bind fun made => ?_
  cases made with
  | error fault => exact .pure nofun
  | ok _ =>
    refine .bind fun made => ?_
    cases made <;> exact .pure nofun

theorem openInput_settings {settings : InputSettings} {reason : String}
    (h : (s.openInput settings).Yields talk (.error (.settings reason))) : talk = [] := by
  unfold openInput at h
  cases hfirst : firstBootstrapServer settings.seedBrokers with
  | error e =>
    rw [hfirst] at h
    exact (Flow.yields_pure.1 h).1
  | ok bootstrap =>
    rw [hfirst] at h
    refine absurd h (Settled.bind (fun consumer => ?_) talk reason)
    cases consumer with
    | error e => exact .pure nofun
    | ok consumer =>
      refine .bind fun producer => ?_
      cases producer with
      | error e => exact .pure nofun
      | ok producer =>
        refine .bind fun plan => ?_
        rcases plan with e | (listener | found)
        · exact .pure nofun
        · refine .bind fun address => ?_
          cases address with
          | error e => exact .pure nofun
          | ok inletAddress => exact openInlet_settled _ _
        · exact openInlet_settled _ _

theorem openOutput_settings {settings : OutputSettings} {reason : String}
    (h : (s.openOutput settings).Yields talk (.error (.settings reason))) : talk = [] := by
  unfold openOutput at h
  cases hcheck : settings.check with
  | error e =>
    rw [hcheck] at h
    exact (Flow.yields_pure.1 h).1
  | ok _ =>
    cases hfirst : firstBootstrapServer settings.seedBrokers with
    | error e =>
      simp only [hcheck, hfirst] at h
      exact (Flow.yields_pure.1 h).1
    | ok bootstrap =>
      simp only [hcheck, hfirst] at h
      refine absurd h (Settled.bind (fun address => ?_) talk reason)
      cases address with
      | error e => exact .pure nofun
      | ok inletAddress => exact openInlet_settled _ _

/-- Whatever the world answers, a failure to make a node or to open a bridge leaves no program
running and has deleted nothing, and a command was built only if it could not be run. A fault of
the settings comes before anything is asked. -/
theorem failure_leaves_nothing (s : Supervisor) :
    (∀ spec talk e, (s.create spec).Yields talk (.error e) → LeftAlone talk e.Unstartable) ∧
    (∀ spec talk e, (s.launch spec).Yields talk (.error e) → LeftAlone talk e.Unstartable) ∧
    (∀ settings talk e, (s.openInput settings).Yields talk (.error e) →
      LeftAlone talk e.Unstartable ∧ ∀ reason, e = .settings reason → talk = []) ∧
    ∀ settings talk e, (s.openOutput settings).Yields talk (.error e) →
      LeftAlone talk e.Unstartable ∧ ∀ reason, e = .settings reason → talk = [] := by
  refine ⟨fun spec => create_allOrNothing spec, fun spec => launch_allOrNothing spec, ?_, ?_⟩
  · intro settings talk e h
    refine ⟨openInput_allOrNothing settings talk e h, ?_⟩
    rintro reason rfl
    exact openInput_settings h
  · intro settings talk e h
    refine ⟨openOutput_allOrNothing settings talk e h, ?_⟩
    rintro reason rfl
    exact openOutput_settings h

/-- A bridge whose node cannot be started, when its client and both addresses are there, and one that
names no broker. -/
def stuckSupervisor : Supervisor where
  settings := {}
  binary := "ockam"

def stuckSettings : OutputSettings where
  seedBrokers := ["broker:9092"]
  ticket := "t"
  routeToConsumer := "/service/kafka"

theorem failure_leaves_nothing_stuck :
    (∃ talk name, (stuckSupervisor.openOutput stuckSettings).Yields talk
        (.error (.node (.spawnFailed name "ockam" "no such file"))) ∧
      (prepared talk).length = 1 ∧ LeftAlone talk
        (BridgeError.Unstartable (.node (.spawnFailed name "ockam" "no such file")))) ∧
    ∃ talk reason, (stuckSupervisor.openInput { seedBrokers := [" , "] }).Yields talk
      (.error (.settings reason)) ∧ talk = [] := by
  obtain ⟨-, -, hinput, houtput⟩ := failure_leaves_nothing stuckSupervisor
  have hstuck : (stuckSupervisor.openOutput stuckSettings).Yields _ (.error _) :=
    .ask (r := .bindAny .loopback) (.ok 40000) <| .ask (r := .remember 40000) true <|
      .ask (r := .makeClient _) (.ok ()) <| .ask (r := .bindAny .loopback) (.ok 40001) <|
      .ask (r := .remember 40001) true <| .ask (r := .drawSuffix) (7 : UInt32) <|
      .ask (r := .prepare _) () <| .ask (r := .spawn _) (.error "no such file") <| .done _
  have hblank : (stuckSupervisor.openInput { seedBrokers := [" , "] }).Yields _ (.error _) :=
    .done _
  exact ⟨⟨_, _, hstuck, rfl, (houtput _ _ _ hstuck).1⟩, _, _, hblank, (hinput _ _ _ hblank).2 _ rfl⟩

end Supervisor

end NodeWarden
