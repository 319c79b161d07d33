import NodeWarden.Proofs.Config
import NodeWarden.Proofs.Creation

/-! What an opened bridge is made of. Its client, its node's configuration and the bridge itself
agree on one address, which is a free one or that of the node that was found, and no broker of
the settings is ever given to the client. On the consumer side each rule of the configuration
admits the identity that it is meant for, however that identity is spelled. -/

namespace NodeWarden

namespace Exchange

def brokers? : Exchange → Option (List String)
  | ⟨.makeClient brokers, _⟩ => some brokers
  | _ => none

/-- The brokers that clients were made for. -/
def clients (talk : List Exchange) : List (List String) := talk.filterMap brokers?

end Exchange

/-- Requests by which nodes come and go, and clients are made. -/
def Request.commits : Request → Bool
  | .makeClient _ => true
  | r => r.touchesNodes

theorem Request.commits_of_inquires (r : Request) (h : r.inquires = true) : r.commits = false := by
  cases r <;> first | rfl | cases h

open Exchange

variable {talk first rest : List Exchange}

/-- What commits to nothing does not count. -/
theorem uncommitted_append (rest : List Exchange)
    (h : ∀ x ∈ first, x.request.commits = false) :
    clients (first ++ rest) = clients rest ∧ prepared (first ++ rest) = prepared rest ∧
      started (first ++ rest) = started rest := by
  have huntouched : ∀ x ∈ first, x.request.touchesNodes = false := by
    rintro ⟨r, answer⟩ hx
    have hr := h _ hx
    cases r with
    | makeClient _ => rfl
    | _ => exact hr
  have hclients : clients first = [] := by
    refine List.filterMap_eq_nil_iff.2 ?_
    rintro ⟨r, answer⟩ hx
    have hr := h _ hx
    cases r with
    | makeClient _ => cases hr
    | _ => rfl
  refine ⟨?_, (untouched_append huntouched).1, (untouched_append huntouched).2.1⟩
  rw [clients, List.filterMap_append, ← clients, ← clients, hclients, List.nil_append]

/-- An identifier that was configured, or that was given for an identity by name. -/
inductive Identified (configured : Option String) (name : String) (talk : List Exchange) :
    String → Prop
  | configured {identifier : String} : configured = some identifier →
      Identified configured name talk identifier
  | given {identifier : String} : configured = none → ⟨.identity name, .ok identifier⟩ ∈ talk →
      Identified configured name talk identifier

/-- The bridge's node was made for it, on a free address. -/
structure Made (s : Supervisor) (talk : List Exchange) (bridge : OpenBridge) : Prop where
  created : bridge.node = .created bridge.node.node
  prepared : prepared talk = [bridge.node.node.config]
  started : started talk = [bridge.node.node.name]
  allocated : s.allocateAddress.Within talk (.ok bridge.inletAddress)

/-- The bridge's node was found, and so was its inlet; no node was made. -/
structure Found (s : Supervisor) (address : String) (talk : List Exchange) (bridge : OpenBridge) :
    Prop where
  adopted : bridge.node = .adopted bridge.node.node
  prepared : prepared talk = []
  started : started talk = []
  planned : (s.planListener (some address)).Within talk
    (.ok (.reuse ⟨bridge.node.node.name, bridge.inletAddress⟩))

/-- The text of the node's configuration, as it is read back, has this one inlet and this one
outlet, and they lead from the bridge's address to the server. -/
structure Reads (s : Supervisor) (bridge : OpenBridge) (server : String) (tls : Bool) (i : Inlet)
    (o : Outlet) : Prop where
  text : ∃ c, NodeConfig.ofText bridge.node.node.config = .ok c ∧
    c.name = some bridge.node.node.name.text ∧ c.kafkaInlet = .lay s.settings.layout i ∧
    c.kafkaOutlet = .lay s.settings.layout o
  source : i.source = bridge.inletAddress
  unpublished : i.avoidPublishing = true
  server : o.bootstrapServer = server
  tls : o.tls = tls

/-- Every rule admits the identity that it is for. -/
structure Admits (consumer producer : String) (i : Inlet) (o : Outlet) : Prop where
  inlet : i.allow = some (.identifierEquals consumer)
  outlet : o.allow = some (.identifierEquals consumer)
  producer : i.allowProducer = some (.identifierEquals producer)

namespace Supervisor

variable {s : Supervisor} {spec : NodeSpec} {node : NewNode} {bridge : OpenBridge}
  {inletAddress : String}

/-- The node's configuration is that of the spec, under the node's own name. -/
def Documents (s : Supervisor) (spec : NodeSpec) (node : NewNode) : Prop :=
  ∃ config, s.render spec = .ok config ∧ node.config = (config.withName node.name.text).compact

theorem Documents.ofText (h : s.Documents spec node) :
    NodeConfig.ofText node.config =
      .ok ((spec.render s.settings.layout).withName node.name.text) := by
  obtain ⟨config, hrender, hconfig⟩ := h
  rw [hconfig, (render_eq_ok_iff.1 hrender).2]
  exact NodeConfig.ofText_of_json (Json.ofText?_compact _)

theorem Documents.reads (h : s.Documents spec bridge.node.node)
    (hsource : spec.inlet.source = bridge.inletAddress)
    (hunpublished : spec.inlet.avoidPublishing = true) :
    Reads s bridge spec.outlet.bootstrapServer spec.outlet.tls spec.inlet spec.outlet :=
  ⟨⟨_, h.ofText, rfl, rfl, rfl⟩, hsource, hunpublished, rfl, rfl⟩

theorem documents_of_adopt {name : NodeName} (h : s.adopt spec name = .ok node) :
    node.name = name ∧ s.Documents spec node := by
  unfold adopt at h
  cases hrender : s.render spec with
  | error e =>
    rw [hrender] at h
    cases h
  | ok config =>
    rw [hrender] at h
    cases h
    exact ⟨rfl, config, hrender, rfl⟩

/-- What the making of a node adds to the talk. -/
structure Creates (s : Supervisor) (spec : NodeSpec) (node : NewNode) (talk : List Exchange) :
    Prop where
  clients : Exchange.clients talk = []
  prepared : Exchange.prepared talk = [node.config]
  started : Exchange.started talk = [node.name]
  documents : s.Documents spec node

theorem creates_of_create (h : (s.create spec).Yields talk (.ok node)) :
    s.Creates spec node talk := by
  obtain ⟨suffix, config, rfl, -, hrender, hconfig⟩ := create_yields_ok h
  exact ⟨rfl, rfl, rfl, config, hrender, hconfig⟩

theorem Creates.after (hfirst : ∀ x ∈ first, x.request.commits = false)
    (h : s.Creates spec node rest) : s.Creates spec node (first ++ rest) := by
  obtain ⟨hclients, hprepared, hstarted⟩ := uncommitted_append rest hfirst
  exact ⟨hclients.trans h.clients, hprepared.trans h.prepared, hstarted.trans h.started,
    h.documents⟩

/-- A launch finds an address to listen on where none is asked for. -/
theorem launch_yields_ok (hunset : spec.listenerAddress = none)
    (h : (s.launch spec).Yields talk (.ok node)) :
    ∃ free rest listener, talk = free ++ rest ∧ s.allocateAddress.Yields free (.ok listener) ∧
      (s.create { spec with listenerAddress := some listener }).Yields rest (.ok node) := by
  simp only [launch, hunset] at h
  obtain ⟨free, rest, listener, rfl, hfree, hrest⟩ := Flow.yields_bind_ok h fun _ => ⟨_, rfl⟩
  exact ⟨free, rest, listener, rfl, hfree, hrest⟩

/-- A launch may have found an address to listen on; inlet and outlet are as they were asked for. -/
theorem creates_of_launch (h : (s.launch spec).Yields talk (.ok node)) :
    ∃ listener, s.Creates { spec with listenerAddress := listener } node talk := by
  cases hset : spec.listenerAddress with
  | some address =>
    simp only [launch, hset] at h
    exact ⟨spec.listenerAddress, creates_of_create h⟩
  | none =>
    obtain ⟨free, rest, listener, rfl, hfree, hrest⟩ := launch_yields_ok hset h
    exact ⟨some listener, (creates_of_create hrest).after
      (allocateAddress_avoids Request.commits_of_inquires free _ hfree)⟩

theorem created_yields {flow : Flow (Except NodeError NewNode)} {made : BridgeNode}
    (h : (flow >>= fun node => pure (node.map .created)).Yields talk (.ok made)) :
    ∃ node, made = .created node ∧ flow.Yields talk (.ok node) := by
  obtain ⟨first, rest, node, rfl, hfirst, hrest⟩ := Flow.yields_bind_ok h fun _ => ⟨_, rfl⟩
  obtain ⟨rfl, hmade⟩ := Flow.yields_pure.1 hrest
  cases hmade
  rw [List.append_nil]
  exact ⟨node, rfl, hfirst⟩

/-- One client is made, for the inlet alone, and then the node. -/
theorem openInlet_yields_ok {node : Flow (Except NodeError BridgeNode)}
    (h : (openInlet inletAddress node).Yields talk (.ok bridge)) :
    ∃ rest made, talk = ⟨.makeClient [inletAddress], .ok ()⟩ :: rest ∧ node.Yields rest (.ok made) ∧
      bridge = ⟨made, inletAddress⟩ := by
  unfold openInlet at h
  obtain ⟨first, rest, _, rfl, hfirst, hrest⟩ := Flow.yields_bind_ok h fun _ => ⟨_, rfl⟩
  rw [Flow.yields_request.1 hfirst]
  obtain ⟨during, last, made, rfl, hduring, hlast⟩ := Flow.yields_bind_ok hrest fun _ => ⟨_, rfl⟩
  obtain ⟨rfl, hbridge⟩ := Flow.yields_pure.1 hlast
  cases hbridge
  rw [List.append_nil]
  exact ⟨during, made, rfl, hduring, rfl⟩

theorem identified {configured : Option String} {name identifier : String}
    (h : (Supervisor.identifier configured name).Yields first (.ok identifier))
    (hin : first ⊆ talk) : Identified configured name talk identifier := by
  cases configured with
  | some given =>
    obtain ⟨-, heq⟩ := Flow.yields_pure.1 h
    cases heq
    exact .configured rfl
  | none =>
    rw [Flow.yields_request.1 h] at hin
    exact .given rfl (hin List.mem_cons_self)

theorem openInlet_created {flow : Flow (Except NodeError NewNode)}
    (h : (openInlet inletAddress (flow >>= fun node => pure (node.map .created))).Yields talk
      (.ok bridge)) :
    ∃ rest node, talk = ⟨.makeClient [inletAddress], .ok ()⟩ :: rest ∧
      flow.Yields rest (.ok node) ∧ bridge = ⟨.created node, inletAddress⟩ := by
  obtain ⟨rest, made, rfl, hmade, rfl⟩ := openInlet_yields_ok h
  obtain ⟨node, rfl, hnode⟩ := created_yields hmade
  exact ⟨rest, node, rfl, hnode, rfl⟩

/-- A free address, a client for it, and then the node. -/
theorem Creates.opens {before free : List Exchange} (h : s.Creates spec node rest)
    (hbefore : ∀ x ∈ before, x.request.commits = false)
    (hfree : s.allocateAddress.Yields free (.ok inletAddress)) :
    let talk := before ++ (free ++ ⟨.makeClient [inletAddress], .ok ()⟩ :: rest)
    Exchange.clients talk = [[inletAddress]] ∧ Made s talk ⟨.created node, inletAddress⟩ := by
  have hall : ∀ x ∈ before ++ free, x.request.commits = false := fun x hx =>
    (List.mem_append.1 hx).elim (hbefore x)
      (allocateAddress_avoids Request.commits_of_inquires free _ hfree x)
  obtain ⟨hclients, hprepared, hstarted⟩ :=
    uncommitted_append (⟨.makeClient [inletAddress], .ok ()⟩ :: rest) hall
  rw [List.append_assoc] at hclients hprepared hstarted
  refine ⟨?_, rfl, ?_, ?_, hfree.within before _⟩
  · rw [hclients]
    exact congrArg ([inletAddress] :: ·) h.clients
  · rw [hprepared]
    exact h.prepared
  · rw [hstarted]
    exact h.started

theorem openFresh_yields_ok {settings : InputSettings} {bootstrap consumer producer : String}
    {before : List Exchange} (hbefore : ∀ x ∈ before, x.request.commits = false)
    (h : (s.openFresh settings bootstrap consumer producer).Yields rest (.ok bridge)) :
    clients (before ++ rest) = [[bridge.inletAddress]] ∧ Made s (before ++ rest) bridge ∧
      s.Documents (inputSpec bootstrap bridge.inletAddress consumer producer settings)
        bridge.node.node := by
  unfold openFresh at h
  obtain ⟨free, last, inletAddress, rfl, hfree, hlast⟩ := Flow.yields_bind_ok h fun _ => ⟨_, rfl⟩
  obtain ⟨during, node, rfl, hnode, rfl⟩ := openInlet_created hlast
  have hcreates := creates_of_create hnode
  obtain ⟨hclients, hmade⟩ := hcreates.opens hbefore hfree
  exact ⟨hclients, hmade, hcreates.documents⟩

theorem openReused_yields_ok {settings : InputSettings} {bootstrap consumer producer : String}
    {found : ReusableNode} {before plan : List Exchange}
    (hbefore : ∀ x ∈ before ++ plan, x.request.commits = false)
    (hplan : (s.planListener (some settings.nodeAddress)).Yields plan (.ok (.reuse found)))
    (h : (s.openReused settings bootstrap consumer producer found).Yields rest (.ok bridge)) :
    clients (before ++ (plan ++ rest)) = [[bridge.inletAddress]] ∧
      Found s settings.nodeAddress (before ++ (plan ++ rest)) bridge ∧
      s.Documents (inputSpec bootstrap bridge.inletAddress consumer producer settings)
        bridge.node.node := by
  unfold openReused at h
  obtain ⟨during, made, rfl, hmade, rfl⟩ := openInlet_yields_ok h
  obtain ⟨rfl, hmade⟩ := Flow.yields_pure.1 hmade
  cases hadopt : s.adopt (inputSpec bootstrap found.inletAddress consumer producer settings)
      found.name with
  | error e =>
    rw [hadopt] at hmade
    cases hmade
  | ok node =>
    rw [hadopt] at hmade
    cases hmade
    obtain ⟨hname, hdocuments⟩ := documents_of_adopt hadopt
    obtain ⟨hclients, hprepared, hstarted⟩ :=
      uncommitted_append [⟨.makeClient [found.inletAddress], .ok ()⟩] hbefore
    rw [List.append_assoc] at hclients hprepared hstarted
    refine ⟨hclients, ⟨rfl, hprepared, hstarted, ?_⟩, hdocuments⟩
    have hfound : found = ⟨node.name, found.inletAddress⟩ := by rw [hname]
    rw [hfound] at hplan
    exact hplan.within before _

/-- The consumer side, part by part. -/
theorem openInput_yields_ok {settings : InputSettings}
    (h : (s.openInput settings).Yields talk (.ok bridge)) :
    ∃ bootstrap consumer producer, firstBootstrapServer settings.seedBrokers = .ok bootstrap ∧
      Identified settings.consumerIdentifier consumerIdentity talk consumer ∧
      Identified settings.producerIdentifier producerIdentity talk producer ∧
      clients talk = [[bridge.inletAddress]] ∧
      ((Made s talk bridge ∧ ∃ listener, (s.planListener (some settings.nodeAddress)).Within talk
        (.ok (.fresh listener))) ∨ Found s settings.nodeAddress talk bridge) ∧
      s.Documents (inputSpec bootstrap bridge.inletAddress consumer producer settings)
        bridge.node.node := by
  unfold openInput at h
  cases hbootstrap : firstBootstrapServer settings.seedBrokers with
  | error e =>
    rw [hbootstrap] at h
    cases (Flow.yields_pure.1 h).2
  | ok bootstrap =>
    simp only [hbootstrap] at h
    obtain ⟨t1, r1, consumer, rfl, h1, hr1⟩ := Flow.yields_bind_ok h fun _ => ⟨_, rfl⟩
    obtain ⟨t2, r2, producer, rfl, h2, hr2⟩ := Flow.yields_bind_ok hr1 fun _ => ⟨_, rfl⟩
    obtain ⟨t3, rest, plan, rfl, h3, hrest⟩ := Flow.yields_bind_ok hr2 fun _ => ⟨_, rfl⟩
    have hconsumer : Identified settings.consumerIdentifier consumerIdentity
        (t1 ++ (t2 ++ (t3 ++ rest))) consumer := identified h1 (by simp)
    have hproducer : Identified settings.producerIdentifier producerIdentity
        (t1 ++ (t2 ++ (t3 ++ rest))) producer := identified h2 (by simp)
    have hbefore : ∀ x ∈ (t1 ++ t2) ++ t3, x.request.commits = false := by
      simp only [List.mem_append]
      rintro x ((hx | hx) | hx)
      · exact identifier_avoids rfl _ t1 _ h1 x hx
      · exact identifier_avoids rfl _ t2 _ h2 x hx
      · exact planListener_avoids Request.commits_of_inquires _ t3 _ h3 x hx
    refine ⟨bootstrap, consumer, producer, rfl, hconsumer, hproducer, ?_⟩
    cases plan with
    | fresh listener =>
      obtain ⟨hclients, hmade, hdocuments⟩ := openFresh_yields_ok hbefore hrest
      rw [List.append_assoc, List.append_assoc] at hclients hmade
      refine ⟨hclients, .inl ⟨hmade, listener, ?_⟩, hdocuments⟩
      have hwithin := h3.within (t1 ++ t2) rest
      rwa [List.append_assoc] at hwithin
    | reuse found =>
      obtain ⟨hclients, hfound, hdocuments⟩ := openReused_yields_ok hbefore h3 hrest
      rw [List.append_assoc] at hclients hfound
      exact ⟨hclients, .inr hfound, hdocuments⟩

/-- The producer side, part by part: a free address for the inlet, the client, and the launch. -/
theorem openOutput_parts {settings : OutputSettings}
    (h : (s.openOutput settings).Yields talk (.ok bridge)) :
    ∃ bootstrap free rest node, firstBootstrapServer settings.seedBrokers = .ok bootstrap ∧
      talk = free ++ ⟨.makeClient [bridge.inletAddress], .ok ()⟩ :: rest ∧
      s.allocateAddress.Yields free (.ok bridge.inletAddress) ∧
      (s.launch (outputSpec bootstrap bridge.inletAddress settings)).Yields rest (.ok node) ∧
      bridge.node = .created node := by
  unfold openOutput at h
  cases hcheck : settings.check with
  | error e =>
    rw [hcheck] at h
    cases (Flow.yields_pure.1 h).2
  | ok _ =>
    cases hbootstrap : firstBootstrapServer settings.seedBrokers with
    | error e =>
      simp only [hcheck, hbootstrap] at h
      cases (Flow.yields_pure.1 h).2
    | ok bootstrap =>
      simp only [hcheck, hbootstrap] at h
      obtain ⟨free, rest, inletAddress, rfl, hfree, hrest⟩ :=
        Flow.yields_bind_ok h fun _ => ⟨_, rfl⟩
      obtain ⟨during, node, rfl, hnode, rfl⟩ := openInlet_created hrest
      exact ⟨bootstrap, free, during, node, rfl, rfl, hfree, hnode, rfl⟩

theorem openOutput_yields_ok {settings : OutputSettings}
    (h : (s.openOutput settings).Yields talk (.ok bridge)) :
    ∃ bootstrap listener, firstBootstrapServer settings.seedBrokers = .ok bootstrap ∧
      clients talk = [[bridge.inletAddress]] ∧ Made s talk bridge ∧
      s.Documents { outputSpec bootstrap bridge.inletAddress settings with
        listenerAddress := listener } bridge.node.node := by
  obtain ⟨bootstrap, free, rest, node, hbootstrap, rfl, hfree, hnode, hcreated⟩ :=
    openOutput_parts h
  obtain ⟨listener, hcreates⟩ := creates_of_launch hnode
  obtain ⟨made, inletAddress⟩ := bridge
  obtain rfl : made = .created node := hcreated
  have hnothing : ∀ x ∈ ([] : List Exchange), x.request.commits = false := by simp
  obtain ⟨hclients, hmade⟩ := hcreates.opens hnothing hfree
  exact ⟨bootstrap, listener, hbootstrap, hclients, hmade, hcreates.documents⟩

/-- Identities that would end the text they are quoted in, and brokers behind blanks. -/
def quotedSettings : InputSettings where
  seedBrokers := [" ", " , broker:9092,other:9092"]
  producerIdentifier := some "p\"\\"
  tls := true

def ticketSettings : OutputSettings where
  seedBrokers := ["broker:9092"]
  ticket := "t"
  routeToConsumer := "/service/kafka"

def plainSupervisor : Supervisor where
  settings := {}
  binary := "ockam"

theorem probe_free :
    (probe "127.0.0.1:4000").Yields [⟨.bind ⟨.loopback, 0, 4000⟩, .bound⟩]
      (.ok ⟨⟨.loopback, 0, 4000⟩, true⟩) := by
  have hparse : SocketAddr.parse? "127.0.0.1:4000" = some ⟨.loopback, 0, 4000⟩ := by decide +kernel
  unfold probe resolveSocket
  rw [hparse]
  exact Flow.Yields.ask (r := .bind _) BindOutcome.bound (.done _)

/-- A node that listens there, and the inlet by which it is used. -/
def servingShown : Showing :=
  (⟨"serving", by decide⟩, .ok {
    status := some "running"
    transports := [⟨some "127.0.0.1:4000", none⟩]
    inlets := [⟨some "127.0.0.1:5001", some "/secure/api"⟩] })

theorem quoted_bootstrap :
    firstBootstrapServer quotedSettings.seedBrokers = .ok "broker:9092" := by decide +kernel

theorem plan_fresh :
    (plainSupervisor.planListener (some quotedSettings.nodeAddress)).Yields
      [⟨.bind ⟨.loopback, 0, 4000⟩, .bound⟩] (.ok (.fresh "127.0.0.1:4000")) :=
  (planListener_yields _).2 (.free probe_free rfl)

theorem plan_reuse :
    (plainSupervisor.planListener (some quotedSettings.nodeAddress)).Yields
      [⟨.bind ⟨.loopback, 0, 4000⟩, .inUse⟩, ⟨.list, .ok [servingShown.1]⟩, servingShown.exchange]
      (.ok (.reuse ⟨servingShown.1, "127.0.0.1:5001"⟩)) := by
  have hserves : servingShown.Serves "/secure/api" "127.0.0.1:4000" "127.0.0.1:5001" :=
    serves_ok.2 (by decide +kernel)
  exact (planListener_yields _).2
    (.taken probe_taken rfl (.reused (.found [] servingShown [] _ rfl nofun hserves)))

/-- The consumer's identity alone is asked for, and the plan comes to `plan`. -/
theorem openInput_asked {settings : InputSettings} {bootstrap consumer producer : String}
    {plan : ListenerPlan} {during : List Exchange} {r : Except BridgeError OpenBridge}
    (hbootstrap : firstBootstrapServer settings.seedBrokers = .ok bootstrap)
    (hconsumer : settings.consumerIdentifier = none)
    (hproducer : settings.producerIdentifier = some producer)
    (hplan : (s.planListener (some settings.nodeAddress)).Yields during (.ok plan))
    (hrest : (match plan with
      | .fresh _ => s.openFresh settings bootstrap consumer producer
      | .reuse found => s.openReused settings bootstrap consumer producer found).Yields rest r) :
    (s.openInput settings).Yields
      (⟨.identity "consumer", .ok consumer⟩ :: (during ++ rest)) r := by
  unfold openInput
  simp only [hbootstrap, hconsumer, hproducer]
  refine Flow.yields_request_bind.2 ⟨.ok consumer, _, rfl, ?_⟩
  refine Flow.yields_bind.2 ⟨[], _, .ok producer, rfl, .done _, ?_⟩
  refine Flow.yields_bind.2 ⟨during, rest, .ok plan, rfl, hplan, ?_⟩
  cases plan <;> exact hrest

theorem openInput_quoted {consumer : String} {plan : ListenerPlan} {during : List Exchange}
    (hplan : (plainSupervisor.planListener (some quotedSettings.nodeAddress)).Yields during
      (.ok plan))
    (hrest : (match plan with
      | .fresh _ => plainSupervisor.openFresh quotedSettings "broker:9092" consumer "p\"\\"
      | .reuse found =>
        plainSupervisor.openReused quotedSettings "broker:9092" consumer "p\"\\" found).Yields rest
      (.ok bridge)) :
    (plainSupervisor.openInput quotedSettings).Yields
      (⟨.identity "consumer", .ok consumer⟩ :: (during ++ rest)) (.ok bridge) :=
  openInput_asked quoted_bootstrap rfl rfl hplan hrest

end Supervisor

end NodeWarden
