import NodeWarden.Plane.Command
import NodeWarden.Proofs.Apart
import NodeWarden.Proofs.Brokers
import NodeWarden.Proofs.Check

/-! What a bridge asks of its node passes the checks of the spec. Whatever text the settings, an
address that was probed or one that was allocated come to has been looked at on the way, by checks
that know nothing of those of the spec; together they leave it nothing to refuse. -/

namespace NodeWarden

open Exchange

/-- How a control plane answers for an identity: the one in memory knows it, and the node binary's
is read out of what the command left behind, whatever that is. -/
inductive IdentityAnswer (name : String) : Except NodeError String → Prop
  | memory (identifier : String) : IdentityAnswer name (.ok identifier)
  | binary (output : Except String (List UInt8)) : IdentityAnswer name (readIdentity name output)

/-- What the world can answer. A port has sixteen bits, a host that is found has a name, and an
identity is answered for by a control plane. -/
def Exchange.Lawful : Exchange → Prop
  | ⟨.bindAny _, .ok port⟩ => port ≤ 65535
  | ⟨.resolve host _, some _⟩ => host ≠ ""
  | ⟨.identity name, answer⟩ => IdentityAnswer name answer
  | _ => True

theorem reason_of_readIdentity {name : String} {output : Except String (List UInt8)} {e : NodeError}
    (h : readIdentity name output = .error e) : ∃ reason, e = .identityFailed name reason := by
  unfold readIdentity at h
  cases output with
  | error reason =>
    cases h
    exact ⟨reason, rfl⟩
  | ok stdout =>
    dsimp only at h
    split at h
    · cases h
      exact ⟨_, rfl⟩
    · cases h

/-- Whatever the command left behind, no more is said of an identity that there is not than that. -/
theorem IdentityAnswer.eq_identityFailed {name : String} {e : NodeError}
    (h : IdentityAnswer name (.error e)) : ∃ reason, e = .identityFailed name reason := by
  generalize hanswer : (.error e : Except NodeError String) = answer at h
  cases h with
  | memory identifier => cases hanswer
  | binary output => exact reason_of_readIdentity hanswer.symm

variable {text host address : String} {a : SocketAddr} {talk : List Exchange} {lease : Lease}

/-! ## Addresses -/

/-- A socket address that ends in the digits of its port has a host in front of the colon. -/
theorem OpensSocket.isHostPort {front ds : List Char} (hopens : OpensSocket text.toList)
    (htext : text.toList = front ++ ':' :: ds) (hne : ds ≠ [])
    (hdigits : ∀ c ∈ ds, isDigit c = true) (hle : decimalValue ds ≤ 65535) : IsHostPort text := by
  refine ⟨front, ds, _, htext, colon_notMem hdigits, ?_, .plain hne hdigits, hle⟩
  -- without a host the text would begin with the colon
  rintro rfl
  obtain ⟨c, tail, hfirst, hc⟩ := hopens
  rw [htext, List.nil_append] at hfirst
  cases hfirst
  exact absurd hc (by decide)

theorem SocketAddr.isHostPort_of_parse? (h : SocketAddr.parse? text = some a) :
    IsHostPort text := by
  obtain ⟨rest, ⟨front, hfront⟩, hread⟩ := SocketAddr.port_at_end h
  obtain ⟨ds, rfl, hne, hdigits, hport, hle⟩ := readPortPart_end hread
  rw [← hport] at hle
  exact (SocketAddr.opens_of_parse? h).isHostPort hfront.symm hne hdigits hle

theorem SocketAddr.isHostPort_text (h : a.port ≤ 65535) : IsHostPort a.text := by
  obtain ⟨front, htext⟩ := a.text_end
  refine a.opens_text.isHostPort htext Nat.toDigits_ne_nil (fun _ => isDigit_of_mem_toDigits) ?_
  rwa [decimalValue_toDigits]

theorem isHostPort_of_splitHostPort {port : Nat} (h : splitHostPort address = some (host, port))
    (hhost : host ≠ "") : IsHostPort address := by
  unfold splitHostPort at h
  cases hsplit : splitLast ':' address.toList with
  | none =>
    rw [hsplit] at h
    cases h
  | some parts =>
    obtain ⟨front, ds⟩ := parts
    rw [hsplit] at h
    cases hport : readPort ds with
    | error e =>
      simp only [hport] at h
      cases h
    | ok n =>
      simp only [hport] at h
      cases h
      obtain ⟨hnumeral, hle⟩ := readNumeral_eq_ok_iff.1 hport
      obtain ⟨htext, hlast⟩ := splitLast_eq_some hsplit
      refine ⟨front, ds, _, htext, hlast, ?_, hnumeral, hle⟩
      rintro rfl
      exact hhost rfl

theorem resolveSocket_assures :
    (resolveSocket address).Assures Lawful fun socket? => socket?.isSome → IsHostPort address := by
  unfold resolveSocket
  split
  · rename_i hparse
    exact Flow.assures_pure fun _ => SocketAddr.isHostPort_of_parse? hparse
  · split
    · rename_i host port hsplit
      refine Flow.assures_request fun answer hlawful => ?_
      cases answer with
      | none => exact nofun
      | some _ => exact fun _ => isHostPort_of_splitHostPort hsplit hlawful
    · exact Flow.assures_pure nofun

/-- What a probe found is that of a host and a port. -/
theorem probe_assures :
    (probe address).Assures Lawful fun r => ∀ lease, r = .ok lease → IsHostPort address := by
  unfold probe
  refine Flow.assures_bind resolveSocket_assures fun socket? hsocket => ?_
  cases socket? with
  | none => exact Flow.assures_pure nofun
  | some socket =>
    refine Flow.assures_bind Flow.assures_any fun _ _ => ?_
    have haddress := hsocket rfl
    split <;> exact Flow.assures_pure fun _ _ => haddress

/-! ## Settings -/

theorem filled_of_firstBootstrapServer {brokers : List String} {server : String}
    (h : firstBootstrapServer brokers = .ok server) : Filled server :=
  filled_of_bounded (bounded_of_firstBootstrapServer h)

theorem OutputSettings.filled_of_check {settings : OutputSettings} (h : settings.check = .ok ()) :
    Filled settings.ticket := by
  unfold check at h
  split at h
  · cases h
  · rename_i hticket
    rwa [isBlankText_iff, not_not] at hticket

theorem filled_defaultRoute : Filled defaultRoute := ⟨'/', by decide, by decide⟩

theorem filled_consumerIdentity : Filled consumerIdentity := ⟨'c', by decide, by decide⟩

namespace Supervisor

variable {s : Supervisor} {spec : NodeSpec}

theorem inputSpec_keeps {bootstrap inlet consumer producer : String} {settings : InputSettings}
    (hbootstrap : Filled bootstrap) (hinlet : IsHostPort inlet)
    (hlistener : IsHostPort settings.nodeAddress) (field : SpecField) :
    (inputSpec bootstrap inlet consumer producer settings).Keeps field := by
  cases field with
  | inletFrom => exact hinlet
  | inletTo => exact filled_defaultRoute
  | bootstrapServer => exact hbootstrap
  | listenerAddress => exact fun _ h => Option.some.inj h ▸ hlistener
  | identity => exact fun _ h => Option.some.inj h ▸ filled_consumerIdentity
  | ticket => exact nofun

theorem outputSpec_keeps {bootstrap inlet : String} {settings : OutputSettings}
    (hbootstrap : Filled bootstrap) (hinlet : IsHostPort inlet) (hticket : Filled settings.ticket)
    (field : SpecField) : (outputSpec bootstrap inlet settings).Keeps field := by
  cases field with
  | inletFrom => exact hinlet
  | inletTo => exact filled_defaultRoute
  | bootstrapServer => exact hbootstrap
  | listenerAddress | identity => exact nofun
  | ticket => exact fun _ h => Option.some.inj h ▸ hticket

theorem keeps_listening (h : ∀ field, spec.Keeps field) (haddress : IsHostPort address)
    (field : SpecField) :
    ({ spec with listenerAddress := some address } : NodeSpec).Keeps field := by
  cases field with
  | listenerAddress => exact fun _ heq => Option.some.inj heq ▸ haddress
  | inletFrom => exact h .inletFrom
  | inletTo => exact h .inletTo
  | bootstrapServer => exact h .bootstrapServer
  | identity => exact h .identity
  | ticket => exact h .ticket

end Supervisor

/-! ## Faults of the configuration -/

def NodeError.Unbuilt (e : NodeError) : Prop := ∃ c, e = .configBuildFailed c

def BridgeError.Unbuilt (e : BridgeError) : Prop := ∃ f : NodeError, e = .node f ∧ f.Unbuilt

variable {α ε : Type} {fault : ε → Prop}

/-- In a lawful world the flow does not come to such a fault. -/
def Spared (fault : ε → Prop) (flow : Flow (Except ε α)) : Prop :=
  flow.Assures Lawful fun r => ∀ e, r = .error e → ¬ fault e

theorem spared_ok {a : α} : Spared fault (pure (.ok a)) := Flow.assures_pure nofun

theorem spared_error {e : ε} (h : ¬ fault e) :
    Spared fault (pure (.error e) : Flow (Except ε α)) := by
  refine Flow.assures_pure ?_
  rintro _ ⟨⟩
  exact h

section

variable {β δ : Type} {flow : Flow (Except δ β)} {f : Except δ β → Flow (Except ε α)}
  {earlier : δ → Prop}

/-- A flow that comes to such a fault has come to a value in its first part, if that is spared. -/
theorem Spared.yields_bind {e : ε} (h : Spared earlier flow)
    (herror : ∀ e, ¬ earlier e → Spared fault (f (.error e)))
    (hyields : (flow >>= f).Yields talk (.error e)) (hlawful : ∀ x ∈ talk, Lawful x)
    (he : fault e) :
    ∃ first rest b, talk = first ++ rest ∧ flow.Yields first (.ok b) ∧
      (f (.ok b)).Yields rest (.error e) := by
  obtain ⟨first, rest, made, rfl, hfirst, hrest⟩ := Flow.yields_bind.1 hyields
  rw [List.forall_mem_append] at hlawful
  cases made with
  | ok b => exact ⟨first, rest, b, rfl, hfirst, hrest⟩
  | error d =>
    exact absurd he (herror d (h first _ hfirst hlawful.1 d rfl) rest _ hrest hlawful.2 e rfl)

theorem Spared.bind {good : β → Prop} (h : Spared earlier flow)
    (hgood : flow.Assures Lawful fun r => ∀ b, r = .ok b → good b)
    (hok : ∀ b, good b → Spared fault (f (.ok b)))
    (herror : ∀ e, ¬ earlier e → Spared fault (f (.error e))) : Spared fault (flow >>= f) := by
  rintro talk _ hyields hlawful e rfl he
  obtain ⟨first, rest, b, rfl, hfirst, hrest⟩ := h.yields_bind herror hyields hlawful he
  rw [List.forall_mem_append] at hlawful
  exact hok b (hgood first _ hfirst hlawful.1 b rfl) rest _ hrest hlawful.2 e rfl he

end

theorem spared_node {e : NodeError} (h : ¬ e.Unbuilt) :
    Spared BridgeError.Unbuilt (pure (.error (.node e)) : Flow (Except BridgeError α)) := by
  refine spared_error ?_
  rintro ⟨f, hf, hunbuilt⟩
  cases hf
  exact h hunbuilt

theorem not_unbuilt_of_firstBootstrapServer {brokers : List String} {e : BridgeError}
    (h : firstBootstrapServer brokers = .error e) : ¬ e.Unbuilt := by
  unfold firstBootstrapServer at h
  dsimp only at h
  split at h
  · cases h
  · cases h
    rintro ⟨f, hf, -⟩
    cases hf

theorem OutputSettings.not_unbuilt_of_check {settings : OutputSettings} {e : BridgeError}
    (h : settings.check = .error e) : ¬ e.Unbuilt := by
  unfold check at h
  rintro ⟨f, rfl, -⟩
  split at h
  · cases h
  · split at h <;> cases h

namespace Supervisor

variable {s : Supervisor} {spec : NodeSpec}

theorem identifier_spared (configured : Option String) (name : String) :
    Spared NodeError.Unbuilt (identifier configured name) := by
  unfold identifier
  cases configured with
  | some _ => exact spared_ok
  | none =>
    refine Flow.assures_request fun answer hlawful => ?_
    rintro e rfl ⟨c, rfl⟩
    obtain ⟨reason, hreason⟩ := IdentityAnswer.eq_identityFailed hlawful
    cases hreason

theorem allocateAddress_spared : Spared NodeError.Unbuilt s.allocateAddress := by
  unfold allocateAddress
  refine Flow.assures_bind Flow.assures_any fun found _ => ?_
  cases found with
  | ok socket => exact spared_ok
  | error e => exact spared_error nofun

theorem allocateAddress_assures :
    s.allocateAddress.Assures Lawful fun r => ∀ address, r = .ok address → IsHostPort address := by
  rintro talk _ h hlawful address rfl
  obtain ⟨passed, port, rfl, rfl, -⟩ := allocateAddress_yields_ok h
  have hport : port ≤ 65535 := hlawful ⟨.bindAny s.host, .ok port⟩ (by simp)
  exact SocketAddr.isHostPort_text hport

theorem create_spared (h : ∀ field, spec.Keeps field) :
    Spared NodeError.Unbuilt (s.create spec) := by
  rintro talk _ hcreate - e rfl ⟨c, rfl⟩
  obtain ⟨refused, hcheck, -⟩ := check_of_create_yields hcreate
  rw [NodeSpec.check_eq_ok_iff.2 h] at hcheck
  cases hcheck

theorem launch_spared (h : ∀ field, spec.Keeps field) :
    Spared NodeError.Unbuilt (s.launch spec) := by
  unfold launch
  split
  · exact create_spared h
  · exact allocateAddress_spared.bind allocateAddress_assures
      (fun _ haddress => create_spared (keeps_listening h haddress)) fun _ => spared_error

theorem created_spared {flow : Flow (Except NodeError NewNode)}
    (h : Spared NodeError.Unbuilt flow) :
    Spared NodeError.Unbuilt (flow >>= fun node => pure (node.map BridgeNode.created)) := by
  refine Flow.assures_bind h fun made hmade => ?_
  cases made with
  | ok node => exact spared_ok
  | error e => exact spared_error (hmade e rfl)

theorem openInlet_spared {node : Flow (Except NodeError BridgeNode)}
    (h : Spared NodeError.Unbuilt node) (inletAddress : String) :
    Spared BridgeError.Unbuilt (openInlet inletAddress node) := by
  unfold openInlet
  refine Flow.assures_bind Flow.assures_any fun made _ => ?_
  cases made with
  | error e =>
    refine spared_error ?_
    rintro ⟨f, hf, -⟩
    cases hf
  | ok _ =>
    refine Flow.assures_bind h fun made hmade => ?_
    cases made with
    | ok node => exact spared_ok
    | error e => exact spared_node (hmade e rfl)

theorem openFresh_spared {settings : InputSettings} {bootstrap consumer producer : String}
    (hbootstrap : Filled bootstrap) (hlistener : IsHostPort settings.nodeAddress) :
    Spared BridgeError.Unbuilt (s.openFresh settings bootstrap consumer producer) := by
  unfold openFresh
  refine allocateAddress_spared.bind allocateAddress_assures (fun inlet hinlet => ?_)
    fun _ => spared_node
  exact openInlet_spared
    (created_spared (create_spared (inputSpec_keeps hbootstrap hinlet hlistener))) inlet

theorem openOutput_spared (settings : OutputSettings) :
    Spared BridgeError.Unbuilt (s.openOutput settings) := by
  unfold openOutput
  cases hcheck : settings.check with
  | error e => exact spared_error (OutputSettings.not_unbuilt_of_check hcheck)
  | ok _ =>
    cases hbootstrap : firstBootstrapServer settings.seedBrokers with
    | error e => exact spared_error (not_unbuilt_of_firstBootstrapServer hbootstrap)
    | ok bootstrap =>
      refine allocateAddress_spared.bind allocateAddress_assures (fun inlet hinlet => ?_)
        fun _ => spared_node
      have hkeeps := outputSpec_keeps (filled_of_firstBootstrapServer hbootstrap) hinlet
        (OutputSettings.filled_of_check hcheck)
      exact openInlet_spared (created_spared (launch_spared hkeeps)) inlet

end Supervisor

/-! ## The plan of the consumer side -/

/-- Whether it is tried to bind an address. -/
def Request.binds : Request → Bool
  | .bind _ => true
  | _ => false

theorem probe_yields_ok (h : (probe address).Yields talk (.ok lease)) :
    ∃ (asked : List Exchange) (outcome : BindOutcome),
      talk = asked ++ [⟨.bind lease.address, outcome⟩] ∧
      (∀ x ∈ asked, x.request.binds = false) ∧ (lease.wasFree = true ↔ outcome = .bound) := by
  unfold probe at h
  obtain ⟨asked, rest, socket?, rfl, hasked, hrest⟩ := Flow.yields_bind.1 h
  have hbinds : (resolveSocket address).Avoids Request.binds := resolveSocket_avoids fun _ _ => rfl
  cases socket? with
  | none => cases (Flow.yields_pure.1 hrest).2
  | some socket =>
    obtain ⟨outcome, last, rfl, hlast⟩ := Flow.yields_request_bind.1 hrest
    refine ⟨asked, outcome, ?_⟩
    cases outcome with
    | bound =>
      obtain ⟨rfl, hlease⟩ := Flow.yields_pure.1 hlast
      cases hlease
      exact ⟨rfl, hbinds asked _ hasked, iff_of_true rfl rfl⟩
    | inUse | denied =>
      obtain ⟨rfl, hlease⟩ := Flow.yields_pure.1 hlast
      cases hlease
      exact ⟨rfl, hbinds asked _ hasked, iff_of_false nofun nofun⟩
    | unavailable | failed fault => cases (Flow.yields_pure.1 hlast).2

namespace Supervisor

variable {s : Supervisor} {found : ReusableNode}

/-- An address is planned for as it is when it could be bound, and a node is used again when it
could not. -/
theorem bound_of_fresh {listener : String}
    (h : (s.planListener (some address)).Within talk (.ok (.fresh listener))) :
    ∃ socket, ⟨.bind socket, .bound⟩ ∈ talk := by
  obtain ⟨lease, ⟨before, during, after, rfl, hprobe⟩, hfree⟩ := probe_of_fresh h
  obtain ⟨asked, outcome, rfl, -, hbound⟩ := probe_yields_ok hprobe
  obtain rfl := hbound.1 hfree
  exact ⟨lease.address, by simp⟩

theorem unbound_of_reuse (h : (s.planListener (some address)).Yields talk (.ok (.reuse found))) :
    ∀ socket, ⟨.bind socket, .bound⟩ ∉ talk := by
  intro socket hmem
  cases (planListener_yields _).1 h with
  | taken hprobe htaken hplanned =>
    have hplane : (planTaken s.marker address).Avoids Request.binds :=
      planTaken_avoids rfl (fun _ => rfl) _ _
    obtain ⟨asked, outcome, rfl, hasked, hbound⟩ := probe_yields_ok hprobe
    rcases List.mem_append.1 hmem with hmem | hmem
    · rcases List.mem_append.1 hmem with hmem | hmem
      · cases hasked _ hmem
      · cases List.mem_singleton.1 hmem
        rw [hbound.2 rfl] at htaken
        cases htaken
    · -- the search among the nodes binds nothing
      cases hplane _ _ (planTaken_yields.2 hplanned) _ hmem

theorem planListener_spared (address : String) :
    Spared NodeError.Unbuilt (s.planListener (some address)) := by
  rintro talk _ h - e rfl ⟨c, rfl⟩
  cases (planListener_yields _).1 h with
  | taken _ _ hplanned => cases hplanned

/-- On the consumer side no fault of the configuration comes before the plan. -/
theorem planned_of_unbuilt {settings : InputSettings} {e : BridgeError}
    (h : (s.openInput settings).Yields talk (.error e)) (hlawful : ∀ x ∈ talk, Lawful x)
    (he : e.Unbuilt) :
    ∃ bootstrap consumer producer before plan rest,
      firstBootstrapServer settings.seedBrokers = .ok bootstrap ∧
      talk = before ++ (plan ++ rest) ∧ (∀ x ∈ before, x.request.binds = false) ∧
      ((∃ listener, (s.planListener (some settings.nodeAddress)).Yields plan
          (.ok (.fresh listener)) ∧
        (s.openFresh settings bootstrap consumer producer).Yields rest (.error e)) ∨
      ∃ found, (s.planListener (some settings.nodeAddress)).Yields plan (.ok (.reuse found)) ∧
        (s.openReused settings bootstrap consumer producer found).Yields rest (.error e)) := by
  unfold openInput at h
  cases hbootstrap : firstBootstrapServer settings.seedBrokers with
  | error d =>
    rw [hbootstrap] at h
    cases (Flow.yields_pure.1 h).2
    exact absurd he (not_unbuilt_of_firstBootstrapServer hbootstrap)
  | ok bootstrap =>
    simp only [hbootstrap] at h
    obtain ⟨t1, r1, consumer, rfl, h1, hr1⟩ := (identifier_spared _ _).yields_bind
      (fun _ => spared_node) h hlawful he
    rw [List.forall_mem_append] at hlawful
    obtain ⟨t2, r2, producer, rfl, h2, hr2⟩ := (identifier_spared _ _).yields_bind
      (fun _ => spared_node) hr1 hlawful.2 he
    rw [List.forall_mem_append] at hlawful
    obtain ⟨plan, rest, result, rfl, hplan, hrest⟩ := (planListener_spared _).yields_bind
      (fun _ => spared_node) hr2 hlawful.2.2 he
    refine ⟨bootstrap, consumer, producer, t1 ++ t2, plan, rest, rfl, by simp, ?_, ?_⟩
    · rw [List.forall_mem_append]
      exact ⟨identifier_avoids rfl _ t1 _ h1, identifier_avoids rfl _ t2 _ h2⟩
    · cases result with
      | fresh listener => exact .inl ⟨listener, hplan, hrest⟩
      | reuse found => exact .inr ⟨found, hplan, hrest⟩

theorem openReused_avoids {settings : InputSettings} {bootstrap consumer producer : String} :
    (s.openReused settings bootstrap consumer producer found).Avoids Request.binds := by
  unfold openReused openInlet
  refine Flow.avoids_bind (Flow.avoids_request rfl) fun made => ?_
  cases made with
  | error e => exact Flow.avoids_pure
  | ok _ =>
    refine Flow.avoids_bind Flow.avoids_pure fun made => ?_
    cases made <;> exact Flow.avoids_pure

/-- Such a fault comes of the plan to use a node again, and there was no other plan. -/
theorem reused_of_unbuilt {settings : InputSettings} {e : BridgeError}
    (h : (s.openInput settings).Yields talk (.error e)) (hlawful : ∀ x ∈ talk, Lawful x)
    (he : e.Unbuilt) :
    (∃ found, (s.planListener (some settings.nodeAddress)).Within talk (.ok (.reuse found))) ∧
      ∀ listener, ¬ (s.planListener (some settings.nodeAddress)).Within talk
        (.ok (.fresh listener)) := by
  obtain ⟨bootstrap, consumer, producer, before, plan, rest, hbootstrap, rfl, hbefore,
    ⟨listener, hplan, hrest⟩ | ⟨found, hplan, hrest⟩⟩ := planned_of_unbuilt h hlawful he
  · simp only [List.forall_mem_append] at hlawful
    cases (planListener_yields _).1 hplan with
    | free hprobe hfree =>
      have hlistener := probe_assures _ _ hprobe hlawful.2.1 _ rfl
      exact absurd he (openFresh_spared (filled_of_firstBootstrapServer hbootstrap) hlistener rest _
        hrest hlawful.2.2 e rfl)
    | taken _ _ hplanned => cases hplanned
  · refine ⟨⟨found, hplan.within before rest⟩, fun listener hfresh => ?_⟩
    -- wherever in the talk the fresh plan is, its address was bound, and here none was
    obtain ⟨socket, hbound⟩ := bound_of_fresh hfresh
    simp only [List.mem_append] at hbound
    rcases hbound with hbound | hbound | hbound
    · cases hbefore _ hbound
    · exact unbound_of_reuse hplan socket hbound
    · cases openReused_avoids _ _ hrest _ hbound

/-- Whatever passes the checks of the settings, with addresses that a lawful world lets be allocated
on whatever host, and be probed, makes a spec that is accepted. So no bridge fails over the
configuration of a node that is made for it, whatever the control plane answers and the node
binary leaves behind: on the consumer side that is if the plan for the node's address is a fresh
listener, or at least not a node that is used again. -/
theorem bridge_buildable (s : Supervisor) :
    (∀ settings bootstrap free free' inlet listener, settings.check = .ok () →
      firstBootstrapServer settings.seedBrokers = .ok bootstrap →
      s.allocateAddress.Yields free (.ok inlet) → s.allocateAddress.Yields free' (.ok listener) →
      (∀ x ∈ free ++ free', Lawful x) →
      NodeSpec.check { outputSpec bootstrap inlet settings with listenerAddress := some listener } =
        .ok ()) ∧
    (∀ settings talk r, (s.openOutput settings).Yields talk r → (∀ x ∈ talk, Lawful x) →
      ∀ c, r ≠ .error (.node (.configBuildFailed c))) ∧
    (∀ settings bootstrap consumer producer free probed inlet lease,
      firstBootstrapServer settings.seedBrokers = .ok bootstrap →
      s.allocateAddress.Yields free (.ok inlet) →
      (probe settings.nodeAddress).Yields probed (.ok lease) →
      (∀ x ∈ free ++ probed, Lawful x) →
      (inputSpec bootstrap inlet consumer producer settings).check = .ok ()) ∧
    ∀ settings talk r, (s.openInput settings).Yields talk r → (∀ x ∈ talk, Lawful x) →
      ((∃ listener, (s.planListener (some settings.nodeAddress)).Within talk
          (.ok (.fresh listener))) ∨
        ∀ found, ¬ (s.planListener (some settings.nodeAddress)).Within talk
          (.ok (.reuse found))) →
      ∀ c, r ≠ .error (.node (.configBuildFailed c)) := by
  refine ⟨?_, ?_, ?_, ?_⟩
  · intro settings bootstrap free free' inlet listener hcheck hbootstrap hfree hfree' hlawful
    rw [List.forall_mem_append] at hlawful
    have hinlet := allocateAddress_assures free _ hfree hlawful.1 inlet rfl
    have hlistener := allocateAddress_assures free' _ hfree' hlawful.2 listener rfl
    exact NodeSpec.check_eq_ok_iff.2 (keeps_listening (outputSpec_keeps
      (filled_of_firstBootstrapServer hbootstrap) hinlet (OutputSettings.filled_of_check hcheck))
      hlistener)
  · rintro settings talk _ h hlawful c rfl
    exact openOutput_spared settings talk _ h hlawful _ rfl ⟨_, rfl, c, rfl⟩
  · intro settings bootstrap consumer producer free probed inlet lease hbootstrap hfree hprobe
      hlawful
    rw [List.forall_mem_append] at hlawful
    have hinlet := allocateAddress_assures free _ hfree hlawful.1 inlet rfl
    have hlistener := probe_assures probed _ hprobe hlawful.2 lease rfl
    exact NodeSpec.check_eq_ok_iff.2
      (inputSpec_keeps (filled_of_firstBootstrapServer hbootstrap) hinlet hlistener)
  · rintro settings talk _ h hlawful hplan c rfl
    obtain ⟨⟨found, hreuse⟩, hnone⟩ := reused_of_unbuilt h hlawful ⟨_, rfl, c, rfl⟩
    rcases hplan with ⟨listener, hfresh⟩ | hunused
    · exact hnone listener hfresh
    · exact hunused found hreuse

/-- A supervisor whose addresses are those of an IPv6 host. -/
def ipv6Supervisor : Supervisor where
  settings := {}
  binary := "ockam"
  host := .v6 1

/-- The listener is a name, and its port is written at length. -/
def namedSettings : InputSettings where
  seedBrokers := [",\u00a0broker:9092 "]
  producerIdentifier := some ""
  nodeAddress := "localhost:+04000"

theorem probe_named : (probe "localhost:+04000").Yields
    [⟨.resolve "localhost" 4000, some ⟨.loopback, 0, 4000⟩⟩,
      ⟨.bind ⟨.loopback, 0, 4000⟩, .bound⟩] (.ok ⟨⟨.loopback, 0, 4000⟩, true⟩) := by
  have hparse : SocketAddr.parse? "localhost:+04000" = none := by decide +kernel
  have hsplit : splitHostPort "localhost:+04000" = some ("localhost", 4000) := by decide +kernel
  unfold probe resolveSocket
  rw [hparse]
  dsimp only
  rw [hsplit]
  exact Flow.Yields.ask (r := .resolve _ _) (some (⟨.loopback, 0, 4000⟩ : SocketAddr)) <|
    .ask (r := .bind _) BindOutcome.bound (.done _)

theorem plan_named : (ipv6Supervisor.planListener (some namedSettings.nodeAddress)).Yields
    [⟨.resolve "localhost" 4000, some ⟨.loopback, 0, 4000⟩⟩,
      ⟨.bind ⟨.loopback, 0, 4000⟩, .bound⟩] (.ok (.fresh "localhost:+04000")) :=
  (planListener_yields _).2 (.free probe_named rfl)

theorem lawful_outputTalk (brokers : List String) (config : String) (name : NodeName) :
    ∀ x ∈ ([⟨.bindAny (.v6 1), .ok 65535⟩, ⟨.remember 65535, true⟩, ⟨.makeClient brokers, .ok ()⟩,
      ⟨.bindAny (.v6 1), .ok 1⟩, ⟨.remember 1, true⟩, ⟨.drawSuffix, (7 : UInt32)⟩,
      ⟨.prepare config, ()⟩, ⟨.spawn name, .error "no such file"⟩] : List Exchange), Lawful x := by
  simp [Lawful]

theorem lawful_inputTalk (brokers : List String) (config : String) (name : NodeName) :
    ∀ x ∈ (⟨.identity "consumer", readIdentity "consumer" (.ok [73, 49, 10])⟩ ::
      ([⟨.resolve "localhost" 4000, some ⟨.loopback, 0, 4000⟩⟩,
        ⟨.bind ⟨.loopback, 0, 4000⟩, .bound⟩] ++
      [⟨.bindAny (.v6 1), .ok 65535⟩, ⟨.remember 65535, true⟩, ⟨.makeClient brokers, .ok ()⟩,
        ⟨.drawSuffix, (7 : UInt32)⟩, ⟨.prepare config, ()⟩,
        ⟨.spawn name, .error "no such file"⟩]) : List Exchange), Lawful x := by
  refine List.forall_mem_cons.2 ⟨IdentityAnswer.binary _, ?_⟩
  simp [Lawful]

theorem allocate_ipv6 : ipv6Supervisor.allocateAddress.Yields
    [⟨.bindAny (.v6 1), .ok 65535⟩, ⟨.remember 65535, true⟩] (.ok "[::1]:65535") := by
  have htext : SocketAddr.text ⟨.v6 1, 0, 65535⟩ = "[::1]:65535" := by decide +kernel
  rw [← htext]
  exact .ask (r := .bindAny (.v6 1)) (.ok 65535) (.ask (r := .remember 65535) true (.done _))

/-- The specs are accepted, and on both sides all that is missing is the node's program. -/
theorem bridge_buildable_stuck :
    NodeSpec.check { outputSpec "broker:9092" "[::1]:65535" ticketSettings with
      listenerAddress := some "[::1]:65535" } = .ok () ∧
    (∃ talk r, (ipv6Supervisor.openOutput ticketSettings).Yields talk r ∧
      clients talk = [["[::1]:65535"]] ∧ ∀ c, r ≠ .error (.node (.configBuildFailed c))) ∧
    (inputSpec "broker:9092" "[::1]:65535" "I1" "" namedSettings).check = .ok () ∧
    ∃ talk r, (ipv6Supervisor.openInput namedSettings).Yields talk r ∧
      clients talk = [["[::1]:65535"]] ∧ (prepared talk).length = 1 ∧
      ∀ c, r ≠ .error (.node (.configBuildFailed c)) := by
  obtain ⟨haccepted, hbuilt, haccepted', hbuilt'⟩ := bridge_buildable ipv6Supervisor
  have houtput : (ipv6Supervisor.openOutput ticketSettings).Yields _
      (.error (.node (.spawnFailed _ _ _))) :=
    .ask (r := .bindAny (.v6 1)) (.ok 65535) <| .ask (r := .remember 65535) true <|
      .ask (r := .makeClient _) (.ok ()) <| .ask (r := .bindAny (.v6 1)) (.ok 1) <|
      .ask (r := .remember 1) true <| .ask (r := .drawSuffix) (7 : UInt32) <|
      .ask (r := .prepare _) () <| .ask (r := .spawn _) (.error "no such file") <| .done _
  have hfresh : (ipv6Supervisor.openFresh namedSettings "broker:9092" "I1" "").Yields _
      (.error (.node (.spawnFailed _ _ _))) :=
    .ask (r := .bindAny (.v6 1)) (.ok 65535) <| .ask (r := .remember 65535) true <|
      .ask (r := .makeClient _) (.ok ()) <| .ask (r := .drawSuffix) (7 : UInt32) <|
      .ask (r := .prepare _) () <| .ask (r := .spawn _) (.error "no such file") <| .done _
  have hbootstrap : firstBootstrapServer namedSettings.seedBrokers = .ok "broker:9092" := by
    decide +kernel
  have hidentity : readIdentity "consumer" (.ok [73, 49, 10]) = .ok "I1" := by decide +kernel
  have hinput := openInput_asked hbootstrap rfl rfl plan_named hfresh
  rw [← hidentity] at hinput
  refine ⟨?_, ⟨_, _, houtput, rfl, hbuilt _ _ _ houtput (lawful_outputTalk _ _ _)⟩, ?_, _, _,
    hinput, rfl, rfl,
    hbuilt' _ _ _ hinput (lawful_inputTalk _ _ _) (.inl ⟨_, plan_named.within [_] _⟩)⟩
  · exact haccepted _ _ _ _ _ _ rfl rfl allocate_ipv6 allocate_ipv6 (by simp [Lawful])
  · exact haccepted' _ _ _ _ _ _ _ _ hbootstrap allocate_ipv6 probe_named (by simp [Lawful])

end Supervisor

end NodeWarden
