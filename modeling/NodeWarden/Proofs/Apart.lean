import NodeWarden.Proofs.Allocator
import NodeWarden.Proofs.Opened
import NodeWarden.Proofs.Socket

/-! Whether the two sockets that a new node is told to take, for its inlet and to listen, are two.
On the producer side both ports are allocated, and the second is not the first unless the
first was forgotten in between. On the consumer side the listener is the address that was asked
for: it was free when it was probed, the allocator knows nothing of it, and the system may hand
out its port for the inlet. -/

namespace NodeWarden

namespace RecentPorts

variable {r : RecentPorts} {p k : Nat}

/-- The port is among the recent ones, with at most `k` noted after it. -/
def Holds (r : RecentPorts) (p k : Nat) : Prop :=
  ∃ front back, r.ports = front ++ p :: back ∧ back.length ≤ k

theorem Holds.mem (h : r.Holds p k) : p ∈ r.ports := by
  obtain ⟨front, back, hports, -⟩ := h
  rw [hports]
  simp

theorem holds_noted (hnew : p ∉ r.ports) : (r.remember p).1.Holds p 0 := by
  unfold remember
  rw [if_neg (by simpa using hnew)]
  exact ⟨_, [], rfl, Nat.le_refl 0⟩

/-- A port is forgotten only when the window is full of later ones. -/
theorem Holds.remember (h : r.Holds p k) (hroom : k + 1 < recentWindow) (port : Nat) :
    (r.remember port).1.Holds p (k + 1) := by
  obtain ⟨front, back, hports, hback⟩ := h
  by_cases hknown : port ∈ r.ports
  · rw [remember_of_mem hknown]
    exact ⟨front, back, hports, Nat.le_succ_of_le hback⟩
  · unfold RecentPorts.remember
    rw [if_neg (by simpa using hknown)]
    dsimp only
    split
    · rename_i hfull
      cases front with
      | nil =>
        rw [hports, List.nil_append, List.length_cons] at hfull
        omega
      | cons first front =>
        refine ⟨front, back ++ [port], ?_, ?_⟩
        · rw [hports]
          simp
        · simpa using hback
    · refine ⟨front, back ++ [port], ?_, ?_⟩
      · rw [hports]
        simp
      · simpa using hback

end RecentPorts

/-- In the talk a flow's turns at the recent ports are answered from them, with `n` turns of other
flows in between. -/
inductive Remembers : Nat → RecentPorts → List Exchange → Prop
  | nil {r : RecentPorts} : Remembers 0 r []
  | turn {n port : Nat} {noted : Bool} {r : RecentPorts} {talk : List Exchange} :
      (r.remember port).2 = noted → Remembers n (r.remember port).1 talk →
        Remembers n r (⟨.remember port, noted⟩ :: talk)
  | other {n : Nat} {r : RecentPorts} {talk : List Exchange} (port : Nat) :
      Remembers n (r.remember port).1 talk → Remembers (n + 1) r talk
  | pass {n : Nat} {r : RecentPorts} {x : Exchange} {talk : List Exchange} :
      (∀ port, x.request ≠ .remember port) → Remembers n r talk → Remembers n r (x :: talk)

/-- The port is noted for the flow. -/
def noting (port : Nat) : Exchange := ⟨.remember port, true⟩

namespace Remembers

variable {n p q k : Nat} {r : RecentPorts} {talk before between after : List Exchange}

/-- From where a port is noted on, it is held. -/
theorem holds (h : Remembers n r (before ++ noting p :: after)) :
    ∃ m ≤ n, ∃ r' : RecentPorts, r'.Holds p 0 ∧ Remembers m r' after := by
  generalize htalk : before ++ noting p :: after = talk at h
  induction h generalizing before with
  | nil => simp at htalk
  | turn hnoted h ih =>
    cases before with
    | nil =>
      cases htalk
      exact ⟨_, Nat.le_refl _, _, RecentPorts.holds_noted ((RecentPorts.remember_iff _ p).1 hnoted), h⟩
    | cons x before =>
      obtain ⟨-, hrest⟩ := List.cons.inj htalk
      exact ih hrest
  | other port h ih =>
    obtain ⟨m, hle, hholds⟩ := ih htalk
    exact ⟨m, Nat.le_succ_of_le hle, hholds⟩
  | pass hx h ih =>
    cases before with
    | nil =>
      obtain ⟨rfl, -⟩ := List.cons.inj htalk
      exact absurd rfl (hx p)
    | cons x before =>
      obtain ⟨-, hrest⟩ := List.cons.inj htalk
      exact ih hrest

/-- While it is held, no other port of the flow's is the same. -/
theorem ne_of_holds (h : Remembers n r (between ++ noting q :: after)) (hp : r.Holds p k)
    (hroom : k + n < recentWindow) (hbetween : ∀ port, noting port ∉ between) : p ≠ q := by
  generalize htalk : between ++ noting q :: after = talk at h
  induction h generalizing between k with
  | nil => simp at htalk
  | @turn n port noted r talk hnoted h ih =>
    cases between with
    | nil =>
      cases htalk
      rintro rfl
      exact (RecentPorts.remember_iff r p).1 hnoted hp.mem
    | cons x between =>
      obtain ⟨rfl, hrest⟩ := List.cons.inj htalk
      cases noted with
      | true => exact absurd List.mem_cons_self (hbetween port)
      | false =>
        -- the port was known, and nothing is noted
        have hknown : port ∈ r.ports := by
          by_contra hnew
          rw [(RecentPorts.remember_iff r port).2 hnew] at hnoted
          cases hnoted
        rw [RecentPorts.remember_of_mem hknown] at ih
        exact ih hp hroom (fun port hport => hbetween port (List.mem_cons_of_mem _ hport)) hrest
  | other port h ih =>
    exact ih (hp.remember (by omega) port) (by omega) hbetween htalk
  | pass hx h ih =>
    cases between with
    | nil =>
      obtain ⟨rfl, -⟩ := List.cons.inj htalk
      exact absurd rfl (hx q)
    | cons x between =>
      obtain ⟨-, hrest⟩ := List.cons.inj htalk
      exact ih hp hroom (fun port hport => hbetween port (List.mem_cons_of_mem _ hport)) hrest

/-- Of two ports that are noted one after the other, the second is not the first. -/
theorem ne_of_noted (h : Remembers n r (before ++ noting p :: (between ++ noting q :: after)))
    (hn : n < recentWindow) (hbetween : ∀ port, noting port ∉ between) : p ≠ q := by
  obtain ⟨m, hle, r', hholds, hrest⟩ := h.holds
  exact hrest.ne_of_holds hholds (by omega) hbetween

end Remembers

variable {talk : List Exchange} {host : Ip} {socket : SocketAddr} {address : String}

/-- An allocation ends at the turn at which its port is noted, its first such turn. -/
theorem findFreeWithin_yields_ok {attempts : Nat}
    (h : (findFreeWithin host attempts).Yields talk (.ok socket)) :
    ∃ passed port, talk = passed ++ [⟨.bindAny host, .ok port⟩, noting port] ∧
      socket = addressOn host port ∧ ∀ other, noting other ∉ passed := by
  induction attempts generalizing talk with
  | zero => cases (Flow.yields_pure.1 h).2
  | succ attempts ih =>
    rw [findFreeWithin_succ] at h
    cases h with
    | ask answer h =>
      rcases answer with fault | port
      · cases h
      · cases h with
        | ask noted h =>
          cases noted with
          | true =>
            cases h
            exact ⟨[], port, rfl, rfl, by simp⟩
          | false =>
            obtain ⟨passed, found, rfl, hsocket, hpassed⟩ := ih h
            refine ⟨⟨.bindAny host, .ok port⟩ :: ⟨.remember port, false⟩ :: passed, found, rfl,
              hsocket, fun other hother => ?_⟩
            simp only [noting, List.mem_cons] at hother
            rcases hother with hbind | hturn | hother
            · cases hbind
            · cases hturn
            · exact hpassed other hother

/-- The configuration of the node, as it is read back, tells it to take these two. -/
def Configured (node : NewNode) (inlet listener : String) : Prop :=
  ∃ c i, NodeConfig.ofText node.config = .ok c ∧ c.inlet? = some i ∧ i.source = inlet ∧
    c.tcpListenerAddress = some listener

theorem SocketAddr.meets_iff {a b : SocketAddr} :
    a.meets b = true ↔ a.port = b.port ∧
      (a.ip = b.ip ∨ a.ip.isUnspecified = true ∨ b.ip.isUnspecified = true) := by
  simp [meets, or_assoc]

namespace Supervisor

variable {s : Supervisor} {spec : NodeSpec} {node : NewNode} {bridge : OpenBridge}

theorem Documents.configured {listener : String} (h : s.Documents spec node)
    (hlistener : spec.listenerAddress = some listener) :
    Configured node spec.inlet.source listener :=
  ⟨_, spec.inlet, h.ofText, Section.first?_lay _ _, rfl, hlistener⟩

theorem allocateAddress_yields_ok (h : s.allocateAddress.Yields talk (.ok address)) :
    ∃ passed port, talk = passed ++ [⟨.bindAny s.host, .ok port⟩, noting port] ∧
      address = (addressOn s.host port).text ∧ ∀ other, noting other ∉ passed := by
  unfold allocateAddress at h
  obtain ⟨first, rest, socket, rfl, hfirst, hrest⟩ := Flow.yields_bind_ok h fun _ => ⟨_, rfl⟩
  obtain ⟨rfl, haddress⟩ := Flow.yields_pure.1 hrest
  cases haddress
  obtain ⟨passed, port, rfl, rfl, hpassed⟩ := findFreeWithin_yields_ok hfirst
  exact ⟨passed, port, List.append_nil _, rfl, hpassed⟩

/-- On the producer side two ports are noted, one after the other. -/
theorem openOutput_ports {settings : OutputSettings}
    (h : (s.openOutput settings).Yields talk (.ok bridge)) :
    ∃ p q before between after, talk = before ++ noting p :: (between ++ noting q :: after) ∧
      (∀ port, noting port ∉ between) ∧
      Configured bridge.node.node (addressOn s.host p).text (addressOn s.host q).text := by
  obtain ⟨bootstrap, free, rest, node, -, rfl, hfree, hlaunch, hcreated⟩ := openOutput_parts h
  obtain ⟨free', rest, listener, rfl, hfree', hcreate⟩ := launch_yields_ok rfl hlaunch
  obtain ⟨passed, p, rfl, hinlet, -⟩ := allocateAddress_yields_ok hfree
  obtain ⟨passed', q, rfl, rfl, hpassed'⟩ := allocateAddress_yields_ok hfree'
  refine ⟨p, q, passed ++ [⟨.bindAny s.host, .ok p⟩],
    ⟨.makeClient [bridge.inletAddress], .ok ()⟩ :: (passed' ++ [⟨.bindAny s.host, .ok q⟩]), rest,
    ?_, ?_, ?_⟩
  · simp
  · intro port hport
    simp only [List.mem_cons, List.mem_append, List.not_mem_nil, or_false] at hport
    rcases hport with hclient | hport | hbind
    · cases hclient
    · exact hpassed' port hport
    · cases hbind
  · rw [hcreated, ← hinlet]
    exact (creates_of_create hcreate).documents.configured rfl

/-- A fresh address that was asked for was free when it was probed. -/
theorem probe_of_fresh {fresh : String}
    (h : (s.planListener (some address)).Within talk (.ok (.fresh fresh))) :
    ∃ lease, (probe address).Within talk (.ok lease) ∧ lease.wasFree = true := by
  obtain ⟨before, during, after, htalk, hplan⟩ := h
  cases (planListener_yields _).1 hplan with
  | free hprobe hfree => exact ⟨_, ⟨before, during, after, htalk, hprobe⟩, hfree⟩
  | taken _ _ htaken => cases htaken

/-- On the consumer side the listener is what was asked for, and was probed, and the inlet's port
was allocated. -/
theorem openInput_ports {settings : InputSettings}
    (h : (s.openInput settings).Yields talk (.ok bridge))
    (hcreated : bridge.node = .created bridge.node.node) :
    ∃ port listener, ⟨.bindAny s.host, .ok port⟩ ∈ talk ∧
      (probe settings.nodeAddress).Within talk (.ok ⟨listener, true⟩) ∧
      Configured bridge.node.node (addressOn s.host port).text settings.nodeAddress := by
  obtain ⟨bootstrap, consumer, producer, -, -, -, -, ⟨hmade, fresh, hplan⟩ | hfound, hdocuments⟩ :=
    openInput_yields_ok h
  · obtain ⟨before, free, after, htalk, hfree⟩ := hmade.allocated
    obtain ⟨passed, port, rfl, hinlet, -⟩ := allocateAddress_yields_ok hfree
    obtain ⟨lease, hprobe, hlease⟩ := probe_of_fresh hplan
    obtain ⟨listener, wasFree⟩ := lease
    obtain rfl : wasFree = true := hlease
    have hconfigured := hdocuments.configured rfl
    rw [inputSpec, hinlet] at hconfigured
    exact ⟨port, listener, by simp [htalk], hprobe, hconfigured⟩
  · rw [hfound.adopted] at hcreated
    cases hcreated

/-- The configuration of a node that is made for a bridge tells it to take two sockets. On the producer
side they are two, whatever ports the system hands out, if fewer than `recentWindow` turns of
others at the recent ports come in between. On the consumer side the listener is the socket that
was probed and found free, and the inlet's port is one that the system handed out: the two are
apart unless it handed out the port of that socket. -/
theorem inlet_apart (s : Supervisor) :
    (∀ r n settings talk bridge, Remembers n r talk → n < recentWindow →
      (s.openOutput settings).Yields talk (.ok bridge) →
      ∃ inlet listener : SocketAddr,
        Configured bridge.node.node inlet.text listener.text ∧ inlet.meets listener = false ∧
        sameSocket inlet.text listener.text = false) ∧
    ∀ settings talk bridge, (s.openInput settings).Yields talk (.ok bridge) →
      bridge.node = .created bridge.node.node →
      ∃ port listener, ⟨.bindAny s.host, .ok port⟩ ∈ talk ∧
        (probe settings.nodeAddress).Within talk (.ok ⟨listener, true⟩) ∧
        Configured bridge.node.node (addressOn s.host port).text settings.nodeAddress ∧
        ((addressOn s.host port).meets listener = true ↔ port = listener.port ∧
          (s.host = listener.ip ∨ s.host.isUnspecified = true ∨
            listener.ip.isUnspecified = true)) := by
  constructor
  · intro r n settings talk bridge htalk hn h
    obtain ⟨p, q, before, between, after, rfl, hbetween, hconfigured⟩ := openOutput_ports h
    have hports : (addressOn s.host p).port ≠ (addressOn s.host q).port :=
      htalk.ne_of_noted hn hbetween
    refine ⟨_, _, hconfigured, ?_, SocketAddr.not_same_of_port hports⟩
    simp [SocketAddr.meets, hports]
  · intro settings talk bridge h hcreated
    obtain ⟨port, listener, hport, hprobe, hconfigured⟩ := openInput_ports h hcreated
    exact ⟨port, listener, hport, hprobe, hconfigured, SocketAddr.meets_iff⟩

/-- The system names a port that is remembered once more, while another flow notes one too. -/
theorem remembers_repeated (brokers : List String) (config : String) (name : NodeName) :
    Remembers 1 {} [⟨.bindAny .loopback, .ok 40000⟩, noting 40000, ⟨.makeClient brokers, .ok ()⟩,
      ⟨.bindAny .loopback, .ok 40000⟩, ⟨.remember 40000, false⟩, ⟨.bindAny .loopback, .ok 40001⟩,
      noting 40001, ⟨.drawSuffix, (7 : UInt32)⟩, ⟨.prepare config, ()⟩, ⟨.spawn name, .ok ()⟩] :=
  .pass nofun <| .turn rfl <| .other 40002 <| .pass nofun <| .pass nofun <| .turn rfl <|
    .pass nofun <| .turn rfl <| .pass nofun <| .pass nofun <| .pass nofun .nil

theorem inlet_apart_repeated :
    (∃ talk bridge, Remembers 1 {} talk ∧ 1 < recentWindow ∧
      (plainSupervisor.openOutput ticketSettings).Yields talk (.ok bridge) ∧
      ∃ inlet listener : SocketAddr,
        Configured bridge.node.node inlet.text listener.text ∧ inlet.meets listener = false) ∧
    ∃ talk bridge, (plainSupervisor.openInput quotedSettings).Yields talk (.ok bridge) ∧
      bridge.node = .created bridge.node.node ∧
      ∃ port listener, ⟨.bindAny .loopback, .ok port⟩ ∈ talk ∧
        Configured bridge.node.node (addressOn .loopback port).text "127.0.0.1:4000" ∧
        ((addressOn .loopback port).meets listener = true → port = listener.port) := by
  have houtput : (plainSupervisor.openOutput ticketSettings).Yields _ (.ok _) :=
    .ask (r := .bindAny .loopback) (.ok 40000) <| .ask (r := .remember 40000) true <|
      .ask (r := .makeClient _) (.ok ()) <| .ask (r := .bindAny .loopback) (.ok 40000) <|
      .ask (r := .remember 40000) false <| .ask (r := .bindAny .loopback) (.ok 40001) <|
      .ask (r := .remember 40001) true <| .ask (r := .drawSuffix) (7 : UInt32) <|
      .ask (r := .prepare _) () <| .ask (r := .spawn _) (.ok ()) <| .done _
  have hfresh : (plainSupervisor.openFresh quotedSettings "broker:9092" "c" "p\"\\").Yields _
      (.ok ⟨.created _, "127.0.0.1:40000"⟩) :=
    .ask (r := .bindAny .loopback) (.ok 40000) <| .ask (r := .remember 40000) true <|
      .ask (r := .makeClient _) (.ok ()) <| .ask (r := .drawSuffix) (7 : UInt32) <|
      .ask (r := .prepare _) () <| .ask (r := .spawn _) (.ok ()) <| .done _
  have hinput := openInput_quoted plan_fresh hfresh
  obtain ⟨hout, hin⟩ := inlet_apart plainSupervisor
  obtain ⟨inlet, listener, hconfigured, hapart, -⟩ :=
    hout _ _ _ _ _ (remembers_repeated _ _ _) (by decide) houtput
  obtain ⟨port, probed, hport, -, hconfigured', hmeets⟩ := hin _ _ _ hinput rfl
  exact ⟨⟨_, _, remembers_repeated _ _ _, by decide, houtput, inlet, listener, hconfigured, hapart⟩,
    _, _, hinput, rfl, port, probed, hport, hconfigured', fun h => (hmeets.1 h).1⟩

theorem remembers_probed (brokers : List String) (config : String) (name : NodeName) :
    Remembers 0 {} [⟨.identity "consumer", .ok "c"⟩, ⟨.bind ⟨.loopback, 0, 4000⟩, .bound⟩,
      ⟨.bindAny .loopback, .ok 4000⟩, noting 4000, ⟨.makeClient brokers, .ok ()⟩,
      ⟨.drawSuffix, (7 : UInt32)⟩, ⟨.prepare config, ()⟩, ⟨.spawn name, .ok ()⟩] :=
  .pass nofun <| .pass nofun <| .pass nofun <| .turn rfl <| .pass nofun <| .pass nofun <|
    .pass nofun <| .pass nofun .nil

/-- The probe releases the port that was asked for, and the system hands it out for the inlet: the
node is told to take one socket twice. -/
theorem probed_port_taken_twice :
    ∃ talk bridge, Remembers 0 {} talk ∧
      (plainSupervisor.openInput quotedSettings).Yields talk (.ok bridge) ∧
      bridge.node = .created bridge.node.node ∧
      Configured bridge.node.node "127.0.0.1:4000" "127.0.0.1:4000" := by
  have hfresh : (plainSupervisor.openFresh quotedSettings "broker:9092" "c" "p\"\\").Yields _
      (.ok ⟨.created _, "127.0.0.1:4000"⟩) :=
    .ask (r := .bindAny .loopback) (.ok 4000) <| .ask (r := .remember 4000) true <|
      .ask (r := .makeClient _) (.ok ()) <| .ask (r := .drawSuffix) (7 : UInt32) <|
      .ask (r := .prepare _) () <| .ask (r := .spawn _) (.ok ()) <| .done _
  have hinput := openInput_quoted plan_fresh hfresh
  obtain ⟨_, _, _, -, -, -, -, -, hdocuments⟩ := openInput_yields_ok hinput
  exact ⟨_, _, remembers_probed _ _ _, hinput, rfl, hdocuments.configured rfl⟩

end Supervisor

end NodeWarden
