import NodeWarden.Proofs.Listener
import NodeWarden.Proofs.Socket

/-! Who holds a taken address. The probe looks the text of an address up, as a name if need be;
the search among the listed nodes compares texts. For a text that is a socket address itself the two
agree: a node that holds the socket is found. A name is only known to a node that says the
very same name. -/

namespace NodeWarden

variable {marker address inletAddress text : String} {d : NodeDetails} {a socket : SocketAddr}
  {asked : List Exchange} {showings : List Showing}

theorem sameSocket_of_parse (hsocket : SocketAddr.parse? text = some socket)
    (haddress : SocketAddr.parse? (trim address) = some a) (hmeets : a.meets socket = true) :
    sameSocket text address = true := by
  unfold sameSocket
  simp only [SocketAddr.trim_of_parse? hsocket, hsocket, haddress]
  rw [SocketAddr.meets_comm, hmeets]

theorem sameSocket_name (haddress : SocketAddr.parse? (trim address) = none) :
    sameSocket text address = true ↔ trim text = trim address := by
  unfold sameSocket
  cases SocketAddr.parse? (trim text) <;> simp only [haddress, beq_iff_eq]

theorem inlet_exists : (∃ inletAddress, ∃ passed i later, d.inlets = passed ++ i :: later ∧
    i.LeadsTo marker inletAddress ∧ ∀ p ∈ passed, ∀ other, ¬ p.LeadsTo marker other) ↔
      ∃ i ∈ d.inlets, ∃ inletAddress, i.LeadsTo marker inletAddress := by
  constructor
  · rintro ⟨inletAddress, passed, i, later, hinlets, hleads, -⟩
    exact ⟨i, by rw [hinlets]; simp, inletAddress, hleads⟩
  · rintro ⟨i, hi, inletAddress, hleads⟩
    have hleading : i.leading? marker = some (inletAddress, i) := leading?_eq_some.2 ⟨hleads, rfl⟩
    have hsome : (d.inlets.findSome? (·.leading? marker)).isSome :=
      List.findSome?_isSome_iff.2 ⟨i, hi, by rw [hleading]; rfl⟩
    obtain ⟨found, hfound⟩ := Option.isSome_iff_exists.1 hsome
    exact ⟨found.1, inletRoutedTo_iff.1 (by rw [inletRoutedTo_eq, hfound]; rfl)⟩

/-- The node can be read, is up, has an inlet that leads to the brokers, and accepts connections at
an address whose text is as said. -/
def Showing.Offers (shown : Showing) (marker : String) (said : String → Prop) : Prop :=
  ∃ d, shown.2 = .ok d ∧ d.isRunning = true ∧
    (∃ i ∈ d.inlets, ∃ inletAddress, i.LeadsTo marker inletAddress) ∧
    ∃ t ∈ d.transports, t.Incoming ∧ ∃ text, t.socketAddress = some text ∧ said text

theorem Showing.Offers.imp {shown : Showing} {said said' : String → Prop}
    (h : shown.Offers marker said) (himp : ∀ text, said text → said' text) :
    shown.Offers marker said' := by
  obtain ⟨d, hd, hup, hinlet, t, ht, hincoming, text, htext, hsaid⟩ := h
  exact ⟨d, hd, hup, hinlet, t, ht, hincoming, text, htext, himp text hsaid⟩

theorem offers_iff {shown : Showing} :
    shown.Offers marker (fun text => sameSocket text address = true) ↔
      ∃ inletAddress, shown.Serves marker address inletAddress := by
  constructor
  · rintro ⟨d, hd, hup, hinlet, hlistens⟩
    obtain ⟨inletAddress, hinlet⟩ := inlet_exists.2 hinlet
    exact ⟨inletAddress, d, hd, isRunning_iff.1 hup, hlistens, hinlet⟩
  · rintro ⟨inletAddress, d, hd, hup, hlistens, hinlet⟩
    exact ⟨d, hd, isRunning_iff.2 hup, inlet_exists.1 ⟨inletAddress, hinlet⟩, hlistens⟩

/-- The search of the listed nodes takes the first that can be used, if there is one. -/
theorem searched_showings (marker address : String) (showings : List Showing) :
    ∃ looks node?, looks <+: showings.map Showing.exchange ∧
      Searched marker address (showings.map Prod.fst) looks node? ∧
      (∀ node, node? = some node → ∃ shown ∈ showings, shown.1 = node.name ∧
        shown.Serves marker address node.inletAddress) ∧
      (node? = none → ∀ shown ∈ showings, shown.PassedOver marker address) := by
  induction showings with
  | nil => exact ⟨[], none, List.prefix_refl _, .nothing [] rfl (by simp), nofun, by simp⟩
  | cons shown showings ih =>
    by_cases hserves : ∃ inletAddress, shown.Serves marker address inletAddress
    · obtain ⟨inletAddress, hserves⟩ := hserves
      refine ⟨[shown.exchange], some ⟨shown.1, inletAddress⟩, ⟨_, rfl⟩,
        .found [] shown _ inletAddress rfl (by simp) hserves, ?_, nofun⟩
      rintro node hnode
      cases hnode
      exact ⟨shown, List.mem_cons_self, rfl, hserves⟩
    · have hpassed : shown.PassedOver marker address := not_exists.1 hserves
      obtain ⟨looks, node?, hprefix, hsearched, hsome, hnone⟩ := ih
      refine ⟨shown.exchange :: looks, node?, List.cons_prefix_cons.2 ⟨rfl, hprefix⟩,
        hsearched.cons hpassed, ?_, ?_⟩
      · intro node hnode
        obtain ⟨other, hother, hserving⟩ := hsome node hnode
        exact ⟨other, List.mem_cons_of_mem _ hother, hserving⟩
      · intro hnode
        exact List.forall_mem_cons.2 ⟨hpassed, hnone hnode⟩

/-- The probe, the list, and what there is to be heard of every listed node. -/
def consulted (asked : List Exchange) (showings : List Showing) : List Exchange :=
  asked ++ ⟨.list, .ok (showings.map Prod.fst)⟩ :: showings.map Showing.exchange

/-- One of the nodes is used, by an inlet of its own. -/
def Reuses (marker address : String) (showings : List Showing)
    (result : Except NodeError ListenerPlan) : Prop :=
  ∃ shown ∈ showings, ∃ inletAddress, shown.Serves marker address inletAddress ∧
    result = .ok (.reuse ⟨shown.1, inletAddress⟩)

section

variable (host : Ip) (hprobe : (probe address).Yields asked (.ok ⟨socket, false⟩))

include hprobe

theorem settles_searched {looks : List Exchange} {result : Except NodeError ListenerPlan}
    {P : Except NodeError ListenerPlan → Prop} (hlooks : looks <+: showings.map Showing.exchange)
    (h : PlannedTaken marker address (⟨.list, .ok (showings.map Prod.fst)⟩ :: looks) result)
    (hresult : P result) :
    (planListener host marker (some address)).Settles (consulted asked showings) P := by
  have hyields := (planListener_yields host).2 (.taken hprobe rfl h)
  exact hyields.settles
    ((List.prefix_append_right_inj _).2 (List.cons_prefix_cons.2 ⟨rfl, hlooks⟩)) hresult

/-- The plan uses one of the nodes if any of them can be used. -/
theorem settles_reuses (hserves : ∃ shown ∈ showings,
      shown.Offers marker fun text => sameSocket text address = true) :
    (planListener host marker (some address)).Settles (consulted asked showings)
      (Reuses marker address showings) := by
  obtain ⟨shown, hshown, hoffers⟩ := hserves
  obtain ⟨inletAddress, hserving⟩ := offers_iff.1 hoffers
  obtain ⟨looks, node?, hlooks, hsearched, hsome, hnone⟩ :=
    searched_showings marker address showings
  cases node? with
  | none => exact absurd hserving (hnone rfl shown hshown inletAddress)
  | some node =>
    obtain ⟨other, hother, hname, hserves⟩ := hsome node rfl
    exact settles_searched host hprobe hlooks (.reused hsearched)
      ⟨other, hother, node.inletAddress, hserves, by rw [hname]⟩

theorem settles_inUse (hnone : ∀ shown ∈ showings,
      ¬ shown.Offers marker fun text => sameSocket text address = true) :
    (planListener host marker (some address)).Settles (consulted asked showings)
      (· = .error (.addressInUse address)) := by
  obtain ⟨looks, node?, hlooks, hsearched, hsome, -⟩ := searched_showings marker address showings
  cases node? with
  | none => exact settles_searched host hprobe hlooks (.inUse hsearched) rfl
  | some node =>
    obtain ⟨shown, hshown, -, hserves⟩ := hsome node rfl
    exact absurd (offers_iff.2 ⟨_, hserves⟩) (hnone shown hshown)

/-- A socket address is not looked up. -/
theorem socket_of_probe (hparse : SocketAddr.parse? address = some a) : a = socket := by
  unfold probe resolveSocket at hprobe
  simp only [hparse] at hprobe
  obtain ⟨first, rest, socket?, rfl, hfirst, hrest⟩ := Flow.yields_bind.1 hprobe
  obtain ⟨-, rfl⟩ := Flow.yields_pure.1 hfirst
  obtain ⟨outcome, last, rfl, hlast⟩ := Flow.yields_request_bind.1 hrest
  cases outcome <;> cases (Flow.yields_pure.1 hlast).2 <;> rfl

/-- An address that a probe finds taken, with all that is heard of the listed nodes. If the address
is a socket address itself, a node that holds the socket is enough for one to be used; so it is if
the address is one but for the blanks around it, as long as the socket it was looked up to is
one that it can mean. A name is not looked up again: one of the nodes is used if one says the
very name, and otherwise the address is in use, whatever socket the nodes hold. -/
theorem taken_reused :
    ((SocketAddr.parse? address).isSome →
      (∃ shown ∈ showings, shown.Offers marker (SocketAddr.parse? · = some socket)) →
        (planListener host marker (some address)).Settles (consulted asked showings)
          (Reuses marker address showings)) ∧
    (∀ a, SocketAddr.parse? (trim address) = some a → a.meets socket = true →
      (∃ shown ∈ showings, shown.Offers marker (SocketAddr.parse? · = some socket)) →
        (planListener host marker (some address)).Settles (consulted asked showings)
          (Reuses marker address showings)) ∧
    (SocketAddr.parse? (trim address) = none →
      ((∃ shown ∈ showings, shown.Offers marker (trim · = trim address)) →
        (planListener host marker (some address)).Settles (consulted asked showings)
          (Reuses marker address showings)) ∧
      ((∀ shown ∈ showings, ¬ shown.Offers marker (trim · = trim address)) →
        (planListener host marker (some address)).Settles (consulted asked showings)
          (· = .error (.addressInUse address)))) := by
  have hmeeting : ∀ a, SocketAddr.parse? (trim address) = some a → a.meets socket = true →
      (∃ shown ∈ showings, shown.Offers marker (SocketAddr.parse? · = some socket)) →
        (planListener host marker (some address)).Settles (consulted asked showings)
          (Reuses marker address showings) := by
    rintro a haddress hmeets ⟨shown, hshown, hoffers⟩
    exact settles_reuses host hprobe ⟨shown, hshown, hoffers.imp fun text htext =>
      sameSocket_of_parse htext haddress hmeets⟩
  refine ⟨?_, hmeeting, fun hname => ⟨?_, ?_⟩⟩
  · intro hliteral
    obtain ⟨a, haddress⟩ := Option.isSome_iff_exists.1 hliteral
    have hsame := socket_of_probe hprobe haddress
    refine hmeeting a ?_ (by rw [hsame, SocketAddr.meets_self])
    rw [SocketAddr.trim_of_parse? haddress, haddress]
  · rintro ⟨shown, hshown, hoffers⟩
    exact settles_reuses host hprobe ⟨shown, hshown, hoffers.imp fun text =>
      (sameSocket_name hname).2⟩
  · intro hnone
    refine settles_inUse host hprobe fun shown hshown hoffers => hnone shown hshown ?_
    exact hoffers.imp fun text => (sameSocket_name hname).1

end

/-- A node that is up, leads to the brokers and listens at the address whose text is given. -/
def upShown (text : String) : Showing :=
  (⟨"up", by decide⟩, .ok {
    status := some "running"
    transports := [⟨some text, some "listen"⟩]
    inlets := [⟨some "127.0.0.1:5001", some "/secure/api"⟩] })

theorem upShown_offers {said : String → Prop} (h : said text) :
    (upShown text).Offers "/secure/api" said := by
  have hup : statusMeansRunning "running" = true := by decide +kernel
  refine ⟨_, rfl, hup, ⟨_, List.mem_cons_self, _, rfl, _, rfl, List.infix_refl _⟩, _,
    List.mem_cons_self, ?_, text, rfl, h⟩
  rintro mode hmode
  cases hmode
  decide

/-- A name for the loopback address, as the system looks it up. -/
def nameAsked : List Exchange :=
  [⟨.resolve "127.1" 4000, some ⟨.loopback, 0, 4000⟩⟩, ⟨.bind ⟨.loopback, 0, 4000⟩, .inUse⟩]

theorem probe_name :
    (probe "127.1:4000").Yields nameAsked (.ok ⟨⟨.loopback, 0, 4000⟩, false⟩) := by
  have hparse : SocketAddr.parse? "127.1:4000" = none := by decide +kernel
  have hsplit : splitHostPort "127.1:4000" = some ("127.1", 4000) := by decide +kernel
  unfold probe resolveSocket
  rw [hparse]
  simp only [hsplit]
  exact Flow.Yields.ask (r := .resolve _ _) (some _) <| .ask (r := .bind _) BindOutcome.inUse <|
    .done _

/-- The name is taken, and a node holds the very socket that it was looked up to, but the plan finds
the address in use. -/
theorem taken_name_in_use :
    (probe "127.1:4000").Yields nameAsked (.ok ⟨⟨.loopback, 0, 4000⟩, false⟩) ∧
      (upShown "127.0.0.1:4000").Offers "/secure/api"
        (SocketAddr.parse? · = some ⟨.loopback, 0, 4000⟩) ∧
      (planListener .loopback "/secure/api" (some "127.1:4000")).Yields
        (consulted nameAsked [upShown "127.0.0.1:4000"])
        (.error (.addressInUse "127.1:4000")) := by
  refine ⟨probe_name, upShown_offers (by decide +kernel), ?_⟩
  have hpassed : (upShown "127.0.0.1:4000").PassedOver "/secure/api" "127.1:4000" :=
    passedOver_ok.2 (by decide +kernel)
  exact (planListener_yields _).2
    (.taken probe_name rfl (.inUse (.nothing [_] rfl (by simpa using hpassed))))

theorem taken_reused_mixed :
    (planListener .loopback "/secure/api" (some "127.0.0.1:4000")).Settles
      (consulted [⟨.bind ⟨.loopback, 0, 4000⟩, .inUse⟩]
        [(⟨"n0", by decide⟩, .error (.notFound "n0")), upShown "127.0.0.1:4000"])
      (Reuses "/secure/api" "127.0.0.1:4000"
        [(⟨"n0", by decide⟩, .error (.notFound "n0")), upShown "127.0.0.1:4000"]) ∧
    (planListener .loopback "/secure/api" (some "127.1:4000")).Settles
      (consulted nameAsked [upShown " 127.1:4000"])
      (Reuses "/secure/api" "127.1:4000" [upShown " 127.1:4000"]) := by
  constructor
  · exact (taken_reused .loopback probe_taken).1 (by decide +kernel)
      ⟨_, List.mem_cons_of_mem _ List.mem_cons_self, upShown_offers (by decide +kernel)⟩
  · exact ((taken_reused .loopback probe_name).2.2 (by decide +kernel)).1
      ⟨_, List.mem_cons_self, upShown_offers (by decide +kernel)⟩

end NodeWarden
