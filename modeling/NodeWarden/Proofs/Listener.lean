import NodeWarden.Proofs.Details
import NodeWarden.Proofs.Flow

/-! The plan for an address that was asked for. `Planned marker address talk result` says what
each course of the talk comes to: with an address that cannot be probed, with a free one, and, for
a taken one, with the first listed node that can be used or with none. -/

namespace NodeWarden

variable {marker address inletAddress : String} {d : NodeDetails}

/-- What the control plane says of a listed node. -/
abbrev Showing := NodeName × Except NodeError NodeDetails

namespace Showing

def exchange (shown : Showing) : Exchange := ⟨.details shown.1, shown.2⟩

def Serves (shown : Showing) (marker address inletAddress : String) : Prop :=
  ∃ d, shown.2 = .ok d ∧ d.Serves marker address inletAddress

/-- The node cannot be read, or it is of no use. -/
def PassedOver (shown : Showing) (marker address : String) : Prop :=
  ∀ inletAddress, ¬ shown.Serves marker address inletAddress

end Showing

/-- The listed nodes are looked at in turn, up to the first that can be used. -/
inductive Searched (marker address : String) (names : List NodeName) :
    List Exchange → Option ReusableNode → Prop
  | found (passed : List Showing) (shown : Showing) (later : List NodeName) (inletAddress : String)
      (hnames : names = passed.map Prod.fst ++ shown.1 :: later)
      (hpassed : ∀ p ∈ passed, p.PassedOver marker address)
      (hserves : shown.Serves marker address inletAddress) :
      Searched marker address names (passed.map Showing.exchange ++ [shown.exchange])
        (some ⟨shown.1, inletAddress⟩)
  | nothing (passed : List Showing) (hnames : names = passed.map Prod.fst)
      (hpassed : ∀ p ∈ passed, p.PassedOver marker address) :
      Searched marker address names (passed.map Showing.exchange) none

def searchResult (address : String) : Option ReusableNode → Except NodeError ReusableNode
  | some node => .ok node
  | none => .error (.notFound address)

variable {talk : List Exchange} {name : NodeName} {names : List NodeName}

theorem not_serves_error {e : NodeError} :
    ¬ Showing.Serves (name, .error e) marker address inletAddress := by
  rintro ⟨d, hd, -⟩
  cases hd

theorem serves_ok :
    Showing.Serves (name, .ok d) marker address inletAddress ↔
      reusableInlet? marker address d = some inletAddress := by
  rw [reusableInlet?_iff]
  constructor
  · rintro ⟨d', hd, hserves⟩
    cases hd
    exact hserves
  · exact fun hserves => ⟨d, rfl, hserves⟩

theorem passedOver_ok :
    Showing.PassedOver (name, .ok d) marker address ↔ reusableInlet? marker address d = none := by
  rw [Option.eq_none_iff_forall_ne_some]
  exact forall_congr' fun inletAddress => not_congr serves_ok

/-- One look: the node ends the search, or it is passed over. -/
theorem findAmong_cons {result : Except NodeError ReusableNode} :
    (findAmong marker address (name :: names)).Yields talk result ↔
      ∃ (shown : Showing) (rest : List Exchange), shown.1 = name ∧ talk = shown.exchange :: rest ∧
        ((∃ inletAddress, shown.Serves marker address inletAddress ∧ rest = [] ∧
            result = .ok ⟨name, inletAddress⟩) ∨
          shown.PassedOver marker address ∧
            (findAmong marker address names).Yields rest result) := by
  rw [findAmong, Flow.yields_request_bind]
  constructor
  · rintro ⟨answer, rest, rfl, hrest⟩
    refine ⟨(name, answer), rest, rfl, rfl, ?_⟩
    rcases answer with e | d
    · exact .inr ⟨fun _ => not_serves_error, hrest⟩
    · cases hinlet : reusableInlet? marker address d with
      | some inletAddress =>
        simp only [hinlet] at hrest
        obtain ⟨rfl, rfl⟩ := Flow.yields_pure.1 hrest
        exact .inl ⟨inletAddress, serves_ok.2 hinlet, rfl, rfl⟩
      | none =>
        simp only [hinlet] at hrest
        exact .inr ⟨passedOver_ok.2 hinlet, hrest⟩
  · rintro ⟨⟨_, answer⟩, rest, rfl, rfl, hrest⟩
    refine ⟨answer, rest, rfl, ?_⟩
    rcases answer with e | d
    · rcases hrest with ⟨_, hserves, -⟩ | ⟨-, hrest⟩
      · exact absurd hserves not_serves_error
      · exact hrest
    · rcases hrest with ⟨inletAddress, hserves, rfl, rfl⟩ | ⟨hpassed, hrest⟩
      · simp only [serves_ok.1 hserves]
        exact .done _
      · simp only [passedOver_ok.1 hpassed]
        exact hrest

theorem Searched.cons {shown : Showing} {node? : Option ReusableNode}
    (h : Searched marker address names talk node?) (hpassed : shown.PassedOver marker address) :
    Searched marker address (shown.1 :: names) (shown.exchange :: talk) node? := by
  cases h with
  | found passed other later inletAddress hnames hall hserves =>
    exact .found (shown :: passed) other later inletAddress (by rw [hnames]; rfl)
      (List.forall_mem_cons.2 ⟨hpassed, hall⟩) hserves
  | nothing passed hnames hall =>
    exact .nothing (shown :: passed) (by rw [hnames]; rfl) (List.forall_mem_cons.2 ⟨hpassed, hall⟩)

theorem findAmong_pass {result : Except NodeError ReusableNode} {passed : List Showing}
    (hpassed : ∀ p ∈ passed, p.PassedOver marker address)
    (h : (findAmong marker address names).Yields talk result) :
    (findAmong marker address (passed.map Prod.fst ++ names)).Yields
      (passed.map Showing.exchange ++ talk) result := by
  induction passed with
  | nil => exact h
  | cons p passed ih =>
    rw [List.forall_mem_cons] at hpassed
    exact findAmong_cons.2 ⟨p, _, rfl, rfl, .inr ⟨hpassed.1, ih hpassed.2⟩⟩

theorem findAmong_yields {result : Except NodeError ReusableNode} :
    (findAmong marker address names).Yields talk result ↔
      ∃ node?, Searched marker address names talk node? ∧ result = searchResult address node? := by
  constructor
  · intro h
    -- a node that is passed over goes in front of what the search of the others passed over
    induction names generalizing talk with
    | nil =>
      obtain ⟨rfl, rfl⟩ := Flow.yields_pure.1 h
      exact ⟨none, .nothing [] rfl (by simp), rfl⟩
    | cons name names ih =>
      obtain ⟨shown, rest, rfl, rfl, ⟨inletAddress, hserves, rfl, rfl⟩ | ⟨hpassed, hrest⟩⟩ :=
        findAmong_cons.1 h
      · exact ⟨some _, .found [] shown names inletAddress rfl (by simp) hserves, rfl⟩
      · obtain ⟨node?, hsearched, hresult⟩ := ih hrest
        exact ⟨node?, hsearched.cons hpassed, hresult⟩
  · rintro ⟨node?, hsearched, rfl⟩
    cases hsearched with
    | found passed shown later inletAddress hnames hpassed hserves =>
      rw [hnames]
      exact findAmong_pass hpassed
        (findAmong_cons.2 ⟨shown, [], rfl, rfl, .inl ⟨inletAddress, hserves, rfl, rfl⟩⟩)
    | nothing passed hnames hpassed =>
      have hend : (findAmong marker address []).Yields [] (searchResult address none) :=
        Flow.yields_pure.2 ⟨rfl, rfl⟩
      rw [hnames, ← List.append_nil (passed.map Prod.fst),
        ← List.append_nil (passed.map Showing.exchange)]
      exact findAmong_pass hpassed hend

theorem findByListener_yields {result : Except NodeError ReusableNode} :
    (findByListener marker address).Yields talk result ↔
      (∃ e, talk = [⟨.list, .error e⟩] ∧
        result = .error (.reuseLookupFailed address e.message)) ∨
      ∃ names looks node?, talk = ⟨.list, .ok names⟩ :: looks ∧
        Searched marker address names looks node? ∧ result = searchResult address node? := by
  rw [findByListener, Flow.yields_request_bind]
  constructor
  · rintro ⟨answer, looks, rfl, hlooks⟩
    rcases answer with e | names
    · obtain ⟨rfl, rfl⟩ := Flow.yields_pure.1 hlooks
      exact .inl ⟨e, rfl, rfl⟩
    · obtain ⟨node?, hsearched, hresult⟩ := findAmong_yields.1 hlooks
      exact .inr ⟨names, looks, node?, rfl, hsearched, hresult⟩
  · rintro (⟨e, rfl, rfl⟩ | ⟨names, looks, node?, rfl, hsearched, hresult⟩)
    · exact ⟨.error e, [], rfl, .done _⟩
    · exact ⟨.ok names, looks, rfl, findAmong_yields.2 ⟨node?, hsearched, hresult⟩⟩

/-- What the plan for a taken address comes to, with all that the control plane is asked. -/
inductive PlannedTaken (marker address : String) :
    List Exchange → Except NodeError ListenerPlan → Prop
  | unlisted (e : NodeError) :
      PlannedTaken marker address [⟨.list, .error e⟩]
        (.error (.reuseLookupFailed address e.message))
  | reused {names : List NodeName} {looks : List Exchange} {node : ReusableNode}
      (h : Searched marker address names looks (some node)) :
      PlannedTaken marker address (⟨.list, .ok names⟩ :: looks) (.ok (.reuse node))
  | inUse {names : List NodeName} {looks : List Exchange}
      (h : Searched marker address names looks none) :
      PlannedTaken marker address (⟨.list, .ok names⟩ :: looks) (.error (.addressInUse address))

variable {result : Except NodeError ListenerPlan}

theorem planTaken_yields :
    (planTaken marker address).Yields talk result ↔ PlannedTaken marker address talk result := by
  rw [planTaken, Flow.yields_bind]
  constructor
  · rintro ⟨first, rest, found, rfl, hfound, hrest⟩
    rcases findByListener_yields.1 hfound with ⟨e, rfl, rfl⟩ |
      ⟨names, looks, node?, rfl, hsearched, rfl⟩
    · obtain ⟨rfl, rfl⟩ := Flow.yields_pure.1 hrest
      exact .unlisted e
    · rcases node? with _ | node
      · obtain ⟨rfl, rfl⟩ := Flow.yields_pure.1 hrest
        rw [List.append_nil]
        exact .inUse hsearched
      · obtain ⟨rfl, rfl⟩ := Flow.yields_pure.1 hrest
        rw [List.append_nil]
        exact .reused hsearched
  · intro h
    refine ⟨talk, [], ?_⟩
    cases h with
    | unlisted e =>
      exact ⟨_, rfl, findByListener_yields.2 (.inl ⟨e, rfl, rfl⟩), .done _⟩
    | reused h =>
      exact ⟨_, (List.append_nil _).symm,
        findByListener_yields.2 (.inr ⟨_, _, _, rfl, h, rfl⟩), .done _⟩
    | inUse h =>
      exact ⟨_, (List.append_nil _).symm,
        findByListener_yields.2 (.inr ⟨_, _, _, rfl, h, rfl⟩), .done _⟩

/-- What the plan comes to, with all that is asked for it. -/
inductive Planned (marker address : String) :
    List Exchange → Except NodeError ListenerPlan → Prop
  | unprobed {asked : List Exchange} {e : AddressError}
      (hprobe : (probe address).Yields asked (.error e)) :
      Planned marker address asked (.error (.allocationFailed e))
  | free {asked : List Exchange} {lease : Lease}
      (hprobe : (probe address).Yields asked (.ok lease)) (hfree : lease.wasFree = true) :
      Planned marker address asked (.ok (.fresh address))
  | taken {asked rest : List Exchange} {lease : Lease} {result : Except NodeError ListenerPlan}
      (hprobe : (probe address).Yields asked (.ok lease)) (htaken : lease.wasFree = false)
      (h : PlannedTaken marker address rest result) :
      Planned marker address (asked ++ rest) result

theorem planListener_yields (host : Ip) :
    (planListener host marker (some address)).Yields talk result ↔
      Planned marker address talk result := by
  rw [planListener, Flow.yields_bind]
  constructor
  · rintro ⟨asked, rest, outcome, rfl, hprobe, hrest⟩
    rcases outcome with e | lease
    · obtain ⟨rfl, rfl⟩ := Flow.yields_pure.1 hrest
      rw [List.append_nil]
      exact .unprobed hprobe
    · cases hfree : lease.wasFree with
      | true =>
        simp only [hfree] at hrest
        obtain ⟨rfl, rfl⟩ := Flow.yields_pure.1 hrest
        rw [List.append_nil]
        exact .free hprobe hfree
      | false =>
        simp only [hfree] at hrest
        exact .taken hprobe hfree (planTaken_yields.1 hrest)
  · intro h
    cases h with
    | unprobed hprobe => exact ⟨talk, [], _, (List.append_nil _).symm, hprobe, .done _⟩
    | free hprobe hfree =>
      refine ⟨talk, [], _, (List.append_nil _).symm, hprobe, ?_⟩
      simp only [hfree]
      exact .done _
    | taken hprobe htaken h =>
      refine ⟨_, _, _, rfl, hprobe, ?_⟩
      simp only [htaken]
      exact planTaken_yields.2 h

section

variable {kind : Request → Bool}

theorem resolveSocket_avoids (hresolve : ∀ host port, kind (.resolve host port) = false) :
    (resolveSocket address).Avoids kind := by
  unfold resolveSocket
  split
  · exact Flow.avoids_pure
  · split
    · exact Flow.avoids_request (hresolve _ _)
    · exact Flow.avoids_pure

theorem probe_avoids (hresolve : ∀ host port, kind (.resolve host port) = false)
    (hbind : ∀ socket, kind (.bind socket) = false) : (probe address).Avoids kind := by
  unfold probe
  refine Flow.avoids_bind (resolveSocket_avoids hresolve) fun socket? => ?_
  cases socket? with
  | none => exact Flow.avoids_pure
  | some socket =>
    refine Flow.avoids_bind (Flow.avoids_request (hbind socket)) fun outcome => ?_
    cases outcome <;> exact Flow.avoids_pure

end

theorem probe_silent : (probe address).Silent := probe_avoids (fun _ _ => rfl) fun _ => rfl

theorem notFound_not_planned (h : Planned marker address talk result) (other : String) :
    result ≠ .error (.notFound other) := by
  rintro rfl
  cases h with
  | taken _ _ h => cases h

/-- The plan comes to just what the probe and the answers about the listed nodes call for, to
nothing else with the same answers, and it comes to that in every world that answers. Nothing is
asked of the control plane before a probe has found the address taken. -/
theorem listener_planned (host : Ip) (marker address : String) :
    (∀ talk result, (planListener host marker (some address)).Yields talk result ↔
      Planned marker address talk result) ∧
    (∀ talk result result', Planned marker address talk result →
      Planned marker address talk result' → result = result') ∧
    (∀ talk result, Planned marker address talk result →
      ∀ other, result ≠ .error (.notFound other)) ∧
    (probe address).Silent ∧
    ∀ {σ : Type} (handle : (r : Request) → StateM σ r.Answer) (s : σ), ∃ talk,
      Planned marker address talk
        (((planListener host marker (some address)).run handle).run s).1 ∧
      Flow.Served handle s talk
        (((planListener host marker (some address)).run handle).run s).2 := by
  have hplanned : ∀ talk result, (planListener host marker (some address)).Yields talk result ↔
      Planned marker address talk result := fun _ _ => planListener_yields host
  refine ⟨hplanned, ?_, fun _ _ => notFound_not_planned, probe_silent, ?_⟩
  · intro talk result result' h h'
    exact ((hplanned _ _).2 h).unique ((hplanned _ _).2 h')
  · intro σ handle s
    obtain ⟨talk, hyields, hserved⟩ :=
      Flow.yields_run handle (planListener host marker (some address)) s
    exact ⟨talk, (hplanned _ _).1 hyields, hserved⟩

/-- On a taken address: a node that cannot be read, one that is stopping, one whose connection
there is of its own making, and one with no inlet that leads to the brokers. -/
def crowdedShowings : List Showing :=
  [(⟨"n1", by decide⟩, .error (.notFound "n1")),
    (⟨"n2", by decide⟩, .ok { status := some "stopping" }),
    (⟨"n3", by decide⟩, .ok {
      status := some "up"
      transports := [⟨some "127.0.0.1:4000", some "Outgoing"⟩]
      inlets := [⟨some "127.0.0.1:5001", some "/secure/api"⟩] }),
    (⟨"n4", by decide⟩, .ok {
      status := some "up"
      transports := [⟨some "127.0.0.1:4000", none⟩]
      inlets := [⟨some "127.0.0.1:5002", some "/secure/other"⟩, ⟨none, some "/secure/api"⟩] })]

/-- The first that can be used, for the second of its inlets. -/
def crowdedShown : Showing :=
  (⟨"n5", by decide⟩, .ok {
    status := some " Running "
    transports := [⟨some "127.0.0.1:9000", none⟩, ⟨some "0.0.0.0:4000", some "listen"⟩]
    inlets := [⟨none, some "/secure/api"⟩, ⟨some "127.0.0.1:5003", some "/secure/api/7"⟩,
      ⟨some "127.0.0.1:5004", some "/secure/api"⟩] })

theorem probe_taken :
    (probe "127.0.0.1:4000").Yields [⟨.bind ⟨.loopback, 0, 4000⟩, .inUse⟩]
      (.ok ⟨⟨.loopback, 0, 4000⟩, false⟩) := by
  have hparse : SocketAddr.parse? "127.0.0.1:4000" = some ⟨.loopback, 0, 4000⟩ := by decide +kernel
  unfold probe resolveSocket
  rw [hparse]
  exact Flow.Yields.ask (r := .bind _) BindOutcome.inUse (.done _)

theorem listener_planned_crowded :
    (planListener .loopback "/secure/api" (some "127.0.0.1:4000")).Yields
      (⟨.bind ⟨.loopback, 0, 4000⟩, .inUse⟩ ::
        ⟨.list, .ok (crowdedShowings.map Prod.fst ++ crowdedShown.1 :: [⟨"n6", by decide⟩])⟩ ::
        (crowdedShowings.map Showing.exchange ++ [crowdedShown.exchange]))
      (.ok (.reuse ⟨⟨"n5", by decide⟩, "127.0.0.1:5003"⟩)) := by
  have hserves : crowdedShown.Serves "/secure/api" "127.0.0.1:4000" "127.0.0.1:5003" :=
    serves_ok.2 (by decide +kernel)
  have hpassed : ∀ p ∈ crowdedShowings, p.PassedOver "/secure/api" "127.0.0.1:4000" := by
    intro p hp
    simp only [crowdedShowings, List.mem_cons, List.not_mem_nil, or_false] at hp
    rcases hp with rfl | rfl | rfl | rfl
    · exact fun _ => not_serves_error
    all_goals exact passedOver_ok.2 (by decide +kernel)
  exact ((listener_planned .loopback _ _).1 _ _).2
    (.taken probe_taken rfl (.reused (.found _ _ _ _ rfl hpassed hserves)))

end NodeWarden
