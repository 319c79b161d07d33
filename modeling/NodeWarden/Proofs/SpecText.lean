import Mathlib.Logic.Relation
import NodeWarden.Proofs.Config
import NodeWarden.Proofs.Json.Members

/-! Specs as people write them. A spec that was written is read again, and a document that is read
may be edited: its members put in another order, unknown ones added, and those that say what is
said by leaving them out left out. -/

namespace NodeWarden

/-! What is written is read. -/

theorem defaulted_text (fallback s : String) :
    defaulted fallback Json.text? (some (Doc.text s).toJson) = some s :=
  RawText.text?_ofChars s

theorem defaulted_flag (fallback b : Bool) :
    defaulted fallback Json.flag? (some (Doc.flag b).toJson) = some b := rfl

theorem Inlet.ofSpecJson?_toSpecDoc (i : Inlet) : ofSpecJson? i.toSpecDoc.toJson = some i := by
  have hrecord : i.toSpecDoc.toJson.record? inletKeys = some _ := record?_written (by simp)
  simp only [List.map_cons, List.map_nil, Option.map_some] at hrecord
  rw [ofSpecJson?, hrecord]
  simp only [required_text, defaulted_text, defaulted_flag, optional_text, optional_predicate]
  rfl

theorem Outlet.ofSpecJson?_toSpecDoc (o : Outlet) : ofSpecJson? o.toSpecDoc.toJson = some o := by
  have hrecord : o.toSpecDoc.toJson.record? outletKeys = some _ := record?_written (by simp)
  simp only [List.map_cons, List.map_nil, Option.map_some] at hrecord
  rw [ofSpecJson?, hrecord]
  simp only [required_text, defaulted_flag, optional_predicate]
  rfl

theorem NodeSpec.ofJson?_toDoc (s : NodeSpec) : ofJson? s.toDoc.toJson = some s := by
  have hrecord : s.toDoc.toJson.record? specKeys = some _ := record?_written (by simp)
  simp only [List.map_cons, List.map_nil, Option.map_some] at hrecord
  rw [ofJson?, hrecord]
  simp only [optional_text, required, Inlet.ofSpecJson?_toSpecDoc, Outlet.ofSpecJson?_toSpecDoc]
  rfl

/-! What a field has when it is left out. -/

def SpecUsual (name : String) (value : Json) : Prop :=
  name ∈ ["identity", "listener_address", "ticket", "relay"] ∧ value = .null

def InletUsual (name : String) (value : Json) : Prop :=
  name = "to" ∧ value.text? = some defaultRoute ∨
    name = "avoid_publishing" ∧ value = .flag false ∨
    name ∈ ["consumer", "allow_consumer", "allow_producer", "allow"] ∧ value = .null

def OutletUsual (name : String) (value : Json) : Prop :=
  name = "tls" ∧ value = .flag false ∨ name = "allow" ∧ value = .null

/-- An edit of a spec that is an object, of its own members or of those of its inlet or outlet. -/
inductive SpecEdit : List (RawText × Json) → List (RawText × Json) → Prop
  | own {members members' : List (RawText × Json)} :
      MemberEdit specKeys.flatten SpecUsual members members' → SpecEdit members members'
  | inlet {before after inner inner' : List (RawText × Json)} {key : RawText} :
      key.text? = some "inlet" → MemberEdit inletKeys.flatten InletUsual inner inner' →
      SpecEdit (before ++ (key, .object inner) :: after) (before ++ (key, .object inner') :: after)
  | outlet {before after inner inner' : List (RawText × Json)} {key : RawText} :
      key.text? = some "outlet" → MemberEdit outletKeys.flatten OutletUsual inner inner' →
      SpecEdit (before ++ (key, .object inner) :: after) (before ++ (key, .object inner') :: after)

variable {members members' : List (RawText × Json)}

namespace Inlet

variable {i : Inlet}

theorem ofSpecJson?_object_iff : ofSpecJson? (.object members) = some i ↔
    HasTextKeys members ∧
      Gives members ["from"] (required Json.text?) i.source ∧
      Gives members ["to"] (defaulted defaultRoute Json.text?) i.route ∧
      Gives members ["avoid_publishing"] (defaulted false Json.flag?) i.avoidPublishing ∧
      Gives members ["consumer"] (optional Json.text?) i.consumer ∧
      Gives members ["allow_consumer"] (optional Json.predicate?) i.allowConsumer ∧
      Gives members ["allow_producer"] (optional Json.predicate?) i.allowProducer ∧
      Gives members ["allow"] (optional Json.predicate?) i.allow := by
  constructor
  · intro h
    rw [ofSpecJson?] at h
    split at h
    · rename_i source route avoid consumer allowConsumer allowProducer allow hrecord
      obtain ⟨_, hs, h⟩ := Option.bind_eq_some_iff.1 h
      obtain ⟨_, hr, h⟩ := Option.bind_eq_some_iff.1 h
      obtain ⟨_, ha, h⟩ := Option.bind_eq_some_iff.1 h
      obtain ⟨_, hc, h⟩ := Option.bind_eq_some_iff.1 h
      obtain ⟨_, hac, h⟩ := Option.bind_eq_some_iff.1 h
      obtain ⟨_, hap, h⟩ := Option.bind_eq_some_iff.1 h
      obtain ⟨_, hal, h⟩ := Option.bind_eq_some_iff.1 h
      cases h
      simp only [record?_object_iff, inletKeys, List.forall₂_cons, List.forall₂_nil_right_iff,
        and_true] at hrecord
      obtain ⟨hkeys, hsource, hroute, havoid, hconsumer, hallowConsumer, hallowProducer, hallow⟩ :=
        hrecord
      exact ⟨hkeys, ⟨_, hsource, hs⟩, ⟨_, hroute, hr⟩, ⟨_, havoid, ha⟩, ⟨_, hconsumer, hc⟩,
        ⟨_, hallowConsumer, hac⟩, ⟨_, hallowProducer, hap⟩, _, hallow, hal⟩
    · cases h
  · rintro ⟨hkeys, ⟨source, hsource, hs⟩, ⟨route, hroute, hr⟩, ⟨avoid, havoid, ha⟩,
      ⟨consumer, hconsumer, hc⟩, ⟨allowConsumer, hallowConsumer, hac⟩,
      ⟨allowProducer, hallowProducer, hap⟩, allow, hallow, hal⟩
    have hrecord : (Json.object members).record? inletKeys =
        some [source, route, avoid, consumer, allowConsumer, allowProducer, allow] :=
      record?_object_iff.2 ⟨hkeys, .cons hsource (.cons hroute (.cons havoid (.cons hconsumer
        (.cons hallowConsumer (.cons hallowProducer (.cons hallow .nil))))))⟩
    rw [ofSpecJson?, hrecord]
    simp [hs, hr, ha, hc, hac, hap, hal]

theorem ofSpecJson?_edit (h : MemberEdit inletKeys.flatten InletUsual members members')
    (hread : ofSpecJson? (.object members) = some i) :
    ofSpecJson? (.object members') = some i := by
  obtain ⟨hkeys, hsource, hroute, havoid, hconsumer, hallowConsumer, hallowProducer, hallow⟩ :=
    ofSpecJson?_object_iff.1 hread
  refine ofSpecJson?_object_iff.2 ⟨hkeys.edit h, hsource.edit h (by decide) ?_,
    hroute.edit h (by decide) ?_, havoid.edit h (by decide) ?_, hconsumer.edit h (by decide) ?_,
    hallowConsumer.edit h (by decide) ?_, hallowProducer.edit h (by decide) ?_,
    hallow.edit h (by decide) ?_⟩
  · simp [InletUsual]
  · simp [InletUsual, defaulted]
  · simp [InletUsual, defaulted, Json.flag?]
  all_goals simp [InletUsual, optional]

end Inlet

namespace Outlet

variable {o : Outlet}

theorem ofSpecJson?_object_iff : ofSpecJson? (.object members) = some o ↔
    HasTextKeys members ∧
      Gives members ["bootstrap_server"] (required Json.text?) o.bootstrapServer ∧
      Gives members ["tls"] (defaulted false Json.flag?) o.tls ∧
      Gives members ["allow"] (optional Json.predicate?) o.allow := by
  constructor
  · intro h
    rw [ofSpecJson?] at h
    split at h
    · rename_i server tls allow hrecord
      obtain ⟨_, hs, h⟩ := Option.bind_eq_some_iff.1 h
      obtain ⟨_, ht, h⟩ := Option.bind_eq_some_iff.1 h
      obtain ⟨_, ha, h⟩ := Option.bind_eq_some_iff.1 h
      cases h
      simp only [record?_object_iff, outletKeys, List.forall₂_cons, List.forall₂_nil_right_iff,
        and_true] at hrecord
      obtain ⟨hkeys, hserver, htls, hallow⟩ := hrecord
      exact ⟨hkeys, ⟨_, hserver, hs⟩, ⟨_, htls, ht⟩, _, hallow, ha⟩
    · cases h
  · rintro ⟨hkeys, ⟨server, hserver, hs⟩, ⟨tls, htls, ht⟩, allow, hallow, ha⟩
    have hrecord : (Json.object members).record? outletKeys = some [server, tls, allow] :=
      record?_object_iff.2 ⟨hkeys, .cons hserver (.cons htls (.cons hallow .nil))⟩
    rw [ofSpecJson?, hrecord]
    simp [hs, ht, ha]

theorem ofSpecJson?_edit (h : MemberEdit outletKeys.flatten OutletUsual members members')
    (hread : ofSpecJson? (.object members) = some o) :
    ofSpecJson? (.object members') = some o := by
  obtain ⟨hkeys, hserver, htls, hallow⟩ := ofSpecJson?_object_iff.1 hread
  refine ofSpecJson?_object_iff.2 ⟨hkeys.edit h, hserver.edit h (by decide) ?_,
    htls.edit h (by decide) ?_, hallow.edit h (by decide) ?_⟩
  · simp [OutletUsual]
  · simp [OutletUsual, defaulted, Json.flag?]
  · simp [OutletUsual, optional]

end Outlet

namespace NodeSpec

variable {s : NodeSpec}

theorem ofJson?_object_iff : ofJson? (.object members) = some s ↔
    HasTextKeys members ∧
      Gives members ["identity"] (optional Json.text?) s.identity ∧
      Gives members ["listener_address"] (optional Json.text?) s.listenerAddress ∧
      Gives members ["ticket"] (optional Json.text?) s.ticket ∧
      Gives members ["relay"] (optional Json.text?) s.relay ∧
      Gives members ["inlet"] (required Inlet.ofSpecJson?) s.inlet ∧
      Gives members ["outlet"] (required Outlet.ofSpecJson?) s.outlet := by
  constructor
  · intro h
    rw [ofJson?] at h
    split at h
    · rename_i identity listener ticket relay inlet outlet hrecord
      obtain ⟨_, hi, h⟩ := Option.bind_eq_some_iff.1 h
      obtain ⟨_, hl, h⟩ := Option.bind_eq_some_iff.1 h
      obtain ⟨_, ht, h⟩ := Option.bind_eq_some_iff.1 h
      obtain ⟨_, hr, h⟩ := Option.bind_eq_some_iff.1 h
      obtain ⟨_, hin, h⟩ := Option.bind_eq_some_iff.1 h
      obtain ⟨_, hout, h⟩ := Option.bind_eq_some_iff.1 h
      cases h
      simp only [record?_object_iff, specKeys, List.forall₂_cons, List.forall₂_nil_right_iff,
        and_true] at hrecord
      obtain ⟨hkeys, hidentity, hlistener, hticket, hrelay, hinlet, houtlet⟩ := hrecord
      exact ⟨hkeys, ⟨_, hidentity, hi⟩, ⟨_, hlistener, hl⟩, ⟨_, hticket, ht⟩, ⟨_, hrelay, hr⟩,
        ⟨_, hinlet, hin⟩, _, houtlet, hout⟩
    · cases h
  · rintro ⟨hkeys, ⟨identity, hidentity, hi⟩, ⟨listener, hlistener, hl⟩, ⟨ticket, hticket, ht⟩,
      ⟨relay, hrelay, hr⟩, ⟨inlet, hinlet, hin⟩, outlet, houtlet, hout⟩
    have hrecord : (Json.object members).record? specKeys =
        some [identity, listener, ticket, relay, inlet, outlet] :=
      record?_object_iff.2 ⟨hkeys, .cons hidentity (.cons hlistener (.cons hticket
        (.cons hrelay (.cons hinlet (.cons houtlet .nil)))))⟩
    rw [ofJson?, hrecord]
    simp [hi, hl, ht, hr, hin, hout]

theorem ofJson?_edit (h : SpecEdit members members') (hread : ofJson? (.object members) = some s) :
    ofJson? (.object members') = some s := by
  cases h with
  | own h =>
    obtain ⟨hkeys, hi, hl, ht, hr, hin, hout⟩ := ofJson?_object_iff.1 hread
    refine ofJson?_object_iff.2 ⟨hkeys.edit h, hi.edit h (by decide) ?_, hl.edit h (by decide) ?_,
      ht.edit h (by decide) ?_, hr.edit h (by decide) ?_, hin.edit h (by decide) ?_,
      hout.edit h (by decide) ?_⟩
    all_goals simp [SpecUsual, optional]
  | inlet hkey h =>
    obtain ⟨hkeys, hi, hl, ht, hr, hin, hout⟩ := ofJson?_object_iff.1 hread
    refine ofJson?_object_iff.2 ⟨hkeys.replace _, hi.replace hkey (by simp),
      hl.replace hkey (by simp), ht.replace hkey (by simp), hr.replace hkey (by simp),
      hin.replace hkey ?_, hout.replace hkey (by simp)⟩
    intro _ hinner
    exact Inlet.ofSpecJson?_edit h hinner
  | outlet hkey h =>
    obtain ⟨hkeys, hi, hl, ht, hr, hin, hout⟩ := ofJson?_object_iff.1 hread
    refine ofJson?_object_iff.2 ⟨hkeys.replace _, hi.replace hkey (by simp),
      hl.replace hkey (by simp), ht.replace hkey (by simp), hr.replace hkey (by simp),
      hin.replace hkey (by simp), hout.replace hkey ?_⟩
    intro _ hinner
    exact Outlet.ofSpecJson?_edit h hinner

theorem ofJson?_edits (h : Relation.ReflTransGen SpecEdit members members')
    (hread : ofJson? (.object members) = some s) : ofJson? (.object members') = some s := by
  induction h with
  | refl => exact hread
  | tail _ hedit ih => exact ofJson?_edit hedit ih

/-- The keys of the document, of its inlet and of its outlet are all text. -/
def KeyedInText (members : List (RawText × Json)) : Prop :=
  HasTextKeys members ∧ ∀ name ∈ ["inlet", "outlet"], ∀ inner,
    .object inner ∈ given members [name] → HasTextKeys inner

theorem keyedInText_of_ofJson? (hread : ofJson? (.object members) = some s) :
    KeyedInText members := by
  obtain ⟨hkeys, -, -, -, -, hin, hout⟩ := ofJson?_object_iff.1 hread
  refine ⟨hkeys, ?_⟩
  simp only [List.forall_mem_cons, List.not_mem_nil, false_imp_iff, implies_true, and_true]
  constructor
  · intro inner hinner
    exact (Inlet.ofSpecJson?_object_iff.1 (hin.read_eq hinner)).1
  · intro inner hinner
    exact (Outlet.ofSpecJson?_object_iff.1 (hout.read_eq hinner)).1

theorem ofJson?_spelled {j : Json} {text : String} (h : Spells j (text.toList.map some)) :
    (Json.ofText? text >>= ofJson?) = ofJson? j := by
  rw [Json.ofText?, Json.read?_spelled h, Option.bind_eq_bind, Option.bind_some]

/-- A spec is read back from its document. A document of which a spec is read may be edited time
and again and spelled anew, and the same spec is read of it; but nothing is read of a document with
a key that is no text. -/
theorem spec_of_edited :
    (∀ s : NodeSpec, (Json.ofText? s.toDoc.compact >>= ofJson?) = some s) ∧
    (∀ (text text' : String) (members members' : List (RawText × Json)) (s : NodeSpec),
      Json.ofText? text = some (.object members) → (Json.ofText? text >>= ofJson?) = some s →
      Relation.ReflTransGen SpecEdit members members' →
      Spells (.object members') (text'.toList.map some) →
      (Json.ofText? text' >>= ofJson?) = some s) ∧
    ∀ (text : String) (members : List (RawText × Json)),
      Spells (.object members) (text.toList.map some) → ¬ KeyedInText members →
      (Json.ofText? text >>= ofJson?) = none := by
  refine ⟨?_, ?_, ?_⟩
  · intro s
    rw [ofJson?_spelled (spells_compactText s.toDoc), ofJson?_toDoc]
  · intro text text' members members' s htext hread hedits h
    rw [htext, Option.bind_eq_bind, Option.bind_some] at hread
    rw [ofJson?_spelled h]
    exact ofJson?_edits hedits hread
  · intro text members h hkeys
    rw [ofJson?_spelled h]
    cases hspec : ofJson? (.object members) with
    | none => rfl
    | some s => exact absurd (keyedInText_of_ofJson? hspec) hkeys

/-- A document of these two sections. -/
def sections (inlet outlet : List (String × Doc)) : List (String × Doc) :=
  [("inlet", .record inlet), ("outlet", .record outlet)]

def terseInlet : List (String × Doc) := [("from", .text "127.0.0.1:5000")]

/-- The inlet with a member that goes without saying. -/
def wordyInlet : List (String × Doc) := terseInlet ++ [("to", .text "/secure/api")]

def bareOutlet : List (String × Doc) := [("bootstrap_server", .text "broker:9092")]

/-- The outlet with a member that nobody reads. -/
def notedOutlet : List (String × Doc) := ("note", .list [.null]) :: bareOutlet

def wordySpec : List (String × Doc) := ("ticket", .null) :: sections wordyInlet bareOutlet

def editedSpec : List (String × Doc) := (sections terseInlet notedOutlet).reverse

theorem edits_wordySpec :
    Relation.ReflTransGen SpecEdit (membersToJson wordySpec) (membersToJson editedSpec) := by
  have hticket : SpecEdit (membersToJson wordySpec)
      (membersToJson (sections wordyInlet bareOutlet)) :=
    .own (@MemberEdit.omitted _ _ [] _ _ "ticket" _ rfl ⟨by decide, rfl⟩)
  have hto : SpecEdit (membersToJson (sections wordyInlet bareOutlet))
      (membersToJson (sections terseInlet bareOutlet)) :=
    @SpecEdit.inlet [] _ _ _ _ rfl
      (@MemberEdit.omitted _ _ (membersToJson terseInlet) [] _ "to" _ rfl (.inl ⟨rfl, rfl⟩))
  have hnote : SpecEdit (membersToJson (sections terseInlet bareOutlet))
      (membersToJson (sections terseInlet notedOutlet)) :=
    @SpecEdit.outlet (membersToJson [("inlet", .record terseInlet)]) [] _ _ _ rfl
      (@MemberEdit.inserted _ _ [] _ _ "note" _ rfl (by decide))
  have hturned : SpecEdit (membersToJson (sections terseInlet notedOutlet))
      (membersToJson editedSpec) :=
    .own (.permuted (List.Perm.swap _ _ _))
  exact .tail (.tail (.tail (.single hticket) hto) hnote) hturned

/-- What both documents say. -/
def plainSpec : NodeSpec where
  inlet := { source := "127.0.0.1:5000" }
  outlet := { bootstrapServer := "broker:9092" }

theorem spec_of_edited_note :
    (Json.ofText? (Doc.record editedSpec).compact >>= ofJson?) = some plainSpec := by
  have hwordy : (Json.ofText? (Doc.record wordySpec).compact >>= ofJson?) = some plainSpec := by
    rw [ofJson?_spelled (spells_compactText _)]
    decide +kernel
  exact spec_of_edited.2.1 _ _ _ _ _ (Json.ofText?_compact (.record wordySpec)) hwordy
    edits_wordySpec (spells_compactText (.record editedSpec))

/-- The members of such a document behind one whose name is half of a surrogate pair. -/
def halfKeyedSpec : String :=
  String.ofList ('\x7b' :: (['"', '\\', 'u', 'd', '8', '0', '0', '"'] ++ ':' ::
    (['n', 'u', 'l', 'l'] ++ compactMembers (sections terseInlet bareOutlet))))

theorem spells_halfKeyedSpec :
    Spells (.object (([.surrogate 0xD800], .null) ::
      membersToJson (sections terseInlet bareOutlet))) (halfKeyedSpec.toList.map some) := by
  have hmembers := spells_compactMembers (sections terseInlet bareOutlet) spells_halfPair
    (.of_value .null)
  rw [halfKeyedSpec, String.toList_ofList]
  exact .of_value (.object hmembers)

/-- A spec is read of a document, and none of the same with one more member in front, whose name
is no name of a field and whose value is well formed. -/
theorem spec_unread :
    (Json.ofText? (Doc.record (sections terseInlet bareOutlet)).compact >>= ofJson?) =
        some plainSpec ∧
      Spells (.object (([.surrogate 0xD800], .null) ::
        membersToJson (sections terseInlet bareOutlet))) (halfKeyedSpec.toList.map some) ∧
      (∀ name ∈ specKeys.flatten, RawText.text? [.surrogate 0xD800] ≠ some name) ∧
      (Json.ofText? halfKeyedSpec >>= ofJson?) = none := by
  refine ⟨?_, spells_halfKeyedSpec, by decide, ?_⟩
  · rw [ofJson?_spelled (spells_compactText _)]
    decide +kernel
  · rw [ofJson?_spelled spells_halfKeyedSpec]
    decide +kernel

end NodeSpec

end NodeWarden
