import NodeWarden.Proofs.Json.Members
import NodeWarden.Proofs.Json.Records
import NodeWarden.Proofs.Json.Writing
import NodeWarden.Proofs.Utf8
import NodeWarden.Status.Document

/-! Status documents in all their spellings. What a node says of itself is found again however it
is written: each field under any of its names, members in any order and unknown ones among them.
A document that gives a field twice is refused, and so is one with a key that is no text. -/

namespace NodeWarden

variable {α : Type} {members : List (RawText × Json)} {names : List String}

/-- A text that is set is given once, and one that is not is left out or null. -/
def WritesText (members : List (RawText × Json)) (names : List String) : Option String → Prop
  | some s => ∃ raw, given members names = [.string raw] ∧ raw.text? = some s
  | none => given members names = [] ∨ given members names = [.null]

/-- A list is given once, item by item, and an empty one may be left out. -/
def WritesList (members : List (RawText × Json)) (names : List String)
    (writes : α → Json → Prop) (as : List α) : Prop :=
  (∃ items, given members names = [.array items] ∧ List.Forall₂ writes as items) ∨
    (as = [] ∧ given members names = [])

/-- An object says where a transport is bound. -/
inductive TransportBinding.Written (t : TransportBinding) : Json → Prop
  | object {members : List (RawText × Json)} :
      WritesText members ["socket_address", "socket_addr", "socket", "address", "addr"]
        t.socketAddress →
      WritesText members ["mode"] t.mode → Written t (.object members)

inductive InletBinding.Written (i : InletBinding) : Json → Prop
  | object {members : List (RawText × Json)} :
      WritesText members ["bind_address", "bind_addr", "from", "listen_address"] i.bindAddress →
      WritesText members ["outlet_route", "outlet_addr", "to", "route"] i.outletRoute →
      Written i (.object members)

/-- The members say what the details are. Nothing is asked of members of other names. -/
structure NodeDetails.Written (d : NodeDetails) (members : List (RawText × Json)) : Prop where
  name : WritesText members ["name", "node_name"] d.name
  status : WritesText members ["status", "node_status"] d.status
  transports : WritesList members ["transports", "tcp_listeners", "tcp-listeners"]
    TransportBinding.Written d.transports
  inlets : WritesList members
    ["inlets", "kafka_inlets", "kafka-inlets", "tcp_inlets", "tcp-inlets"]
    InletBinding.Written d.inlets

namespace NodeDetails

/-- The objects in the lists of a document that are read as records. -/
inductive EntryIn (members : List (RawText × Json)) :
    List (List String) → List (RawText × Json) → Prop
  | transport {items : List Json} {entry : List (RawText × Json)} :
      .array items ∈ given members ["transports", "tcp_listeners", "tcp-listeners"] →
      .object entry ∈ items → EntryIn members transportKeys entry
  | inlet {items : List Json} {entry : List (RawText × Json)} :
      .array items ∈ given members
        ["inlets", "kafka_inlets", "kafka-inlets", "tcp_inlets", "tcp-inlets"] →
      .object entry ∈ items → EntryIn members inletBindingKeys entry

/-- The keys of the document and of its entries are all text. -/
def KeyedInText (members : List (RawText × Json)) : Prop :=
  HasTextKeys members ∧ ∀ fields entry, EntryIn members fields entry → HasTextKeys entry

/-- A field of the document, or of one of its entries, is given twice. -/
def RepeatsField (members : List (RawText × Json)) : Prop :=
  (∃ names ∈ detailsKeys, 1 < (given members names).length) ∨
    ∃ fields entry, EntryIn members fields entry ∧
      ∃ names ∈ fields, 1 < (given entry names).length

end NodeDetails

theorem WritesText.gives {s : Option String} (h : WritesText members names s) :
    Gives members names (optional Json.text?) s := by
  cases s with
  | none =>
    rcases h with h | h
    · exact ⟨none, h, rfl⟩
    · exact ⟨some .null, h, rfl⟩
  | some s =>
    obtain ⟨raw, h, hraw⟩ := h
    refine ⟨some (.string raw), h, ?_⟩
    rw [optional.eq_def]
    simp [Json.text?, hraw]

/-- The items are read one by one. -/
theorem WritesList.gives {writes : α → Json → Prop} {read : Json → Option α} {as : List α}
    (h : WritesList members names writes as)
    (hread : ∀ items, .array items ∈ given members names →
      ∀ item ∈ items, ∀ a, writes a item → read item = some a) :
    Gives members names (defaulted [] (Json.list? read)) as := by
  rcases h with ⟨items, hgiven, hitems⟩ | ⟨rfl, hnone⟩
  · refine ⟨some (.array items), hgiven, ?_⟩
    replace hread := hread items (by rw [hgiven]; exact List.mem_cons_self)
    rw [defaulted, Json.list?, mapM_eq_some_iff]
    clear hgiven
    induction hitems with
    | nil => exact .nil
    | @cons a item as items hwrites _ ih =>
      rw [List.forall_mem_cons] at hread
      exact .cons (hread.1 a hwrites) (ih hread.2)
  · exact ⟨none, hnone, rfl⟩

theorem Gives.items {read : Json → Option α} {as : List α} {items : List Json}
    (h : Gives members names (defaulted [] (Json.list? read)) as)
    (hitems : .array items ∈ given members names) : ∀ item ∈ items, (read item).isSome := by
  obtain ⟨value?, hgiven, hread⟩ := h
  rw [hgiven, Option.mem_toList] at hitems
  cases hitems
  rw [defaulted, Json.list?] at hread
  rw [← mapM_isSome_iff, hread]
  rfl

/-! The readers of the parts. -/

/-- A record of two texts. -/
theorem record?_texts {first second : List String} {a b : Option String}
    (hkeys : HasTextKeys members) (ha : WritesText members first a)
    (hb : WritesText members second b) :
    ∃ x y, (Json.object members).record? [first, second] = some [x, y] ∧
      optional Json.text? x = some a ∧ optional Json.text? y = some b := by
  obtain ⟨x, hx, hreadX⟩ := ha.gives
  obtain ⟨y, hy, hreadY⟩ := hb.gives
  exact ⟨x, y, record?_object_iff.2 ⟨hkeys, .cons hx (.cons hy .nil)⟩, hreadX, hreadY⟩

theorem TransportBinding.ofJson?_written {t : TransportBinding}
    (h : Written t (.object members)) (hkeys : HasTextKeys members) :
    ofJson? (.object members) = some t := by
  obtain ⟨haddress, hmode⟩ := h
  obtain ⟨address, mode, hrecord, ha, hm⟩ := record?_texts hkeys haddress hmode
  rw [ofJson?, transportKeys, hrecord]
  simp [ha, hm]

theorem InletBinding.ofJson?_written {i : InletBinding}
    (h : Written i (.object members)) (hkeys : HasTextKeys members) :
    ofJson? (.object members) = some i := by
  obtain ⟨haddress, hroute⟩ := h
  obtain ⟨address, route, hrecord, ha, hr⟩ := record?_texts hkeys haddress hroute
  rw [ofJson?, inletBindingKeys, hrecord]
  simp [ha, hr]

theorem TransportBinding.record?_of_ofJson? {j : Json} (h : (ofJson? j).isSome) :
    (j.record? transportKeys).isSome := by
  cases hrecord : j.record? transportKeys with
  | none => simp [ofJson?, hrecord] at h
  | some values => rfl

theorem InletBinding.record?_of_ofJson? {j : Json} (h : (ofJson? j).isSome) :
    (j.record? inletBindingKeys).isSome := by
  cases hrecord : j.record? inletBindingKeys with
  | none => simp [ofJson?, hrecord] at h
  | some values => rfl

namespace NodeDetails

variable {d : NodeDetails}

theorem ofBytes?_spelled {j : Json} {text : String} (h : Spells j (text.toList.map some)) :
    ofBytes? (textBytes text) = ofJson? j := by
  rw [ofBytes?, Json.ofBytes?, decodeUtf8_textBytes, Json.read?_spelled h]
  rfl

/-- The details are read field by field. -/
theorem ofJson?_object_iff : ofJson? (.object members) = some d ↔
    HasTextKeys members ∧
      Gives members ["name", "node_name"] (optional Json.text?) d.name ∧
      Gives members ["status", "node_status"] (optional Json.text?) d.status ∧
      Gives members ["transports", "tcp_listeners", "tcp-listeners"]
        (defaulted [] (Json.list? TransportBinding.ofJson?)) d.transports ∧
      Gives members ["inlets", "kafka_inlets", "kafka-inlets", "tcp_inlets", "tcp-inlets"]
        (defaulted [] (Json.list? InletBinding.ofJson?)) d.inlets := by
  constructor
  · intro h
    rw [ofJson?] at h
    split at h
    · rename_i name status transports inlets hrecord
      obtain ⟨_, hn, h⟩ := Option.bind_eq_some_iff.1 h
      obtain ⟨_, hs, h⟩ := Option.bind_eq_some_iff.1 h
      obtain ⟨_, ht, h⟩ := Option.bind_eq_some_iff.1 h
      obtain ⟨_, hi, h⟩ := Option.bind_eq_some_iff.1 h
      cases h
      simp only [record?_object_iff, detailsKeys, List.forall₂_cons,
        List.forall₂_nil_right_iff, and_true] at hrecord
      obtain ⟨hkeys, hname, hstatus, htransports, hinlets⟩ := hrecord
      exact ⟨hkeys, ⟨_, hname, hn⟩, ⟨_, hstatus, hs⟩, ⟨_, htransports, ht⟩, _, hinlets, hi⟩
    · cases h
  · rintro ⟨hkeys, ⟨name, hname, hn⟩, ⟨status, hstatus, hs⟩, ⟨transports, htransports, ht⟩,
      inlets, hinlets, hi⟩
    have hrecord : (Json.object members).record? detailsKeys =
        some [name, status, transports, inlets] :=
      record?_object_iff.2
        ⟨hkeys, .cons hname (.cons hstatus (.cons htransports (.cons hinlets .nil)))⟩
    rw [ofJson?, hrecord]
    simp [hn, hs, ht, hi]

theorem ofJson?_written (h : d.Written members) (hkeys : KeyedInText members) :
    ofJson? (.object members) = some d := by
  refine ofJson?_object_iff.2 ⟨hkeys.1, h.name.gives, h.status.gives, h.transports.gives ?_,
    h.inlets.gives ?_⟩
  · rintro items hitems item hitem t ⟨haddress, hmode⟩
    exact TransportBinding.ofJson?_written ⟨haddress, hmode⟩
      (hkeys.2 _ _ (.transport hitems hitem))
  · rintro items hitems item hitem i ⟨haddress, hroute⟩
    exact InletBinding.ofJson?_written ⟨haddress, hroute⟩ (hkeys.2 _ _ (.inlet hitems hitem))

/-- When details are read, a record is read of every entry. -/
theorem entry_of_ofJson? {fields : List (List String)} {entry : List (RawText × Json)}
    (h : ofJson? (.object members) = some d) (hentry : EntryIn members fields entry) :
    ((Json.object entry).record? fields).isSome := by
  obtain ⟨-, -, -, htransports, hinlets⟩ := ofJson?_object_iff.1 h
  cases hentry with
  | transport hitems hentry =>
    exact TransportBinding.record?_of_ofJson? (htransports.items hitems _ hentry)
  | inlet hitems hentry =>
    exact InletBinding.record?_of_ofJson? (hinlets.items hitems _ hentry)

/-- What is read has keys of text and repeats no field. -/
theorem sound_of_ofJson? (h : ofJson? (.object members) = some d) :
    KeyedInText members ∧ ¬ RepeatsField members := by
  have hown : ((Json.object members).record? detailsKeys).isSome := by
    cases hrecord : (Json.object members).record? detailsKeys with
    | none => simp [ofJson?, hrecord] at h
    | some values => rfl
  obtain ⟨hkeys, honce⟩ := given_of_record? hown
  have hentries : ∀ fields entry, EntryIn members fields entry → HasTextKeys entry ∧
      ∀ names ∈ fields, (given entry names).length ≤ 1 := by
    intro fields entry hentry
    exact given_of_record? (entry_of_ofJson? h hentry)
  refine ⟨⟨hkeys, fun fields entry hentry => (hentries fields entry hentry).1⟩, ?_⟩
  rintro (⟨names, hnames, htwice⟩ | ⟨fields, entry, hentry, names, hnames, htwice⟩)
  · exact Nat.not_lt.2 (honce names hnames) htwice
  · exact Nat.not_lt.2 ((hentries fields entry hentry).2 names hnames) htwice

end NodeDetails

/-- However a text says its details, with whatever unknown members, they are what is read of it, if
the keys that the reader comes by are text; one key that is none, or one field that is given twice,
and nothing is read. -/
theorem details_of_spelling {text : String}
    (hspelled : Spells (.object members) (text.toList.map some)) :
    (∀ d : NodeDetails, d.Written members → NodeDetails.KeyedInText members →
      NodeDetails.ofBytes? (textBytes text) = some d) ∧
    (¬ NodeDetails.KeyedInText members → NodeDetails.ofBytes? (textBytes text) = none) ∧
    (NodeDetails.RepeatsField members → NodeDetails.ofBytes? (textBytes text) = none) := by
  rw [NodeDetails.ofBytes?_spelled hspelled]
  refine ⟨fun d hwritten hkeys => NodeDetails.ofJson?_written hwritten hkeys, ?_, ?_⟩
  · intro hkeys
    cases hdetails : NodeDetails.ofJson? (.object members) with
    | none => rfl
    | some d => exact absurd (NodeDetails.sound_of_ofJson? hdetails).1 hkeys
  · intro htwice
    cases hdetails : NodeDetails.ofJson? (.object members) with
    | none => rfl
    | some d => exact absurd htwice (NodeDetails.sound_of_ofJson? hdetails).2

/-- Names of other versions, nulls where they may stand, an entry that says nothing and unknown
members at both levels; the inlets are left out. -/
def aliasedDetails : List (String × Doc) :=
  [("pid", .list [.null]), ("node_status", .text " Up"),
    ("tcp-listeners", .list [.record [("mode", .null), ("since", .flag true),
      ("addr", .text "127.0.0.1:4000")], .record []]), ("node_name", .null)]

/-- One field under two of its names. -/
def namedTwice : List (String × Doc) := [("name", .text "n"), ("node_name", .text "n")]

theorem written_aliasedDetails :
    NodeDetails.Written ⟨none, some " Up", [⟨some "127.0.0.1:4000", none⟩, ⟨none, none⟩], []⟩
      (membersToJson aliasedDetails) := by
  have hlistening : TransportBinding.Written ⟨some "127.0.0.1:4000", none⟩
      (.object (membersToJson [("mode", .null), ("since", .flag true),
        ("addr", .text "127.0.0.1:4000")])) :=
    .object ⟨.ofChars "127.0.0.1:4000".toList, rfl, rfl⟩ (.inr rfl)
  have hsilent : TransportBinding.Written ⟨none, none⟩ (.object []) := .object (.inl rfl) (.inl rfl)
  exact ⟨.inr rfl, ⟨.ofChars " Up".toList, rfl, rfl⟩,
    .inl ⟨_, rfl, .cons hlistening (.cons hsilent .nil)⟩, .inr ⟨rfl, rfl⟩⟩

theorem hasTextKeys_membersToJson (table : List (String × Doc)) :
    HasTextKeys (membersToJson table) := by
  rw [← textMembers?_isSome_iff, textMembers?_toJson]
  rfl

theorem keyedInText_aliasedDetails : NodeDetails.KeyedInText (membersToJson aliasedDetails) := by
  refine ⟨hasTextKeys_membersToJson _, ?_⟩
  intro fields entry hentry
  cases hentry with
  | transport hitems hentry =>
    cases List.mem_singleton.1 hitems
    rcases List.mem_cons.1 hentry with hentry | hentry
    · cases hentry
      exact hasTextKeys_membersToJson _
    · cases List.mem_singleton.1 hentry
      exact hasTextKeys_membersToJson []
  | inlet hitems hentry =>
    exact absurd hitems List.not_mem_nil

theorem details_of_spelling_aliased :
    NodeDetails.ofBytes? (textBytes (Doc.record aliasedDetails).compact) =
        some ⟨none, some " Up", [⟨some "127.0.0.1:4000", none⟩, ⟨none, none⟩], []⟩ ∧
      NodeDetails.ofBytes? (textBytes (Doc.record namedTwice).compact) = none := by
  constructor
  · have hspelled := spells_compactText (.record aliasedDetails)
    exact (details_of_spelling hspelled).1 _ written_aliasedDetails keyedInText_aliasedDetails
  · have hspelled := spells_compactText (.record namedTwice)
    have htwice : NodeDetails.RepeatsField (membersToJson namedTwice) :=
      .inl ⟨["name", "node_name"], by decide, by decide⟩
    exact (details_of_spelling hspelled).2.2 htwice

/-- A member of an unknown name, the name being half of a surrogate pair. -/
def halfKeyed : List (RawText × Json) :=
  [(.ofChars "status".toList, .string (.ofChars "up".toList)), ([.surrogate 0xD800], .null)]

def halfKeyedText : String := "\x7b\"status\":\"up\",\"\\ud800\":null\x7d"

theorem spells_halfKeyed : Spells (.object halfKeyed) (halfKeyedText.toList.map some) := by
  have hmember := SpellsMembers.last spells_halfPair (.of_value .null)
  have hmembers := SpellsMembers.cons (spells_key .nil "status")
    (.of_value (spells_quoted "up")) hmember
  exact .of_value (.object hmembers)

/-- The document says that the node is up, the unknown member has a value that is well formed, and
nothing is read. -/
theorem details_unread :
    Spells (.object halfKeyed) (halfKeyedText.toList.map some) ∧
      NodeDetails.Written { status := some "up" } halfKeyed ∧
      NodeDetails.ofBytes? (textBytes halfKeyedText) = none := by
  have hwritten : NodeDetails.Written { status := some "up" } halfKeyed :=
    ⟨.inl rfl, ⟨.ofChars "up".toList, rfl, rfl⟩, .inr ⟨rfl, rfl⟩, .inr ⟨rfl, rfl⟩⟩
  refine ⟨spells_halfKeyed, hwritten, ?_⟩
  rw [NodeDetails.ofBytes?_spelled spells_halfKeyed]
  decide +kernel

end NodeWarden
