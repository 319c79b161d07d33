import NodeWarden.Plane.Command
import NodeWarden.Proofs.Json.Members
import NodeWarden.Proofs.Json.Writing

/-! Whether a node is up, as its status document has it. The document is read as a whole: besides
the status, every member that is known by one of its names has to be legible, at every level,
and a document that is not says that the node is not up. Members of other names do not matter. -/

namespace NodeWarden

variable {α : Type} {members : List (RawText × Json)}

/-- One value at most, and that is as said. -/
def AtMostOne (values : List Json) (legible : Json → Prop) : Prop :=
  values.length ≤ 1 ∧ ∀ value ∈ values, legible value

/-- Null, or a string that is text throughout. -/
def NullOrText : Json → Prop
  | .null => True
  | .string s => s.text?.isSome
  | _ => False

def ListOf (entry : Json → Prop) : Json → Prop
  | .array items => ∀ item ∈ items, entry item
  | _ => False

/-- An entry of which each field is left out, null or text. The fields are named, each by one of
its names, or they stand in their order. -/
def EntryOf (fields : List (List String)) : Json → Prop
  | .object members => HasTextKeys members ∧
      ∀ names ∈ fields, AtMostOne (given members names) NullOrText
  | .array items => items.length ≤ fields.length ∧ ∀ item ∈ items, NullOrText item
  | _ => False

/-- What a status document has to be besides its status. -/
structure Legible (members : List (RawText × Json)) : Prop where
  keys : HasTextKeys members
  name : AtMostOne (given members ["name", "node_name"]) NullOrText
  transports : AtMostOne (given members ["transports", "tcp_listeners", "tcp-listeners"])
    (ListOf (EntryOf transportKeys))
  inlets : AtMostOne
    (given members ["inlets", "kafka_inlets", "kafka-inlets", "tcp_inlets", "tcp-inlets"])
    (ListOf (EntryOf inletBindingKeys))

/-! The readers of the parts. -/

theorem atMostOne_iff {values : List Json} {legible : Json → Prop} :
    AtMostOne values legible ↔ ∃ value? : Option Json, values = value?.toList ∧
      ∀ value ∈ value?, legible value := by
  constructor
  · rintro ⟨hlength, hlegible⟩
    rcases values with _ | ⟨value, _ | ⟨other, more⟩⟩
    · exact ⟨none, rfl, nofun⟩
    · exact ⟨some value, rfl, fun v hv => by
        cases hv
        exact hlegible value List.mem_cons_self⟩
    · simp at hlength
  · rintro ⟨value?, rfl, hlegible⟩
    cases value? with
    | none => exact ⟨Nat.zero_le 1, nofun⟩
    | some value => exact ⟨Nat.le_refl 1, by simpa using hlegible⟩

theorem optional_text_isSome_iff {value? : Option Json} :
    (optional Json.text? value?).isSome ↔ ∀ value ∈ value?, NullOrText value := by
  rcases value? with _ | value
  · simp [optional]
  · cases value <;> simp [optional, Json.text?, NullOrText]

theorem list?_isSome_iff {entry : Json → Option α} {value : Json} :
    (Json.list? entry value).isSome ↔ ListOf (fun item => (entry item).isSome) value := by
  cases value with
  | array items => exact mapM_isSome_iff
  | _ => simp [Json.list?, ListOf]

theorem entryOf_iff {first second : List String} {entry : Json} :
    EntryOf [first, second] entry ↔ ∃ a b, entry.record? [first, second] = some [a, b] ∧
      (optional Json.text? a).isSome ∧ (optional Json.text? b).isSome := by
  simp only [optional_text_isSome_iff]
  cases entry with
  | object members =>
    simp only [EntryOf, record?_object_iff, List.forall_mem_cons, atMostOne_iff,
      List.forall₂_cons, List.forall₂_nil_right_iff, and_true, List.not_mem_nil, false_imp_iff,
      implies_true]
    constructor
    · rintro ⟨hkeys, ⟨a, hfirst, ha⟩, b, hsecond, hb⟩
      exact ⟨a, b, ⟨hkeys, hfirst, hsecond⟩, ha, hb⟩
    · rintro ⟨a, b, ⟨hkeys, hfirst, hsecond⟩, ha, hb⟩
      exact ⟨hkeys, ⟨a, hfirst, ha⟩, b, hsecond, hb⟩
  | array items =>
    simp only [EntryOf, Json.record?]
    rcases items with _ | ⟨a, _ | ⟨b, _ | ⟨c, more⟩⟩⟩ <;> simp
  | _ => simp [EntryOf, Json.record?]

/-- A record of two texts, whatever is made of them. -/
theorem twoTexts_isSome_iff {f : Option String → Option String → α}
    {first second : List String} {entry : Json} :
    (match entry.record? [first, second] with
      | some [a, b] => do return f (← optional Json.text? a) (← optional Json.text? b)
      | _ => none).isSome ↔ EntryOf [first, second] entry := by
  rw [entryOf_iff]
  constructor
  · intro h
    split at h
    · rename_i a b hrecord
      refine ⟨a, b, hrecord, ?_⟩
      cases ha : optional Json.text? a with
      | none => simp [ha] at h
      | some _ => cases hb : optional Json.text? b <;> simp_all
    · cases h
  · rintro ⟨a, b, hrecord, ha, hb⟩
    obtain ⟨address, haddress⟩ := Option.isSome_iff_exists.1 ha
    obtain ⟨mode, hmode⟩ := Option.isSome_iff_exists.1 hb
    simp [hrecord, haddress, hmode]

theorem transport_isSome_iff {entry : Json} :
    (TransportBinding.ofJson? entry).isSome ↔ EntryOf transportKeys entry :=
  twoTexts_isSome_iff (f := TransportBinding.mk)

theorem inlet_isSome_iff {entry : Json} :
    (InletBinding.ofJson? entry).isSome ↔ EntryOf inletBindingKeys entry :=
  twoTexts_isSome_iff (f := InletBinding.mk)

theorem defaulted_list_isSome_iff {entry : Json → Option α} {legible : Json → Prop}
    (h : ∀ item, (entry item).isSome ↔ legible item) {value? : Option Json} :
    (defaulted [] (Json.list? entry) value?).isSome ↔ ∀ value ∈ value?, ListOf legible value := by
  rcases value? with _ | value
  · simp [defaulted]
  · have hlist : ListOf (fun item => (entry item).isSome) value ↔ ListOf legible value := by
      cases value <;> simp only [ListOf, h]
    rw [defaulted, list?_isSome_iff, hlist]
    simp

/-! The document. -/

section

variable {s : String}

/-- A document whose status is given once as text. -/
structure SaysStatus (members : List (RawText × Json)) (s : String) : Prop where
  once : ∃ raw, given members ["status"] = [.string raw] ∧ raw.text? = some s
  alone : given members ["node_status"] = []

theorem given_pair {first second : String} (h : given members [second] = []) :
    given members [first, second] = given members [first] := by
  rw [given, List.map_eq_nil_iff, List.filter_eq_nil_iff] at h
  rw [given, given]
  congr 1
  refine List.filter_congr fun m hm => ?_
  have hnot := h m hm
  cases hkey : m.1.text? with
  | none => rfl
  | some key => simp_all

theorem legible_iff {status : Json} (hstatus : given members ["status", "node_status"] = [status]) :
    Legible members ↔ ∃ name transports inlets,
      (Json.object members).record? detailsKeys = some [name, some status, transports, inlets] ∧
      (optional Json.text? name).isSome ∧
      (defaulted [] (Json.list? TransportBinding.ofJson?) transports).isSome ∧
      (defaulted [] (Json.list? InletBinding.ofJson?) inlets).isSome := by
  simp only [optional_text_isSome_iff, defaulted_list_isSome_iff fun _ => transport_isSome_iff,
    defaulted_list_isSome_iff fun _ => inlet_isSome_iff, record?_object_iff, detailsKeys,
    List.forall₂_cons, List.forall₂_nil_right_iff, and_true, hstatus, Option.toList_some]
  constructor
  · rintro ⟨hkeys, hname, htransports, hinlets⟩
    obtain ⟨name, hname, hnameOk⟩ := atMostOne_iff.1 hname
    obtain ⟨transports, htransports, htransportsOk⟩ := atMostOne_iff.1 htransports
    obtain ⟨inlets, hinlets, hinletsOk⟩ := atMostOne_iff.1 hinlets
    exact ⟨name, transports, inlets, ⟨hkeys, hname, trivial, htransports, hinlets⟩, hnameOk,
      htransportsOk, hinletsOk⟩
  · rintro ⟨name, transports, inlets, ⟨hkeys, hname, -, htransports, hinlets⟩, hnameOk,
      htransportsOk, hinletsOk⟩
    exact ⟨hkeys, atMostOne_iff.2 ⟨name, hname, hnameOk⟩,
      atMostOne_iff.2 ⟨transports, htransports, htransportsOk⟩,
      atMostOne_iff.2 ⟨inlets, hinlets, hinletsOk⟩⟩

theorem status_of_record {status : Json} {name status? transports inlets : Option Json}
    (hstatus : given members ["status", "node_status"] = [status])
    (h : (Json.object members).record? detailsKeys = some [name, status?, transports, inlets]) :
    status? = some status := by
  simp only [record?_object_iff, detailsKeys, List.forall₂_cons, hstatus] at h
  cases status? with
  | none => simp at h
  | some other => simp_all

/-- What is read of a document, part by part. -/
theorem ofJson?_eq_some_iff {d : NodeDetails} {status : Json}
    (hstatus : given members ["status", "node_status"] = [status])
    (htext : optional Json.text? (some status) = some (some s)) :
    NodeDetails.ofJson? (.object members) = some d ↔ ∃ name transports inlets,
      (Json.object members).record? detailsKeys = some [name, some status, transports, inlets] ∧
      optional Json.text? name = some d.name ∧ d.status = some s ∧
      defaulted [] (Json.list? TransportBinding.ofJson?) transports = some d.transports ∧
      defaulted [] (Json.list? InletBinding.ofJson?) inlets = some d.inlets := by
  unfold NodeDetails.ofJson?
  constructor
  · intro h
    split at h
    · rename_i name status? transports inlets hrecord
      have hgiven := status_of_record hstatus hrecord
      subst hgiven
      obtain ⟨_, hname, h⟩ := Option.bind_eq_some_iff.1 h
      obtain ⟨_, hs, h⟩ := Option.bind_eq_some_iff.1 h
      obtain ⟨_, htransports, h⟩ := Option.bind_eq_some_iff.1 h
      obtain ⟨_, hinlets, h⟩ := Option.bind_eq_some_iff.1 h
      rw [htext] at hs
      cases hs
      cases h
      exact ⟨name, transports, inlets, hrecord, hname, rfl, htransports, hinlets⟩
    · cases h
  · rintro ⟨name, transports, inlets, hrecord, hname, hs, htransports, hinlets⟩
    simp [hrecord, hname, htext, htransports, hinlets, ← hs]

/-- What is read of a document has its status, and it can be read just if the rest is legible. -/
theorem ofJson?_object (h : SaysStatus members s) :
    (∀ d, NodeDetails.ofJson? (.object members) = some d → d.status = some s) ∧
      ((NodeDetails.ofJson? (.object members)).isSome ↔ Legible members) := by
  obtain ⟨⟨raw, honce, hraw⟩, halone⟩ := h
  have hstatus : given members ["status", "node_status"] = [.string raw] :=
    (given_pair halone).trans honce
  have htext : optional Json.text? (some (.string raw)) = some (some s) := by
    rw [optional.eq_def]
    simp [Json.text?, hraw]
  rw [legible_iff hstatus]
  simp only [Option.isSome_iff_exists, ofJson?_eq_some_iff hstatus htext]
  constructor
  · rintro d ⟨_, _, _, _, _, hs, _⟩
    exact hs
  · constructor
    · rintro ⟨d, name, transports, inlets, hrecord, hname, -, htransports, hinlets⟩
      exact ⟨name, transports, inlets, hrecord, ⟨_, hname⟩, ⟨_, htransports⟩, _, hinlets⟩
    · rintro ⟨name, transports, inlets, hrecord, ⟨n, hname⟩, ⟨ts, htransports⟩, is, hinlets⟩
      exact ⟨⟨n, some s, ts, is⟩, name, transports, inlets, hrecord, hname, rfl, htransports,
        hinlets⟩

/-- A node whose `show` succeeds with a document that gives its status once. It is up as that status
has it if all that is known of the document besides is legible, whatever unknown members it has;
and it is not up if any of that is not, at whatever level. -/
theorem running_if_legible {bs : List UInt8} (name : NodeName) (binary : String)
    (stderr : List UInt8) (hspelled : Spells (.object members) (decodeUtf8 bs))
    (hstatus : SaysStatus members s) :
    let shown := readDetails name (commandOutput (shortCommand binary (showArgs name))
      (.ok ⟨.code 0, bs, stderr⟩))
    (Legible members → reportsRunning shown = statusMeansRunning s) ∧
      (¬ Legible members → reportsRunning shown = false) := by
  obtain ⟨hword, hlegible⟩ := ofJson?_object hstatus
  have hread : NodeDetails.ofBytes? bs = NodeDetails.ofJson? (.object members) := by
    rw [NodeDetails.ofBytes?, Json.ofBytes?, Json.read?_spelled hspelled]
    rfl
  simp only [commandOutput, if_true, readDetails, hread]
  cases hdetails : NodeDetails.ofJson? (.object members) with
  | none =>
    refine ⟨fun hok => ?_, fun _ => rfl⟩
    rw [← hlegible, hdetails] at hok
    cases hok
  | some d =>
    refine ⟨fun _ => ?_, fun hnot => absurd (hlegible.1 (by rw [hdetails]; rfl)) hnot⟩
    simp only [reportsRunning, NodeDetails.isRunning, hword d hdetails, Option.any_some]

end

/-- A document as the binary writes it; its characters are all ASCII. -/
def shownBytes (d : Doc) : List UInt8 := d.compactChars.map fun c => c.toNat.toUInt8

theorem spells_shown (table : List (String × Doc))
    (hascii : decodeUtf8 (shownBytes (.record table)) = (Doc.record table).compactChars.map some) :
    Spells (.object (membersToJson table)) (decodeUtf8 (shownBytes (.record table))) := by
  rw [hascii]
  exact .of_value (spells_compact (.record table))

/-- The inlets are null, and not left out. -/
def nullInlets : List (String × Doc) := [("status", .text "running"), ("inlets", .null)]

theorem spells_nullInlets :
    Spells (.object (membersToJson nullInlets)) (decodeUtf8 (shownBytes (.record nullInlets))) :=
  spells_shown nullInlets (by decide +kernel)

theorem saysStatus_nullInlets : SaysStatus (membersToJson nullInlets) "running" :=
  ⟨⟨.ofChars "running".toList, rfl, rfl⟩, rfl⟩

/-- The status says that the node is up, once and well spelled, and the node counts as not running
because of another member. -/
theorem running_unread :
    Spells (.object (membersToJson nullInlets)) (decodeUtf8 (shownBytes (.record nullInlets))) ∧
      SaysStatus (membersToJson nullInlets) "running" ∧ statusMeansRunning "running" = true ∧
      reportsRunning (readDetails ⟨"n", by decide⟩ (commandOutput
        (shortCommand "ockam" (showArgs ⟨"n", by decide⟩))
        (.ok ⟨.code 0, shownBytes (.record nullInlets), []⟩))) = false :=
  ⟨spells_nullInlets, saysStatus_nullInlets, by decide +kernel, by decide +kernel⟩

/-- Nulls where they may stand, a field by another name, an entry without names and unknown
members. -/
def aliasedMembers : List (String × Doc) :=
  [("node_name", .null), ("status", .text " Up"), ("uptime", .list [.null]),
    ("tcp-listeners", .list [.record [("addr", .text "127.0.0.1:4000"), ("mode", .null),
      ("since", .flag true)], .list [.text "127.0.0.1:4001"]])]

theorem running_if_legible_aliased :
    reportsRunning (readDetails ⟨"n", by decide⟩ (commandOutput
        (shortCommand "ockam" (showArgs ⟨"n", by decide⟩))
        (.ok ⟨.code 0, shownBytes (.record aliasedMembers), []⟩))) = true ∧
      reportsRunning (readDetails ⟨"n", by decide⟩ (commandOutput
        (shortCommand "ockam" (showArgs ⟨"n", by decide⟩))
        (.ok ⟨.code 0, shownBytes (.record nullInlets), []⟩))) = false := by
  constructor
  · have hspelled : Spells (.object (membersToJson aliasedMembers))
        (decodeUtf8 (shownBytes (.record aliasedMembers))) :=
      spells_shown aliasedMembers (by decide +kernel)
    have hstatus : SaysStatus (membersToJson aliasedMembers) " Up" :=
      ⟨⟨.ofChars " Up".toList, rfl, rfl⟩, rfl⟩
    have hlegible : Legible (membersToJson aliasedMembers) :=
      (ofJson?_object hstatus).2.1 (by decide +kernel)
    exact ((running_if_legible _ _ _ hspelled hstatus).1 hlegible).trans (by decide +kernel)
  · have hgiven : given (membersToJson nullInlets)
        ["inlets", "kafka_inlets", "kafka-inlets", "tcp_inlets", "tcp-inlets"] = [.null] := rfl
    have hnot : ¬ Legible (membersToJson nullInlets) := fun hlegible =>
      hlegible.inlets.2 .null (by rw [hgiven]; exact List.mem_cons_self)
    exact (running_if_legible _ _ _ spells_nullInlets saysStatus_nullInlets).2 hnot

end NodeWarden
