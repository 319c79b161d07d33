import NodeWarden.Config.Document
import NodeWarden.Proofs.Json.Records
import NodeWarden.Proofs.Json.Writing

/-! Configurations survive being written and read. Which kind of section was written is seen
again: an array is tried as one entry first, and fails there because its first item, an object,
would have to be a text. -/

namespace NodeWarden

theorem optional_predicate (o : Option Predicate) :
    optional Json.predicate? ((o.map Predicate.toDoc).map Doc.toJson) = some o := by
  refine optional_toJson (fun p => ?_) (by simp [Predicate.toDoc, Doc.toJson]) o
  rw [Predicate.toDoc, Doc.toJson, Json.predicate?, Json.text?, RawText.text?_ofChars]
  rfl

namespace Inlet

theorem ofConfigJson?_toConfigDoc (i : Inlet) : ofConfigJson? i.toConfigDoc.toJson = some i := by
  have hrecord : i.toConfigDoc.toJson.record? inletConfigKeys = some _ :=
    record?_written (by simp)
  simp only [List.map_cons, List.map_nil, Option.map_some] at hrecord
  rw [ofConfigJson?, hrecord]
  simp only [required_text, required_flag, optional_text, optional_predicate]
  rfl

/-- An array of objects is no entry. -/
theorem ofConfigJson?_array (is : List Inlet) :
    ofConfigJson? (.array (is.map fun i => i.toConfigDoc.toJson)) = none := by
  rw [ofConfigJson?]
  split
  · rename_i heq
    rw [eq_head_of_record? heq]
    cases is <;> rfl
  · rfl

theorem isReadable_toConfigDoc (i : Inlet) (room : Nat) :
    i.toConfigDoc.toJson.isReadable (room + 1) = true := by
  refine isReadable_record ?_
  simp [Predicate.toDoc, Option.all_map]

end Inlet

namespace Outlet

theorem ofConfigJson?_toConfigDoc (o : Outlet) : ofConfigJson? o.toConfigDoc.toJson = some o := by
  have hrecord : o.toConfigDoc.toJson.record? outletConfigKeys = some _ :=
    record?_written (by simp)
  simp only [List.map_cons, List.map_nil, Option.map_some] at hrecord
  rw [ofConfigJson?, hrecord]
  simp only [required_text, required_flag, optional_predicate]
  rfl

theorem ofConfigJson?_array (os : List Outlet) :
    ofConfigJson? (.array (os.map fun o => o.toConfigDoc.toJson)) = none := by
  rw [ofConfigJson?]
  split
  · rename_i heq
    rw [eq_head_of_record? heq]
    cases os <;> rfl
  · rfl

theorem isReadable_toConfigDoc (o : Outlet) (room : Nat) :
    o.toConfigDoc.toJson.isReadable (room + 1) = true := by
  refine isReadable_record ?_
  simp [Predicate.toDoc, Option.all_map]

end Outlet

/-- A section is read as the kind it was written as. -/
theorem Section.ofJson?_toDoc {α : Type} {entry : Json → Option α} {doc : α → Doc}
    (hread : ∀ a, entry (doc a).toJson = some a)
    (harray : ∀ as : List α, entry (.array (as.map fun a => (doc a).toJson)) = none)
    (hreadable : ∀ a room, (doc a).toJson.isReadable (room + 1) = true) (s : Section α) :
    Section.ofJson? entry (s.toDoc doc).toJson = some s := by
  have hroom : bracketRoom - 1 = 124 + 1 + 1 := rfl
  cases s with
  | one a => rw [toDoc, ofJson?, hroom, if_pos (hreadable a _), hread]
  | list as =>
    have has : (Doc.list (as.map doc)).toJson.isReadable (124 + 1 + 1) = true := by
      refine isReadable_list fun d hd => ?_
      obtain ⟨a, -, rfl⟩ := List.mem_map.1 hd
      exact hreadable a 124
    have hjson : (Doc.list (as.map doc)).toJson = .array (as.map fun a => (doc a).toJson) := by
      rw [Doc.toJson, itemsToJson_eq_map, List.map_map]
      rfl
    rw [toDoc, ofJson?, hroom, if_pos has, hjson, harray]
    simp only [Json.list?]
    rw [mapM_map_eq_some fun a _ => hread a, List.map_id']
    rfl

namespace NodeConfig

theorem ofJson?_toDoc (c : NodeConfig) : ofJson? c.toDoc.toJson = some c := by
  have hinlet := Section.ofJson?_toDoc Inlet.ofConfigJson?_toConfigDoc Inlet.ofConfigJson?_array
    Inlet.isReadable_toConfigDoc c.kafkaInlet
  have houtlet := Section.ofJson?_toDoc Outlet.ofConfigJson?_toConfigDoc
    Outlet.ofConfigJson?_array Outlet.isReadable_toConfigDoc c.kafkaOutlet
  have hrecord : c.toDoc.toJson.record? configKeys = some _ := record?_written (by simp)
  simp only [List.map_cons, List.map_nil, Option.map_some] at hrecord
  rw [ofJson?, hrecord]
  simp only [optional_text, required, hinlet, houtlet]
  rfl

theorem ofText_of_json {s : String} {c : NodeConfig} (h : Json.ofText? s = some c.toDoc.toJson) :
    ofText s = .ok c := by
  rw [ofText, h, Option.bind_eq_bind, Option.bind_some, ofJson?_toDoc]

/-- Every configuration is read back from both of its documents, and what is read back from
the document of a spec is the spec, under the layout it was built with and without a name. -/
theorem ofText_written :
    (∀ c : NodeConfig, ofText c.compact = .ok c ∧ ofText c.pretty = .ok c) ∧
    ∀ (layout : Layout) (spec : NodeSpec) (c : NodeConfig), spec.build layout = .ok c →
      ∀ text ∈ [c.compact, c.pretty], ∃ c', ofText text = .ok c' ∧
        c'.name = none ∧ c'.identity = spec.identity ∧
        c'.tcpListenerAddress = spec.listenerAddress ∧ c'.ticket = spec.ticket ∧
        c'.relay = spec.relay ∧ c'.kafkaInlet = .lay layout spec.inlet ∧
        c'.kafkaOutlet = .lay layout spec.outlet ∧ c'.kafkaInlet.layout = layout ∧
        c'.kafkaOutlet.layout = layout := by
  have hboth : ∀ c : NodeConfig, ofText c.compact = .ok c ∧ ofText c.pretty = .ok c := fun c =>
    ⟨ofText_of_json (Json.ofText?_compact _), ofText_of_json (Json.ofText?_pretty _)⟩
  refine ⟨hboth, ?_⟩
  intro layout spec c hbuild text htext
  obtain ⟨-, rfl⟩ := NodeSpec.build_eq_ok_iff.1 hbuild
  refine ⟨spec.render layout, ?_, rfl, rfl, rfl, rfl, rfl, rfl, rfl, Section.layout_lay _ _,
    Section.layout_lay _ _⟩
  simp only [List.mem_cons, List.not_mem_nil, or_false] at htext
  rcases htext with rfl | rfl
  · exact (hboth _).1
  · exact (hboth _).2

/-- A ticket that would pass for the end of its text and a further member. -/
def hostileSpec : NodeSpec where
  identity := some "quote \" backslash \\ control \x01"
  ticket := some "x\", \"relay\": \"evil"
  inlet := { source := "127.0.0.1:7000", allow := some (.identifierEquals "abc") }
  outlet := { bootstrapServer := "broker:9092" }

theorem ofText_written_hostile :
    ∃ c c', hostileSpec.build .list = .ok c ∧ ofText c.compact = .ok c' ∧
      c'.identity = hostileSpec.identity ∧ c'.ticket = some "x\", \"relay\": \"evil" ∧
      c'.relay = none ∧ c'.kafkaInlet = .list [hostileSpec.inlet] ∧ c'.kafkaInlet.layout = .list := by
  have hbuild : hostileSpec.build .list = .ok _ := rfl
  obtain ⟨c', hread, -, hidentity, -, hticket, hrelay, hinlet, -, hlayout, -⟩ :=
    ofText_written.2 .list hostileSpec _ hbuild _ List.mem_cons_self
  exact ⟨_, c', hbuild, hread, hidentity, hticket, hrelay, hinlet, hlayout⟩

end NodeConfig

end NodeWarden
