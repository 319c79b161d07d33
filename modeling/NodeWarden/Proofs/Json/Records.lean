import NodeWarden.Json.Printer
import NodeWarden.Json.Record

/-! Records that were written and are read again. A field is found under its key, and one that
was not written is found to be left out. -/

namespace NodeWarden

variable {table : List (String × Option Doc)} {room : Nat}

/-- The members of a written record, as its reader finds them. -/
def written (table : List (String × Option Doc)) : List (String × Json) :=
  (presentMembers table).map fun (key, value) => (key, value.toJson)

theorem written_cons_none (key : String) (table : List (String × Option Doc)) :
    written ((key, none) :: table) = written table := rfl

theorem written_cons_some (key : String) (d : Doc) (table : List (String × Option Doc)) :
    written ((key, some d) :: table) = (key, d.toJson) :: written table := rfl

theorem textMembers?_toJson (members : List (String × Doc)) :
    textMembers? (membersToJson members) =
      some (members.map fun (key, value) => (key, value.toJson)) := by
  induction members with
  | nil => rfl
  | cons m members ih =>
    rw [textMembers?] at ih ⊢
    simp only [membersToJson, List.mapM_cons, RawText.text?_ofChars, Option.map_some, ih]
    rfl

theorem filter_written_of_absent {key : String} (h : key ∉ table.map (·.1)) :
    ((written table).filter fun m => [key].contains m.1) = [] := by
  induction table with
  | nil => rfl
  | cons m table ih =>
    obtain ⟨k, value⟩ := m
    rw [List.map_cons, List.mem_cons, not_or] at h
    cases value with
    | none => exact ih h.2
    | some d =>
      rw [written_cons_some, List.filter_cons_of_neg (by simpa using Ne.symm h.1)]
      exact ih h.2

theorem field?_written (hkeys : (table.map (·.1)).Nodup) {m : String × Option Doc}
    (hm : m ∈ table) : field? (written table) [m.1] = some (m.2.map Doc.toJson) := by
  rw [field?]
  induction table with
  | nil => cases hm
  | cons n table ih =>
    rw [List.map_cons, List.nodup_cons] at hkeys
    obtain ⟨key, value⟩ := n
    rcases List.mem_cons.1 hm with rfl | htail
    · cases value with
      | none => rw [written_cons_none, filter_written_of_absent hkeys.1]; rfl
      | some d =>
        rw [written_cons_some, List.filter_cons_of_pos (by simp),
          filter_written_of_absent hkeys.1]
        rfl
    · have hne : m.1 ≠ key := fun heq => hkeys.1 (List.mem_map.2 ⟨m, htail, heq⟩)
      cases value with
      | none => exact ih hkeys.2 htail
      | some d =>
        rw [written_cons_some, List.filter_cons_of_neg (by simpa using Ne.symm hne)]
        exact ih hkeys.2 htail

theorem mapM_map_eq_some {α β γ : Type} {f : β → Option γ} {g : α → β} {k : α → γ} {l : List α}
    (h : ∀ a ∈ l, f (g a) = some (k a)) : (l.map g).mapM f = some (l.map k) := by
  induction l with
  | nil => rfl
  | cons a l ih =>
    rw [List.map_cons, List.mapM_cons, h a List.mem_cons_self,
      ih fun b hb => h b (List.mem_cons_of_mem _ hb)]
    rfl

theorem record?_written (hkeys : (table.map (·.1)).Nodup) :
    (Doc.record (presentMembers table)).toJson.record? (table.map fun m => [m.1]) =
      some (table.map fun m => m.2.map Doc.toJson) := by
  rw [Doc.toJson, Json.record?, textMembers?_toJson]
  exact mapM_map_eq_some fun m hm => field?_written hkeys hm

/-- Whatever is read of an array in place of a record, the first field is the first item. -/
theorem eq_head_of_record? {items : List Json} {fields : List (List String)}
    {first : Option Json} {more : List (Option Json)}
    (h : (Json.array items).record? fields = some (first :: more)) : first = items.head? := by
  rw [Json.record?] at h
  split at h
  · cases items with
    | nil =>
      rw [List.map_nil, List.nil_append, Option.some.injEq] at h
      exact List.eq_of_mem_replicate (h ▸ List.mem_cons_self)
    | cons item items =>
      cases h
      rfl
  · cases h

theorem optional_toJson {α : Type} {read : Json → Option α} {doc : α → Doc}
    (hread : ∀ a, read (doc a).toJson = some a) (hnull : ∀ a, (doc a).toJson ≠ .null)
    (o : Option α) : optional read ((o.map doc).map Doc.toJson) = some o := by
  cases o with
  | none => rfl
  | some a =>
    rw [Option.map_some, Option.map_some, optional.eq_def]
    split <;> rename_i heq
    · cases heq
    · exact absurd (Option.some.inj heq) (hnull a)
    · cases heq
      rw [hread]
      rfl

theorem itemsToJson_eq_map (docs : List Doc) : itemsToJson docs = docs.map Doc.toJson := by
  induction docs with
  | nil => rfl
  | cons d docs ih => rw [itemsToJson, ih, List.map_cons]

theorem isReadable_record
    (h : ∀ m ∈ table, (m.2.all fun d => d.toJson.isReadable room) = true) :
    (Doc.record (presentMembers table)).toJson.isReadable (room + 1) = true := by
  have hmembers : areReadableMembers room (membersToJson (presentMembers table)) = true := by
    induction table with
    | nil => rfl
    | cons m table ih =>
      have hrest := ih fun n hn => h n (List.mem_cons_of_mem _ hn)
      obtain ⟨key, value⟩ := m
      cases value with
      | none => exact hrest
      | some d =>
        have hd : d.toJson.isReadable room = true := h _ List.mem_cons_self
        simp only [presentMembers, List.filterMap_cons, Option.map_some, membersToJson,
          areReadableMembers, RawText.chars?_ofChars, Option.isSome_some, hd, Bool.true_and]
        exact hrest
  rw [Doc.toJson, Json.isReadable, Nat.add_sub_cancel, hmembers]
  rfl

theorem isReadable_list {docs : List Doc} (h : ∀ d ∈ docs, d.toJson.isReadable room = true) :
    (Doc.list docs).toJson.isReadable (room + 1) = true := by
  have hitems : areReadable room (itemsToJson docs) = true := by
    induction docs with
    | nil => rfl
    | cons d docs ih =>
      rw [itemsToJson, areReadable, h d List.mem_cons_self,
        ih fun e he => h e (List.mem_cons_of_mem _ he)]
      rfl
  rw [Doc.toJson, Json.isReadable, Nat.add_sub_cancel, hitems]
  rfl

@[simp] theorem isReadable_text (s : String) (room : Nat) :
    (Doc.text s).toJson.isReadable room = true := by
  rw [Doc.toJson, Json.isReadable, RawText.chars?_ofChars]
  rfl

@[simp] theorem isReadable_flag (b : Bool) (room : Nat) :
    (Doc.flag b).toJson.isReadable room = true := rfl

theorem required_text (s : String) : required Json.text? (some (Doc.text s).toJson) = some s :=
  RawText.text?_ofChars s

theorem required_flag (b : Bool) : required Json.flag? (some (Doc.flag b).toJson) = some b := rfl

theorem optional_text (o : Option String) :
    optional Json.text? ((o.map Doc.text).map Doc.toJson) = some o :=
  optional_toJson RawText.text?_ofChars (by simp [Doc.toJson]) o

end NodeWarden
