import NodeWarden.Proofs.Json.Readable
import NodeWarden.Proofs.Spellings

/-! Node lists in all their spellings. Every entry says one name, as a text or in an object, and the
names that can name a node are the list, in order and as often as they are said. One entry that says
no name, and nothing is read: a name that cannot name a node is passed over, an entry is not. -/

namespace NodeWarden

/-- An entry says a name. Nothing is asked of the other members of an object but that their values
are readable, with two brackets open around them. -/
inductive SaysName : Json → String → Prop
  | text {raw : RawText} {name : String} : raw.text? = some name → SaysName (.string raw) name
  | object {members : List (RawText × Json)} {raw : RawText} {name : String} :
      given members ["name", "node_name"] = [.string raw] → raw.text? = some name →
      (∀ m ∈ members, m.2.Readable (bracketRoom - 2)) → SaysName (.object members) name

/-- An entry says no name, or more than one. -/
inductive SaysNoName : Json → Prop
  | null : SaysNoName .null
  | flag (b : Bool) : SaysNoName (.flag b)
  | number (n : Number) : SaysNoName (.number n)
  | nameless {members : List (RawText × Json)} : given members ["name", "node_name"] = [] →
      SaysNoName (.object members)
  | twice {members : List (RawText × Json)} :
      1 < (given members ["name", "node_name"]).length → SaysNoName (.object members)
  | notText {members : List (RawText × Json)} {value : Json} :
      value ∈ given members ["name", "node_name"] → value.text? = none →
      SaysNoName (.object members)

/-- The keys of the entries are all text. -/
def EntriesKeyedInText (items : List Json) : Prop :=
  ∀ entry ∈ items, ∀ members, entry = .object members → HasTextKeys members

variable {members : List (RawText × Json)} {items : List Json} {entry : Json} {name text : String}

theorem listedName?_string (raw : RawText) : listedName? (.string raw) = raw.text? := by
  rw [listedName?, Json.isReadable, ← Json.isSome_text?]
  cases raw.text? <;> rfl

theorem text?_eq_some_iff : entry.text? = some name ↔
    ∃ raw, entry = .string raw ∧ raw.text? = some name := by
  cases entry <;> simp [Json.text?]

theorem required_text?_iff {value? : Option Json} : required Json.text? value? = some name ↔
    ∃ raw, value? = some (.string raw) ∧ raw.text? = some name := by
  cases value? with
  | none => simp [required]
  | some value => simp [required, text?_eq_some_iff]

/-- A name is read of members that have it once, if they are readable. -/
theorem listedName?_object_iff : listedName? (.object members) = some name ↔
    SaysName (.object members) name ∧ HasTextKeys members := by
  constructor
  · intro h
    rw [listedName?, Option.ite_none_right_eq_some] at h
    obtain ⟨hreadable, h⟩ := h
    obtain ⟨-, hkeys, hvalues⟩ :=
      Json.readable_object_iff.1 ((Json.isReadable_iff _ _).1 hreadable)
    split at h
    · rename_i value? hrecord
      obtain ⟨raw, rfl, hraw⟩ := required_text?_iff.1 h
      cases (record?_object_iff.1 hrecord).2 with
      | cons hgiven _ => exact ⟨.object hgiven hraw hvalues, hkeys⟩
    · cases h
  · rintro ⟨h, hkeys⟩
    cases h with
    | object hgiven hraw hvalues =>
      -- one bracket is open around the entry, and the entry opens another
      have hreadable : (Json.object members).Readable (bracketRoom - 1) :=
        Json.readable_object_iff.2 ⟨by decide, hkeys, hvalues⟩
      have hrecord : (Json.object members).record? [["name", "node_name"]] =
          some [some (.string _)] := record?_object_iff.2 ⟨hkeys, .cons hgiven .nil⟩
      rw [listedName?, if_pos ((Json.isReadable_iff _ _).2 hreadable), hrecord]
      exact hraw

theorem listedName?_eq_some_iff : listedName? entry = some name ↔
    (∀ members, entry = .object members → HasTextKeys members) ∧ SaysName entry name := by
  cases entry with
  | object members => simp [listedName?_object_iff, and_comm]
  | string raw =>
    rw [listedName?_string]
    refine ⟨fun h => ⟨nofun, .text h⟩, ?_⟩
    rintro ⟨-, ⟨h⟩⟩
    exact h
  | null | flag _ | number _ | array _ =>
    refine iff_of_false ?_ ?_
    · simp [listedName?]
    · rintro ⟨-, ⟨⟩⟩

theorem listedName?_eq_none (h : SaysNoName entry) : listedName? entry = none := by
  rw [Option.eq_none_iff_forall_ne_some]
  intro name hname
  cases (listedName?_eq_some_iff.1 hname).2 with
  | text _ => cases h
  | object hgiven hraw _ =>
    cases h with
    | nameless hnone => rw [hnone] at hgiven; cases hgiven
    | twice htwice => rw [hgiven] at htwice; simp at htwice
    | notText hvalue hnone =>
      rw [hgiven, List.mem_singleton] at hvalue
      subst hvalue
      rw [Json.text?, hraw] at hnone
      cases hnone

/-- A list is read entry by entry. -/
theorem mapM_listedName?_iff {names : List String} : items.mapM listedName? = some names ↔
    EntriesKeyedInText items ∧ List.Forall₂ SaysName items names := by
  simp only [mapM_eq_some_iff, listedName?_eq_some_iff, List.forall₂_and_left, EntriesKeyedInText]

theorem readNodeList?_spelled (h : Spells (.array items) (text.toList.map some)) :
    readNodeList? (textBytes text) = (items.mapM listedName?).map fun names =>
      names.filterMap fun name => (NodeName.parse name).toOption := by
  rw [readNodeList?, Json.ofBytes?, decodeUtf8_textBytes, Json.read?_spelled h]
  change (items.mapM listedName?).bind _ = _
  rw [Option.map_eq_bind]
  rfl

/-- However a list is spelled, it has the names that its entries say and that can name a node, if
every entry says a name and has keys of text, and there is no other list; one entry that says no
name, or more than one, and nothing is read. -/
theorem names_of_listing (hspelled : Spells (.array items) (text.toList.map some)) :
    (∀ ns, readNodeList? (textBytes text) = some ns ↔
      EntriesKeyedInText items ∧ ∃ names, List.Forall₂ SaysName items names ∧
        names.filterMap (fun name => (NodeName.parse name).toOption) = ns) ∧
    ((∃ entry ∈ items, SaysNoName entry) → readNodeList? (textBytes text) = none) := by
  rw [readNodeList?_spelled hspelled]
  constructor
  · intro ns
    simp only [Option.map_eq_some_iff, mapM_listedName?_iff, and_assoc, exists_and_left]
  · rintro ⟨entry, hentry, hnone⟩
    rw [Option.map_eq_none_iff, ← Option.not_isSome_iff_eq_none, mapM_isSome_iff]
    intro hall
    have hsome := hall entry hentry
    rw [listedName?_eq_none hnone] at hsome
    cases hsome

theorem entriesKeyedInText_itemsToJson (docs : List Doc) :
    EntriesKeyedInText (itemsToJson docs) := by
  rw [itemsToJson_eq_map]
  intro entry hentry members hmembers
  obtain ⟨d, -, rfl⟩ := List.mem_map.1 hentry
  cases d with
  | record table =>
    cases hmembers
    exact hasTextKeys_membersToJson table
  | null | flag _ | text _ | list _ => cases hmembers

/-- Both keys, an unknown member before one of them, a name said twice and one that no node has. -/
def mixedEntries : List Doc :=
  [.text "b-1", .record [("up", .list [.null]), ("node_name", .text "a")], .text "no name",
    .record [("name", .text "a")]]

/-- The second entry says its name under both keys. -/
def doubledEntries : List Doc :=
  [.text "a", .record [("name", .text "b"), ("node_name", .text "b")]]

theorem saysName_mixedEntries :
    List.Forall₂ SaysName (itemsToJson mixedEntries) ["b-1", "a", "no name", "a"] := by
  have hup : SaysName (.object (membersToJson [("up", .list [.null]), ("node_name", .text "a")]))
      "a" :=
    .object rfl (RawText.text?_ofChars "a") ((Json.areReadableMembers_iff _ _).1 (by decide)).2
  have hname : SaysName (.object (membersToJson [("name", .text "a")])) "a" :=
    .object rfl (RawText.text?_ofChars "a") ((Json.areReadableMembers_iff _ _).1 (by decide)).2
  exact .cons (.text (RawText.text?_ofChars "b-1")) (.cons hup
    (.cons (.text (RawText.text?_ofChars "no name")) (.cons hname .nil)))

theorem names_of_listing_mixed :
    (readNodeList? (textBytes (Doc.list mixedEntries).compact)).map (·.map NodeName.text) =
        some ["b-1", "a", "a"] ∧
      readNodeList? (textBytes (Doc.list doubledEntries).compact) = none := by
  constructor
  · have hspelled := spells_compactText (.list mixedEntries)
    have hread := ((names_of_listing hspelled).1 _).2
      ⟨entriesKeyedInText_itemsToJson _, _, saysName_mixedEntries, rfl⟩
    rw [hread]
    decide +kernel
  · have hspelled := spells_compactText (.list doubledEntries)
    exact (names_of_listing hspelled).2 ⟨_, List.mem_cons_of_mem _ List.mem_cons_self,
      .twice (by decide)⟩

/-! Documents with one entry, which says its name and has an unknown member besides. -/

/-- An unknown member, the name of which is half of a surrogate pair. -/
def halfKeyedEntry : List (RawText × Json) :=
  [(.ofChars "name".toList, .string (.ofChars "n".toList)), ([.surrogate 0xD800], .null)]

def halfKeyedListing : String := "[\x7b\"name\":\"n\",\"\\ud800\":null\x7d]"

theorem spells_halfKeyedListing :
    Spells (.array [.object halfKeyedEntry]) (halfKeyedListing.toList.map some) := by
  have hmember := SpellsMembers.last spells_halfPair (.of_value .null)
  have hmembers := SpellsMembers.cons (spells_key .nil "name")
    (.of_value (spells_quoted "n")) hmember
  exact .of_value (.array (.last (.of_value (.object hmembers))))

theorem saysName_halfKeyedEntry : SaysName (.object halfKeyedEntry) "n" := by
  have hvalues : ∀ m ∈ halfKeyedEntry, m.2.isReadable (bracketRoom - 2) = true := by decide
  exact .object rfl (RawText.text?_ofChars "n") fun m hm =>
    (Json.isReadable_iff _ _).1 (hvalues m hm)

/-- An empty list in as many others. -/
def nested : Nat → Doc
  | 0 => .list []
  | depth + 1 => .list [nested depth]

/-- An unknown member of 126 brackets, in all 128 with those around it. -/
def deepEntry : List (String × Doc) := [("name", .text "n"), ("x", nested 125)]

/-- The largest finite double. -/
def doubleMax : Nat := (Nat.pow 2 53 - 1) * Nat.pow 2 971

/-- The first nineteen digits of the largest finite double. -/
def hugeNumber : Number where
  negative := false
  whole := [1, 7, 9, 7, 6, 9, 3, 1, 3, 4, 8, 6, 2, 3, 1, 5, 7, 0, 8]
  fraction := []
  exponent := 290

def hugeEntry : List (RawText × Json) :=
  [(.ofChars "name".toList, .string (.ofChars "n".toList)),
    (.ofChars "x".toList, .number hugeNumber)]

def hugeListing : String := "[\x7b\"name\":\"n\",\"x\":1797693134862315708e290\x7d]"

theorem spells_hugeListing :
    Spells (.array [.object hugeEntry]) (hugeListing.toList.map some) := by
  have hwhole : SpellsDigits hugeNumber.whole ("1797693134862315708".toList.map some) := by
    iterate 19 refine .cons rfl ?_
    exact .nil
  have hexponent : SpellsExponent hugeNumber.exponent ("e290".toList.map some) :=
    .unsigned (.inl rfl) (List.cons_ne_nil 2 [9, 0]) (.cons rfl (.cons rfl (.cons rfl .nil)))
  have hnumber : SpellsMagnitude hugeNumber ("1797693134862315708e290".toList.map some) :=
    ⟨⟨by decide, by simp [hugeNumber]⟩, _, _, _, rfl, hwhole, .absent, hexponent⟩
  have hmembers := SpellsMembers.cons (spells_key .nil "name") (.of_value (spells_quoted "n"))
    (.last (spells_key .nil "x") (.of_value (.positive rfl hnumber)))
  exact .of_value (.array (.last (.of_value (.object hmembers))))

/-- The entry says its name once and all is well formed, but nothing is read: an unknown member has a
key that is no text, or 128 brackets are open at once, or a number is in the range of the doubles
and its digits, scaled, are not. -/
theorem listing_unread :
    (Spells (.array [.object halfKeyedEntry]) (halfKeyedListing.toList.map some) ∧
      SaysName (.object halfKeyedEntry) "n" ∧
      readNodeList? (textBytes halfKeyedListing) = none) ∧
    (given (membersToJson deepEntry) ["name", "node_name"] = [(Doc.text "n").toJson] ∧
      (Doc.list [.record deepEntry]).toJson.Readable 128 ∧
      readNodeList? (textBytes (Doc.list [.record deepEntry]).compact) = none) ∧
    (Spells (.array [.object hugeEntry]) (hugeListing.toList.map some) ∧
      given hugeEntry ["name", "node_name"] = [.string (.ofChars "n".toList)] ∧
      digitsValue hugeNumber.whole * Nat.pow 10 290 ≤ doubleMax ∧
      readNodeList? (textBytes hugeListing) = none) := by
  refine ⟨⟨spells_halfKeyedListing, saysName_halfKeyedEntry, ?_⟩, ⟨rfl, ?_, ?_⟩,
    spells_hugeListing, rfl, by decide +kernel, ?_⟩
  · rw [readNodeList?_spelled spells_halfKeyedListing]
    decide +kernel
  · exact (Json.isReadable_iff _ _).1 (by decide +kernel)
  · rw [readNodeList?_spelled (spells_compactText (.list [.record deepEntry]))]
    decide +kernel
  · rw [readNodeList?_spelled spells_hugeListing]
    decide +kernel

end NodeWarden
