import NodeWarden.Json.Printer
import NodeWarden.Proofs.Json.Reading

/-! What is written, on one line or indented, is a spelling of the tree of the document, and
is read as this tree whatever characters its texts are made of. -/

namespace NodeWarden

theorem hexPadded_four (n : Nat) : hexPadded 4 n =
    [hexDigit (n / 16 / 16 / 16 % 16), hexDigit (n / 16 / 16 % 16), hexDigit (n / 16 % 16),
      hexDigit (n % 16)] := rfl

theorem hexUnit?_hexPadded {n : Nat} (h : n < 0x10000) {a b c d : Char}
    (hchars : hexPadded 4 n = [a, b, c, d]) :
    hexUnit? (some a) (some b) (some c) (some d) = some n := by
  rw [hexPadded_four] at hchars
  cases hchars
  have hdigit : ∀ m, hexValue? (hexDigit (m % 16)) = some (m % 16) := fun m =>
    hexValue?_hexDigit (Nat.mod_lt m (by decide))
  simp only [hexUnit?, hdigit, Option.bind_eq_bind, Option.bind_some, Option.pure_def,
    Option.some.injEq]
  omega

theorem unitPiece_control {c : Char} (h : c < ' ') : unitPiece c.toNat = .char c := by
  have hlow : c.toNat < 32 := h
  have hhigh : isHighSurrogate c.toNat = false := by
    simp only [isHighSurrogate, Bool.and_eq_false_iff, decide_eq_false_iff_not]
    omega
  have hlow' : isLowSurrogate c.toNat = false := by
    simp only [isLowSurrogate, Bool.and_eq_false_iff, decide_eq_false_iff_not]
    omega
  rw [unitPiece, hhigh, hlow', Char.ofNat_toNat]
  rfl

theorem spells_escapeChar (c : Char) : SpellsPiece (.char c) ((escapeChar c).map some) := by
  unfold escapeChar
  -- the seven characters that have an escape of their own
  iterate 7
    split
    · rename_i hc
      subst hc
      exact .short rfl
  split
  · rename_i hcontrol
    have hlow : c.toNat < 32 := hcontrol
    rw [← unitPiece_control hcontrol, hexPadded_four]
    exact .unit (hexUnit?_hexPadded (by omega) (hexPadded_four _))
  · rename_i hquote hslash _ _ _ _ _ hcontrol
    exact .plain hquote hslash hcontrol

theorem spells_escaped (cs : List Char) :
    SpellsText (.ofChars cs) ((cs.flatMap escapeChar).map some) := by
  induction cs with
  | nil => exact .nil
  | cons c cs ih =>
    rw [List.flatMap_cons, List.map_append]
    exact .cons (spells_escapeChar c) ih

theorem map_quoted (s : String) : (quoted s).map some =
    some '"' :: ((s.toList.flatMap escapeChar).map some ++ [some '"']) := by
  simp [quoted]

theorem spells_quoted (s : String) :
    SpellsValue (.string (.ofChars s.toList)) ((quoted s).map some) := by
  rw [map_quoted]
  exact .string (spells_escaped _)

theorem spells_key {ws : List Symbol} (h : AreBlanks ws) (s : String) :
    SpellsKey (.ofChars s.toList) (ws ++ (quoted s).map some) := by
  rw [map_quoted]
  exact .padded h (spells_escaped _) .nil

theorem spells_flagWord (b : Bool) : SpellsValue (.flag b) ((flagWord b).map some) := by
  cases b with
  | true => exact .yes
  | false => exact .no

theorem areBlanks_newLine (depth : Nat) : AreBlanks ((newLine depth).map some) := by
  intro x hx
  obtain ⟨c, hc, rfl⟩ := List.mem_map.1 hx
  refine ⟨c, rfl, ?_⟩
  rcases List.mem_cons.1 hc with rfl | hc
  · decide
  · rw [List.eq_of_mem_replicate hc]
    decide

theorem areBlanks_space : AreBlanks [some ' '] := by
  intro x hx
  exact ⟨' ', List.mem_singleton.1 hx, rfl⟩

/-! ## On one line -/

mutual

theorem spells_compact : (d : Doc) → SpellsValue d.toJson (d.compactChars.map some)
  | .null => .null
  | .flag b => spells_flagWord b
  | .text s => spells_quoted s
  | .list [] => .emptyArray .nil
  | .list (item :: items) => by
    rw [Doc.compactChars, List.cons_append, List.map_cons, List.map_append]
    exact .array (spells_compactItems items (.of_value (spells_compact item)))
  | .record [] => .emptyObject .nil
  | .record ((key, value) :: members) => by
    simp only [Doc.compactChars, List.cons_append, List.append_assoc, List.map_cons,
      List.map_append]
    exact .object (spells_compactMembers members (spells_key .nil key)
      (.of_value (spells_compact value)))

theorem spells_compactItems : (items : List Doc) → {j : Json} → {cs : List Symbol} →
    Spells j cs → SpellsItems (j :: itemsToJson items) (cs ++ (compactItems items).map some)
  | [], _, _, h => .last h
  | item :: items, _, _, h => by
    rw [compactItems, List.cons_append, List.map_cons, List.map_append]
    exact .cons h (spells_compactItems items (.of_value (spells_compact item)))

theorem spells_compactMembers : (members : List (String × Doc)) → {key : RawText} → {j : Json} →
    {ks cs : List Symbol} → SpellsKey key ks → Spells j cs →
    SpellsMembers ((key, j) :: membersToJson members)
      (ks ++ some ':' :: (cs ++ (compactMembers members).map some))
  | [], _, _, _, _, hkey, hvalue => .last hkey hvalue
  | (key, value) :: members, _, _, _, _, hkey, hvalue => by
    simp only [compactMembers, List.cons_append, List.append_assoc, List.map_cons, List.map_append]
    exact .cons hkey hvalue (spells_compactMembers members (spells_key .nil key)
      (.of_value (spells_compact value)))

end

/-! ## Indented -/

mutual

theorem spells_pretty : (d : Doc) → (depth : Nat) →
    SpellsValue d.toJson ((d.prettyChars depth).map some)
  | .null, _ => .null
  | .flag b, _ => spells_flagWord b
  | .text s, _ => spells_quoted s
  | .list [], _ => .emptyArray .nil
  | .list (item :: items), depth => by
    simp only [Doc.prettyChars, List.cons_append, List.append_assoc, List.map_cons,
      List.map_append]
    exact .array (spells_prettyItems items depth (spells_pretty item (depth + 1)))
  | .record [], _ => .emptyObject .nil
  | .record ((key, value) :: members), depth => by
    simp only [Doc.prettyChars, List.cons_append, List.append_assoc, List.map_cons,
      List.map_append]
    exact .object (spells_prettyMembers members depth key (spells_pretty value (depth + 1)))

theorem spells_prettyItems : (items : List Doc) → (depth : Nat) → {j : Json} →
    {cs : List Symbol} → SpellsValue j cs →
    SpellsItems (j :: itemsToJson items)
      ((newLine (depth + 1)).map some ++ (cs ++ (prettyItems depth items).map some))
  | [], depth, _, _, h => by
    have hlast := SpellsItems.last (.padded (areBlanks_newLine (depth + 1)) h
      (areBlanks_newLine depth))
    simp only [List.append_assoc] at hlast
    simp only [prettyItems, List.map_append]
    exact hlast
  | item :: items, depth, _, _, h => by
    have hcons := SpellsItems.cons (.before (areBlanks_newLine (depth + 1)) h)
      (spells_prettyItems items depth (spells_pretty item (depth + 1)))
    simp only [List.append_assoc] at hcons
    simp only [prettyItems, List.cons_append, List.append_assoc, List.map_cons, List.map_append]
    exact hcons

theorem spells_prettyMembers : (members : List (String × Doc)) → (depth : Nat) →
    (key : String) → {j : Json} → {cs : List Symbol} → SpellsValue j cs →
    SpellsMembers ((.ofChars key.toList, j) :: membersToJson members)
      ((newLine (depth + 1)).map some ++ ((quoted key).map some ++
        some ':' :: some ' ' :: (cs ++ (prettyMembers depth members).map some)))
  | [], depth, key, _, _, h => by
    have hlast := SpellsMembers.last (spells_key (areBlanks_newLine (depth + 1)) key)
      (.padded areBlanks_space h (areBlanks_newLine depth))
    simp only [List.append_assoc] at hlast
    simp only [prettyMembers, List.map_append]
    exact hlast
  | (next, value) :: members, depth, key, _, _, h => by
    have hcons := SpellsMembers.cons (spells_key (areBlanks_newLine (depth + 1)) key)
      (.before areBlanks_space h)
      (spells_prettyMembers members depth next (spells_pretty value (depth + 1)))
    simp only [List.append_assoc] at hcons
    simp only [prettyMembers, List.cons_append, List.append_assoc, List.map_cons, List.map_append]
    exact hcons

end

theorem spells_compactText (d : Doc) : Spells d.toJson (d.compact.toList.map some) := by
  rw [Doc.compact, String.toList_ofList]
  exact .of_value (spells_compact d)

theorem Json.ofText?_compact (d : Doc) : Json.ofText? d.compact = some d.toJson :=
  Json.read?_spelled (spells_compactText d)

theorem Json.ofText?_pretty (d : Doc) : Json.ofText? d.pretty = some d.toJson := by
  rw [Json.ofText?, Doc.pretty, String.toList_ofList]
  exact Json.read?_spelled (.of_value (spells_pretty d 0))

/-- The line break behind a document that is printed is skipped. -/
theorem Json.ofText?_prettyLine (d : Doc) : Json.ofText? (d.pretty ++ "\n") = some d.toJson := by
  rw [Json.ofText?, String.toList_append, Doc.pretty, String.toList_ofList, List.map_append]
  exact Json.read?_spelled (.padded .nil (spells_pretty d 0) (areBlanks_newLine 0))

end NodeWarden
