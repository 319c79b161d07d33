import NodeWarden.Json.Reader

/-! How a tree is spelled. Blanks may stand around every value and every key, a character of a
string is given as itself or escaped, and a number is given by its digits. A tree has many
spellings, and a spelling is that of one tree. -/

namespace NodeWarden

/-- Nothing but blanks. -/
def AreBlanks (ws : List Symbol) : Prop := ∀ x ∈ ws, ∃ c, x = some c ∧ isJsonSpace c = true

inductive SpellsPiece : Piece → List Symbol → Prop
  | plain {c : Char} : c ≠ '"' → c ≠ '\\' → ¬ c < ' ' → SpellsPiece (.char c) [some c]
  | short {e c : Char} : simpleEscape? e = some c → SpellsPiece (.char c) [some '\\', some e]
  | unit {a b c d : Symbol} {u : Nat} : hexUnit? a b c d = some u →
      SpellsPiece (unitPiece u) [some '\\', some 'u', a, b, c, d]
  | broken : SpellsPiece .broken [none]

inductive SpellsText : RawText → List Symbol → Prop
  | nil : SpellsText [] []
  | cons {p : Piece} {s : RawText} {cs more : List Symbol} : SpellsPiece p cs → SpellsText s more →
      SpellsText (p :: s) (cs ++ more)

inductive SpellsDigits : List Nat → List Symbol → Prop
  | nil : SpellsDigits [] []
  | cons {c : Char} {d : Nat} {ds : List Nat} {cs : List Symbol} : digit? c = some d →
      SpellsDigits ds cs → SpellsDigits (d :: ds) (some c :: cs)

inductive SpellsFraction : List Nat → List Symbol → Prop
  | absent : SpellsFraction [] []
  | given {ds : List Nat} {cs : List Symbol} : ds ≠ [] → SpellsDigits ds cs →
      SpellsFraction ds (some '.' :: cs)

inductive SpellsExponent : Int → List Symbol → Prop
  | absent : SpellsExponent 0 []
  | unsigned {mark : Char} {ds : List Nat} {cs : List Symbol} : mark = 'e' ∨ mark = 'E' →
      ds ≠ [] → SpellsDigits ds cs → SpellsExponent (digitsValue ds) (some mark :: cs)
  | plus {mark : Char} {ds : List Nat} {cs : List Symbol} : mark = 'e' ∨ mark = 'E' →
      ds ≠ [] → SpellsDigits ds cs → SpellsExponent (digitsValue ds) (some mark :: some '+' :: cs)
  | minus {mark : Char} {ds : List Nat} {cs : List Symbol} : mark = 'e' ∨ mark = 'E' →
      ds ≠ [] → SpellsDigits ds cs →
      SpellsExponent (-(digitsValue ds : Int)) (some mark :: some '-' :: cs)

/-- A number after its sign. -/
structure SpellsMagnitude (n : Number) (cs : List Symbol) : Prop where
  /-- No zero leads. -/
  whole : n.whole ≠ [] ∧ ∀ d ds, n.whole ≠ 0 :: d :: ds
  parts : ∃ ws fs es, cs = ws ++ (fs ++ es) ∧ SpellsDigits n.whole ws ∧
    SpellsFraction n.fraction fs ∧ SpellsExponent n.exponent es

/-- A key with its quotes and the blanks around it. -/
inductive SpellsKey : RawText → List Symbol → Prop
  | padded {ws cs us : List Symbol} {key : RawText} : AreBlanks ws → SpellsText key cs →
      AreBlanks us → SpellsKey key (ws ++ some '"' :: (cs ++ some '"' :: us))

mutual

/-- A value without the blanks around it. -/
inductive SpellsValue : Json → List Symbol → Prop
  | null : SpellsValue .null [some 'n', some 'u', some 'l', some 'l']
  | yes : SpellsValue (.flag true) [some 't', some 'r', some 'u', some 'e']
  | no : SpellsValue (.flag false) [some 'f', some 'a', some 'l', some 's', some 'e']
  | positive {n : Number} {cs : List Symbol} : n.negative = false → SpellsMagnitude n cs →
      SpellsValue (.number n) cs
  | negative {n : Number} {cs : List Symbol} : n.negative = true → SpellsMagnitude n cs →
      SpellsValue (.number n) (some '-' :: cs)
  | string {s : RawText} {cs : List Symbol} : SpellsText s cs →
      SpellsValue (.string s) (some '"' :: (cs ++ [some '"']))
  | emptyArray {ws : List Symbol} : AreBlanks ws →
      SpellsValue (.array []) (some '[' :: (ws ++ [some ']']))
  | array {items : List Json} {cs : List Symbol} : SpellsItems items cs →
      SpellsValue (.array items) (some '[' :: cs)
  | emptyObject {ws : List Symbol} : AreBlanks ws →
      SpellsValue (.object []) (some '\x7b' :: (ws ++ [some '\x7d']))
  | object {members : List (RawText × Json)} {cs : List Symbol} : SpellsMembers members cs →
      SpellsValue (.object members) (some '\x7b' :: cs)

/-- A value with blanks around it. -/
inductive Spells : Json → List Symbol → Prop
  | padded {j : Json} {ws cs us : List Symbol} : AreBlanks ws → SpellsValue j cs → AreBlanks us →
      Spells j (ws ++ (cs ++ us))

/-- The items of an array that has some, and its end. -/
inductive SpellsItems : List Json → List Symbol → Prop
  | last {item : Json} {cs : List Symbol} : Spells item cs → SpellsItems [item] (cs ++ [some ']'])
  | cons {item : Json} {items : List Json} {cs more : List Symbol} : Spells item cs →
      SpellsItems items more → SpellsItems (item :: items) (cs ++ some ',' :: more)

/-- The members of an object that has some, and its end. -/
inductive SpellsMembers : List (RawText × Json) → List Symbol → Prop
  | last {key : RawText} {value : Json} {ks cs : List Symbol} : SpellsKey key ks →
      Spells value cs → SpellsMembers [(key, value)] (ks ++ some ':' :: (cs ++ [some '\x7d']))
  | cons {key : RawText} {value : Json} {members : List (RawText × Json)}
      {ks cs more : List Symbol} : SpellsKey key ks → Spells value cs →
      SpellsMembers members more →
      SpellsMembers ((key, value) :: members) (ks ++ some ':' :: (cs ++ some ',' :: more))

end

theorem AreBlanks.nil : AreBlanks [] := fun _ hx => nomatch hx

theorem AreBlanks.head {c : Char} {ws : List Symbol} (h : AreBlanks (some c :: ws)) :
    isJsonSpace c = true := by
  obtain ⟨c, hc, hspace⟩ := h _ List.mem_cons_self
  cases hc
  exact hspace

theorem AreBlanks.tail {x : Symbol} {ws : List Symbol} (h : AreBlanks (x :: ws)) : AreBlanks ws :=
  fun y hy => h y (List.mem_cons_of_mem _ hy)

/-- A value with blanks before it only. -/
theorem Spells.before {j : Json} {ws cs : List Symbol} (hws : AreBlanks ws)
    (h : SpellsValue j cs) : Spells j (ws ++ cs) := by
  have hpadded := Spells.padded hws h .nil
  rwa [List.append_nil] at hpadded

/-- A value alone. -/
theorem Spells.of_value {j : Json} {cs : List Symbol} (h : SpellsValue j cs) : Spells j cs :=
  .before .nil h

/-- A key that is well spelled and no text: one half of a surrogate pair. -/
theorem spells_halfPair : SpellsKey [.surrogate 0xD800]
    (['"', '\\', 'u', 'd', '8', '0', '0', '"'].map some) := by
  have hunit : hexUnit? (some 'd') (some '8') (some '0') (some '0') = some 0xD800 := by decide
  exact .padded .nil (.cons (.unit hunit) .nil) .nil

end NodeWarden
