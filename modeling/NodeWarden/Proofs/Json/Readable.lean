import NodeWarden.Proofs.Json.Members

/-! What makes a value readable throughout: all numbers in it are in range, all strings and keys in
it are text, and there is room for its brackets. How deep anything lies in it makes no difference
otherwise. -/

namespace NodeWarden

namespace Json

/-- A value stands somewhere in another, or is the other. -/
inductive Within (part : Json) : Json → Prop
  | refl : Within part part
  | item {items : List Json} {item : Json} : item ∈ items → Within part item →
      Within part (.array items)
  | value {members : List (RawText × Json)} {m : RawText × Json} : m ∈ members →
      Within part m.2 → Within part (.object members)

mutual

/-- How many brackets are open at once. -/
def depth : Json → Nat
  | .array items => depthOfItems items + 1
  | .object members => depthOfMembers members + 1
  | _ => 0

def depthOfItems : List Json → Nat
  | [] => 0
  | item :: items => max item.depth (depthOfItems items)

def depthOfMembers : List (RawText × Json) → Nat
  | [] => 0
  | (_, value) :: members => max value.depth (depthOfMembers members)

end

/-- All of a value can be read where `room` more brackets may be opened. -/
structure Readable (room : Nat) (j : Json) : Prop where
  depth : j.depth ≤ room
  numbers : ∀ n, Within (.number n) j → n.inRange = true
  texts : ∀ s, Within (.string s) j → s.text?.isSome
  keys : ∀ members, Within (.object members) j → HasTextKeys members

variable {room : Nat} {part j : Json} {items : List Json} {members : List (RawText × Json)}

theorem depthOfItems_le_iff : depthOfItems items ≤ room ↔ ∀ item ∈ items, item.depth ≤ room := by
  induction items with
  | nil => simp [depthOfItems]
  | cons item items ih => rw [depthOfItems, Nat.max_le, ih, List.forall_mem_cons]

theorem depthOfMembers_le_iff :
    depthOfMembers members ≤ room ↔ ∀ m ∈ members, m.2.depth ≤ room := by
  induction members with
  | nil => simp [depthOfMembers]
  | cons m members ih => rw [depthOfMembers, Nat.max_le, ih, List.forall_mem_cons]

/-- There is nothing in a value without brackets but itself. -/
theorem Within.eq_of_depth (h : Within part j) (hdepth : j.depth = 0) : part = j := by
  cases h with
  | refl => rfl
  | item _ _ => rw [Json.depth] at hdepth; omega
  | value _ _ => rw [Json.depth] at hdepth; omega

theorem readable_leaf (hdepth : j.depth = 0) (hnumber : ∀ n, j = .number n → n.inRange = true)
    (hstring : ∀ s, j = .string s → s.text?.isSome) (hobject : ∀ members, j ≠ .object members) :
    Readable room j where
  depth := Nat.le_trans (Nat.le_of_eq hdepth) room.zero_le
  numbers _ h := hnumber _ (h.eq_of_depth hdepth).symm
  texts _ h := hstring _ (h.eq_of_depth hdepth).symm
  keys _ h := absurd (h.eq_of_depth hdepth).symm (hobject _)

theorem readable_number_iff {n : Number} : Readable room (.number n) ↔ n.inRange = true := by
  refine ⟨fun h => h.numbers n .refl, fun hn => readable_leaf rfl ?_ nofun nofun⟩
  rintro _ ⟨⟩
  exact hn

theorem readable_string_iff {s : RawText} : Readable room (.string s) ↔ s.text?.isSome := by
  refine ⟨fun h => h.texts s .refl, fun hs => readable_leaf rfl nofun ?_ nofun⟩
  rintro _ ⟨⟩
  exact hs

theorem isSome_text? {s : RawText} : s.text?.isSome = s.chars?.isSome := Option.isSome_map

theorem readable_array_iff : Readable room (.array items) ↔
    room ≠ 0 ∧ ∀ item ∈ items, Readable (room - 1) item := by
  constructor
  · intro h
    have hdepth := h.depth
    rw [Json.depth] at hdepth
    refine ⟨by omega, fun item hitem => ⟨?_, ?_, ?_, ?_⟩⟩
    · exact depthOfItems_le_iff.1 (Nat.le_sub_one_of_lt hdepth) item hitem
    · exact fun n hn => h.numbers n (.item hitem hn)
    · exact fun s hs => h.texts s (.item hitem hs)
    · exact fun ms hms => h.keys ms (.item hitem hms)
  · rintro ⟨hroom, hitems⟩
    refine ⟨?_, ?_, ?_, ?_⟩
    · have hdepth := depthOfItems_le_iff.2 fun item hitem => (hitems item hitem).depth
      rw [Json.depth]
      omega
    · rintro n (_ | ⟨hitem, hn⟩)
      exact (hitems _ hitem).numbers n hn
    · rintro s (_ | ⟨hitem, hs⟩)
      exact (hitems _ hitem).texts s hs
    · rintro ms (_ | ⟨hitem, hms⟩)
      exact (hitems _ hitem).keys ms hms

theorem readable_object_iff : Readable room (.object members) ↔
    room ≠ 0 ∧ HasTextKeys members ∧ ∀ m ∈ members, Readable (room - 1) m.2 := by
  constructor
  · intro h
    have hdepth := h.depth
    rw [Json.depth] at hdepth
    refine ⟨by omega, h.keys _ .refl, fun m hm => ⟨?_, ?_, ?_, ?_⟩⟩
    · exact depthOfMembers_le_iff.1 (Nat.le_sub_one_of_lt hdepth) m hm
    · exact fun n hn => h.numbers n (.value hm hn)
    · exact fun s hs => h.texts s (.value hm hs)
    · exact fun ms hms => h.keys ms (.value hm hms)
  · rintro ⟨hroom, hkeys, hmembers⟩
    refine ⟨?_, ?_, ?_, ?_⟩
    · have hdepth := depthOfMembers_le_iff.2 fun m hm => (hmembers m hm).depth
      rw [Json.depth]
      omega
    · rintro n (_ | _ | ⟨hm, hn⟩)
      exact (hmembers _ hm).numbers n hn
    · rintro s (_ | _ | ⟨hm, hs⟩)
      exact (hmembers _ hm).texts s hs
    · rintro ms (_ | _ | ⟨hm, hms⟩)
      · exact hkeys
      · exact (hmembers _ hm).keys ms hms

/-! The reader's check asks for just that. -/

mutual

theorem isReadable_iff : (j : Json) → (room : Nat) → (j.isReadable room = true ↔ Readable room j)
  | .null, _ => iff_of_true rfl (readable_leaf rfl nofun nofun nofun)
  | .flag _, _ => iff_of_true rfl (readable_leaf rfl nofun nofun nofun)
  | .number n, _ => by rw [isReadable, readable_number_iff]
  | .string s, _ => by rw [isReadable, readable_string_iff, isSome_text?]
  | .array items, room => by
    rw [isReadable, readable_array_iff, Bool.and_eq_true, bne_iff_ne, areReadable_iff]
  | .object members, room => by
    rw [isReadable, readable_object_iff, Bool.and_eq_true, bne_iff_ne, areReadableMembers_iff]

theorem areReadable_iff : (items : List Json) → (room : Nat) →
    (areReadable room items = true ↔ ∀ item ∈ items, Readable room item)
  | [], _ => iff_of_true rfl fun _ h => nomatch h
  | item :: items, room => by
    rw [areReadable, Bool.and_eq_true, isReadable_iff, areReadable_iff, List.forall_mem_cons]

theorem areReadableMembers_iff : (members : List (RawText × Json)) → (room : Nat) →
    (areReadableMembers room members = true ↔
      HasTextKeys members ∧ ∀ m ∈ members, Readable room m.2)
  | [], _ => iff_of_true rfl ⟨List.forall_mem_nil _, List.forall_mem_nil _⟩
  | (key, value) :: members, room => by
    rw [areReadableMembers, Bool.and_eq_true, Bool.and_eq_true, isReadable_iff,
      areReadableMembers_iff, HasTextKeys, HasTextKeys, List.forall_mem_cons, List.forall_mem_cons,
      isSome_text?, and_and_and_comm]

end

end Json

end NodeWarden
