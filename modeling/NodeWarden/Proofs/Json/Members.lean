import Mathlib.Data.List.Forall2
import NodeWarden.Json.Record

/-! What an object gives for the fields of a record. A field takes the one value that is given
under its names; the order of the members and the members of other names are nothing to it. -/

namespace NodeWarden

variable {α β : Type} {members : List (RawText × Json)} {names : List String}

/-- What is given under any of the names. -/
def given (members : List (RawText × Json)) (names : List String) : List Json :=
  (members.filter fun m => m.1.text?.any names.contains).map Prod.snd

/-- The members all have text for keys. -/
def HasTextKeys (members : List (RawText × Json)) : Prop := ∀ m ∈ members, m.1.text?.isSome

theorem mapM_isSome_iff {f : α → Option β} {l : List α} :
    (l.mapM f).isSome ↔ ∀ a ∈ l, (f a).isSome := by
  induction l with
  | nil => simp
  | cons a l ih =>
    rw [List.mapM_cons, List.forall_mem_cons, ← ih]
    cases f a with
    | none => simp
    | some b => cases l.mapM f <;> simp

theorem textMembers?_isSome_iff : (textMembers? members).isSome ↔ HasTextKeys members := by
  rw [textMembers?, mapM_isSome_iff]
  exact forall₂_congr fun m _ => by rw [Option.isSome_map]

theorem filter_textMembers {found : List (String × Json)} (h : textMembers? members = some found)
    (names : List String) :
    (found.filter fun m => names.contains m.1).map Prod.snd = given members names := by
  induction members generalizing found with
  | nil =>
    cases h
    rfl
  | cons m members ih =>
    rw [textMembers?, List.mapM_cons] at h
    obtain ⟨n, hn, h⟩ := Option.bind_eq_some_iff.1 h
    obtain ⟨more, hmore, h⟩ := Option.bind_eq_some_iff.1 h
    obtain ⟨key, hkey, rfl⟩ := Option.map_eq_some_iff.1 hn
    cases h
    have hrest := ih hmore
    rw [given] at hrest ⊢
    simp only [List.filter_cons, hkey, Option.any_some]
    split
    · rw [List.map_cons, List.map_cons, hrest]
    · exact hrest

/-- A field has what is given under its names, if that is one value at most. -/
theorem field?_eq_some_iff {found : List (String × Json)} (h : textMembers? members = some found)
    {value? : Option Json} :
    field? found names = some value? ↔ given members names = value?.toList := by
  rw [← filter_textMembers h, field?]
  generalize found.filter (fun m => names.contains m.1) = picked
  rcases picked with _ | ⟨m, _ | ⟨m', more⟩⟩ <;> cases value? <;> simp

theorem mapM_eq_some_iff {f : α → Option β} {l : List α} {bs : List β} :
    l.mapM f = some bs ↔ List.Forall₂ (fun a b => f a = some b) l bs := by
  induction l generalizing bs with
  | nil =>
    rw [List.mapM_nil, List.forall₂_nil_left_iff]
    exact Option.some_inj.trans eq_comm
  | cons a l ih =>
    rw [List.mapM_cons, List.forall₂_cons_left_iff]
    constructor
    · intro h
      obtain ⟨b, hb, h⟩ := Option.bind_eq_some_iff.1 h
      obtain ⟨more, hmore, h⟩ := Option.bind_eq_some_iff.1 h
      cases h
      exact ⟨b, more, hb, ih.1 hmore, rfl⟩
    · rintro ⟨b, more, hb, hmore, rfl⟩
      rw [hb, ih.2 hmore]
      rfl

theorem record?_object_iff {fields : List (List String)} {values : List (Option Json)} :
    (Json.object members).record? fields = some values ↔ HasTextKeys members ∧
      List.Forall₂ (fun names value? => given members names = value?.toList) fields values := by
  rw [Json.record?, ← textMembers?_isSome_iff]
  cases hfound : textMembers? members with
  | none => simp
  | some found =>
    rw [Option.isSome_some, Option.bind_eq_bind, Option.bind_some, mapM_eq_some_iff]
    simp only [field?_eq_some_iff hfound, true_and]

/-- A record is read of members only if their keys are text and no field is given twice. -/
theorem given_of_record? {fields : List (List String)}
    (h : ((Json.object members).record? fields).isSome) :
    HasTextKeys members ∧ ∀ names ∈ fields, (given members names).length ≤ 1 := by
  obtain ⟨values, hvalues⟩ := Option.isSome_iff_exists.1 h
  obtain ⟨hkeys, hfields⟩ := record?_object_iff.1 hvalues
  refine ⟨hkeys, ?_⟩
  clear h hvalues
  intro names hnames
  induction hfields with
  | nil => cases hnames
  | @cons _ value? _ _ hvalue _ ih =>
    rcases List.mem_cons.1 hnames with rfl | hnames
    · rw [hvalue]
      cases value? <;> simp
    · exact ih hnames

/-- The members give `a` for the field that goes by `names`: it is what `read` makes of the one
value under these names, or of there being none. -/
def Gives (members : List (RawText × Json)) (names : List String)
    (read : Option Json → Option α) (a : α) : Prop :=
  ∃ value? : Option Json, given members names = value?.toList ∧ read value? = some a

/-- A field that must be given is read of whatever is given for it. -/
theorem Gives.read_eq {read : Json → Option α} {a : α} {value : Json}
    (h : Gives members names (required read) a) (hvalue : value ∈ given members names) :
    read value = some a := by
  obtain ⟨value?, hgiven, hread⟩ := h
  rw [hgiven, Option.mem_toList] at hvalue
  cases hvalue
  exact hread

theorem given_append (members members' : List (RawText × Json)) (names : List String) :
    given (members ++ members') names = given members names ++ given members' names := by
  simp [given]

theorem given_perm {members' : List (RawText × Json)} (h : members.Perm members')
    (names : List String) : (given members names).Perm (given members' names) :=
  (h.filter _).map _

section

variable {key : RawText} {k : String} {value : Json}

theorem given_cons_of_mem (hkey : key.text? = some k) (hk : k ∈ names) :
    given ((key, value) :: members) names = value :: given members names := by
  simp [given, hkey, hk]

theorem given_cons_of_notMem (hkey : key.text? = some k) (hk : k ∉ names) :
    given ((key, value) :: members) names = given members names := by
  simp [given, hkey, hk]

end

/-- What may be done to the members of an object without a change to what is read of them. `known`
are the names of the fields, and `usual` says which value a field has when it is left out. -/
inductive MemberEdit (known : List String) (usual : String → Json → Prop) :
    List (RawText × Json) → List (RawText × Json) → Prop
  | permuted {members members' : List (RawText × Json)} : members.Perm members' →
      MemberEdit known usual members members'
  | inserted {before after : List (RawText × Json)} {key : RawText} {k : String} {value : Json} :
      key.text? = some k → k ∉ known →
      MemberEdit known usual (before ++ after) (before ++ (key, value) :: after)
  | omitted {before after : List (RawText × Json)} {key : RawText} {k : String} {value : Json} :
      key.text? = some k → usual k value →
      MemberEdit known usual (before ++ (key, value) :: after) (before ++ after)

section

variable {known : List String} {usual : String → Json → Prop} {members' : List (RawText × Json)}

theorem HasTextKeys.edit (h : MemberEdit known usual members members')
    (hkeys : HasTextKeys members) : HasTextKeys members' := by
  cases h with
  | permuted hperm =>
    intro m hm
    exact hkeys m (hperm.mem_iff.2 hm)
  | @inserted before after key k value hkey _ =>
    intro m hm
    rcases List.mem_append.1 hm with hm | hm
    · exact hkeys m (List.mem_append_left _ hm)
    · rcases List.mem_cons.1 hm with rfl | hm
      · rw [hkey]
        rfl
      · exact hkeys m (List.mem_append_right _ hm)
  | omitted _ _ =>
    intro m hm
    apply hkeys m
    rcases List.mem_append.1 hm with hm | hm
    · exact List.mem_append_left _ hm
    · exact List.mem_append_right _ (List.mem_cons_of_mem _ hm)

/-- One value at most is given, so a value that is found is all that is given. -/
theorem eq_some_of_given {before after : List (RawText × Json)} {key : RawText} {k : String}
    {value : Json} {value? : Option Json} (hkey : key.text? = some k) (hk : k ∈ names)
    (h : given (before ++ (key, value) :: after) names = value?.toList) :
    value? = some value ∧ given before names = [] ∧ given after names = [] := by
  rw [given_append, given_cons_of_mem hkey hk] at h
  cases value? with
  | none => simp at h
  | some v =>
    rw [Option.toList_some, List.append_eq_singleton_iff] at h
    rcases h with ⟨hbefore, hafter⟩ | ⟨-, hafter⟩
    · rw [List.cons.injEq] at hafter
      exact ⟨by rw [hafter.1], hbefore, hafter.2⟩
    · cases hafter

theorem Gives.edit {read : Option Json → Option α} {a : α}
    (h : MemberEdit known usual members members') (hnames : ∀ k ∈ names, k ∈ known)
    (husual : ∀ k ∈ names, ∀ value, usual k value → read (some value) = read none)
    (hgives : Gives members names read a) : Gives members' names read a := by
  obtain ⟨value?, hgiven, hread⟩ := hgives
  cases h with
  | permuted hperm =>
    have hsame := (given_perm hperm names).symm
    rw [hgiven] at hsame
    refine ⟨value?, ?_, hread⟩
    cases value? with
    | none => exact List.perm_nil.1 hsame
    | some v => exact List.perm_singleton.1 hsame
  | inserted hkey hk =>
    refine ⟨value?, ?_, hread⟩
    rw [given_append, given_cons_of_notMem hkey fun hmem => hk (hnames _ hmem), ← given_append]
    exact hgiven
  | @omitted before after key k value hkey hvalue =>
    by_cases hk : k ∈ names
    · obtain ⟨rfl, hbefore, hafter⟩ := eq_some_of_given hkey hk hgiven
      refine ⟨none, ?_, ?_⟩
      · rw [given_append, hbefore, hafter]
        rfl
      · rw [← husual k hk value hvalue, hread]
    · refine ⟨value?, ?_, hread⟩
      rw [given_append, given_cons_of_notMem hkey hk, ← given_append] at hgiven
      exact hgiven

/-- A field of which the value is given in another way. -/
theorem Gives.replace {before after : List (RawText × Json)} {key : RawText} {k : String}
    {value value' : Json} {read : Option Json → Option α} {a : α} (hkey : key.text? = some k)
    (hread : k ∈ names → read (some value) = some a → read (some value') = some a)
    (hgives : Gives (before ++ (key, value) :: after) names read a) :
    Gives (before ++ (key, value') :: after) names read a := by
  obtain ⟨value?, hgiven, hvalue⟩ := hgives
  by_cases hk : k ∈ names
  · obtain ⟨rfl, hbefore, hafter⟩ := eq_some_of_given hkey hk hgiven
    refine ⟨some value', ?_, hread hk hvalue⟩
    rw [given_append, given_cons_of_mem hkey hk, hbefore, hafter]
    rfl
  · refine ⟨value?, ?_, hvalue⟩
    rw [given_append, given_cons_of_notMem hkey hk] at hgiven ⊢
    exact hgiven

theorem HasTextKeys.replace {before after : List (RawText × Json)} {key : RawText}
    {value : Json} (value' : Json) (h : HasTextKeys (before ++ (key, value) :: after)) :
    HasTextKeys (before ++ (key, value') :: after) := by
  intro m hm
  rcases List.mem_append.1 hm with hm | hm
  · exact h m (List.mem_append_left _ hm)
  · rcases List.mem_cons.1 hm with rfl | hm
    · exact h (key, value) (List.mem_append_right _ List.mem_cons_self)
    · exact h m (List.mem_append_right _ (List.mem_cons_of_mem _ hm))

end

end NodeWarden
