import NodeWarden.Text.Width.Emoji
import NodeWarden.Text.Width.Letters

/-! How many columns a text fills on a terminal. A character may fill more or fewer columns
than by itself, as what follows it has it: a selector of its form, a letter that is set as
one with it, or the rest of a pictograph. So a text is measured from its end, and blanks
behind a text add one column each. -/

namespace NodeWarden

/-- A mark that selects the form of the character before it. -/
inductive FormSelector
  | fullWidth
  | text
  | pictograph
  deriving DecidableEq, Repr

/-- How many halves of flags were counted before a joiner. -/
inductive FlagCount
  | one
  | even
  | odd
  deriving DecidableEq, Repr

/-- What follows a character, as far as the character can be one with it. -/
inductive Follower
  | other
  | alef
  | letter (l : PairLetter) (joined : Bool)
  | vowelE
  | vowelAi
  | skinTone
  | flagHalf
  | flagHalves
  | pictograph
  /-- A joiner, and a pictograph behind it; the keycap is a mark before the joiner. -/
  | joinedPictograph (keycap : Bool)
  | joinedFlags (n : FlagCount)
  /-- Tags of a flag, which end before a joiner; they are read from the last one on. -/
  | joinedTags (letters digits : Nat)
  deriving DecidableEq, Repr

structure TextAfter where
  selector : Option FormSelector := none
  follower : Follower := .other
  deriving DecidableEq, Repr

def formSelector? (c : Char) : Option FormSelector :=
  if c = '\uFE01' then some .fullWidth
  else if c = '\uFE0E' then some .text
  else if c = '\uFE0F' then some .pictograph
  else none

/-- Quotation marks, which have a narrow and a wide form. -/
def isQuotationMark (c : Char) : Bool := inRanges [(0x2018, 0x2019), (0x201C, 0x201D)] c

namespace Follower

def ofPair : Option PairLetter → Follower
  | none => .other
  | some l => .letter l (l matches .yaAfterVowel | .joinedConsonant)

/-- What a follower comes to if a selector stands before it. -/
def behind (s : FormSelector) : Follower → Follower
  | alef => .alef
  | letter l joined => .letter l joined
  | joinedPictograph keycap => if s = .pictograph then .joinedPictograph keycap else .other
  | _ => .other

/-- What is left of a follower when the pictograph that was selected did not come. -/
def unselected : Follower → Follower
  | joinedPictograph _ => .other
  | f => f

def vowelJoin? (c : Char) : Follower → Option (Int × Follower)
  | vowelE =>
    if c = Char.ofNat 0x16D63 || c = Char.ofNat 0x16D69 then some (0, .other)
    else if c = Char.ofNat 0x16D67 then some (0, .vowelAi)
    else if c = Char.ofNat 0x16D68 then some (1, .vowelE)
    else none
  | vowelAi => if c = Char.ofNat 0x16D63 then some (0, .other) else none
  | _ => none

def flagJoin? (c : Char) : FlagCount → Option (Int × Follower)
  | .one | .odd => if isFlagHalf c then some (-1, .joinedFlags .even) else none
  | .even =>
    if isFlagHalf c then some (3, .joinedFlags .odd)
    else if c = joiner then some (0, .joinedPictograph false)
    else none

/-- Three digits, up to four letters before them, or three to six letters name the region
of a flag. -/
def tagJoin? (c : Char) (letters digits : Nat) : Option (Int × Follower) :=
  if isTagLetter c && digits = 0 && letters < 6 then some (0, .joinedTags (letters + 1) 0)
  else if isTagDigit c && digits < 3 && (digits ≠ 0 || letters < 5) then
    some (0, .joinedTags letters (digits + 1))
  else if c = blackFlag && (digits = 3 || (digits = 0 && 3 ≤ letters)) then some (0, .pictograph)
  else none

/-- A character before a joiner with a pictograph behind it. -/
def joinerJoin? (c : Char) : Option (Int × Follower) :=
  if c = keycapMark then some (0, .joinedPictograph true)
  else if isFlagHalf c then some (1, .joinedFlags .one)
  else if isSkinTone c then some (0, .skinTone)
  else if c = tagEnd then some (0, .joinedTags 0 0)
  else if isPictograph c then some (0, .pictograph)
  else none

/-- What a character comes to that is one with its follower. -/
def join? (c : Char) : Follower → Option (Int × Follower)
  | other => none
  | alef =>
    if isLam c then some (0, .other)
    else if isTransparent c then some (0, .alef)
    else none
  | letter l joined =>
    if c = joiner then some (0, .letter l true)
    else if isIgnoredMark c then some (0, .letter l joined)
    else (l.join? joined c).map fun (n, l?) => (n, ofPair l?)
  | vowelE => vowelJoin? c .vowelE
  | vowelAi => vowelJoin? c .vowelAi
  | skinTone =>
    if takesSkinTone c then some (0, .pictograph)
    else if c = joiner then some (0, .joinedPictograph false)
    else none
  | flagHalf => if isFlagHalf c then some (1, .flagHalves) else none
  | flagHalves =>
    if isFlagHalf c then some (1, .flagHalves)
    else if c = joiner then some (0, .joinedPictograph false)
    else none
  | pictograph => if c = joiner then some (0, .joinedPictograph false) else none
  | joinedPictograph keycap => if keycap then none else joinerJoin? c
  | joinedFlags n => flagJoin? c n
  | joinedTags letters digits => tagJoin? c letters digits

end Follower

/-- A character that is not one with what follows it. -/
def aloneChar (c : Char) : Int × Follower :=
  match pairLetter? c with
  | some l => (1, .letter l false)
  | none =>
    if isAlef c then (1, .alef)
    else if c = Char.ofNat 0x16D67 then (1, .vowelE)
    else if c = Char.ofNat 0x16D68 then (1, .vowelAi)
    else if isFlagHalf c then (1, .flagHalf)
    else if isSkinTone c then (2, .skinTone)
    else if isPictograph c then (2, .pictograph)
    else (charColumns c, .other)

/-- The columns that a character adds to the text after it. -/
def measureChar (c : Char) (after : TextAfter) : Int × TextAfter :=
  if after.selector = some .pictograph && isSelectable c then
    (if after.follower matches .joinedPictograph _ then 0 else 2, ⟨none, .pictograph⟩)
  else if c ≤ '\u00A0' then (1, {})
  else
    let follower :=
      if after.selector = some .pictograph then after.follower.unselected else after.follower
    match formSelector? c with
    | some s => (0, ⟨some s, follower.behind s⟩)
    | none =>
      if after.selector = some .text && isNarrowable c then (1, {})
      else if after.selector = some .fullWidth && isQuotationMark c then (2, {})
      else
        let (n, follower) := (follower.join? c).getD (aloneChar c)
        (n, ⟨none, follower⟩)

/-- Goes on to measure a text from its end. -/
def measureBefore (c : Char) (measured : Int × TextAfter) : Int × TextAfter :=
  let (n, after) := measureChar c measured.2
  (measured.1 + n, after)

def measure (text : List Char) : Int × TextAfter := text.foldr measureBefore (0, {})

def width (text : List Char) : Nat := (measure text).1.toNat

/-- The columns that a follower may still give back. -/
def Follower.owed : Follower → Int
  | letter .subscript _ => 1
  | letter .joinedConsonant _ => 1
  | joinedFlags .one => 1
  | joinedFlags .odd => 1
  | _ => 0

theorem PairLetter.owed_join? {l : PairLetter} {joined : Bool} {c : Char} {n : Int}
    {l? : Option PairLetter} (h : l.join? joined c = some (n, l?)) :
    (Follower.ofPair l?).owed ≤ n + (Follower.letter l joined).owed := by
  cases l <;> simp only [PairLetter.join?] at h <;> (repeat' split at h) <;> cases h <;>
    simp [Follower.ofPair, Follower.owed]

theorem Follower.owed_join? {f g : Follower} {c : Char} {n : Int} (h : f.join? c = some (n, g)) :
    g.owed ≤ n + f.owed := by
  cases f with
  | letter l joined =>
    simp only [Follower.join?] at h
    split at h
    · cases h
      cases l <;> simp [Follower.owed]
    · split at h
      · cases h
        simp
      · obtain ⟨⟨m, l?⟩, hl, he⟩ := Option.map_eq_some_iff.1 h
        cases he
        exact PairLetter.owed_join? hl
  | _ =>
    simp only [Follower.join?, Follower.vowelJoin?, Follower.flagJoin?, Follower.tagJoin?,
      Follower.joinerJoin?] at h
    (repeat' split at h) <;> cases h <;> simp [Follower.owed]

theorem owed_aloneChar (c : Char) : (aloneChar c).2.owed ≤ (aloneChar c).1 := by
  unfold aloneChar
  split
  · rename_i l _
    cases l <;> simp [Follower.owed]
  · repeat' split
    all_goals simp [Follower.owed]

theorem Follower.owed_behind (s : FormSelector) (f : Follower) : (f.behind s).owed ≤ f.owed := by
  cases f with
  | joinedFlags n => cases n <;> simp [Follower.behind, Follower.owed]
  | joinedPictograph k =>
    simp only [Follower.behind]
    split <;> simp [Follower.owed]
  | _ => simp [Follower.behind, Follower.owed]

theorem Follower.owed_unselected (f : Follower) : f.unselected.owed ≤ f.owed := by
  cases f <;> simp [Follower.unselected, Follower.owed]

theorem Follower.owed_nonneg (f : Follower) : 0 ≤ f.owed := by
  unfold Follower.owed
  split <;> decide

theorem Follower.owed_other : Follower.other.owed = 0 := rfl

theorem Follower.owed_pictograph : Follower.pictograph.owed = 0 := rfl

/-- A character never gives back more than what follows it owes. -/
theorem owed_measureChar (c : Char) (after : TextAfter) :
    (measureChar c after).2.follower.owed ≤ (measureChar c after).1 + after.follower.owed := by
  have hn := after.follower.owed_nonneg
  have hf : (if after.selector = some .pictograph then after.follower.unselected
      else after.follower).owed ≤ after.follower.owed := by
    split
    · exact Follower.owed_unselected _
    · exact Int.le_refl _
  unfold measureChar
  generalize (if after.selector = some .pictograph then after.follower.unselected
      else after.follower) = f at hf ⊢
  dsimp only
  split
  · rw [Follower.owed_pictograph]
    split <;> omega
  split
  · rw [Follower.owed_other]
    omega
  split
  · rename_i s _
    have : (f.behind s).owed ≤ f.owed := Follower.owed_behind s f
    dsimp only
    omega
  split
  · rw [Follower.owed_other]
    omega
  split
  · rw [Follower.owed_other]
    omega
  cases h : f.join? c with
  | none =>
    have := owed_aloneChar c
    dsimp only [Option.getD_none]
    omega
  | some r =>
    have := Follower.owed_join? h
    dsimp only [Option.getD_some]
    omega

theorem owed_measure (text : List Char) : (measure text).2.follower.owed ≤ (measure text).1 := by
  induction text with
  | nil => simp [measure, Follower.owed]
  | cons c cs ih =>
    have := owed_measureChar c (measure cs).2
    simp only [measure, List.foldr_cons, measureBefore] at this ih ⊢
    omega

theorem measure_nonneg (text : List Char) : 0 ≤ (measure text).1 :=
  Int.le_trans (Follower.owed_nonneg _) (owed_measure text)

theorem measure_cons (c : Char) (text : List Char) :
    measure (c :: text) = measureBefore c (measure text) := rfl

theorem measure_replicate_blank (n : Nat) :
    measure (List.replicate n ' ') = ((n : Int), ({} : TextAfter)) := by
  induction n with
  | zero => rfl
  | succ n ih =>
    rw [List.replicate_succ, measure_cons, ih]
    simp [measureBefore, measureChar]

theorem measure_append_blanks (text : List Char) (n : Nat) :
    measure (text ++ List.replicate n ' ') = ((measure text).1 + n, (measure text).2) := by
  induction text with
  | nil => rw [List.nil_append, measure_replicate_blank]; simp [measure]
  | cons c cs ih =>
    rw [List.cons_append, measure_cons, measure_cons, ih]
    simp only [measureBefore, Prod.mk.injEq, and_true]
    omega

/-- Blanks behind a text add a column each. -/
theorem width_append_blanks (text : List Char) (n : Nat) :
    width (text ++ List.replicate n ' ') = width text + n := by
  have := measure_nonneg text
  simp only [width, measure_append_blanks]
  omega

end NodeWarden
