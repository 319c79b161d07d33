/-! Texts with marks in them, taken apart at every mark. -/

namespace NodeWarden

/-- The parts between the marks; a text without a mark is its own only part. -/
def splitEach (mark : Char) : List Char → List (List Char)
  | [] => [[]]
  | c :: cs =>
    if c = mark then [] :: splitEach mark cs
    else
      match splitEach mark cs with
      | [] => [[c]]
      | part :: parts => (c :: part) :: parts

def splitText (mark : Char) (s : String) : List String :=
  (splitEach mark s.toList).map String.ofList

/-- The lines of a text. Each ends with a line feed, perhaps behind a carriage return; the
last one may lack its end. -/
def textLines (cs : List Char) : List (List Char) :=
  let ended := fun line : List Char => if line.getLast? = some '\r' then line.dropLast else line
  let parts := splitEach '\n' cs
  parts.dropLast.map ended ++ parts.getLast?.toList.filter (!·.isEmpty)

theorem splitEach_ne_nil (mark : Char) (cs : List Char) : splitEach mark cs ≠ [] := by
  cases cs with
  | nil => simp [splitEach]
  | cons c cs =>
    unfold splitEach
    split
    · simp
    · split <;> simp

theorem splitEach_append_mark (mark : Char) (as bs : List Char) :
    splitEach mark (as ++ mark :: bs) = splitEach mark as ++ splitEach mark bs := by
  induction as with
  | nil => simp [splitEach]
  | cons a as ih =>
    by_cases h : a = mark
    · simp [splitEach, h, ih]
    · cases hs : splitEach mark as with
      | nil => exact absurd hs (splitEach_ne_nil mark as)
      | cons part parts => simp [splitEach, h, ih, hs]

theorem not_mem_of_mem_splitEach {mark : Char} {cs part : List Char}
    (h : part ∈ splitEach mark cs) : mark ∉ part := by
  induction cs generalizing part with
  | nil => simp_all [splitEach]
  | cons c cs ih =>
    unfold splitEach at h
    split at h
    · rcases List.mem_cons.1 h with rfl | h
      · simp
      · exact ih h
    · rename_i hc
      cases hs : splitEach mark cs with
      | nil => exact absurd hs (splitEach_ne_nil mark cs)
      | cons first parts =>
        rw [hs] at h
        rcases List.mem_cons.1 h with rfl | h
        · have := ih (show first ∈ splitEach mark cs by rw [hs]; simp)
          simp [this, Ne.symm hc]
        · exact ih (by rw [hs]; simp [h])

end NodeWarden
