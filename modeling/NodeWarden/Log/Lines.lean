import NodeWarden.Text.Utf8

/-! Lines of a node's output. A line ends at a line feed or with the stream; only its first
part is kept, less one carriage return at the end, and it is shown whatever its bytes are. -/

namespace NodeWarden

def lineLimit : Nat := 16384

/-- The line that is being read: what is kept of it, and whether any of it was read. -/
structure LineBuffer where
  kept : List UInt8 := []
  begun : Bool := false
  deriving DecidableEq, Repr

/-- What stands before the first line feed, and what follows it if there is one. -/
def splitLine : List UInt8 → List UInt8 × Option (List UInt8)
  | [] => ([], none)
  | b :: bs =>
    if b = 10 then ([], some bs)
    else
      let (line, rest) := splitLine bs
      (b :: line, rest)

def dropReturn (bs : List UInt8) : List UInt8 :=
  if bs.getLast? = some 13 then bs.dropLast else bs

namespace LineBuffer

def add (b : LineBuffer) (bytes : List UInt8) : LineBuffer where
  kept := b.kept ++ bytes.take (lineLimit - b.kept.length)
  begun := true

def text (b : LineBuffer) : String := lossyText (dropReturn b.kept)

end LineBuffer

/-- Reads chunks until a line is whole, and leaves the rest of the last chunk. -/
def nextLine : LineBuffer → List (List UInt8) → Option String × List (List UInt8)
  | b, [] => (if b.begun then some b.text else none, [])
  | b, chunk :: chunks =>
    match splitLine chunk with
    | (part, some rest) =>
      (some (b.add part).text, if rest.isEmpty then chunks else rest :: chunks)
    | (part, none) => nextLine (b.add part) chunks

theorem splitLine_eq_append {bs line : List UInt8} {rest : Option (List UInt8)}
    (h : splitLine bs = (line, rest)) :
    10 ∉ line ∧ bs = line ++ (rest.map (10 :: ·)).getD [] := by
  induction bs generalizing line with
  | nil => simp only [splitLine, Prod.mk.injEq] at h; obtain ⟨rfl, rfl⟩ := h; simp
  | cons b bs ih =>
    unfold splitLine at h
    split at h
    · rename_i hb
      simp only [Prod.mk.injEq] at h
      obtain ⟨rfl, rfl⟩ := h
      simp [hb]
    · rename_i hb
      simp only [Prod.mk.injEq] at h
      obtain ⟨rfl, rfl⟩ := h
      obtain ⟨h1, h2⟩ := ih (show splitLine bs = ((splitLine bs).1, (splitLine bs).2) from rfl)
      exact ⟨by simp [h1, Ne.symm hb], by rw [List.cons_append, ← h2]⟩

theorem LineBuffer.kept_add_length {b : LineBuffer} (h : b.kept.length ≤ lineLimit)
    (bytes : List UInt8) : (b.add bytes).kept.length ≤ lineLimit := by
  simp only [add, List.length_append, List.length_take]
  omega

end NodeWarden
