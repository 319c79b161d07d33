import NodeWarden.Log.Lines

/-! The lines of a stream of bytes: what stands between its line feeds, and what is left after
the last of them unless nothing is. A buffer that takes a line part by part ends up with the
text of the whole line. -/

namespace NodeWarden

def linePieces : List UInt8 → List (List UInt8)
  | [] => []
  | b :: bs =>
    if b = 10 then [] :: linePieces bs
    else
      match linePieces bs with
      | [] => [[b]]
      | piece :: pieces => (b :: piece) :: pieces

/-- A line as it is shown: cut, less one carriage return, and decoded as far as it is text. -/
def pieceText (piece : List UInt8) : String := lossyText (dropReturn (piece.take lineLimit))

def streamLines (bs : List UInt8) : List String := (linePieces bs).map pieceText

/-- Nothing has been begun that is not ended by a line feed. -/
def LineEnded (bs : List UInt8) : Prop := bs = [] ∨ bs.getLast? = some 10

theorem linePieces_ne_nil {bs : List UInt8} (h : bs ≠ []) : linePieces bs ≠ [] := by
  cases bs with
  | nil => exact absurd rfl h
  | cons b bs =>
    rw [linePieces]
    split
    · exact List.cons_ne_nil _ _
    · split <;> exact List.cons_ne_nil _ _

theorem linePieces_append {xs : List UInt8} (h : LineEnded xs) (ys : List UInt8) :
    linePieces (xs ++ ys) = linePieces xs ++ linePieces ys := by
  induction xs with
  | nil => rfl
  | cons b xs ih =>
    rcases h with h | h
    · cases h
    · by_cases hxs : xs = []
      · subst hxs
        cases h
        rfl
      · have hlast : LineEnded xs := by
          obtain ⟨c, xs, rfl⟩ := List.exists_cons_of_ne_nil hxs
          exact .inr (by rwa [List.getLast?_cons_cons] at h)
        obtain ⟨piece, pieces, hp⟩ := List.exists_cons_of_ne_nil (linePieces_ne_nil hxs)
        rw [List.cons_append, linePieces, linePieces, ih hlast, hp]
        split <;> rfl

theorem linePieces_tail {piece : List UInt8} (h : 10 ∉ piece) (hne : piece ≠ []) :
    linePieces piece = [piece] := by
  induction piece with
  | nil => exact absurd rfl hne
  | cons b bs ih =>
    obtain ⟨hb, hbs⟩ := not_or.1 (mt List.mem_cons.2 h)
    rw [linePieces, if_neg (Ne.symm hb)]
    by_cases hnil : bs = []
    · subst hnil
      rfl
    · rw [ih hbs hnil]

theorem linePieces_line {piece : List UInt8} (h : 10 ∉ piece) :
    linePieces (piece ++ [10]) = [piece] := by
  induction piece with
  | nil => rfl
  | cons b bs ih =>
    obtain ⟨hb, hbs⟩ := not_or.1 (mt List.mem_cons.2 h)
    rw [List.cons_append, linePieces, if_neg (Ne.symm hb), ih hbs]

theorem streamLines_append {xs : List UInt8} (h : LineEnded xs) (ys : List UInt8) :
    streamLines (xs ++ ys) = streamLines xs ++ streamLines ys := by
  rw [streamLines, linePieces_append h, List.map_append]; rfl

theorem lineEnded_line (xs piece : List UInt8) : LineEnded (xs ++ (piece ++ [10])) :=
  .inr (by rw [← List.append_assoc, List.getLast?_concat])

theorem streamLines_line {piece : List UInt8} (h : 10 ∉ piece) (ys : List UInt8) :
    streamLines (piece ++ 10 :: ys) = pieceText piece :: streamLines ys := by
  calc streamLines (piece ++ 10 :: ys) = streamLines (piece ++ [10] ++ ys) := by simp
    _ = streamLines (piece ++ [10]) ++ streamLines ys :=
        streamLines_append (lineEnded_line [] piece) ys
    _ = pieceText piece :: streamLines ys := by
        rw [streamLines, linePieces_line h]
        rfl

/-- The buffer of a line of which some bytes have been read. -/
def LineBuffer.holding (held : List UInt8) : LineBuffer := ⟨held.take lineLimit, !held.isEmpty⟩

namespace LineBuffer

theorem kept_add_holding (held part : List UInt8) :
    ((holding held).add part).kept = (held ++ part).take lineLimit := by
  simp only [add, holding, List.length_take, List.take_append]
  congr 2
  omega

theorem text_holding (held : List UInt8) : (holding held).text = pieceText held := rfl

theorem text_add_holding (held part : List UInt8) :
    ((holding held).add part).text = pieceText (held ++ part) := by
  rw [text, kept_add_holding, pieceText]

theorem add_holding {held part : List UInt8} (h : part ≠ []) :
    (holding held).add part = holding (held ++ part) := by
  have hbegun : (held ++ part).isEmpty = false := by simp [h]
  calc (holding held).add part = ⟨((holding held).add part).kept, true⟩ := rfl
    _ = holding (held ++ part) := by rw [kept_add_holding, holding, hbegun]; rfl

theorem begun_holding (held : List UInt8) : (holding held).begun = true ↔ held ≠ [] := by
  simp [holding]

end LineBuffer

end NodeWarden
