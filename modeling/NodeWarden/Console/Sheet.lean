import NodeWarden.Json.Printer
import NodeWarden.Text.Split
import NodeWarden.Text.Width

/-! What the console shows: rows under named columns, as a table with a border after every
row or as JSON. -/

namespace NodeWarden

inductive Cell
  | text (s : String)
  | missing
  | flag (b : Bool)
  deriving DecidableEq, Repr

def Cell.text? : Cell → Option String
  | .text s => some s
  | .missing => none
  | .flag b => some (String.ofList (flagWord b))

def Cell.toDoc : Cell → Doc
  | .text s => .text s
  | .missing => .null
  | .flag b => .flag b

/-- A column has a title in tables and a key in JSON. -/
structure Column where
  title : String
  key : String
  deriving DecidableEq, Repr

structure Sheet where
  columns : List Column
  rows : List (List Cell)
  deriving DecidableEq, Repr

/-- The lines of a cell. -/
abbrev CellLines := List (List Char)

def cellLines (s : String) : CellLines := splitEach '\n' s.toList

def cellWidth (lines : CellLines) : Nat := (lines.map width).foldl max 0

/-- How wide the columns are; every row has a cell in each. -/
def columnWidths (rows : List (List CellLines)) : List Nat :=
  match rows.map (·.map cellWidth) with
  | [] => []
  | first :: rest => rest.foldl (List.zipWith max) first

def border (widths : List Nat) : List Char :=
  '+' :: widths.flatMap fun w => List.replicate (w + 2) '-' ++ ['+']

def padded (w : Nat) (line : List Char) : List Char :=
  line ++ List.replicate (w - width line) ' '

/-- The lines of a row, which is as high as its highest cell. -/
def rowLines (widths : List Nat) (row : List CellLines) : List (List Char) :=
  let height := (row.map List.length).foldl max 0
  (List.range height).map fun i =>
    '|' :: (widths.zip row).flatMap fun (w, lines) => ' ' :: padded w (lines.getD i []) ++ [' ', '|']

def tableLines (rows : List (List CellLines)) : List (List Char) :=
  let widths := columnWidths rows
  border widths :: rows.flatMap fun row => rowLines widths row ++ [border widths]

namespace Sheet

def table (s : Sheet) : String :=
  let titles := s.columns.map fun c => cellLines c.title
  let cells := s.rows.map (·.map fun c => cellLines (c.text?.getD "-"))
  "\n".intercalate ((tableLines (titles :: cells)).map String.ofList)

def toDoc (s : Sheet) : Doc :=
  .list (s.rows.map fun row => .record ((s.columns.zip row).map fun (c, cell) => (c.key, cell.toDoc)))

end Sheet

/-- A line that fits into its column is padded to just the width of that column, whatever its
characters are: no part of it is taken for less than nothing. -/
theorem width_padded {w : Nat} {line : List Char} (h : width line ≤ w) :
    width (padded w line) = w := by
  rw [padded, width_append_blanks]
  omega

end NodeWarden
