import MiniSql.Text.Width

/-!
# Grids

A grid shows cells of text in columns between drawn lines. A cell may have several lines of
text; each column is as wide as its widest line and at least one wide, and each line of a
cell is filled up with blanks and stands between two more.

A grid without columns has no header and no lines of text, only the drawn ones.

**Results.** Each line of a cell fills its column.
-/

namespace MiniSql

/-- A grid: its header and its rows of cells. -/
structure Grid where
  header : List String
  rows : List (List String)
deriving DecidableEq, Repr

namespace Grid

/-- The lines of a cell: the text up to the first line end, and so on. -/
def cellLines : List Char → List (List Char)
  | [] => [[]]
  | c :: cs =>
    if c = '\n' then [] :: cellLines cs
    else
      match cellLines cs with
      | line :: lines => (c :: line) :: lines
      | [] => [[c]]

/-- The width of the widest line of a cell. -/
def cellWidth (cell : String) : Nat :=
  ((cellLines cell.toList).map Text.width).max?.getD 0

/-- The greater width of two, place by place. -/
def widen : List Nat → List Nat → List Nat
  | v :: vs, w :: ws => max v w :: widen vs ws
  | vs, [] => vs
  | [], ws => ws

/-- The widths of the columns: those of the widest cells, and at least one. -/
def widths (g : Grid) : List Nat :=
  ((g.header :: g.rows).map fun row => row.map cellWidth).foldl widen
    (g.header.map fun _ => 1)

/-- A drawn line: its ends, its crossings, and what it is made of. -/
structure Rule where
  left : String
  dash : Char
  crossing : String
  right : String

/-- The line above everything. -/
def topRule : Rule := ⟨"╭", '─', "┬", "╮"⟩

/-- The line below the header. -/
def headerRule : Rule := ⟨"╞", '═', "╪", "╡"⟩

/-- The line between two rows. -/
def rowRule : Rule := ⟨"├", '╌', "┼", "┤"⟩

/-- The line below everything. -/
def bottomRule : Rule := ⟨"╰", '─', "┴", "╯"⟩

/-- A drawn line across columns of the widths. -/
def Rule.draw (r : Rule) (widths : List Nat) : String :=
  let dashes := widths.map fun w => String.ofList (List.replicate (w + 2) r.dash)
  r.left ++ r.crossing.intercalate dashes ++ r.right

/-- A line of a cell, filled up to a width, between blanks. -/
def fill (width : Nat) (line : List Char) : List Char :=
  ' ' :: line ++ List.replicate (width - Text.width line) ' ' ++ [' ']

/-- The `i`-th line of a cell in a column. -/
def cellLine (i : Nat) (width : Nat) (cell : String) : String :=
  String.ofList (fill width ((cellLines cell.toList)[i]?.getD []))

/-- The height of a row: the number of lines of its highest cell. -/
def height (row : List String) : Nat :=
  (row.map fun cell => (cellLines cell.toList).length).max?.getD 0

/-- The lines of a row. -/
def rowLines (widths : List Nat) (row : List String) : List String :=
  (List.range (height row)).map fun i =>
    "│" ++ "┆".intercalate (List.zipWith (cellLine i) widths row) ++ "│"

/-- The lines of the rows, each group after a drawn line but the first. -/
def bodyLines (widths : List Nat) : List (List String) → List String
  | [] => []
  | [row] => rowLines widths row
  | row :: rows => rowLines widths row ++ rowRule.draw widths :: bodyLines widths rows

/-- The lines of the header and the one below it. -/
def headerLines (widths : List Nat) (header : List String) : List String :=
  if header = [] then [] else rowLines widths header ++ [headerRule.draw widths]

/-- The lines of a grid. -/
def lines (g : Grid) : List String :=
  let widths := g.widths
  topRule.draw widths :: headerLines widths g.header ++ bodyLines widths g.rows
    ++ [bottomRule.draw widths]

/-- The text of a grid. -/
def render (g : Grid) : String :=
  "\n".intercalate g.lines

/-- A line that is not too wide fills its column, the blanks at its sides included. -/
theorem width_fill {width : Nat} {line : List Char} (h : Text.width line ≤ width) :
    Text.width (fill width line) = width + 2 := by
  have blanks : fill width line =
      ' ' :: (line ++ List.replicate (width - Text.width line + 1) ' ') := by
    simp only [fill, List.replicate_succ', List.cons_append, List.append_assoc]
  rw [blanks, Text.width_between_blanks]
  omega

end Grid

end MiniSql
