import MiniSql.Output.Csv
import MiniSql.Output.Format
import MiniSql.Output.Grid
import MiniSql.Row

/-!
# Rows as text

The text of a list of rows in each output format. Rows may have different fields: the columns
of a table are all names in the order of first appearance, and a field that a row does not
have is an empty cell. A `NULL` is shown by its name in a grid and is empty in the formats
that are read by programs. In JSON each row is an object of its own fields.

**Results.** The columns are the names of the rows' fields, each of them once.
-/

namespace MiniSql.Output

/-- Names in order, each after those it is new to. -/
def addNames (seen : List String) (names : List String) : List String :=
  names.foldl (fun seen name => if name ∈ seen then seen else seen ++ [name]) seen

/-- The names of the fields of rows, in the order of first appearance. -/
def columns (rows : List Row) : List String :=
  rows.foldl (fun seen row => addNames seen row.names) []

/-- The cell of a field in a grid. -/
def gridCell (row : Row) (column : String) : String :=
  ((row.get? column).map Value.display).getD ""

/-- The cell of a field in a text for programs: a `NULL` is empty. -/
def plainCell (row : Row) (column : String) : String :=
  match row.get? column with
  | some .null | none => ""
  | some value => value.display

/-- The grid of rows. -/
def grid (rows : List Row) : Grid :=
  let columns := columns rows
  ⟨columns, rows.map fun row => columns.map (gridCell row)⟩

/-- The rows as records: the columns, and the cells of each row. -/
def records (rows : List Row) : List (List String) :=
  let columns := columns rows
  let cells := rows.map fun row => columns.map (plainCell row)
  if columns = [] then cells else columns :: cells

/-- Rows as comma-separated values. -/
def csv (rows : List Row) : String :=
  String.join ((records rows).map Csv.record)

/-- Rows as cells between tabs. -/
def raw (rows : List Row) : String :=
  String.join ((records rows).map fun cells => "\t".intercalate cells ++ "\n")

/-- A JSON object of a row with each field on a line of its own. -/
def jsonObject (row : Row) : String :=
  if row.fields = [] then "  \x7b\x7d"
  else
    let member (f : Field) : String := "    " ++ Json.string f.1 ++ ": " ++ f.2.toJson
    "  \x7b\n" ++ ",\n".intercalate (row.fields.map member) ++ "\n  \x7d"

/-- Rows as a JSON array of objects. -/
def json (rows : List Row) : String :=
  if rows = [] then "[]"
  else "[\n" ++ ",\n".intercalate (rows.map jsonObject) ++ "\n]"

/-- The text of rows in a format. -/
def render (format : OutputFormat) (rows : List Row) : String :=
  match format with
  | .table => (grid rows).render
  | .json => json rows
  | .csv => csv rows
  | .raw => raw rows

/-- Adding names keeps those seen and adds the others. -/
theorem mem_addNames {seen names : List String} {name : String} :
    name ∈ addNames seen names ↔ name ∈ seen ∨ name ∈ names := by
  induction names generalizing seen with
  | nil => simp [addNames]
  | cons n names ih =>
    have step : addNames seen (n :: names) =
        addNames (if n ∈ seen then seen else seen ++ [n]) names := rfl
    rw [step, ih]
    split <;> grind

/-- Adding names repeats none. -/
theorem nodup_addNames {seen names : List String} (h : seen.Nodup) :
    (addNames seen names).Nodup := by
  induction names generalizing seen with
  | nil => exact h
  | cons n names ih =>
    have step : addNames seen (n :: names) =
        addNames (if n ∈ seen then seen else seen ++ [n]) names := rfl
    rw [step]
    refine ih ?_
    split
    · exact h
    · exact List.nodup_append.2 ⟨h, by simp, by grind⟩

/-- The columns are the names of the rows' fields. -/
theorem mem_columns {rows : List Row} {name : String} :
    name ∈ columns rows ↔ ∃ row ∈ rows, name ∈ row.names := by
  suffices ∀ seen : List String,
      name ∈ rows.foldl (fun seen row => addNames seen row.names) seen ↔
        name ∈ seen ∨ ∃ row ∈ rows, name ∈ row.names by simpa [columns] using this []
  induction rows with
  | nil => simp
  | cons row rows ih => intro seen; simp [ih, mem_addNames, or_assoc]

/-- No column appears twice. -/
theorem nodup_columns (rows : List Row) : (columns rows).Nodup := by
  suffices ∀ seen : List String, seen.Nodup →
      (rows.foldl (fun seen row => addNames seen row.names) seen).Nodup from this [] .nil
  induction rows with
  | nil => exact fun _ h => h
  | cons row rows ih => exact fun seen h => ih _ (nodup_addNames h)

end MiniSql.Output
