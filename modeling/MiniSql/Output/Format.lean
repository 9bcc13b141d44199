import MiniSql.Text.Lowercase

/-!
# Output formats

The ways in which rows are shown, and their names. A name counts in any letter case.
-/

namespace MiniSql

/-- A way of showing rows. -/
inductive OutputFormat where
  | table
  | json
  | csv
  | raw
deriving DecidableEq, Repr

namespace OutputFormat

/-- The name of a format. -/
def name : OutputFormat → String
  | table => "table"
  | json => "json"
  | csv => "csv"
  | raw => "raw"

/-- The format of a name in lower case. -/
def ofLowerName? : String → Option OutputFormat
  | "table" => some table
  | "json" => some json
  | "csv" => some csv
  | "raw" => some raw
  | _ => none

/-- The complaint about a name that is no format. -/
def unknownMessage (lowerName : String) : String :=
  "Unknown format '" ++ lowerName ++ "'. Available: table, json, csv, raw"

/-- The format of a name, or a complaint. -/
def ofName (name : String) : Except String OutputFormat :=
  let lowerName := Text.lowercase name
  match ofLowerName? lowerName with
  | some format => .ok format
  | none => .error (unknownMessage lowerName)

/-- Each format is the one of its name. -/
@[simp] theorem ofLowerName?_name (f : OutputFormat) : ofLowerName? f.name = some f := by
  cases f <;> rfl

end OutputFormat

end MiniSql
