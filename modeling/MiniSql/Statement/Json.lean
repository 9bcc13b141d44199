import MiniSql.Json.Writer
import MiniSql.Statement.Basic

/-!
# Statements as JSON

The JSON text of a statement: a statement is tagged with its kind, and its parts are members
in a fixed order. An infinite number has no JSON form, so a statement with one is the only
kind that does not read back from its text.
-/

namespace MiniSql

/-- The JSON text of a literal. -/
def Literal.toJson : Literal → String
  | null => Json.string "Null"
  | integer i => Json.tagged "Integer" (Json.integer i.toInt)
  | real x => Json.tagged "Float" (Json.real x)
  | text s => Json.tagged "String" (Json.string s)

/-- The JSON text of an operand. -/
def Operand.toJson : Operand → String
  | placeholder slot => Json.tagged "Placeholder" (Json.integer slot)
  | literal l => Json.tagged "Literal" l.toJson

/-- The JSON text of a conjunct. -/
def Conjunct.toJson : Conjunct → String
  | equals column slot =>
    Json.tagged "Equals"
      (Json.object [("column", Json.string column), ("slot", Json.integer slot)])
  | other text => Json.tagged "Other" (Json.string text)

/-- The JSON text of a clause. -/
def Predicate.toJson (p : Predicate) : String :=
  Json.object [("conjuncts", Json.array (p.conjuncts.map Conjunct.toJson))]

/-- The JSON text of a select list. -/
def Projection.toJson : Projection → String
  | all => Json.string "All"
  | columns names => Json.tagged "Columns" (Json.array (names.map Json.string))
  | expressions text => Json.tagged "Expressions" (Json.string text)

/-- The JSON text of a column declaration. -/
def Column.toJson (c : Column) : String :=
  Json.object [
    ("name", Json.string c.name),
    ("data_type", Json.string c.type),
    ("primary_key", Json.bool c.primaryKey),
    ("unique", Json.bool c.unique),
    ("not_null", Json.bool c.notNull)]

/-- The JSON text of an assignment. -/
def Assignment.toJson (a : Assignment) : String :=
  Json.object [("column", Json.string a.column), ("value", a.value.toJson)]

namespace Statement

/-- The JSON text of a statement. -/
def toJson : Statement → String
  | createTable s =>
    Json.tagged "CreateTable" (Json.object [
      ("name", Json.string s.relation),
      ("if_not_exists", Json.bool s.ifNotExists),
      ("columns", Json.array (s.columns.map Column.toJson))])
  | insert s =>
    Json.tagged "Insert" (Json.object [
      ("table", Json.string s.relation),
      ("columns", Json.array (s.columns.map Json.string)),
      ("values", Json.array (s.values.map Operand.toJson))])
  | update s =>
    Json.tagged "Update" (Json.object [
      ("table", Json.string s.relation),
      ("assignments", Json.array (s.assignments.map Assignment.toJson)),
      ("predicate", Json.optional (s.predicate.map Predicate.toJson))])
  | delete s =>
    Json.tagged "Delete" (Json.object [
      ("table", Json.string s.relation),
      ("predicate", Json.optional (s.predicate.map Predicate.toJson))])
  | select s =>
    Json.tagged "Select" (Json.object [
      ("table", Json.string s.relation),
      ("projection", s.projection.toJson),
      ("predicate", Json.optional (s.predicate.map Predicate.toJson))])
  | begin => Json.string "Begin"
  | commit => Json.string "Commit"
  | rollback => Json.string "Rollback"
  | pragma text => Json.tagged "Pragma" (Json.string text)

/-- The operands of a statement. -/
def operands : Statement → List Operand
  | insert s => s.values
  | update s => s.assignments.map Assignment.value
  | _ => []

/-- The statement reads back from its JSON text: every number in it is finite. -/
def readsBack (s : Statement) : Bool :=
  s.operands.all fun
    | .literal (.real x) => x.isFinite
    | _ => true

end Statement

end MiniSql
