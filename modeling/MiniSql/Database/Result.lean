import MiniSql.Execution

/-!
# Results of statements

What executing the text of a statement gives back, and its text for a reader.
-/

namespace MiniSql

/-- The result of executing the text of a statement. -/
inductive StatementResult where
  | created (relation : String)
  | changed (changes : Changes)
  | rows (rows : List Row)
  /-- A transaction command was obeyed. -/
  | transaction (command : StatementKind)
  | pragma
  /-- The statement was not handled and had no effect. -/
  | ignored (reason : String)
deriving DecidableEq

namespace StatementResult

/-- Number of rows changed or returned. -/
def affected? : StatementResult → Option Nat
  | changed c => some c.count
  | rows rs => some rs.length
  | _ => none

/-- The identity that an insertion assigned, in words. -/
def insertNote : Option Int64 → String
  | some id => " (last insert id " ++ id.toInt.repr ++ ")"
  | none => ""

/-- The text of a result. -/
def display : StatementResult → String
  | created relation => "CREATE TABLE " ++ relation
  | changed c => "CHANGES " ++ c.count.repr ++ insertNote c.lastInsertId
  | rows rs =>
    String.join (rs.map fun r => r.display ++ "\n") ++ "(" ++ rs.length.repr ++ " rows)"
  | transaction command => command.name
  | pragma => "PRAGMA"
  | ignored reason => "IGNORED: " ++ reason

end StatementResult

end MiniSql
