import MiniSql.Column
import MiniSql.Predicate.Basic

/-!
# Statements

A statement carries what its execution needs: the relation it is about, and the columns,
values, assignments or clause it has. The kind of a statement is decided by its first
keywords alone, so that a text has a kind even when it is no statement.
-/

namespace MiniSql

/-- The kinds of statements. -/
inductive StatementKind where
  | createTable
  | insert
  | update
  | delete
  | select
  | begin
  | commit
  | rollback
  | pragma
  | unknown
deriving DecidableEq, Repr

namespace StatementKind

/-- The keywords of a kind. -/
def name : StatementKind → String
  | createTable => "CREATE TABLE"
  | insert => "INSERT"
  | update => "UPDATE"
  | delete => "DELETE"
  | select => "SELECT"
  | begin => "BEGIN"
  | commit => "COMMIT"
  | rollback => "ROLLBACK"
  | pragma => "PRAGMA"
  | unknown => "UNKNOWN"

/-- A kind that opens or closes a transaction. -/
def isControl : StatementKind → Bool
  | begin | commit | rollback => true
  | _ => false

end StatementKind

/-- The creation of a relation. It has no effect on a relation that exists, with or without
`IF NOT EXISTS`. -/
structure CreateTable where
  relation : String
  ifNotExists : Bool
  columns : List Column
deriving DecidableEq, Repr

/-- An insertion of one row. The column list is empty when the statement names none. -/
structure Insert where
  relation : String
  columns : List String
  values : List Operand
deriving DecidableEq

/-- A column and its new value. -/
structure Assignment where
  column : String
  value : Operand
deriving DecidableEq

/-- A change of existing rows. -/
structure Update where
  relation : String
  assignments : List Assignment
  predicate : Option Predicate
deriving DecidableEq

/-- A removal of rows. -/
structure Delete where
  relation : String
  predicate : Option Predicate
deriving DecidableEq, Repr

/-- A query on one relation. -/
structure Select where
  relation : String
  projection : Projection
  predicate : Option Predicate
deriving DecidableEq, Repr

/-- A statement. -/
inductive Statement where
  | createTable (s : CreateTable)
  | insert (s : Insert)
  | update (s : Update)
  | delete (s : Delete)
  | select (s : Select)
  | begin
  | commit
  | rollback
  /-- A setting, accepted without effect. -/
  | pragma (text : String)
deriving DecidableEq

namespace Statement

/-- The kind of a statement. -/
def kind : Statement → StatementKind
  | createTable _ => .createTable
  | insert _ => .insert
  | update _ => .update
  | delete _ => .delete
  | select _ => .select
  | begin => .begin
  | commit => .commit
  | rollback => .rollback
  | pragma _ => .pragma

/-- The relation that a statement is about. -/
def relation? : Statement → Option String
  | createTable s => some s.relation
  | insert s => some s.relation
  | update s => some s.relation
  | delete s => some s.relation
  | select s => some s.relation
  | _ => none

/-- A statement never has the kind `unknown`. -/
theorem kind_ne_unknown (s : Statement) : s.kind ≠ .unknown := by
  cases s <;> simp [kind]

end Statement

end MiniSql
