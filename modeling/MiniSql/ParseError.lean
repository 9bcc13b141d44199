import MiniSql.Token.Lexer

/-!
# Reasons a text is no statement

A text is rejected because it is malformed, because it uses a feature the engine does not
have, because a name or a literal is missing or invalid, or because it is empty. Each reason
keeps what it is about; the wording is made from it in one place.
-/

namespace MiniSql

/-- The ways in which text can be malformed. -/
inductive Malformation where
  /-- The text has no tokens to look at. -/
  | lexical (e : LexError)
  /-- A keyword or mark was expected before `found`, or before the end. -/
  | expected (wanted : String) (found : Option Token)
  /-- A group has no closing parenthesis. -/
  | unbalanced
  /-- Tokens follow the end of the statement. -/
  | trailing (found : Token)
  /-- A column list has nothing between two commas. -/
  | emptyDefinition
  /-- Columns and values of an insertion differ in number. -/
  | countMismatch (columns values : Nat)
  /-- An assignment without an equality sign. -/
  | noEquality (entry : List Token)
  /-- An update without assignments. -/
  | noAssignments
  /-- Nothing follows `WHERE`. -/
  | emptyWhere
deriving DecidableEq, Repr

/-- Well-formed text beyond what the engine does. -/
inductive Feature where
  /-- A statement that begins with another word. -/
  | statement (first : Option Token)
  | savepointRollback
  | createFromSelect
  | insertConflict
  | insertWithoutValues
  | severalRows
  | updateConflict
  | selectWithoutRelation
  | severalRelations
  | grouping
  /-- A value that is neither a parameter nor a literal. -/
  | expression (tokens : List Token)
deriving DecidableEq, Repr

/-- Why a text is not accepted as a statement. -/
inductive ParseError where
  | malformed (m : Malformation)
  | unsupported (f : Feature)
  | invalidIdentifier (text : String)
  | invalidLiteral (text : String)
  | empty
deriving DecidableEq, Repr

/-- A token in single quotes, or the end. -/
def describe : Option Token → String
  | some t => "'" ++ t.spelling ++ "'"
  | none => "end of statement"

/-- The wording of a malformation. -/
def Malformation.message : Malformation → String
  | lexical e => e.message
  | expected wanted found => "expected " ++ wanted ++ ", found " ++ describe found
  | unbalanced => "unbalanced parentheses"
  | trailing found => "unexpected " ++ describe (some found) ++ " (one statement at a time)"
  | emptyDefinition => "empty column definition"
  | countMismatch columns values =>
    columns.repr ++ " columns but " ++ values.repr ++ " values"
  | noEquality entry => "expected '=' in '" ++ Token.render entry ++ "'"
  | noAssignments => "UPDATE without assignments"
  | emptyWhere => "empty WHERE clause"

/-- The wording of a missing feature. -/
def Feature.message : Feature → String
  | statement first =>
    "statement starting with '" ++ (first.map Token.spelling).getD "" ++ "'"
  | savepointRollback => "ROLLBACK TO savepoint"
  | createFromSelect => "CREATE TABLE ... AS SELECT"
  | insertConflict => "INSERT OR ... conflict clause"
  | insertWithoutValues => "INSERT without a VALUES list"
  | severalRows => "multi-row VALUES"
  | updateConflict => "UPDATE OR ... conflict clause"
  | selectWithoutRelation => "SELECT without FROM"
  | severalRelations => "multi-relation SELECT"
  | grouping => "GROUP BY"
  | expression tokens => "value expression '" ++ Token.render tokens ++ "'"

/-- The wording of a rejection. -/
def ParseError.message : ParseError → String
  | malformed m => "syntax error: " ++ m.message
  | unsupported f => "unsupported feature: " ++ f.message
  | invalidIdentifier text => "invalid identifier: " ++ text
  | invalidLiteral text => "invalid literal: " ++ text
  | empty => "empty statement"

end MiniSql
