import MiniSql.Column
import MiniSql.ParseError

/-!
# Column definitions

Reading the definitions of a creation statement. A definition that begins with the keyword
of a table constraint adds flags to a column defined before it; any other one defines a
column by its name, its type and its constraints.
-/

namespace MiniSql

/-- The keywords that begin a table constraint. -/
def tableConstraintStarts : List String :=
  ["CONSTRAINT", "PRIMARY", "UNIQUE", "FOREIGN", "CHECK"]

/-- The keywords that end the type of a column. -/
def columnConstraintStarts : List String := [
  "CONSTRAINT", "PRIMARY", "NOT", "NULL", "UNIQUE", "CHECK", "DEFAULT", "REFERENCES",
  "COLLATE", "GENERATED", "AS"]

/-- `NOT` directly before `NULL`. -/
def saysNotNull : List Token → Bool
  | t :: u :: rest => (t.isKeyword "NOT" && u.isKeyword "NULL") || saysNotNull (u :: rest)
  | _ => false

/-- The words between the first opening parenthesis and the next closing one. -/
def listedNames (tokens : List Token) : Option (List String) :=
  match tokens.dropWhile (· ≠ .mark .leftParen) with
  | [] => none
  | _ :: inside => some
      ((inside.takeWhile (· ≠ .mark .rightParen)).filterMap Token.identifier?)

/-- Adds flags to the first column of a name, compared without regard to letter case. -/
def Column.flagFirst (name : String) (primaryKey unique : Bool) : List Column → List Column
  | [] => []
  | c :: cs =>
    if Text.sameFold c.name name then
      { c with primaryKey := c.primaryKey || primaryKey, unique := c.unique || unique } :: cs
    else c :: flagFirst name primaryKey unique cs

/-- A table constraint flags a column when it is a key over that column alone. -/
def Column.constrain (constraint : List Token) (columns : List Column) : List Column :=
  let primaryKey := constraint.any (·.isKeyword "PRIMARY")
  let unique := constraint.any (·.isKeyword "UNIQUE")
  if !(primaryKey || unique) || constraint.any (·.isKeyword "FOREIGN") then columns
  else
    match listedNames constraint with
    | some [name] => flagFirst name primaryKey unique columns
    | _ => columns

/-- A column from its name and the rest of its definition. -/
def Column.define (name : String) (rest : List Token) : Column :=
  let ends := Token.isOneOf columnConstraintStarts
  let type := rest.takeWhile fun t => !ends t
  let constraints := rest.dropWhile fun t => !ends t
  { name := name
    type := Token.render type
    primaryKey := constraints.any (·.isKeyword "PRIMARY")
    unique := constraints.any (·.isKeyword "UNIQUE")
    notNull := saysNotNull constraints }

/-- The columns after one more definition. -/
def Column.addDefinition (columns : List Column) :
    List Token → Except ParseError (List Column)
  | [] => .error (.malformed .emptyDefinition)
  | first :: rest =>
    if first.isOneOf tableConstraintStarts then
      .ok (Column.constrain (first :: rest) columns)
    else
      match first.identifier? with
      | some name => .ok (columns ++ [Column.define name rest])
      | none => .error (.invalidIdentifier first.spelling)

/-- The columns after a list of definitions. -/
def Column.readAll (columns : List Column) :
    List (List Token) → Except ParseError (List Column)
  | [] => .ok columns
  | definition :: rest => do
    let columns ← Column.addDefinition columns definition
    Column.readAll columns rest

end MiniSql
