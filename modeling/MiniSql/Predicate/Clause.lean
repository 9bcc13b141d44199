import MiniSql.Predicate.Basic
import MiniSql.Token.Group

/-!
# Reading clauses

Reading the pieces of statements from token lists: names, operands, select lists and
`WHERE` clauses. Parameters get their slots here, in the order in which the pieces are read;
each reader that may meet a parameter takes the next free slot and returns the one after.

A `WHERE` clause with an `OR` outside parentheses is one conjunct. Otherwise it is cut at
every `AND` outside parentheses that does not belong to a `BETWEEN`.
-/

namespace MiniSql

/-- A column: a word, or a word after a qualifier and a point. -/
def columnName (tokens : List Token) : Except ParseError String :=
  let name :=
    match tokens with
    | [t] => t.identifier?
    | [_, .mark .period, t] => t.identifier?
    | _ => none
  match name with
  | some n => .ok n
  | none => .error (.invalidIdentifier (Token.render tokens))

/-- A value: a parameter, a text, a numeral with an optional minus, or one of the words
`NULL`, `TRUE` and `FALSE`. A word in double quotes is a text here. -/
def Operand.read (slot : Nat) (tokens : List Token) : Except ParseError (Operand × Nat) :=
  match tokens with
  | [.placeholder _] => .ok (.placeholder slot, slot + 1)
  | [.text .plain s] => .ok (.literal (.text s), slot)
  | [.word s (some .double)] => .ok (.literal (.text s), slot)
  | [.number digits _] => (Literal.readNumber digits false).map fun l => (.literal l, slot)
  | [.mark .minus, .number digits _] =>
    (Literal.readNumber digits true).map fun l => (.literal l, slot)
  | [t] =>
    if t.isKeyword "NULL" then .ok (.literal .null, slot)
    else if t.isKeyword "TRUE" then .ok (.literal (.integer 1), slot)
    else if t.isKeyword "FALSE" then .ok (.literal (.integer 0), slot)
    else .error (.unsupported (.expression tokens))
  | _ => .error (.unsupported (.expression tokens))

/-- The values of a list, their parameters numbered from `slot`. -/
def Operand.readAll (slot : Nat) : List (List Token) → Except ParseError (List Operand × Nat)
  | [] => .ok ([], slot)
  | tokens :: rest => do
    let (operand, slot) ← Operand.read slot tokens
    let (operands, slot) ← Operand.readAll slot rest
    .ok (operand :: operands, slot)

/-- A select list: a star, columns, or expressions kept as text. -/
def Projection.read (tokens : List Token) : Projection :=
  if tokens = [.mark .star] then .all
  else
    match (Token.splitAtCommas tokens).mapM columnName with
    | .ok [] => .expressions (Token.render tokens)
    | .ok names => .columns names
    | .error _ => .expressions (Token.render tokens)

/-- Cuts at `AND` outside parentheses, with the piece `current` under way. An `AND` after a
`BETWEEN` belongs to it. -/
def conjunctsFrom (depth : Nat) (inBetween : Bool) (current : List Token) :
    List Token → List (List Token)
  | [] => [current]
  | t :: ts =>
    if depth = 0 && t.isKeyword "BETWEEN" then conjunctsFrom 0 true (current ++ [t]) ts
    else if depth = 0 && t.isKeyword "AND" then
      if inBetween then conjunctsFrom 0 false (current ++ [t]) ts
      else current :: conjunctsFrom 0 false [] ts
    else conjunctsFrom (Token.nest depth t) inBetween (current ++ [t]) ts

/-- Cuts a clause at `AND` outside parentheses, a `BETWEEN` and its `AND` staying together. -/
def splitConjuncts (tokens : List Token) : List (List Token) :=
  conjunctsFrom 0 false [] tokens

/-- The column of a comparison with a parameter. -/
def comparedColumn? : List Token → Option String
  | [column, equality, parameter] =>
    if equality.isEquality && parameter.isPlaceholder then column.identifier? else none
  | [_, .mark .period, column, equality, parameter] =>
    if equality.isEquality && parameter.isPlaceholder then column.identifier? else none
  | _ => none

/-- A conjunct, without the parentheses around it. -/
def Conjunct.read (slot : Nat) (tokens : List Token) : Conjunct × Nat :=
  let tokens := Token.stripParens tokens
  match comparedColumn? tokens with
  | some column => (.equals column slot, slot + 1)
  | none => (.other (Token.render tokens), slot + Token.placeholderCount tokens)

/-- The conjuncts of a list, their parameters numbered from `slot`. -/
def Conjunct.readAll (slot : Nat) : List (List Token) → List Conjunct × Nat
  | [] => ([], slot)
  | tokens :: rest =>
    let (conjunct, slot) := Conjunct.read slot tokens
    let (conjuncts, slot) := Conjunct.readAll slot rest
    (conjunct :: conjuncts, slot)

/-- The keywords that end a `WHERE` clause. -/
def clauseEnds : List String := [
  "ORDER", "GROUP", "HAVING", "LIMIT", "OFFSET", "RETURNING", "JOIN", "INNER", "LEFT",
  "RIGHT", "CROSS", "NATURAL", "ON"]

/-- The conjuncts of a clause that is not empty. -/
def Predicate.ofTokens (slot : Nat) (tokens : List Token) : Predicate × Nat :=
  let alternatives := Token.split (·.isKeyword "OR") tokens
  let pieces := if alternatives.length > 1 then [tokens] else splitConjuncts tokens
  let (conjuncts, slot) := Conjunct.readAll slot pieces
  (⟨conjuncts⟩, slot)

/-- An optional `WHERE` clause in front, and the tokens after it. -/
def Predicate.read (slot : Nat) : List Token → Except ParseError (Option Predicate × List Token)
  | [] => .ok (none, [])
  | t :: ts =>
    if t.isKeyword "WHERE" then
      let (clause, rest) := Token.takeUntil (Token.isOneOf clauseEnds) 0 ts
      if clause = [] then .error (.malformed .emptyWhere)
      else .ok (some (Predicate.ofTokens slot clause).1, rest)
    else .ok (none, t :: ts)

end MiniSql
