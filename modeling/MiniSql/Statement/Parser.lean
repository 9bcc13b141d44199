import MiniSql.Predicate.Clause
import MiniSql.Statement.Basic
import MiniSql.Statement.Definition

/-!
# Reading statements

A text is scanned, its kind is decided by its first keywords, and the tokens are read by the
rules of that kind. A statement ends at a semicolon outside parentheses or at the end, and
only semicolons may follow it.

Ordering, limits, aliases and table options are accepted and have no effect.
-/

namespace MiniSql

/-- The kind that the first keywords announce. -/
def StatementKind.ofTokens : List Token → StatementKind
  | [] => .unknown
  | first :: rest =>
    if first.isKeyword "CREATE" then
      let words := (rest.take 3).takeWhile (Token.isOneOf ["TEMP", "TEMPORARY", "TABLE"])
      if words.any (·.isKeyword "TABLE") then .createTable else .unknown
    else if first.isKeyword "INSERT" then .insert
    else if first.isKeyword "UPDATE" then .update
    else if first.isKeyword "DELETE" then .delete
    else if first.isKeyword "SELECT" then .select
    else if first.isKeyword "BEGIN" then .begin
    else if first.isKeyword "START" && rest.head?.any (·.isKeyword "TRANSACTION") then .begin
    else if first.isKeyword "COMMIT" || first.isKeyword "END" then .commit
    else if first.isKeyword "ROLLBACK" then .rollback
    else if first.isKeyword "PRAGMA" then .pragma
    else .unknown

/-- The kind of a text; a text with a lexical fault has none. -/
def StatementKind.classify (sql : String) : StatementKind :=
  match Token.scan sql with
  | .ok tokens => ofTokens tokens
  | .error _ => .unknown

namespace Parser

/-- The first token is the keyword. -/
def startsWith (keyword : String) (tokens : List Token) : Bool :=
  tokens.head?.any (·.isKeyword keyword)

/-- The first token is one of the keywords. -/
def startsWithAny (keywords : List String) (tokens : List Token) : Bool :=
  tokens.head?.any (·.isOneOf keywords)

/-- The tokens after an expected keyword. -/
def expect (keyword : String) : List Token → Except ParseError (List Token)
  | [] => .error (.malformed (.expected keyword none))
  | t :: ts =>
    if t.isKeyword keyword then .ok ts else .error (.malformed (.expected keyword (some t)))

/-- A word that names something, and the tokens after it. -/
def identifier (tokens : List Token) : Except ParseError (String × List Token) :=
  match tokens.head?.bind Token.identifier? with
  | some name => .ok (name, tokens.tail)
  | none => .error (.invalidIdentifier (describe tokens.head?))

/-- The name of a relation; a qualifier before a point is dropped. -/
def relationName (tokens : List Token) : Except ParseError (String × List Token) := do
  let (name, rest) ← identifier tokens
  match rest with
  | .mark .period :: rest => identifier rest
  | rest => .ok (name, rest)

/-- The tokens of a group in parentheses, and the tokens after it. -/
def group : List Token → Except ParseError (List Token × List Token)
  | .mark .leftParen :: rest =>
    match Token.closeGroup 0 rest with
    | some (inner, rest) => .ok (inner, rest)
    | none => .error (.malformed .unbalanced)
  | tokens => .error (.malformed (.expected "'('" tokens.head?))

/-- The tokens of a group in parentheses if there is one. -/
def optionalGroup (tokens : List Token) :
    Except ParseError (Option (List Token) × List Token) :=
  if tokens.head? = some (.mark .leftParen) then
    (group tokens).map fun (inner, rest) => (some inner, rest)
  else .ok (none, tokens)

/-- The tokens before the first semicolon. -/
def beforeSemicolon (tokens : List Token) : List Token :=
  tokens.takeWhile (· ≠ .mark .semicolon)

/-- The tokens from the first semicolon on. -/
def fromSemicolon (tokens : List Token) : List Token :=
  tokens.dropWhile (· ≠ .mark .semicolon)

/-- Only semicolons are left. -/
def finish (tokens : List Token) : Except ParseError Unit :=
  match tokens.dropWhile (· = .mark .semicolon) with
  | [] => .ok ()
  | t :: _ => .error (.malformed (.trailing t))

/-- The creation of a relation. -/
def createTable (tokens : List Token) : Except ParseError (CreateTable × List Token) := do
  let tokens ← expect "CREATE" tokens
  let tokens := if startsWithAny ["TEMP", "TEMPORARY"] tokens then tokens.tail else tokens
  let tokens ← expect "TABLE" tokens
  let ifNotExists := startsWith "IF" tokens
  let tokens ←
    if ifNotExists then expect "NOT" tokens.tail >>= expect "EXISTS" else .ok tokens
  let (relation, tokens) ← relationName tokens
  if startsWith "AS" tokens then .error (.unsupported .createFromSelect)
  let (body, tokens) ← optionalGroup tokens
  let columns ← Column.readAll [] (Token.splitAtCommas (body.getD []))
  .ok (⟨relation, ifNotExists, columns⟩, fromSemicolon tokens)

/-- An insertion. -/
def insert (tokens : List Token) : Except ParseError (Insert × List Token) := do
  let tokens ← expect "INSERT" tokens
  if startsWith "OR" tokens then .error (.unsupported .insertConflict)
  let tokens ← expect "INTO" tokens
  let (relation, tokens) ← relationName tokens
  let (list, tokens) ← optionalGroup tokens
  let columns ← (Token.splitAtCommas (list.getD [])).mapM columnName
  if startsWithAny ["SELECT", "DEFAULT"] tokens then
    .error (.unsupported .insertWithoutValues)
  let tokens ← expect "VALUES" tokens
  let (list, tokens) ← group tokens
  let (values, _) ← Operand.readAll 0 (Token.splitAtCommas list)
  if tokens.head? = some (.mark .comma) then .error (.unsupported .severalRows)
  if columns ≠ [] ∧ columns.length ≠ values.length then
    .error (.malformed (.countMismatch columns.length values.length))
  .ok (⟨relation, columns, values⟩, tokens)

/-- One assignment, cut at its first equality sign. -/
def assignment (slot : Nat) (entry : List Token) : Except ParseError (Assignment × Nat) :=
  match entry.dropWhile (fun t => !t.isEquality) with
  | [] => .error (.malformed (.noEquality entry))
  | _ :: value => do
    let column ← columnName (entry.takeWhile fun t => !t.isEquality)
    let (operand, slot) ← Operand.read slot value
    .ok (⟨column, operand⟩, slot)

/-- The assignments of a list, their parameters numbered from `slot`. -/
def assignments (slot : Nat) :
    List (List Token) → Except ParseError (List Assignment × Nat)
  | [] => .ok ([], slot)
  | entry :: rest => do
    let (first, slot) ← assignment slot entry
    let (others, slot) ← assignments slot rest
    .ok (first :: others, slot)

/-- A change of rows. -/
def update (tokens : List Token) : Except ParseError (Update × List Token) := do
  let tokens ← expect "UPDATE" tokens
  if startsWith "OR" tokens then .error (.unsupported .updateConflict)
  let (relation, tokens) ← relationName tokens
  let tokens ← expect "SET" tokens
  let (list, tokens) := Token.takeUntil (·.isKeyword "WHERE") 0 tokens
  let (changes, slot) ← assignments 0 (Token.splitAtCommas list)
  if changes = [] then .error (.malformed .noAssignments)
  let (predicate, tokens) ← Predicate.read slot tokens
  .ok (⟨relation, changes, predicate⟩, tokens)

/-- A removal of rows. -/
def delete (tokens : List Token) : Except ParseError (Delete × List Token) := do
  let tokens ← expect "DELETE" tokens
  let tokens ← expect "FROM" tokens
  let (relation, tokens) ← relationName tokens
  let (predicate, tokens) ← Predicate.read 0 tokens
  .ok (⟨relation, predicate⟩, tokens)

/-- The tokens after an alias, if there is one. -/
def skipAlias (tokens : List Token) : Except ParseError (List Token) :=
  if startsWith "AS" tokens then (identifier tokens.tail).map Prod.snd
  else if (tokens.head?.bind Token.identifier?).isSome
      && !startsWithAny ("WHERE" :: clauseEnds) tokens then
    .ok tokens.tail
  else .ok tokens

/-- The keywords that bring in a second relation. -/
def joinStarts : List String :=
  ["JOIN", "INNER", "LEFT", "RIGHT", "CROSS", "NATURAL"]

/-- A query. -/
def select (tokens : List Token) : Except ParseError (Select × List Token) := do
  let tokens ← expect "SELECT" tokens
  let (list, tokens) := Token.takeUntil (·.isKeyword "FROM") 0 tokens
  if !startsWith "FROM" tokens then .error (.unsupported .selectWithoutRelation)
  let (relation, tokens) ← relationName tokens.tail
  let tokens ← skipAlias tokens
  if tokens.head? = some (.mark .comma) || startsWithAny joinStarts tokens then
    .error (.unsupported .severalRelations)
  let (predicate, tokens) ← Predicate.read (Token.placeholderCount list) tokens
  if startsWithAny ["GROUP", "HAVING"] tokens then .error (.unsupported .grouping)
  let rest := if startsWithAny ["ORDER", "LIMIT"] tokens then fromSemicolon tokens else tokens
  .ok (⟨relation, Projection.read list, predicate⟩, rest)

/-- A rollback. The word after `ROLLBACK` must not be `TO`. -/
def rollback (tokens : List Token) : Except ParseError (List Token) := do
  let tokens ← expect "ROLLBACK" tokens
  if startsWith "TO" tokens then .error (.unsupported .savepointRollback)
  .ok (fromSemicolon tokens)

/-- A statement of a kind, and the tokens after it. -/
def statement (kind : StatementKind) (tokens : List Token) :
    Except ParseError (Statement × List Token) :=
  match kind with
  | .createTable => (createTable tokens).map fun (s, rest) => (.createTable s, rest)
  | .insert => (insert tokens).map fun (s, rest) => (.insert s, rest)
  | .update => (update tokens).map fun (s, rest) => (.update s, rest)
  | .delete => (delete tokens).map fun (s, rest) => (.delete s, rest)
  | .select => (select tokens).map fun (s, rest) => (.select s, rest)
  | .begin => .ok (.begin, fromSemicolon tokens)
  | .commit => .ok (.commit, fromSemicolon tokens)
  | .rollback => (rollback tokens).map fun rest => (.rollback, rest)
  | .pragma => do
    let tokens ← expect "PRAGMA" tokens
    .ok (.pragma (Token.render (beforeSemicolon tokens)), fromSemicolon tokens)
  | .unknown => .error (.unsupported (.statement tokens.head?))

end Parser

/-- The statement that a token list spells. -/
def Statement.ofTokens (tokens : List Token) : Except ParseError Statement :=
  if tokens.all (· = .mark .semicolon) then .error .empty
  else do
    let (s, rest) ← Parser.statement (.ofTokens tokens) tokens
    Parser.finish rest
    .ok s

/-- The statement that a text spells. -/
def Statement.parse (sql : String) : Except ParseError Statement :=
  match Token.scan sql with
  | .error e => .error (.malformed (.lexical e))
  | .ok tokens => Statement.ofTokens tokens

end MiniSql
