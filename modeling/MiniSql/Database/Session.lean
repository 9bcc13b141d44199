import MiniSql.Config
import MiniSql.Database.Error
import MiniSql.Database.Result
import MiniSql.Notice
import MiniSql.Statement.Parser

/-!
# Databases

A database holds its live relations, the relations as they were when the open transaction
began, and the number of statements it has executed. Every call is a function of the
database: it answers with a result or an error, the database afterwards and the notices it
gave.

Statement text is executed at once; a prepared statement is read once and executed with
parameters as often as wanted. `BEGIN`, `COMMIT` and `ROLLBACK` are obeyed on either way,
except inside a transaction of the other form.
-/

namespace MiniSql

/-- A database. -/
structure Database where
  config : Config
  registry : Registry
  /-- The relations as of the open transaction's `BEGIN`. -/
  snapshot : Option Registry
  /-- Number of statements executed. -/
  executed : Nat
deriving DecidableEq

/-- The answer to a call: its result, the database afterwards, and the notices given. -/
structure Answer (α : Type) where
  result : Except DatabaseError α
  database : Database
  notices : List Notice

/-- Changes the result of an answer. -/
def Answer.map {α β : Type} (f : α → β) (a : Answer α) : Answer β :=
  ⟨a.result.map f, a.database, a.notices⟩

/-- Puts notices before those of an answer. -/
def Answer.after {α : Type} (notices : List Notice) (a : Answer α) : Answer α :=
  { a with notices := notices ++ a.notices }

/-- Continues with the result of an answer, unless it is an error. -/
def Answer.andThen {α β : Type} (a : Answer α) (f : Database → α → Answer β) : Answer β :=
  match a.result with
  | .error e => ⟨.error e, a.database, a.notices⟩
  | .ok value => (f a.database value).after a.notices

/-- A statement read once. A text that is no statement keeps the reason. -/
structure Prepared where
  sql : String
  parsed : Except ParseError Statement

namespace Prepared

/-- Reads the text of a statement. -/
def ofText (sql : String) : Prepared :=
  ⟨sql, Statement.parse sql⟩

/-- The kind of the statement, decided by its first keywords if it was not read. -/
def kind (p : Prepared) : StatementKind :=
  match p.parsed with
  | .ok s => s.kind
  | .error _ => .classify p.sql

end Prepared

namespace Database

/-- A database without relations. -/
def create (config : Config) : Database :=
  ⟨config, .empty, none, 0⟩

/-- A transaction begun by `BEGIN` is open. -/
def inTransaction (db : Database) : Bool :=
  db.snapshot.isSome

/-- A successful answer that leaves the database alone. -/
def succeed {α : Type} (db : Database) (value : α) : Answer α :=
  ⟨.ok value, db, []⟩

/-- A failure that leaves the database alone. -/
def fail {α : Type} (db : Database) (e : DatabaseError) : Answer α :=
  ⟨.error e, db, []⟩

/-- Applies the policy to a statement that is not handled. -/
def unhandled {α : Type} (db : Database) (sql reason : String) (neutral : α) : Answer α :=
  match db.config.unsupported with
  | .degrade => ⟨.ok neutral, db, [.degraded sql reason]⟩
  | .reject => db.fail (.unsupported sql reason)

/-- Counts one more statement. -/
def count (db : Database) : Database :=
  { db with executed := db.executed + 1 }

/-- Obeys a transaction command. -/
def control (db : Database) (command : StatementKind) : Answer StatementResult :=
  let db := db.count
  let obeyed (db : Database) : Answer StatementResult :=
    ⟨.ok (.transaction command), db, [.control command]⟩
  match command, db.snapshot with
  | .begin, none => obeyed { db with snapshot := some db.registry }
  | .begin, some _ => db.fail (.transaction .nestedBegin)
  | .commit, some _ => obeyed { db with snapshot := none }
  | .rollback, some saved => obeyed { db with registry := saved, snapshot := none }
  | command, _ => db.fail (.transaction (.noneActive command))

/-- A warning that a statement deals with the column `id` in vain. -/
def idNotices (sql : String) : Statement → List Notice
  | .insert s => if s.columns.contains idColumn then [.idInserted sql] else []
  | .update s =>
    if s.assignments.any (·.column = idColumn) then [.idAssigned sql] else []
  | _ => []

/-- The notices after a statement was executed. -/
def executedNotices (config : Config) (sql : String) (params : List Value) : List Notice :=
  .executed sql params.length config.statementLogging ::
    if config.slowThreshold = 0 then [.slow sql] else []

/-- Executes a statement that is no transaction command on a path. -/
def dispatch (db : Database) (sql : String) (s : Statement) (path : Path)
    (params : List Value) : Answer Outcome :=
  let db := db.count
  let warnings := idNotices sql s
  match db.registry.execute db.config.execOptions s path params with
  | .error e => ⟨.error (.ofStorage e), db, warnings⟩
  | .ok (outcome, registry) =>
    ⟨.ok outcome, { db with registry := registry },
      warnings ++ executedNotices db.config sql params⟩

/-- A warning that a clause did not filter. -/
def filterNotices (sql : String) : Filter → List Notice
  | .unrecognized => [.unfiltered sql]
  | _ => []

/-- Executes the text of a statement. Transaction commands are obeyed if `controls`. -/
def executeText (db : Database) (sql : String) (controls : Bool) : Answer StatementResult :=
  match Statement.parse sql with
  | .error e => db.unhandled sql e.message (.ignored e.message)
  | .ok s =>
    if s.kind.isControl then
      if controls then db.control s.kind
      else db.fail (.transaction (.notAllowed s.kind))
    else
      let path := if s.kind = .select then Path.fetchMany else Path.run
      (db.dispatch sql s path []).andThen fun db outcome =>
        match outcome with
        | .created relation _ => db.succeed (.created relation)
        | .changed changes => db.succeed (.changed changes)
        | .rows rows filter => (db.succeed (.rows rows)).after (filterNotices sql filter)
        | .row row _ => db.succeed (.rows row.toList)
        | .inert => db.succeed .pragma
        | .unsupported shape => db.unhandled sql shape.message (.ignored shape.message)

/-- Executes the text of a statement. A query returns every matching row. -/
def execute (db : Database) (sql : String) : Answer StatementResult :=
  db.executeText sql true

/-- Runs a prepared statement for its effect. Transaction commands are obeyed if
`controls`. -/
def runPrepared (db : Database) (p : Prepared) (params : List Value) (controls : Bool) :
    Answer Changes :=
  match p.parsed with
  | .error e => db.unhandled p.sql e.message .none
  | .ok s =>
    if s.kind.isControl then
      if controls then (db.control s.kind).map fun _ => .none
      else db.fail (.transaction (.notAllowed s.kind))
    else
      (db.dispatch p.sql s .run params).andThen fun db outcome =>
        match outcome with
        | .changed changes => db.succeed changes
        | .unsupported shape => db.unhandled p.sql shape.message .none
        | _ => db.succeed .none

/-- Runs a prepared statement for its effect. -/
def run (db : Database) (p : Prepared) (params : List Value) : Answer Changes :=
  db.runPrepared p params true

/-- The first row of a prepared query. -/
def fetchOne (db : Database) (p : Prepared) (params : List Value) : Answer (Option Row) :=
  match p.parsed with
  | .error e => db.unhandled p.sql e.message none
  | .ok s =>
    (db.dispatch p.sql s .fetchOne params).andThen fun db outcome =>
      match outcome with
      | .row row _ => db.succeed row
      | .unsupported shape => db.unhandled p.sql shape.message none
      | _ => db.succeed none

/-- Every row of a prepared query, in order of insertion. -/
def fetchMany (db : Database) (p : Prepared) (params : List Value) : Answer (List Row) :=
  match p.parsed with
  | .error e => db.unhandled p.sql e.message []
  | .ok s =>
    (db.dispatch p.sql s .fetchMany params).andThen fun db outcome =>
      match outcome with
      | .rows rows filter => (db.succeed rows).after (filterNotices p.sql filter)
      | .unsupported shape => db.unhandled p.sql shape.message []
      | _ => db.succeed []

/-- Executes statements in order up to the first error. -/
def executeAll (db : Database) : List String → Answer (List StatementResult)
  | [] => db.succeed []
  | sql :: rest =>
    (db.execute sql).andThen fun db result => (db.executeAll rest).map (result :: ·)

/-- The declared columns of a relation and its number of rows. -/
def describe? (db : Database) (relation : String) : Option (List Column × Nat) :=
  (db.registry.find? relation).map fun r => (r.columns, r.rows.length)

/-- The names of the relations, sorted. -/
def relationNames (db : Database) : List String :=
  db.registry.names

/-- A failed call that was refused outright leaves the database alone. -/
@[simp] theorem database_fail {α : Type} (db : Database) (e : DatabaseError) :
    (db.fail e : Answer α).database = db := rfl

/-- The policy on what is not handled leaves the database alone. -/
@[simp] theorem database_unhandled {α : Type} (db : Database) (sql reason : String)
    (neutral : α) : (db.unhandled sql reason neutral).database = db := by
  unfold unhandled
  split <;> rfl

end Database

end MiniSql
