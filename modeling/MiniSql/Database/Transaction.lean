import MiniSql.Database.Session
import MiniSql.Script

/-!
# Transactions as programs

A program runs in a transaction of its own. It is a tree: each step asks the database for
something and chooses the next step by the reply, and at the end the program returns a value,
fails with an error or is aborted. Unless it returns, every change it made is undone.

While a transaction begun by `BEGIN` is open, no program is run.
-/

namespace MiniSql

/-- What a program can ask for. -/
inductive Request where
  | execute (sql : String)
  | run (p : Prepared) (params : List Value)
  | fetchOne (p : Prepared) (params : List Value)
  | fetchMany (p : Prepared) (params : List Value)

/-- What a program gets. -/
inductive Reply where
  | result (r : StatementResult)
  | changes (c : Changes)
  | row (row : Option Row)
  | rows (rows : List Row)
deriving DecidableEq

/-- How a program ends. -/
inductive Ending (α : Type) where
  | returned (value : α)
  | failed (e : DatabaseError)
  | aborted (message : String)

/-- A program that runs in a transaction. -/
inductive Program (α : Type) where
  | finish (ending : Ending α)
  | ask (request : Request) (next : Except DatabaseError Reply → Program α)

/-- A step of a program as it happened. -/
structure Step where
  reply : Except DatabaseError Reply
  notices : List Notice

/-- A program that was run: its steps, its end and the database it left. -/
structure Run (α : Type) where
  steps : List Step
  ending : Ending α
  database : Database

namespace Database

/-- Answers a request within a program; transaction commands are refused. -/
def serve (db : Database) : Request → Answer Reply
  | .execute sql => (db.executeText sql false).map .result
  | .run p params => (db.runPrepared p params false).map .changes
  | .fetchOne p params => (db.fetchOne p params).map .row
  | .fetchMany p params => (db.fetchMany p params).map .rows

/-- Runs a program step by step. -/
def runProgram {α : Type} (db : Database) : Program α → Run α
  | .finish ending => ⟨[], ending, db⟩
  | .ask request next =>
    let answer := db.serve request
    let rest := answer.database.runProgram (next answer.result)
    { rest with steps := ⟨answer.result, answer.notices⟩ :: rest.steps }

/-- A finished transaction, with the notices given outside the program's steps. -/
structure Transacted (α : Type) where
  steps : List Step
  ending : Ending α
  database : Database
  notices : List Notice

/-- Runs a program in a transaction. -/
def transact {α : Type} (db : Database) (program : Program α) : Transacted α :=
  if db.inTransaction then ⟨[], .failed (.transaction .alreadyActive), db, []⟩
  else
    let run := db.runProgram program
    let undone := { run.database with registry := db.registry }
    match run.ending with
    | .returned value =>
      ⟨run.steps, .returned value, run.database, [.transactionStarted, .transactionCommitted]⟩
    | .failed e =>
      ⟨run.steps, .failed e, undone, [.transactionStarted, .transactionRolledBack e]⟩
    | .aborted message =>
      ⟨run.steps, .aborted message, undone, [.transactionStarted, .transactionAborted]⟩

/-- Executes the statements of a script in order up to the first error. -/
def executeScript (db : Database) (text : String) : Answer (List StatementResult) :=
  db.executeAll (Script.split text)

end Database

end MiniSql
