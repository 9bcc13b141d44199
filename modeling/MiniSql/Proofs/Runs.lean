import MiniSql.Proofs.Requests
import MiniSql.Schema

/-!
# Runs of a database

The handles of a database share its state and take turns. A turn is one request or one whole
program; a script takes a turn for each statement it comes to, so that other handles may have
theirs in between. A run is the list of the calls of all handles in the order of their turns.

Obeying a transaction command moves the database in one of three ways. Every other turn
changes relations at most, whatever its result is.

**Results.**
* `moves_afterTurn`: what one turn does to a database.
* `afterCalls_eq`: a run of calls is a run of turns.
-/

namespace MiniSql

/-- What a handle does in one turn. -/
inductive Turn : Type 1 where
  | request (r : Request)
  | program {α : Type} (p : Program α)

/-- A call by a handle. -/
inductive Call : Type 1 where
  | turn (t : Turn)
  /-- The statements of a text in order up to the first error. -/
  | script (text : String)
  /-- The creation of the platform's relations. -/
  | schema

namespace Database

/-- The database after a turn. -/
def afterTurn (db : Database) : Turn → Database
  | .request r => (db.answer r).database
  | .program p => (db.transact p).database

/-- The database after turns. -/
def afterTurns (db : Database) (turns : List Turn) : Database :=
  turns.foldl afterTurn db

/-- The answer to a call without what it returns; of a turn only the database is told. -/
def callAnswer (db : Database) : Call → Answer Unit
  | .turn t => ⟨.ok (), db.afterTurn t, []⟩
  | .script text => (db.executeScript text).map fun _ => ()
  | .schema => Schema.create db

/-- The database after a call. -/
def afterCall (db : Database) (c : Call) : Database :=
  (db.callAnswer c).database

/-- The database after calls. -/
def afterCalls (db : Database) (calls : List Call) : Database :=
  calls.foldl afterCall db

/-- The turns that executing statements takes; the first error ends it. -/
def statementTurns (db : Database) : List String → List Turn
  | [] => []
  | sql :: rest =>
      .request (.execute sql) ::
        match (db.execute sql).result with
        | .ok _ => (db.execute sql).database.statementTurns rest
        | .error _ => []

/-- The turns that a call takes. -/
def callTurns (db : Database) : Call → List Turn
  | .turn t => [t]
  | .script text => db.statementTurns (Script.split text)
  | .schema => db.statementTurns Schema.statements

/-- The turns that calls take. -/
def turns (db : Database) : List Call → List Turn
  | [] => []
  | c :: rest => db.callTurns c ++ (db.afterCall c).turns rest

/-- The transaction command that is obeyed in a turn. -/
def obeyed? (db : Database) : Turn → Option StatementKind
  | .request r =>
      match (db.answer r).result with
      | .ok _ => r.command?
      | .error _ => none
  | .program _ => none

/-- The transaction commands that are obeyed in turns, in order. -/
def obeyed (db : Database) : List Turn → List StatementKind
  | [] => []
  | t :: rest => (db.obeyed? t).toList ++ (db.afterTurn t).obeyed rest

/-! ## One turn -/

/-- How a database moves in a turn in which the given transaction command is obeyed. -/
inductive Moves (db : Database) : Option StatementKind → Database → Prop
  | data {db' : Database} :
      DataStep db db' →
      Moves db none db'
  | begin :
      db.snapshot = none →
      Moves db (some .begin) { db.count with snapshot := some db.registry }
  | commit {saved : Registry} :
      db.snapshot = some saved →
      Moves db (some .commit) { db.count with snapshot := none }
  | rollback {saved : Registry} :
      db.snapshot = some saved →
      Moves db (some .rollback) { db.count with registry := saved, snapshot := none }

/-- A command is obeyed, or refused without a trace but the count. -/
theorem moves_control (db : Database) {command : StatementKind}
    (hcontrol : command.isControl = true) :
    ((db.control command).result = .ok (.transaction command) ∧
        Moves db (some command) (db.control command).database) ∨
    ∃ fault, db.control command = db.count.fail (.transaction fault) := by
  cases hsnapshot : db.snapshot with
  | none =>
      by_cases hbegin : command = .begin
      · subst hbegin
        rw [control_begin hsnapshot]
        exact .inl ⟨rfl, .begin hsnapshot⟩
      · exact .inr ⟨_, control_of_none_open hbegin hsnapshot⟩
  | some saved =>
      cases command with
      | begin => exact .inr ⟨_, control_begin_of_open hsnapshot⟩
      | commit =>
          rw [control_commit hsnapshot]
          exact .inl ⟨rfl, .commit hsnapshot⟩
      | rollback =>
          rw [control_rollback hsnapshot]
          exact .inl ⟨rfl, .rollback hsnapshot⟩
      | _ => cases hcontrol

theorem moves_answer (db : Database) (r : Request) :
    Moves db (db.obeyed? (.request r)) (db.answer r).database := by
  cases hcommand : r.command? with
  | none =>
      have hobeyed : db.obeyed? (.request r) = none := by
        simp only [obeyed?, hcommand]
        split <;> rfl
      rw [hobeyed, answer_of_no_command db hcommand]
      exact .data (dataStep_serve db r)
  | some command =>
      have hanswer := answer_of_command db hcommand
      rcases moves_control db (isControl_of_command hcommand) with
        ⟨hresult, hmoves⟩ | ⟨fault, hfault⟩
      · have hobeyed : db.obeyed? (.request r) = some command := by
          simp only [obeyed?, hanswer, Answer.map, hresult, Except.map, hcommand]
        rw [hobeyed, hanswer, Answer.database_map]
        exact hmoves
      -- A command that is refused is only one more statement that was counted.
      · have hobeyed : db.obeyed? (.request r) = none := by
          simp only [obeyed?, hanswer, Answer.map, hfault, fail, Except.map]
        rw [hobeyed, hanswer, Answer.database_map, hfault]
        exact .data (DataStep.count db)

/-- Running a program changes relations at most. -/
theorem dataStep_runProgram {α : Type} (db : Database) (p : Program α) :
    DataStep db (db.runProgram p).database := by
  induction p generalizing db with
  | finish ending => exact DataStep.refl db
  | ask request next ih =>
      have hserve := dataStep_serve db request
      exact hserve.trans (ih (db.serve request).result (db.serve request).database)

/-- A program's transaction changes relations at most. -/
theorem dataStep_transact {α : Type} (db : Database) (p : Program α) :
    DataStep db (db.transact p).database := by
  have hrun := dataStep_runProgram db p
  unfold transact
  split
  · exact DataStep.refl db
  · simp only
    split
    · exact hrun
    · exact ⟨hrun.config, hrun.snapshot, .refl db.registry⟩
    · exact ⟨hrun.config, hrun.snapshot, .refl db.registry⟩

/-- What one turn does to a database. -/
theorem moves_afterTurn (db : Database) (t : Turn) :
    Moves db (db.obeyed? t) (db.afterTurn t) := by
  cases t with
  | request r => exact moves_answer db r
  | program p => exact .data (dataStep_transact db p)

/-! ## Calls as turns -/

@[simp] theorem afterTurns_cons (db : Database) (t : Turn) (rest : List Turn) :
    db.afterTurns (t :: rest) = (db.afterTurn t).afterTurns rest := rfl

theorem afterTurns_append (db : Database) (ts us : List Turn) :
    db.afterTurns (ts ++ us) = (db.afterTurns ts).afterTurns us :=
  List.foldl_append

@[simp] theorem afterCalls_cons (db : Database) (c : Call) (rest : List Call) :
    db.afterCalls (c :: rest) = (db.afterCall c).afterCalls rest := rfl

theorem database_executeAll (db : Database) (texts : List String) :
    (db.executeAll texts).database = db.afterTurns (db.statementTurns texts) := by
  induction texts generalizing db with
  | nil => rfl
  | cons sql rest ih =>
      rw [executeAll, statementTurns, afterTurns_cons]
      cases hresult : (db.execute sql).result with
      | error e =>
          rw [Answer.andThen_of_error _ hresult]
          rfl
      | ok result =>
          rw [Answer.andThen_of_ok _ hresult, Answer.database_after, Answer.database_map, ih]
          rfl

theorem database_createSchema (db : Database) :
    (Schema.create db).database = (db.executeAll Schema.statements).database := by
  rw [Schema.create]
  generalize Schema.statements = texts
  rw [Answer.database_andThen]
  intro db value
  rfl

theorem afterCall_eq (db : Database) (c : Call) :
    db.afterCall c = db.afterTurns (db.callTurns c) := by
  cases c with
  | turn t => rfl
  | script text =>
      rw [afterCall, callAnswer, Answer.database_map, executeScript, callTurns,
        database_executeAll]
  | schema => rw [afterCall, callAnswer, database_createSchema, callTurns, database_executeAll]

/-- A run of calls is the run of the turns that the calls take. -/
theorem afterCalls_eq (db : Database) (calls : List Call) :
    db.afterCalls calls = db.afterTurns (db.turns calls) := by
  induction calls generalizing db with
  | nil => rfl
  | cons c rest ih =>
      rw [afterCalls_cons, turns, afterTurns_append, ← afterCall_eq, ih]

end Database

end MiniSql
