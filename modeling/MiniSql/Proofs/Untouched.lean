import Mathlib.Data.List.Basic
import MiniSql.Proofs.Transactions

/-!
# Calls without effect

A call whose answer is an error, or reports that nothing was changed, has left the relations
of the database as they were, the live ones and those kept aside by `BEGIN` alike. This holds
of every database, reachable or not.

A statement that is run for its effect tells how many rows it changed, unless it is a creation
or a transaction command, which report no number of rows.

**Results.**
* `untouched_answer`: a request with a quiet reply.
* `untouched_of_no_change`: every kind of call.
-/

namespace MiniSql

/-- The result reports that nothing was changed. -/
def StatementResult.isQuiet : StatementResult → Bool
  | created _ => false
  | changed changes => changes.count = 0
  | rows _ => true
  | transaction _ => false
  | pragma => true
  | ignored _ => true

/-- The statement is neither a creation nor a transaction command. -/
def Statement.isCounted (s : Statement) : Bool :=
  s.kind ≠ .createTable ∧ s.kind.isControl = false

namespace Request

/-- The reply to a request reports that nothing was changed. -/
def IsQuiet (r : Request) : Reply → Prop
  | .result result => result.isQuiet = true
  | .changes changes => changes.count = 0 ∧ ∀ s, r.statement = .ok s → s.isCounted = true
  | .row _ => True
  | .rows _ => True

/-- An obeyed transaction command is never quiet. -/
theorem not_isQuiet_controlReply {r : Request} {command : StatementKind}
    (h : r.command? = some command) :
    ¬ r.IsQuiet (r.controlReply (.transaction command)) := by
  intro hquiet
  cases r with
  | execute sql => cases hquiet
  | run p params =>
      obtain ⟨s, hparse, rfl, hkind⟩ := commandOf_eq_some h
      have hcounted := hquiet.2 s hparse
      simp [Statement.isCounted, hkind] at hcounted
  | fetchOne p params => cases h
  | fetchMany p params => cases h

/-- A quiet answer comes from an outcome without a change, or from a fetch. -/
theorem reportsChange_of_isQuiet {r : Request} {s : Statement} {options : ExecOptions}
    {registry registry' : Registry} {db : Database} {outcome : Outcome}
    (hstatement : r.statement = .ok s)
    (hexec : registry.execute options s (r.path s) r.params = .ok (outcome, registry'))
    (hquiet : ∀ reply, (r.answerOf db outcome).result = .ok reply → r.IsQuiet reply) :
    outcome.reportsChange = false ∨ r.path s ≠ .run := by
  cases r with
  | execute sql =>
      cases outcome with
      | created name fresh => cases hquiet _ rfl
      | changed changes =>
          have hcount : changes.count = 0 := of_decide_eq_true (hquiet _ rfl)
          exact .inl (by simp [Outcome.reportsChange, hcount])
      | _ => exact .inl rfl
  | run p params =>
      cases outcome with
      | created name fresh =>
          have hcounted := (hquiet _ rfl).2 s hstatement
          simp [Statement.isCounted, Registry.kind_of_created hexec] at hcounted
      | changed changes =>
          have hcount : changes.count = 0 := (hquiet _ rfl).1
          exact .inl (by simp [Outcome.reportsChange, hcount])
      | _ => exact .inl rfl
  | fetchOne p params => exact .inr Path.noConfusion
  | fetchMany p params => exact .inr Path.noConfusion

end Request

namespace Database

/-- The relations are as they were, and so are those that an open transaction keeps aside. -/
structure Untouched (db db' : Database) : Prop where
  registry : db'.registry = db.registry
  snapshot : db'.snapshot = db.snapshot

theorem Untouched.refl (db : Database) : Untouched db db :=
  ⟨rfl, rfl⟩

theorem Untouched.count (db : Database) : Untouched db db.count :=
  ⟨rfl, rfl⟩

/-- A request with a quiet reply or an error, within a program. -/
theorem untouched_serve (db : Database) (r : Request)
    (hquiet : ∀ reply, (db.serve r).result = .ok reply → r.IsQuiet reply) :
    db.Untouched (db.serve r).database := by
  cases hcommand : r.command? with
  | some command =>
      rw [serve_of_command hcommand]
      exact Untouched.refl db
  | none =>
      cases hstatement : r.statement with
      | error e =>
          rw [serve_of_unread hstatement, database_unhandled]
          exact Untouched.refl db
      | ok s =>
          rw [serve_of_statement hstatement hcommand] at hquiet ⊢
          rw [Answer.database_andThen _ (Request.database_answerOf r)]
          cases hexec : db.registry.execute db.config.execOptions s (r.path s) r.params with
          | error e =>
              rw [(dispatch_of_error r.sql hexec).2]
              exact Untouched.count db
          | ok p =>
              obtain ⟨hresult, hdatabase⟩ := dispatch_of_ok r.sql hexec
              rw [Answer.andThen_of_ok _ hresult, Answer.result_after] at hquiet
              rw [hdatabase]
              -- The outcome shows only in the reply, and on the fetching paths not even there.
              refine ⟨?_, rfl⟩
              rcases Request.reportsChange_of_isQuiet hstatement hexec hquiet with
                hsame | hfetch
              · exact Registry.execute_eq_self hexec hsame
              · exact Registry.execute_eq_self_of_fetch hfetch hexec

/-- A request with a quiet reply or an error, outside of any program. -/
theorem untouched_answer (db : Database) (r : Request)
    (hquiet : ∀ reply, (db.answer r).result = .ok reply → r.IsQuiet reply) :
    db.Untouched (db.answer r).database := by
  cases hcommand : r.command? with
  | none =>
      rw [answer_of_no_command db hcommand] at hquiet ⊢
      exact untouched_serve db r hquiet
  | some command =>
      rw [answer_of_command db hcommand] at hquiet ⊢
      rcases moves_control db (isControl_of_command hcommand) with
        ⟨hresult, -⟩ | ⟨fault, hfault⟩
      · have hobeyed : ((db.control command).map r.controlReply).result =
            .ok (r.controlReply (.transaction command)) := by
          rw [Answer.map, hresult]
          rfl
        exact absurd (hquiet _ hobeyed) (Request.not_isQuiet_controlReply hcommand)
      · rw [hfault]
        exact Untouched.count db

/-- A program that does not return leaves no trace. -/
theorem untouched_transact {α : Type} (db : Database) (p : Program α)
    (hlost : ∀ value, (db.transact p).ending ≠ .returned value) :
    db.Untouched (db.transact p).database := by
  refine ⟨?_, (dataStep_transact db p).snapshot⟩
  cases hopen : db.inTransaction with
  | true => rw [transact_of_open p hopen]
  | false =>
      have hlost' : ∀ value, (db.runProgram p).ending ≠ .returned value := by
        intro value hending
        rw [transact_of_returned p hopen hending] at hlost
        exact hlost value rfl
      exact (transact_of_not_returned p hopen hlost').2.2

/-- A call that fails, or that reports rows, a setting, a neutral value or zero changes,
leaves the relations as they were. -/
theorem untouched_of_no_change (db : Database) :
    (∀ sql : String,
      (∀ result, (db.execute sql).result = .ok result → result.isQuiet = true) →
      db.Untouched (db.execute sql).database) ∧
    (∀ (p : Prepared) (params : List Value),
      (∀ changes, (db.run p params).result = .ok changes →
        changes.count = 0 ∧ ∀ s, p.parsed = .ok s → s.isCounted = true) →
      db.Untouched (db.run p params).database) ∧
    (∀ (p : Prepared) (params : List Value), db.Untouched (db.fetchOne p params).database) ∧
    (∀ (p : Prepared) (params : List Value), db.Untouched (db.fetchMany p params).database) ∧
    (∀ (α : Type) (p : Program α), (∀ value, (db.transact p).ending ≠ .returned value) →
      db.Untouched (db.transact p).database) := by
  refine ⟨?_, ?_, ?_, ?_, ?_⟩
  · intro sql hquiet
    refine untouched_answer db (.execute sql) ?_
    intro reply hreply
    obtain ⟨result, hresult, rfl⟩ := Answer.exists_of_map_ok hreply
    exact hquiet result hresult
  · intro p params hquiet
    refine untouched_answer db (.run p params) ?_
    intro reply hreply
    obtain ⟨changes, hchanges, rfl⟩ := Answer.exists_of_map_ok hreply
    exact hquiet changes hchanges
  · intro p params
    refine untouched_answer db (.fetchOne p params) ?_
    intro reply hreply
    obtain ⟨row, -, rfl⟩ := Answer.exists_of_map_ok hreply
    trivial
  · intro p params
    refine untouched_answer db (.fetchMany p params) ?_
    intro reply hreply
    obtain ⟨rows, -, rfl⟩ := Answer.exists_of_map_ok hreply
    trivial
  · intro α p hlost
    exact untouched_transact db p hlost

/-- A value that a unique column holds is refused. -/
theorem repeated_value_untouched :
    let held : Row := ⟨[(idColumn, .integer 1), ("a", .integer 7)]⟩
    let relation : Relation := ⟨"t", [held], 2, [⟨"a", "", false, true, false⟩]⟩
    let db : Database := ⟨.strict, ⟨[("t", relation)]⟩, none, 0⟩
    let insert : Prepared := .ofText "INSERT INTO t (a) VALUES (?)"
    (db.run insert [.integer 7]).result = .error (.constraintViolation "t" "a" "7") ∧
      db.Untouched (db.run insert [.integer 7]).database := by
  intro held relation db insert
  have hrefused : (db.run insert [.integer 7]).result =
      .error (.constraintViolation "t" "a" "7") := by
    decide +kernel
  refine ⟨hrefused, (untouched_of_no_change db).2.1 insert [.integer 7] ?_⟩
  intro changes hchanges
  rw [hrefused] at hchanges
  cases hchanges

end Database

end MiniSql
