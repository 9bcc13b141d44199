import MiniSql.Proofs.Handles
import MiniSql.Shell.Session

/-!
# Execution with parameters

A text is executed with parameters: what is read from it decides what is done, and the parameters
are those of its execution on the relations. Without parameters the text is executed as it is, and
with some through a handle, a query for its rows and any other statement for its changes. What
becomes of the database is described alike for both, and so is what is told of the outcome; they
differ in the wording of what is neither rows nor changes.

**Results.**
* `Request.Fits.tells`: the result that is told of an outcome.
* `Request.Executes.executedWith`: a request executes its text with its parameters.
* `Shell.answer_executedWith`: so does a shell with the parameters that are pending.
-/

namespace MiniSql

/-- The result that a reply tells. -/
def Reply.told : Reply → StatementResult
  | result r => r
  | changes c => .changed c
  | row r => .rows r.toList
  | rows rs => .rows rs

namespace Database

/-- What is not handled is an error, or is told as something neutral, as the policy has it. -/
def LeftToPolicy (db : Database) (sql reason : String)
    (result : Except DatabaseError StatementResult) : Prop :=
  match db.config.unsupported with
  | .degrade => ∃ neutral, result = .ok neutral
  | .reject => result = .error (.unsupported sql reason)

/-- A result tells an outcome: its changes, its rows, or that there was no error. -/
def Tells (db : Database) (sql : String) (outcome : Outcome)
    (result : Except DatabaseError StatementResult) : Prop :=
  match outcome with
  | .changed changes => result = .ok (.changed changes)
  | .rows rows _ => result = .ok (.rows rows)
  | .unsupported shape => db.LeftToPolicy sql shape.message result
  | _ => ∃ note, result = .ok note

/-- The path of a statement: a query gives every row, any other one is run for its effect. -/
def pathOf (s : Statement) : Path :=
  if s.kind = .select then .fetchMany else .run

/-- An answer is that of a text executed with parameters. -/
structure ExecutedWith (db : Database) (sql : String) (params : List Value)
    (a : Answer StatementResult) : Prop where
  /-- Nothing is executed of a text that cannot be read. -/
  unread : ∀ e, Statement.parse sql = .error e →
    a.database = db ∧ db.LeftToPolicy sql e.message a.result
  /-- A transaction command is obeyed, or refused. -/
  command : ∀ s, Statement.parse sql = .ok s → s.kind.isControl = true →
    a.database = (db.control s.kind).database ∧
      ∀ e, a.result = .error e ↔ (db.control s.kind).result = .error e
  /-- The relations refuse the statement with these parameters. -/
  refused : ∀ s e, Statement.parse sql = .ok s → s.kind.isControl = false →
    db.registry.execute db.config.execOptions s (pathOf s) params = .error e →
    a.database = db.count ∧ a.result = .error (.ofStorage e)
  /-- The relations become what the statement with these parameters makes of them. -/
  executed : ∀ s outcome registry, Statement.parse sql = .ok s → s.kind.isControl = false →
    db.registry.execute db.config.execOptions s (pathOf s) params = .ok (outcome, registry) →
    a.database = { db.count with registry := registry } ∧ db.Tells sql outcome a.result

theorem leftToPolicy_unhandled {α : Type} (db : Database) (sql reason : String) (neutral : α)
    (f : α → StatementResult) :
    db.LeftToPolicy sql reason ((db.unhandled sql reason neutral).map f).result := by
  unfold LeftToPolicy unhandled
  cases db.config.unsupported with
  | degrade => exact ⟨f neutral, rfl⟩
  | reject => rfl

end Database

namespace Answer

theorem result_map_eq_error_iff {α β : Type} {a : Answer α} {f : α → β} {e : DatabaseError} :
    (a.map f).result = .error e ↔ a.result = .error e := by
  unfold map
  cases a.result with
  | error e' => simp [Except.map]
  | ok value => simp [Except.map]

end Answer

/-! ## Requests -/

namespace Request

/-- An outcome is one of those that a request tells. -/
def Fits : Request → Outcome → Prop
  | execute _, _ => True
  | run _ _, outcome => outcome.isFetched = false
  | fetchOne _ _, _ => False
  | fetchMany _ _, outcome =>
    (∃ rows filter, outcome = .rows rows filter) ∨ ∃ shape, outcome = .unsupported shape

theorem Fits.tells {r : Request} {outcome : Outcome} (h : r.Fits outcome) (db : Database) :
    db.Tells r.sql outcome ((r.answerOf db outcome).map Reply.told).result := by
  cases r with
  | execute sql =>
      cases outcome with
      | changed changes => rfl
      | rows rows filter => rfl
      | unsupported shape => exact db.leftToPolicy_unhandled ..
      | _ => exact ⟨_, rfl⟩
  | run p params =>
      cases outcome with
      | changed changes => rfl
      | rows rows filter => cases h
      | row row filter => cases h
      | unsupported shape => exact db.leftToPolicy_unhandled ..
      | _ => exact ⟨_, rfl⟩
  | fetchOne p params => exact h.elim
  | fetchMany p params =>
      rcases h with ⟨rows, filter, rfl⟩ | ⟨shape, rfl⟩
      · rfl
      · exact db.leftToPolicy_unhandled ..

/-- A request for the execution of a text. -/
structure Executes (r : Request) (sql : String) : Prop where
  text : r.sql = sql
  statement : r.statement = Statement.parse sql
  command : r.command? = commandOf (Statement.parse sql)
  path : ∀ s, Statement.parse sql = .ok s → r.path s = Database.pathOf s
  fits : ∀ s, Statement.parse sql = .ok s → ∀ {registry registry' : Registry} {options outcome},
    registry.execute options s (r.path s) r.params = .ok (outcome, registry') → r.Fits outcome

/-- A request for the execution of a text executes it with its parameters. -/
theorem Executes.executedWith {r : Request} {sql : String} (h : r.Executes sql) (db : Database) :
    db.ExecutedWith sql r.params ((db.answer r).map Reply.told) := by
  have hnone : ∀ s, Statement.parse sql = .ok s → s.kind.isControl = false → r.command? = none :=
    fun s hparse hkind => command?_eq_none (h.statement.trans hparse) hkind
  constructor
  · intro e hparse
    have hcommand : r.command? = none := by
      rw [h.command, hparse]
      rfl
    rw [Database.answer_of_no_command db hcommand,
      Database.serve_of_unread (h.statement.trans hparse), h.text]
    refine ⟨?_, db.leftToPolicy_unhandled ..⟩
    rw [Answer.database_map, Database.database_unhandled]
  · intro s hparse hkind
    have hcommand : r.command? = some s.kind := by
      rw [h.command, hparse]
      exact if_pos hkind
    rw [Database.answer_of_command db hcommand]
    refine ⟨rfl, fun e => ?_⟩
    rw [Answer.result_map_eq_error_iff, Answer.result_map_eq_error_iff]
  · intro s e hparse hkind hexec
    rw [← h.path s hparse] at hexec
    obtain ⟨hdatabase, hresult⟩ :=
      Database.answer_of_refused db (h.statement.trans hparse) (hnone s hparse hkind) hexec
    exact ⟨hdatabase, Answer.result_map_eq_error_iff.mpr hresult⟩
  · intro s outcome registry hparse hkind hexec
    rw [← h.path s hparse] at hexec
    obtain ⟨hdatabase, hresult⟩ :=
      Database.answer_of_executed db (h.statement.trans hparse) (hnone s hparse hkind) hexec
    refine ⟨hdatabase, ?_⟩
    have htells := (h.fits s hparse hexec).tells { db.count with registry := registry }
    rw [h.text, Answer.map, ← hresult] at htells
    exact htells

theorem executes_execute (sql : String) : (execute sql).Executes sql where
  text := rfl
  statement := rfl
  command := rfl
  path := fun _ _ => rfl
  fits := fun _ _ _ _ _ _ _ => trivial

theorem executes_run {sql : String} (hkind : (Prepared.ofText sql).kind ≠ .select)
    (params : List Value) : (run (.ofText sql) params).Executes sql where
  text := rfl
  statement := rfl
  command := rfl
  path := by
    intro s hparse
    rw [Prepared.kind, Prepared.ofText, hparse] at hkind
    exact (if_neg hkind).symm
  fits := fun _ _ _ _ _ _ hexec => Registry.isFetched_of_run hexec

theorem executes_fetchMany {sql : String} (hkind : (Prepared.ofText sql).kind = .select)
    (params : List Value) : (fetchMany (.ofText sql) params).Executes sql := by
  have hquery : ∀ s, Statement.parse sql = .ok s → ∃ q, s = .select q := by
    intro s hparse
    rw [Prepared.kind, Prepared.ofText, hparse] at hkind
    cases s with
    | select q => exact ⟨q, rfl⟩
    | _ => cases hkind
  refine ⟨rfl, rfl, ?_, ?_, ?_⟩
  · cases hparse : Statement.parse sql with
    | error e => rfl
    | ok s =>
        obtain ⟨q, rfl⟩ := hquery s hparse
        rfl
  · intro s hparse
    obtain ⟨q, rfl⟩ := hquery s hparse
    rfl
  · intro s hparse registry registry' options outcome hexec
    obtain ⟨q, rfl⟩ := hquery s hparse
    exact Registry.outcome_of_query hexec

end Request

/-! ## Shells -/

namespace Shell

section Pending

variable (s : Shell) {sql : String}

theorem answer_unbound (hnone : s.pending = []) : s.answer sql = s.database.execute sql :=
  if_pos hnone

theorem answer_bound_query (hsome : s.pending ≠ [])
    (hkind : (Prepared.ofText sql).kind = .select) :
    s.answer sql = (s.database.fetchMany (.ofText sql) s.pending).map .rows := by
  rw [answer, if_neg hsome, executeBound, if_pos hkind]

theorem answer_bound_change (hsome : s.pending ≠ [])
    (hkind : (Prepared.ofText sql).kind ≠ .select) :
    s.answer sql = (s.database.run (.ofText sql) s.pending).map .changed := by
  rw [answer, if_neg hsome, executeBound, if_neg hkind]

/-- A shell executes a statement with the parameters that are pending. -/
theorem answer_executedWith (sql : String) :
    s.database.ExecutedWith sql s.pending (s.answer sql) := by
  by_cases hnone : s.pending = []
  · have hexecuted := (Request.executes_execute sql).executedWith s.database
    rw [Database.answer, Answer.map_map] at hexecuted
    rw [s.answer_unbound hnone, hnone, ← (s.database.execute sql).map_id]
    exact hexecuted
  · by_cases hkind : (Prepared.ofText sql).kind = .select
    · have hexecuted := (Request.executes_fetchMany hkind s.pending).executedWith s.database
      rw [Database.answer, Answer.map_map] at hexecuted
      rw [s.answer_bound_query hnone hkind]
      exact hexecuted
    · have hexecuted := (Request.executes_run hkind s.pending).executedWith s.database
      rw [Database.answer, Answer.map_map] at hexecuted
      rw [s.answer_bound_change hnone hkind]
      exact hexecuted

end Pending

end Shell

end MiniSql
