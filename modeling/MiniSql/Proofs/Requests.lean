import MiniSql.Database.Transaction
import MiniSql.Proofs.Changes

/-!
# Requests

A request is made outside of any program or within one. All four kinds of requests have a
text, a statement as far as it was read, parameters and a path, and are answered in one form:
the policy decides on what was not read or has no meaning, and any other outcome becomes a
reply. Transaction commands are the only requests whose answers differ within programs.

**Results.**
* `serve_of_command`, `serve_of_unread`, `serve_of_statement`: how a request is answered
  within a program.
* `answer_of_command`, `answer_of_no_command`: how it is answered outside.
* `dataStep_serve`: a request within a program changes relations at most.
-/

namespace MiniSql

/-! ## The parts of a request -/

/-- The transaction command that a statement is, if it was read. -/
def commandOf : Except ParseError Statement → Option StatementKind
  | .ok s => if s.kind.isControl then some s.kind else none
  | .error _ => none

theorem commandOf_eq_some {parsed : Except ParseError Statement} {command : StatementKind}
    (h : commandOf parsed = some command) :
    ∃ s, parsed = .ok s ∧ s.kind = command ∧ s.kind.isControl = true := by
  cases parsed with
  | error e => cases h
  | ok s =>
      by_cases hkind : s.kind.isControl = true
      · rw [commandOf, if_pos hkind] at h
        exact ⟨s, rfl, Option.some.inj h, hkind⟩
      · rw [commandOf, if_neg hkind] at h
        cases h

theorem isControl_of_commandOf_eq_none {s : Statement} (h : commandOf (.ok s) = none) :
    s.kind.isControl = false := by
  by_cases hkind : s.kind.isControl = true
  · rw [commandOf, if_pos hkind] at h
    cases h
  · exact Bool.eq_false_iff.mpr hkind

namespace Request

/-- The text that a request is about. -/
def sql : Request → String
  | execute sql => sql
  | run p _ => p.sql
  | fetchOne p _ => p.sql
  | fetchMany p _ => p.sql

/-- The statement that a request is about, as far as it was read. -/
def statement : Request → Except ParseError Statement
  | execute sql => Statement.parse sql
  | run p _ => p.parsed
  | fetchOne p _ => p.parsed
  | fetchMany p _ => p.parsed

/-- The parameters of a request. -/
def params : Request → List Value
  | execute _ => []
  | run _ params => params
  | fetchOne _ params => params
  | fetchMany _ params => params

/-- The path on which a request executes its statement. -/
def path (s : Statement) : Request → Path
  | execute _ => if s.kind = .select then .fetchMany else .run
  | run _ _ => .run
  | fetchOne _ _ => .fetchOne
  | fetchMany _ _ => .fetchMany

/-- The transaction command that a request gives. To fetch one is not to give it. -/
def command? : Request → Option StatementKind
  | execute sql => commandOf (Statement.parse sql)
  | run p _ => commandOf p.parsed
  | fetchOne _ _ => none
  | fetchMany _ _ => none

theorem command?_eq_none {r : Request} {s : Statement} (h : r.statement = .ok s)
    (hkind : s.kind.isControl = false) :
    r.command? = none := by
  have hnone : commandOf (.ok s) = none := by
    rw [commandOf, if_neg (Bool.eq_false_iff.mp hkind)]
  cases r with
  | execute sql => exact (congrArg commandOf h).trans hnone
  | run p params => exact (congrArg commandOf h).trans hnone
  | fetchOne p params => rfl
  | fetchMany p params => rfl

/-- The reply to a request that is not handled. -/
def neutral (reason : String) : Request → Reply
  | execute _ => .result (.ignored reason)
  | run _ _ => .changes .none
  | fetchOne _ _ => .row none
  | fetchMany _ _ => .rows []

/-- The reply to a request whose statement has an outcome. -/
def reply : Request → Outcome → Reply
  | execute _, .created relation _ => .result (.created relation)
  | execute _, .changed changes => .result (.changed changes)
  | execute _, .rows rows _ => .result (.rows rows)
  | execute _, .row row _ => .result (.rows row.toList)
  | execute _, .inert => .result .pragma
  | run _ _, .changed changes => .changes changes
  | fetchOne _ _, .row row _ => .row row
  | fetchMany _ _, .rows rows _ => .rows rows
  | r, .unsupported shape => r.neutral shape.message
  | r, _ => r.neutral ""

/-- The reply to a request whose transaction command was obeyed. -/
def controlReply : Request → StatementResult → Reply
  | execute _, result => .result result
  | _, _ => .changes .none

/-- The notices about the rows that a request gets. -/
def rowNotices : Request → Outcome → List Notice
  | execute sql, .rows _ filter => Database.filterNotices sql filter
  | fetchMany p _, .rows _ filter => Database.filterNotices p.sql filter
  | _, _ => []

/-- The answer to a request whose statement has an outcome. -/
def answerOf (r : Request) (db : Database) : Outcome → Answer Reply
  | .unsupported shape => db.unhandled r.sql shape.message (r.neutral shape.message)
  | outcome => ⟨.ok (r.reply outcome), db, r.rowNotices outcome⟩

@[simp] theorem database_answerOf (r : Request) (db : Database) (outcome : Outcome) :
    (r.answerOf db outcome).database = db := by
  cases outcome with
  | unsupported shape => exact Database.database_unhandled ..
  | _ => rfl

end Request

/-! ## Answers -/

namespace Answer

variable {α β γ : Type} {a : Answer α} (f : Database → α → Answer β) (g : β → γ)

@[simp] theorem database_map (g : α → β) : (a.map g).database = a.database := rfl

@[simp] theorem database_after (notices : List Notice) :
    (a.after notices).database = a.database := rfl

@[simp] theorem result_after (notices : List Notice) :
    (a.after notices).result = a.result := rfl

theorem andThen_of_ok {value : α} (h : a.result = .ok value) :
    a.andThen f = (f a.database value).after a.notices := by
  unfold andThen
  rw [h]

theorem andThen_of_error {e : DatabaseError} (h : a.result = .error e) :
    a.andThen f = ⟨.error e, a.database, a.notices⟩ := by
  unfold andThen
  rw [h]

/-- Going on with a function that leaves the database alone keeps the database. -/
theorem database_andThen (hf : ∀ db value, (f db value).database = db) :
    (a.andThen f).database = a.database := by
  cases h : a.result with
  | error e => rw [andThen_of_error f h]
  | ok value => rw [andThen_of_ok f h, database_after, hf]

theorem exists_of_map_ok {g : α → β} {value : β} (h : (a.map g).result = .ok value) :
    ∃ x, a.result = .ok x ∧ g x = value := by
  cases hresult : a.result with
  | error e => simp [map, hresult, Except.map] at h
  | ok x =>
      rw [map, hresult] at h
      exact ⟨x, rfl, Except.ok.inj h⟩

theorem map_id (a : Answer α) : a.map id = a := by
  obtain ⟨result, database, notices⟩ := a
  cases result <;> rfl

theorem map_map (a : Answer α) (f : α → β) (g : β → γ) :
    (a.map f).map g = a.map fun value => g (f value) := by
  obtain ⟨result, database, notices⟩ := a
  cases result <;> rfl

theorem map_andThen :
    (a.andThen f).map g = a.andThen fun db value => (f db value).map g := by
  cases h : a.result with
  | error e =>
      rw [andThen_of_error f h, andThen_of_error _ h]
      rfl
  | ok value =>
      rw [andThen_of_ok f h, andThen_of_ok _ h]
      rfl

end Answer

namespace Database

theorem map_unhandled {α β : Type} (db : Database) (sql reason : String) (neutral : α)
    (f : α → β) :
    (db.unhandled sql reason neutral).map f = db.unhandled sql reason (f neutral) := by
  unfold unhandled
  split <;> rfl

theorem map_after_succeed {α β : Type} (db : Database) (value : α) (notices : List Notice)
    (f : α → β) :
    ((db.succeed value).after notices).map f = ⟨.ok (f value), db, notices⟩ := by
  simp [succeed, Answer.after, Answer.map, Except.map]

section Dispatch

variable {db : Database} (sql : String) {s : Statement} {path : Path} {params : List Value}

theorem dispatch_of_error {e : StorageError}
    (h : db.registry.execute db.config.execOptions s path params = .error e) :
    (db.dispatch sql s path params).result = .error (.ofStorage e) ∧
      (db.dispatch sql s path params).database = db.count := by
  unfold dispatch
  simp only [count, h, and_self]

theorem dispatch_of_ok {outcome : Outcome} {registry : Registry}
    (h : db.registry.execute db.config.execOptions s path params = .ok (outcome, registry)) :
    (db.dispatch sql s path params).result = .ok outcome ∧
      (db.dispatch sql s path params).database = { db.count with registry := registry } := by
  unfold dispatch
  simp only [count, h, and_self]

end Dispatch

section Serve

variable {db : Database} {r : Request} {s : Statement} {command : StatementKind}

/-- A transaction command within a program is refused and changes nothing. -/
theorem serve_of_command (h : r.command? = some command) :
    db.serve r = db.fail (.transaction (.notAllowed command)) := by
  cases r with
  | execute sql =>
      obtain ⟨s, hparse, rfl, hkind⟩ := commandOf_eq_some h
      simp only [serve, executeText, hparse, hkind]
      rfl
  | run p params =>
      obtain ⟨s, hparse, rfl, hkind⟩ := commandOf_eq_some h
      simp only [serve, runPrepared, hparse, hkind]
      rfl
  | fetchOne p params => cases h
  | fetchMany p params => cases h

/-- The policy decides on a request whose text is no statement. -/
theorem serve_of_unread {e : ParseError} (h : r.statement = .error e) :
    db.serve r = db.unhandled r.sql e.message (r.neutral e.message) := by
  cases r with
  | execute sql =>
      have hparse : Statement.parse sql = .error e := h
      simp only [serve, executeText, hparse, map_unhandled]
      rfl
  | run p params =>
      have hparse : p.parsed = .error e := h
      simp only [serve, runPrepared, hparse, map_unhandled]
      rfl
  | fetchOne p params =>
      have hparse : p.parsed = .error e := h
      simp only [serve, fetchOne, hparse, map_unhandled]
      rfl
  | fetchMany p params =>
      have hparse : p.parsed = .error e := h
      simp only [serve, fetchMany, hparse, map_unhandled]
      rfl

/-- A statement that is no transaction command is executed, and its outcome decides the
answer. -/
theorem serve_of_statement (h : r.statement = .ok s) (hcommand : r.command? = none) :
    db.serve r = (db.dispatch r.sql s (r.path s) r.params).andThen r.answerOf := by
  cases r with
  | execute sql =>
      have hparse : Statement.parse sql = .ok s := h
      have hkind : s.kind.isControl = false := isControl_of_commandOf_eq_none (hparse ▸ hcommand)
      simp only [serve, executeText, hparse, hkind, Bool.false_eq_true, if_false,
        Answer.map_andThen]
      congr 1
      funext db outcome
      cases outcome with
      | unsupported shape => exact map_unhandled ..
      | rows rows filter => exact map_after_succeed ..
      | _ => rfl
  | run p params =>
      have hparse : p.parsed = .ok s := h
      have hkind : s.kind.isControl = false := isControl_of_commandOf_eq_none (hparse ▸ hcommand)
      simp only [serve, runPrepared, hparse, hkind, Bool.false_eq_true, if_false,
        Answer.map_andThen]
      congr 1
      funext db outcome
      cases outcome with
      | unsupported shape => exact map_unhandled ..
      | _ => rfl
  | fetchOne p params =>
      have hparse : p.parsed = .ok s := h
      simp only [serve, fetchOne, hparse, Answer.map_andThen]
      congr 1
      funext db outcome
      cases outcome with
      | unsupported shape => exact map_unhandled ..
      | _ => rfl
  | fetchMany p params =>
      have hparse : p.parsed = .ok s := h
      simp only [serve, fetchMany, hparse, Answer.map_andThen]
      congr 1
      funext db outcome
      cases outcome with
      | unsupported shape => exact map_unhandled ..
      | rows rows filter => exact map_after_succeed ..
      | _ => rfl

end Serve

/-! ## Transaction commands -/

section Control

variable {db : Database} {saved : Registry} {command : StatementKind}

theorem control_begin (h : db.snapshot = none) :
    db.control .begin =
      ⟨.ok (.transaction .begin), { db.count with snapshot := some db.registry },
        [.control .begin]⟩ := by
  unfold control
  simp only [count, h]

theorem control_begin_of_open (h : db.snapshot = some saved) :
    db.control .begin = db.count.fail (.transaction .nestedBegin) := by
  unfold control
  simp only [count, h]

theorem control_commit (h : db.snapshot = some saved) :
    db.control .commit =
      ⟨.ok (.transaction .commit), { db.count with snapshot := none }, [.control .commit]⟩ := by
  unfold control
  simp only [count, h]

theorem control_rollback (h : db.snapshot = some saved) :
    db.control .rollback =
      ⟨.ok (.transaction .rollback), { db.count with registry := saved, snapshot := none },
        [.control .rollback]⟩ := by
  unfold control
  simp only [count, h]

theorem control_of_none_open (hcommand : command ≠ .begin) (h : db.snapshot = none) :
    db.control command = db.count.fail (.transaction (.noneActive command)) := by
  unfold control
  simp only [count, h]
  cases command with
  | begin => exact absurd rfl hcommand
  | _ => rfl

end Control

/-- Answers a request made outside of any program; transaction commands are obeyed. -/
def answer (db : Database) : Request → Answer Reply
  | .execute sql => (db.execute sql).map .result
  | .run p params => (db.run p params).map .changes
  | .fetchOne p params => (db.fetchOne p params).map .row
  | .fetchMany p params => (db.fetchMany p params).map .rows

section Answers

variable (db : Database) {r : Request} {command : StatementKind}

theorem isControl_of_command (h : r.command? = some command) : command.isControl = true := by
  have hof : ∀ {parsed}, commandOf parsed = some command → command.isControl = true := by
    intro parsed hparsed
    obtain ⟨s, -, rfl, hkind⟩ := commandOf_eq_some hparsed
    exact hkind
  cases r with
  | execute sql => exact hof h
  | run p params => exact hof h
  | fetchOne p params => cases h
  | fetchMany p params => cases h

/-- A transaction command outside of any program is left to `control`. -/
theorem answer_of_command (h : r.command? = some command) :
    db.answer r = (db.control command).map r.controlReply := by
  cases r with
  | execute sql =>
      obtain ⟨s, hparse, rfl, hkind⟩ := commandOf_eq_some h
      simp only [answer, execute, executeText, hparse, hkind, if_true]
      rfl
  | run p params =>
      obtain ⟨s, hparse, rfl, hkind⟩ := commandOf_eq_some h
      simp only [answer, run, runPrepared, hparse, hkind, if_true]
      cases hresult : (db.control s.kind).result <;>
        simp [Answer.map, hresult, Except.map, Request.controlReply]
  | fetchOne p params => cases h
  | fetchMany p params => cases h

/-- Any other request is answered outside of programs as it is within. -/
theorem answer_of_no_command (h : r.command? = none) : db.answer r = db.serve r := by
  cases r with
  | execute sql =>
      cases hparse : Statement.parse sql with
      | error e => simp only [answer, serve, execute, executeText, hparse]
      | ok s =>
          have hkind : s.kind.isControl = false := isControl_of_commandOf_eq_none (hparse ▸ h)
          simp only [answer, serve, execute, executeText, hparse, hkind, Bool.false_eq_true,
            if_false]
  | run p params =>
      cases hparse : p.parsed with
      | error e => simp only [answer, serve, run, runPrepared, hparse]
      | ok s =>
          have hkind : s.kind.isControl = false := isControl_of_commandOf_eq_none (hparse ▸ h)
          simp only [answer, serve, run, runPrepared, hparse, hkind, Bool.false_eq_true,
            if_false]
  | fetchOne p params => rfl
  | fetchMany p params => rfl

/-- A statement that is refused is only counted. -/
theorem answer_of_refused {s : Statement} {e : StorageError} (hstatement : r.statement = .ok s)
    (hcommand : r.command? = none)
    (hexec : db.registry.execute db.config.execOptions s (r.path s) r.params = .error e) :
    (db.answer r).database = db.count ∧ (db.answer r).result = .error (.ofStorage e) := by
  obtain ⟨hresult, hdatabase⟩ := dispatch_of_error r.sql hexec
  rw [answer_of_no_command db hcommand, serve_of_statement hstatement hcommand,
    Answer.andThen_of_error _ hresult]
  exact ⟨hdatabase, rfl⟩

/-- A statement that is executed leaves the relations of its execution, and its outcome decides
the result. -/
theorem answer_of_executed {s : Statement} {outcome : Outcome} {registry : Registry}
    (hstatement : r.statement = .ok s) (hcommand : r.command? = none)
    (hexec : db.registry.execute db.config.execOptions s (r.path s) r.params =
      .ok (outcome, registry)) :
    (db.answer r).database = { db.count with registry := registry } ∧
      (db.answer r).result =
        (r.answerOf { db.count with registry := registry } outcome).result := by
  obtain ⟨hresult, hdatabase⟩ := dispatch_of_ok r.sql hexec
  rw [answer_of_no_command db hcommand, serve_of_statement hstatement hcommand,
    Answer.andThen_of_ok _ hresult, hdatabase]
  constructor
  · rw [Answer.database_after, Request.database_answerOf]
  · rw [Answer.result_after]

end Answers

/-! ## Changes of data -/

/-- Statements were executed that are no transaction commands. -/
structure DataStep (db db' : Database) : Prop where
  config : db'.config = db.config
  snapshot : db'.snapshot = db.snapshot
  registry : db.registry.Evolves db'.registry

theorem DataStep.refl (db : Database) : DataStep db db :=
  ⟨rfl, rfl, .refl db.registry⟩

theorem DataStep.trans {db db' db'' : Database} (h : DataStep db db')
    (h' : DataStep db' db'') : DataStep db db'' :=
  ⟨h'.config.trans h.config, h'.snapshot.trans h.snapshot, h.registry.trans h'.registry⟩

theorem DataStep.count (db : Database) : DataStep db db.count :=
  ⟨rfl, rfl, .refl db.registry⟩

theorem dataStep_dispatch (db : Database) (sql : String) (s : Statement) (path : Path)
    (params : List Value) :
    DataStep db (db.dispatch sql s path params).database := by
  cases h : db.registry.execute db.config.execOptions s path params with
  | error e =>
      rw [(dispatch_of_error sql h).2]
      exact DataStep.count db
  | ok p =>
      rw [(dispatch_of_ok sql h).2]
      exact ⟨rfl, rfl, Registry.evolves_of_execute h⟩

/-- A request within a program changes relations at most. -/
theorem dataStep_serve (db : Database) (r : Request) :
    DataStep db (db.serve r).database := by
  cases hcommand : r.command? with
  | some command =>
      rw [serve_of_command hcommand]
      exact DataStep.refl db
  | none =>
      cases hstatement : r.statement with
      | error e =>
          rw [serve_of_unread hstatement, database_unhandled]
          exact DataStep.refl db
      | ok s =>
          rw [serve_of_statement hstatement hcommand,
            Answer.database_andThen _ (Request.database_answerOf r)]
          exact dataStep_dispatch db r.sql s (r.path s) r.params

end Database

end MiniSql
