import MiniSql.Proofs.Requests
import MiniSql.Shell.Session

/-!
# Statements quoted in answers

An answer quotes the text of its statement, in a rejection and in its notices. Texts that are
read as the same statement are answered alike, each quoted as it is.

**Results.**
* `execute_requote`, `runPrepared_requote`, `fetchMany_requote`: answers of a database.
* `attempt_requote`: attempts of a shell.
-/

namespace MiniSql

/-! ## Other quotations -/

/-- The error with another text of the statement. -/
def DatabaseError.requote (sql : String) : DatabaseError → DatabaseError
  | unsupported _ reason => unsupported sql reason
  | e => e

/-- The notice with another text of the statement. -/
def Notice.requote (sql : String) : Notice → Notice
  | idInserted _ => idInserted sql
  | idAssigned _ => idAssigned sql
  | executed _ parameters logged => executed sql parameters logged
  | slow _ => slow sql
  | degraded _ reason => degraded sql reason
  | unfiltered _ => unfiltered sql
  | executing _ => executing sql
  | n => n

/-- The answer with another text of the statement. -/
def Answer.requote {α : Type} (sql : String) (a : Answer α) : Answer α :=
  ⟨a.result.mapError (.requote sql), a.database, a.notices.map (.requote sql)⟩

/-! ## Answers -/

namespace Answer

variable {α β : Type} {a : Answer α} {sql : String}

@[simp] theorem requote_error (e : DatabaseError) (db : Database) (notices : List Notice) :
    (⟨.error e, db, notices⟩ : Answer α).requote sql =
      ⟨.error (e.requote sql), db, notices.map (.requote sql)⟩ := rfl

@[simp] theorem requote_ok (value : α) (db : Database) (notices : List Notice) :
    (⟨.ok value, db, notices⟩ : Answer α).requote sql =
      ⟨.ok value, db, notices.map (.requote sql)⟩ := rfl

theorem requote_map (f : α → β) : (a.map f).requote sql = (a.requote sql).map f := by
  unfold requote map
  cases a.result <;> rfl

theorem requote_andThen {f g : Database → α → Answer β}
    (h : ∀ db value, (f db value).requote sql = g db value) :
    (a.andThen f).requote sql = (a.requote sql).andThen g := by
  obtain ⟨result, db, notices⟩ := a
  cases result with
  | error e => rfl
  | ok value =>
      change ((f db value).after notices).requote sql =
        (g db value).after (notices.map (.requote sql))
      rw [← h]
      simp only [after, requote, List.map_append]

end Answer

namespace Database

variable {α : Type} {db : Database} {sql other : String}

theorem unhandled_requote (reason : String) (neutral : α) :
    (db.unhandled other reason neutral).requote sql = db.unhandled sql reason neutral := by
  unfold unhandled
  split <;> rfl

theorem control_requote (command : StatementKind) :
    (db.control command).requote sql = db.control command := by
  unfold control
  simp only
  split <;> rfl

theorem ofStorage_requote (e : StorageError) :
    (DatabaseError.ofStorage e).requote sql = DatabaseError.ofStorage e := by
  cases e <;> rfl

theorem idNotices_requote (s : Statement) :
    (idNotices other s).map (.requote sql) = idNotices sql s := by
  unfold idNotices
  split
  · split <;> rfl
  · split <;> rfl
  · rfl

theorem executedNotices_requote (config : Config) (params : List Value) :
    (executedNotices config other params).map (.requote sql) =
      executedNotices config sql params := by
  unfold executedNotices
  split <;> rfl

theorem dispatch_requote (s : Statement) (path : Path) (params : List Value) :
    (db.dispatch other s path params).requote sql = db.dispatch sql s path params := by
  unfold dispatch
  simp only
  split
  · rw [Answer.requote_error, ofStorage_requote, idNotices_requote]
  · rw [Answer.requote_ok, List.map_append, idNotices_requote, executedNotices_requote]

theorem rows_requote (rows : List Row) (filter : Filter) (f : List Row → α):
    ((db.succeed (f rows)).after (filterNotices other filter)).requote sql =
      (db.succeed (f rows)).after (filterNotices sql filter) := by
  cases filter <;> rfl

theorem executeText_requote (controls : Bool) (h : Statement.parse other = Statement.parse sql) :
    (db.executeText other controls).requote sql = db.executeText sql controls := by
  unfold executeText
  rw [h]
  cases hparse : Statement.parse sql with
  | error e => exact unhandled_requote ..
  | ok s =>
      simp only
      split
      · split
        · exact control_requote s.kind
        · rfl
      · rw [Answer.requote_andThen fun db outcome => ?_, dispatch_requote]
        cases outcome with
        | rows rows filter => exact rows_requote rows filter _
        | unsupported shape => exact unhandled_requote ..
        | _ => rfl

/-- A text that is read as another one is answered as the other one. -/
theorem execute_requote (h : Statement.parse other = Statement.parse sql) :
    (db.execute other).requote sql = db.execute sql :=
  executeText_requote true h

section Prepared

variable {p q : Prepared} {params : List Value}

theorem runPrepared_requote (controls : Bool) (h : p.parsed = q.parsed) :
    (db.runPrepared p params controls).requote q.sql = db.runPrepared q params controls := by
  unfold runPrepared
  rw [h]
  cases hparsed : q.parsed with
  | error e => exact unhandled_requote ..
  | ok s =>
      simp only
      split
      · split
        · rw [Answer.requote_map, control_requote]
        · rfl
      · rw [Answer.requote_andThen fun db outcome => ?_, dispatch_requote]
        cases outcome with
        | unsupported shape => exact unhandled_requote ..
        | _ => rfl

theorem fetchMany_requote (h : p.parsed = q.parsed) :
    (db.fetchMany p params).requote q.sql = db.fetchMany q params := by
  unfold fetchMany
  rw [h]
  cases hparsed : q.parsed with
  | error e => exact unhandled_requote ..
  | ok s =>
      simp only
      rw [Answer.requote_andThen fun db outcome => ?_, dispatch_requote]
      cases outcome with
      | rows rows filter => exact rows_requote rows filter id
      | unsupported shape => exact unhandled_requote ..
      | _ => rfl

end Prepared

end Database

/-! ## The shell -/

/-- The emission with another text of the statement. -/
def Emission.requote (sql : String) : Emission → Emission
  | notice n => notice (n.requote sql)
  | e => e

namespace Shell

/-- The fault with another text of the statement. -/
def Fault.requote (sql : String) : Fault → Fault
  | database e => database (e.requote sql)
  | f => f

/-- The turn with another text of the statement. -/
def Turn.requote (sql : String) (turn : Turn) : Turn :=
  ⟨turn.shell, turn.emissions.map (.requote sql), turn.fault.map (.requote sql), turn.exits⟩

variable {sql other : String} {statement : Statement}

theorem executeBound_requote {db : Database} {params : List Value}
    (hother : Statement.parse other = .ok statement) (hsql : Statement.parse sql = .ok statement) :
    (executeBound db (.ofText other) params).requote sql =
      executeBound db (.ofText sql) params := by
  have hparsed : (Prepared.ofText other).parsed = (Prepared.ofText sql).parsed :=
    hother.trans hsql.symm
  have hkind : (Prepared.ofText other).kind = (Prepared.ofText sql).kind := by
    simp only [Prepared.kind, Prepared.ofText, hother, hsql]
  unfold executeBound
  rw [hkind]
  split
  · rw [Answer.requote_map]
    exact congrArg (Answer.map _) (Database.fetchMany_requote hparsed)
  · rw [Answer.requote_map]
    exact congrArg (Answer.map _) (Database.runPrepared_requote true hparsed)

/-- Texts of one statement are attempted alike, with or without pending parameters. -/
theorem attempt_requote (s : Shell) (hother : Statement.parse other = .ok statement)
    (hsql : Statement.parse sql = .ok statement) :
    (s.attempt other).requote sql = s.attempt sql := by
  have hanswer : (s.answer other).requote sql = s.answer sql := by
    unfold answer
    split
    · exact Database.execute_requote (hother.trans hsql.symm)
    · exact executeBound_requote hother hsql
  have hnoticed : ∀ notices : List Notice,
      (noticed notices).map (.requote sql) = noticed (notices.map (.requote sql)) := by
    intro notices
    simp only [noticed, List.map_map]
    rfl
  simp only [attempt, statementText, afterStatement, statementNotices, ← hanswer]
  obtain ⟨result, db, notices⟩ := s.answer other
  cases result with
  | error e =>
      simp only [Answer.requote_error, Except.map, Turn.requote, hnoticed, List.map_cons]
      rfl
  | ok result =>
      simp only [Answer.requote_ok, Except.map, Turn.requote, hnoticed, List.map_cons,
        List.map_append]
      rfl

end Shell

end MiniSql
