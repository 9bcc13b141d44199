import MiniSql.Proofs.Runs

/-!
# Prepared statements

The text of a statement can be executed as it is, or prepared and used through its handle. The
two ways are written apart, and end alike: what is left of the database is the same, and the
result of the one tells that of the other. A handle holds nothing but the text and what was
read from it, so that it does not matter when it was made.

**Results.**
* `answer_alone`: executing a text and using its handle without parameters.
* `replies_afresh`: handles that are kept, and handles that are made for each use.
* `execute_as_prepared`: both together.
-/

namespace MiniSql

namespace Request

/-- A prepared statement used on a path. -/
def ofPath (p : Prepared) (params : List Value) : Path → Request
  | .run => .run p params
  | .fetchOne => .fetchOne p params
  | .fetchMany => .fetchMany p params

/-- A text prepared and used without parameters: a query returns every row, any other
statement is run for its effect. -/
def alone (sql : String) : Request :=
  match Statement.parse sql with
  | .ok (.select _) => .fetchMany (.ofText sql) []
  | _ => .run (.ofText sql) []

end Request

/-- What is returned for a text that is executed, and what is returned through its handle. -/
inductive Corresponds : Except DatabaseError Reply → Except DatabaseError Reply → Prop
  | error (e : DatabaseError) :
      Corresponds (.error e) (.error e)
  | changed (changes : Changes) :
      Corresponds (.ok (.result (.changed changes))) (.ok (.changes changes))
  | rows (rows : List Row) :
      Corresponds (.ok (.result (.rows rows))) (.ok (.rows rows))
  | created (relation : String) :
      Corresponds (.ok (.result (.created relation))) (.ok (.changes .none))
  | transaction (command : StatementKind) :
      Corresponds (.ok (.result (.transaction command))) (.ok (.changes .none))
  | pragma :
      Corresponds (.ok (.result .pragma)) (.ok (.changes .none))
  | ignored (reason : String) :
      Corresponds (.ok (.result (.ignored reason))) (.ok (.changes .none))
  /-- A query that is not handled has no rows. -/
  | ignoredQuery (reason : String) :
      Corresponds (.ok (.result (.ignored reason))) (.ok (.rows []))

/-! ## Outcomes of the two paths -/

/-- The outcome is a row or rows. -/
def Outcome.isFetched : Outcome → Bool
  | row _ _ => true
  | rows _ _ => true
  | _ => false

namespace Registry

variable {r r' : Registry} {options : ExecOptions} {params : List Value} {outcome : Outcome}

/-- No rows come of a statement that is run for its effect. -/
theorem isFetched_of_run {s : Statement}
    (h : r.execute options s .run params = .ok (outcome, r')) :
    outcome.isFetched = false := by
  cases s with
  | createTable s =>
      cases h
      rfl
  | insert s =>
      rcases insertRow_eq_ok h with ⟨-, rfl, -⟩ | ⟨-, -, rfl, -⟩ | ⟨-, _, _, _, -, -, rfl, -⟩
      · rfl
      · rfl
      · rfl
  | update s =>
      have hout : (r.updateRows options s params).1 = outcome :=
        congrArg Prod.fst (Except.ok.inj h)
      rcases outcome_of_updateRows s with ⟨_, hchanged⟩ | ⟨_, hshape⟩
      · rw [← hout, hchanged]
        rfl
      · rw [← hout, hshape]
        rfl
  | delete s =>
      have hout : (r.deleteRow s params).1 = outcome := congrArg Prod.fst (Except.ok.inj h)
      rcases outcome_of_deleteRow s with ⟨_, hchanged⟩ | ⟨_, hshape⟩
      · rw [← hout, hchanged]
        rfl
      · rw [← hout, hshape]
        rfl
  | _ =>
      cases h
      rfl

/-- A query has its rows as its outcome, unless its select list has no meaning. -/
theorem outcome_of_query {s : Select}
    (h : r.execute options (.select s) .fetchMany params = .ok (outcome, r')) :
    (∃ rows filter, outcome = .rows rows filter) ∨ ∃ shape, outcome = .unsupported shape := by
  have hpair : (r.fetchMany s params, r) = (outcome, r') := Except.ok.inj h
  obtain ⟨rfl, -⟩ := Prod.mk.inj hpair
  unfold fetchMany
  split
  · exact .inr ⟨_, rfl⟩
  · exact .inl ⟨_, _, rfl⟩

end Registry

/-! ## Text and handle -/

namespace Database

/-- Executing a text leaves what its handle leaves, and the results correspond. -/
def AsPrepared (db : Database) (sql : String) (use : Request) : Prop :=
  (db.answer (.execute sql)).database = (db.answer use).database ∧
    Corresponds (db.answer (.execute sql)).result (db.answer use).result

section Answers

variable {db : Database} {sql : String} {s : Statement} {params : List Value}

theorem corresponds_unhandled {neutral : Reply} (reason : String)
    (h : Corresponds (.ok (.result (.ignored reason))) (.ok neutral)) :
    Corresponds (db.unhandled sql reason (Reply.result (.ignored reason))).result
      (db.unhandled sql reason neutral).result := by
  unfold unhandled
  split
  · exact h
  · exact .error _

theorem corresponds_run {outcome : Outcome} (h : outcome.isFetched = false) :
    Corresponds ((Request.execute sql).answerOf db outcome).result
      ((Request.run (.ofText sql) params).answerOf db outcome).result := by
  cases outcome with
  | created relation fresh => exact .created relation
  | changed changes => exact .changed changes
  | row row filter => cases h
  | rows rows filter => cases h
  | inert => exact .pragma
  | unsupported shape => exact corresponds_unhandled shape.message (.ignored shape.message)

theorem corresponds_query {outcome : Outcome}
    (h : (∃ rows filter, outcome = .rows rows filter) ∨ ∃ shape, outcome = .unsupported shape) :
    Corresponds ((Request.execute sql).answerOf db outcome).result
      ((Request.fetchMany (.ofText sql) params).answerOf db outcome).result := by
  rcases h with ⟨rows, filter, rfl⟩ | ⟨shape, rfl⟩
  · exact .rows rows
  · exact corresponds_unhandled shape.message (.ignoredQuery shape.message)

/-- A text that is no statement is left to the policy either way. -/
theorem asPrepared_of_unread {e : ParseError} (hparse : Statement.parse sql = .error e) :
    db.AsPrepared sql (.run (.ofText sql) []) := by
  have hexecute : (Request.execute sql).command? = none := congrArg commandOf hparse
  have hrun : (Request.run (.ofText sql) []).command? = none := congrArg commandOf hparse
  have hread : (Request.run (.ofText sql) []).statement = .error e := hparse
  rw [AsPrepared, answer_of_no_command db hexecute, answer_of_no_command db hrun,
    serve_of_unread (r := .execute sql) hparse, serve_of_unread hread]
  constructor
  · rw [database_unhandled, database_unhandled]
  · exact corresponds_unhandled e.message (.ignored e.message)

/-- A transaction command is obeyed either way, or refused either way. -/
theorem asPrepared_of_command (hparse : Statement.parse sql = .ok s)
    (hkind : s.kind.isControl = true) :
    db.AsPrepared sql (.run (.ofText sql) []) := by
  have hcommand : commandOf (.ok s) = some s.kind := if_pos hkind
  have hexecute : (Request.execute sql).command? = some s.kind :=
    (congrArg commandOf hparse).trans hcommand
  have hrun : (Request.run (.ofText sql) []).command? = some s.kind :=
    (congrArg commandOf hparse).trans hcommand
  rw [AsPrepared, answer_of_command db hexecute, answer_of_command db hrun]
  refine ⟨rfl, ?_⟩
  rcases moves_control db hkind with ⟨hresult, -⟩ | ⟨fault, hfault⟩
  · rw [Answer.map, Answer.map, hresult]
    exact .transaction s.kind
  · rw [hfault]
    exact .error _

/-- Any other statement is executed on one path, and what comes of it decides both results. -/
theorem asPrepared_of_statement {use : Request} (hparse : Statement.parse sql = .ok s)
    (hkind : s.kind.isControl = false) (hstatement : use.statement = .ok s)
    (hparams : use.params = []) (hpath : use.path s = (Request.execute sql).path s)
    (h : ∀ {r r' : Registry} {options outcome} (db : Database),
      r.execute options s (use.path s) [] = .ok (outcome, r') →
      Corresponds ((Request.execute sql).answerOf db outcome).result
        (use.answerOf db outcome).result) :
    db.AsPrepared sql use := by
  have hread : (Request.execute sql).statement = .ok s := hparse
  have hexecute := Request.command?_eq_none hread hkind
  have huse := Request.command?_eq_none hstatement hkind
  have hsame : ∀ {result}, db.registry.execute db.config.execOptions s (use.path s) [] = result →
      db.registry.execute db.config.execOptions s (use.path s) use.params = result ∧
        db.registry.execute db.config.execOptions s ((Request.execute sql).path s) [] = result := by
    intro result hexec
    rw [hparams, ← hpath]
    exact ⟨hexec, hexec⟩
  cases hexec : db.registry.execute db.config.execOptions s (use.path s) [] with
  | error e =>
      obtain ⟨hown, htext⟩ := hsame hexec
      obtain ⟨hdatabase, hresult⟩ := answer_of_refused db hread hexecute htext
      obtain ⟨hdatabase', hresult'⟩ := answer_of_refused db hstatement huse hown
      rw [AsPrepared, hdatabase, hdatabase', hresult, hresult']
      exact ⟨rfl, .error _⟩
  | ok p =>
      obtain ⟨hown, htext⟩ := hsame hexec
      obtain ⟨hdatabase, hresult⟩ := answer_of_executed db hread hexecute htext
      obtain ⟨hdatabase', hresult'⟩ := answer_of_executed db hstatement huse hown
      rw [AsPrepared, hdatabase, hdatabase', hresult, hresult']
      exact ⟨rfl, h _ hexec⟩

end Answers

/-- Executing a text is preparing it and using its handle without parameters. -/
theorem answer_alone (db : Database) (sql : String) : db.AsPrepared sql (.alone sql) := by
  unfold Request.alone
  cases hparse : Statement.parse sql with
  | error e => exact asPrepared_of_unread hparse
  | ok s =>
      cases hkind : s.kind.isControl with
      | true =>
          cases s with
          | select q => cases hkind
          | _ => exact asPrepared_of_command hparse hkind
      | false =>
          cases s with
          | select q =>
              exact asPrepared_of_statement hparse hkind hparse rfl rfl
                fun db hexec => corresponds_query (Registry.outcome_of_query hexec)
          | _ =>
              exact asPrepared_of_statement hparse hkind hparse rfl rfl
                fun db hexec => corresponds_run (Registry.isFetched_of_run hexec)

end Database

/-! ## Handles that are kept -/

/-- What clients do who keep what they prepared; a handle is named by its number. -/
inductive Action : Type 1 where
  | prepare (sql : String)
  | use (handle : Nat) (path : Path) (params : List Value)
  /-- Any call that needs no handle. -/
  | call (c : Call)

namespace Database

/-- The replies to the uses of handles, and the database afterwards. For each prepared text
something is kept that becomes a handle when it is used. -/
def replies {α : Type} (prepare : String → α) (handle : α → Prepared) (db : Database)
    (kept : List α) : List Action → List (Except DatabaseError Reply) × Database
  | [] => ([], db)
  | .prepare sql :: rest => db.replies prepare handle (kept ++ [prepare sql]) rest
  | .use n path params :: rest =>
      match kept[n]? with
      | none => db.replies prepare handle kept rest
      | some x =>
          let answer := db.answer (.ofPath (handle x) params path)
          let (later, after) := answer.database.replies prepare handle kept rest
          (answer.result :: later, after)
  | .call c :: rest => (db.afterCall c).replies prepare handle kept rest

/-- It makes no difference whether handles are kept, or only their texts, to be prepared again
for each use. -/
theorem replies_afresh (db : Database) (texts : List String) (actions : List Action) :
    db.replies Prepared.ofText id (texts.map Prepared.ofText) actions =
      db.replies id Prepared.ofText texts actions := by
  -- What is kept of a text stays the handle that the text has, whatever is called meanwhile.
  induction actions generalizing db texts with
  | nil => rfl
  | cons action rest ih =>
      cases action with
      | prepare sql =>
          have hkept := ih db (texts ++ [sql])
          rw [List.map_append] at hkept
          exact hkept
      | use n path params =>
          rw [replies, replies, List.getElem?_map]
          cases texts[n]? with
          | none => exact ih db texts
          | some sql => simp only [Option.map_some, id_eq, ih]
      | call c => exact ih (db.afterCall c) texts

/-- Executing a text, and preparing it and using its handle without parameters, leave the same
database with corresponding results; and every handle, whenever it was made and however often
it was used, answers as one that is made for the call. -/
theorem execute_as_prepared (db : Database) (sql : String) (texts : List String)
    (actions : List Action) :
    (db.answer (.execute sql)).database = (db.answer (.alone sql)).database ∧
      Corresponds (db.answer (.execute sql)).result (db.answer (.alone sql)).result ∧
      db.replies Prepared.ofText id (texts.map Prepared.ofText) actions =
        db.replies id Prepared.ofText texts actions := by
  obtain ⟨hdatabase, hresult⟩ := db.answer_alone sql
  exact ⟨hdatabase, hresult, db.replies_afresh texts actions⟩

end Database

end MiniSql
