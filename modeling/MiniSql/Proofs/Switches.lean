import MiniSql.Proofs.Writes

/-!
# Switches of a database

Besides the enforcement of unique columns, the switches of a database decide what it says and
not what it does. Under other switches the same calls leave the same relations, and tell the
same results, but for what becomes of a statement that is not handled, and for how an update
counts the row that it finds.

**Results.**
* `execute_of_updates`, `execute_of_not_updates`: an execution under two ways of counting.
* `Database.concurs`: a call under two configurations.
* `switches_change_reports`: a run under two configurations.
-/

namespace MiniSql

/-! ## Reports -/

/-- The number of changes that an update reports when it found a number of rows. -/
def UpdateCount.reported (found : Nat) : UpdateCount → Nat
  | alwaysOne => 1
  | matched => found

/-- What a call returns whose statement is not handled. -/
def UnsupportedPolicy.report (r : Request) (reason : String) :
    UnsupportedPolicy → Except DatabaseError Reply
  | degrade => .ok (r.neutral reason)
  | reject => .error (.unsupported r.sql reason)

/-- The statement is an update of a relation that exists, by a test of `id`. -/
def Statement.Updates (s : Statement) (path : Path) (registry : Registry) : Prop :=
  ∃ u : Update, s = .update u ∧ path = .run ∧ (idSlot? u.predicate).isSome ∧
    (registry.find? u.relation).isSome

/-- The call runs an update of a relation that exists, by a test of `id`. -/
def Request.Updates (r : Request) (registry : Registry) : Prop :=
  ∃ s, r.statement = .ok s ∧ s.Updates (r.path s) registry

/-- The results of one call under two configurations. -/
inductive Reported (a b : Config) (registry : Registry) (r : Request) :
    Except DatabaseError Reply → Except DatabaseError Reply → Prop
  | same {result : Except DatabaseError Reply} :
      ¬ r.Updates registry →
      (∀ e, result = .error e → e.isUnsupported = false) →
      Reported a b registry r result result
  | unhandled (reason : String) :
      ¬ r.Updates registry →
      Reported a b registry r (a.unsupported.report r reason) (b.unsupported.report r reason)
  /-- An update finds one row at most. -/
  | updated (found : Nat) :
      r.Updates registry →
      found ≤ 1 →
      Reported a b registry r
        (.ok (r.reply (.changed ⟨a.updateCount.reported found, none⟩)))
        (.ok (r.reply (.changed ⟨b.updateCount.reported found, none⟩)))

/-! ## Executions -/

namespace Registry

variable {registry : Registry} {s : Statement} {path : Path} {options other : ExecOptions}

/-- An update that finds its relation leaves it alike however it is counted. -/
theorem execute_of_updates (hkept : registry.WellKept) (h : s.Updates path registry)
    (params : List Value) :
    ∃ found after, found ≤ 1 ∧ ∀ options, registry.execute options s path params =
      .ok (.changed ⟨options.updateCount.reported found, none⟩, after) := by
  obtain ⟨u, rfl, rfl, hid, hexists⟩ := h
  obtain ⟨slot, hslot⟩ := Option.isSome_iff_exists.mp hid
  obtain ⟨relation, hfind⟩ := Option.isSome_iff_exists.mp hexists
  have hrelation := hkept.relations _ (mem_of_relationOf? hfind)
  refine ⟨_, registry.replace u.relation (relation.updateById params[slot]? (u.fields params)).2,
    hrelation.countP_matchesId_le_one params[slot]?, ?_⟩
  intro options
  rw [execute, updateRows, hslot, hfind]
  cases options.updateCount with
  | alwaysOne => rfl
  | matched => rfl

/-- The way of counting has no part in anything else. -/
theorem execute_of_not_updates (h : ¬ s.Updates path registry)
    (henforce : options.enforceUnique = other.enforceUnique) (params : List Value) :
    registry.execute options s path params = registry.execute other s path params := by
  cases s with
  | insert i =>
      cases path with
      | run => rw [execute, execute, insertRow, insertRow, henforce]
      | _ => rfl
  | update u =>
      cases path with
      | run =>
          rw [execute, execute, updateRows, updateRows]
          cases hslot : idSlot? u.predicate with
          | none => rfl
          | some slot =>
              cases hfind : registry.find? u.relation with
              | none => rfl
              | some relation =>
                  exact absurd ⟨u, rfl, rfl, by rw [hslot]; rfl, by rw [hfind]; rfl⟩ h
      | _ => rfl
  | _ => cases path <;> rfl

end Registry

/-! ## Calls -/

namespace Request

variable {r : Request} {registry : Registry}

theorem not_updates_of_command {command : StatementKind} (h : r.command? = some command) :
    ¬ r.Updates registry := by
  rintro ⟨s, hstatement, u, rfl, -⟩
  rw [Request.command?_eq_none hstatement rfl] at h
  cases h

theorem not_updates_of_unread {e : ParseError} (h : r.statement = .error e) :
    ¬ r.Updates registry := by
  rintro ⟨s, hstatement, -⟩
  rw [h] at hstatement
  cases hstatement

theorem updates_iff {s : Statement} (h : r.statement = .ok s) :
    r.Updates registry ↔ s.Updates (r.path s) registry := by
  constructor
  · rintro ⟨s', hstatement, hupdates⟩
    obtain rfl := Except.ok.inj (h.symm.trans hstatement)
    exact hupdates
  · intro hupdates
    exact ⟨s, h, hupdates⟩

end Request

theorem DatabaseError.isUnsupported_ofStorage (e : StorageError) :
    (DatabaseError.ofStorage e).isUnsupported = false := by
  cases e <;> rfl

namespace Database

/-- The database under another configuration. -/
def withConfig (db : Database) (config : Config) : Database :=
  { db with config := config }

/-- A call under another configuration leaves the same data, and its result is reported as that
configuration says. -/
def Concurs (db : Database) (config : Config) (r : Request) : Prop :=
  ((db.withConfig config).answer r).database = (db.answer r).database.withConfig config ∧
    Reported db.config config db.registry r (db.answer r).result
      ((db.withConfig config).answer r).result

section Concurs

variable {db : Database} {config : Config} {r : Request}

theorem result_unhandled (db : Database) (reason : String) :
    (db.unhandled r.sql reason (r.neutral reason)).result =
      db.config.unsupported.report r reason := by
  unfold unhandled
  cases db.config.unsupported with
  | degrade => rfl
  | reject => rfl

/-- Transaction commands are obeyed and refused without a look at the configuration. -/
theorem control_withConfig (db : Database) (config : Config) (command : StatementKind) :
    ((db.withConfig config).control command).result = (db.control command).result ∧
      ((db.withConfig config).control command).database =
        (db.control command).database.withConfig config := by
  obtain ⟨_, registry, snapshot, executed⟩ := db
  cases snapshot with
  | none => cases command <;> exact ⟨rfl, rfl⟩
  | some saved => cases command <;> exact ⟨rfl, rfl⟩

theorem concurs_of_command {command : StatementKind} (h : r.command? = some command) :
    db.Concurs config r := by
  obtain ⟨hresult, hdatabase⟩ := control_withConfig db config command
  rw [Concurs, answer_of_command db h, answer_of_command (db.withConfig config) h]
  refine ⟨hdatabase, ?_⟩
  rw [Answer.map, Answer.map, hresult]
  refine .same (Request.not_updates_of_command h) ?_
  intro e he
  rcases moves_control db (isControl_of_command h) with ⟨hobeyed, -⟩ | ⟨fault, hfault⟩
  · rw [hobeyed] at he
    cases he
  · rw [hfault] at he
    cases he
    rfl

theorem concurs_of_unread {e : ParseError} (h : r.statement = .error e)
    (hcommand : r.command? = none) : db.Concurs config r := by
  rw [Concurs, answer_of_no_command db hcommand,
    answer_of_no_command (db.withConfig config) hcommand, serve_of_unread h, serve_of_unread h,
    database_unhandled, database_unhandled, result_unhandled, result_unhandled]
  exact ⟨rfl, .unhandled e.message (Request.not_updates_of_unread h)⟩

theorem concurs_of_updates (hkept : db.WellKept) (h : r.Updates db.registry) :
    db.Concurs config r := by
  obtain ⟨s, hstatement, hupdates⟩ := id h
  have hcommand : r.command? = none := by
    obtain ⟨u, rfl, -⟩ := hupdates
    exact Request.command?_eq_none hstatement rfl
  obtain ⟨found, after, hle, hexec⟩ :=
    Registry.execute_of_updates hkept.registry hupdates r.params
  obtain ⟨hdatabase, hresult⟩ := answer_of_executed db hstatement hcommand (hexec _)
  obtain ⟨hdatabase', hresult'⟩ :=
    answer_of_executed (db.withConfig config) hstatement hcommand (hexec _)
  rw [Concurs, hdatabase, hdatabase', hresult, hresult']
  exact ⟨rfl, .updated found h hle⟩

theorem concurs_of_not_updates {s : Statement} (hstatement : r.statement = .ok s)
    (hcommand : r.command? = none) (h : ¬ r.Updates db.registry)
    (henforce : db.config.enforceUnique = config.enforceUnique) : db.Concurs config r := by
  have hsame : db.registry.execute db.config.execOptions s (r.path s) r.params =
      db.registry.execute config.execOptions s (r.path s) r.params :=
    Registry.execute_of_not_updates ((Request.updates_iff hstatement).not.mp h) henforce r.params
  cases hexec : db.registry.execute db.config.execOptions s (r.path s) r.params with
  | error e =>
      obtain ⟨hdatabase, hresult⟩ := answer_of_refused db hstatement hcommand hexec
      obtain ⟨hdatabase', hresult'⟩ := answer_of_refused (db.withConfig config) hstatement hcommand
        (hsame.symm.trans hexec)
      rw [Concurs, hdatabase, hdatabase', hresult, hresult']
      refine ⟨rfl, .same h ?_⟩
      rintro _ ⟨⟩
      exact DatabaseError.isUnsupported_ofStorage e
  | ok p =>
      obtain ⟨outcome, after⟩ := p
      obtain ⟨hdatabase, hresult⟩ := answer_of_executed db hstatement hcommand hexec
      obtain ⟨hdatabase', hresult'⟩ := answer_of_executed (db.withConfig config) hstatement hcommand
        (hsame.symm.trans hexec)
      rw [Concurs, hdatabase, hdatabase', hresult, hresult']
      refine ⟨rfl, ?_⟩
      cases outcome with
      | unsupported shape =>
          rw [Request.answerOf, Request.answerOf, result_unhandled, result_unhandled]
          exact .unhandled shape.message h
      | _ =>
          refine .same h ?_
          rintro e ⟨⟩

/-- One call under two configurations that enforce alike. -/
theorem concurs (hkept : db.WellKept) (henforce : db.config.enforceUnique = config.enforceUnique)
    (r : Request) : db.Concurs config r := by
  cases hcommand : r.command? with
  | some command => exact concurs_of_command hcommand
  | none =>
      cases hstatement : r.statement with
      | error e => exact concurs_of_unread hstatement hcommand
      | ok s =>
          by_cases h : r.Updates db.registry
          · exact concurs_of_updates hkept h
          · exact concurs_of_not_updates hstatement hcommand h henforce

end Concurs

/-! ## Runs -/

theorem config_of_moves {db db' : Database} {command : Option StatementKind}
    (h : Moves db command db') : db'.config = db.config := by
  cases h with
  | data hstep => exact hstep.config
  | begin _ => rfl
  | commit _ => rfl
  | rollback _ => rfl

/-- The database after requests. -/
def afterRequests (db : Database) (requests : List Request) : Database :=
  db.afterTurns (requests.map .request)

/-- Requests leave the same data under every configuration that enforces alike, and keep the
configuration. -/
theorem afterRequests_withConfig {db : Database} {config : Config} (hkept : db.WellKept)
    (henforce : db.config.enforceUnique = config.enforceUnique) (requests : List Request) :
    (db.withConfig config).afterRequests requests =
        (db.afterRequests requests).withConfig config ∧
      (db.afterRequests requests).config = db.config := by
  induction requests generalizing db with
  | nil => exact ⟨rfl, rfl⟩
  | cons r rest ih =>
      have hmoves := moves_answer db r
      have hconfig := config_of_moves hmoves
      obtain ⟨hdatabase, -⟩ := concurs hkept henforce r
      obtain ⟨hrest, hkeeps⟩ := ih (hkept.moves hmoves) (hconfig ▸ henforce)
      refine ⟨?_, hkeeps.trans hconfig⟩
      show ((db.withConfig config).answer r).database.afterRequests rest = _
      rw [hdatabase]
      exact hrest

/-- Two databases whose configurations enforce unique columns alike hold the same relations, the
same saved relations and the same count after the same calls from empty, and the next call has
the same result, but for what is not handled and for the count of an update. -/
theorem switches_change_reports (a b : Config) (henforce : a.enforceUnique = b.enforceUnique)
    (requests : List Request) (r : Request) :
    let first := (create a).afterRequests requests
    let second := (create b).afterRequests requests
    second.registry = first.registry ∧ second.snapshot = first.snapshot ∧
      second.executed = first.executed ∧
      Reported a b first.registry r (first.answer r).result (second.answer r).result := by
  intro first second
  obtain ⟨hsecond, hconfig⟩ :=
    afterRequests_withConfig (wellKept_create a) henforce requests
  have hkept : first.WellKept := (wellKept_create a).afterTurns _
  have hsecond : second = first.withConfig b := hsecond
  have hfirst : first.config = a := hconfig
  obtain ⟨-, hreported⟩ := concurs hkept (hfirst.symm ▸ henforce) r
  rw [hsecond]
  refine ⟨rfl, rfl, rfl, ?_⟩
  rwa [hfirst] at hreported

/-- An update of a row that does not exist: one change under one configuration, and none under
the other. -/
theorem switches_change_count :
    let b : Config := ⟨.reject, .matched, false, true, 0⟩
    let requests : List Request := [.execute "CREATE TABLE t (x)",
      .run (.ofText "INSERT INTO t (x) VALUES (?)") [.integer 3]]
    let r : Request := .run (.ofText "UPDATE t SET x = ? WHERE id = ?") [.integer 7, .integer 2]
    let first := (create .default).afterRequests requests
    let second := (create b).afterRequests requests
    Config.default.enforceUnique = b.enforceUnique ∧ second.registry = first.registry ∧
      (first.answer r).result = .ok (.changes ⟨1, none⟩) ∧
      (second.answer r).result = .ok (.changes ⟨0, none⟩) ∧
      Reported .default b first.registry r (first.answer r).result (second.answer r).result := by
  intro b requests r first second
  obtain ⟨hregistry, -, -, hreported⟩ := switches_change_reports .default b rfl requests r
  have hfirst : (first.answer r).result = .ok (.changes ⟨1, none⟩) := by decide +kernel
  have hsecond : (second.answer r).result = .ok (.changes ⟨0, none⟩) := by decide +kernel
  exact ⟨rfl, hregistry, hfirst, hsecond, hreported⟩

end Database

end MiniSql
