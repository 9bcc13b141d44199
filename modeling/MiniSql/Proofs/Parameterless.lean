import MiniSql.Proofs.Endings
import MiniSql.Proofs.Handles
import MiniSql.Proofs.Scripts
import MiniSql.Proofs.Slots
import MiniSql.Proofs.Writes
import MiniSql.Shell.Session

/-!
# Statements without parameters

A text in which no parameter stands is read as a statement that looks at no parameter: its values
are literals, and none of its tests is recognized, since a recognized test compares with a
parameter. What is supplied to it makes no difference to its execution.

A shell that has parameters pending goes another way with such a statement all the same. It
prepares it, and tells what the handle tells: changes, or rows. So a statement whose report is
changes or rows is reported as without parameters, and any other report is replaced: a creation, a
transaction command, a setting and a text that is not handled are told as no changes, or as no rows.

**Results.**
* `Statement.closed_of_parse`: what is read from a text without parameters.
* `Registry.execute_closed`: its execution does not depend on what is supplied.
* `Database.executeBound_closed`: executing it through a handle, with any parameters.
* `Shell.printed_alike_iff`: when a shell prints the same with parameters and without.
-/

namespace MiniSql

open Token (Listed placeholderCount)

/-! ## Closed statements -/

/-- An operand looks at no parameter. -/
def Operand.Closed : Operand → Prop
  | placeholder _ => False
  | literal _ => True

/-- No conjunct of a clause compares with a parameter. -/
def Predicate.Closed (predicate : Option Predicate) : Prop :=
  ∀ p ∈ predicate, ∀ c ∈ p.conjuncts, c.key? = none

/-- A statement looks at no parameter. -/
def Statement.Closed : Statement → Prop
  | insert s => ∀ v ∈ s.values, v.Closed
  | update s => (∀ a ∈ s.assignments, a.value.Closed) ∧ Predicate.Closed s.predicate
  | delete s => Predicate.Closed s.predicate
  | select s => Predicate.Closed s.predicate
  | _ => True

/-- What stands in a list without parameters are items without parameters. -/
theorem forall_of_listed {α : Type} {cut : List Token → Token → Prop}
    {At : List Token → List Token → α → Prop} {holds : α → Prop}
    (hitem : ∀ read item x, At read item x → placeholderCount item = 0 → holds x)
    {read item : List Token} {xs : List α} (h : Listed cut At read item xs)
    (hnone : placeholderCount item = 0) : ∀ x ∈ xs, holds x := by
  induction h with
  | none => simp
  | last hat => simpa using hitem _ _ _ hat hnone
  | more hat _ _ ih =>
      rw [Token.placeholderCount_append, count_cons] at hnone
      refine List.forall_mem_cons.mpr ⟨hitem _ _ _ hat (by omega), ih (by omega)⟩

theorem Operand.StandsAt.closed {read item : List Token} {v : Operand} (h : v.StandsAt read item)
    (hnone : placeholderCount item = 0) : v.Closed := by
  cases v with
  | placeholder slot =>
      obtain ⟨⟨label, rfl⟩, -⟩ := h
      cases hnone
  | literal l => trivial

theorem Assignment.StandsAt.closed {read item : List Token} {a : Assignment}
    (h : a.StandsAt read item) (hnone : placeholderCount item = 0) : a.value.Closed := by
  obtain ⟨column, equality, value, rfl, -, -, hvalue⟩ := h
  rw [Token.placeholderCount_append, count_cons] at hnone
  exact hvalue.closed (by omega)

theorem Conjunct.StandsAt.key?_eq_none {read item : List Token} {c : Conjunct}
    (h : c.StandsAt read item) (hnone : placeholderCount item = 0) : c.key? = none := by
  cases c with
  | equals column slot =>
      obtain ⟨opening, name, equality, label, closing, rfl, -⟩ := h
      simp [placeholderCount, Token.isPlaceholder] at hnone
  | other text => rfl

theorem Predicate.StandsIn.closed {tokens : List Token} {predicate : Option Predicate}
    (h : Predicate.StandsIn tokens predicate) (hnone : placeholderCount tokens = 0) :
    Predicate.Closed predicate := by
  rintro p rfl
  obtain ⟨before, keyword, clause, after, rfl, -, hlist⟩ := h
  simp only [Token.placeholderCount_append] at hnone
  rw [count_cons] at hnone
  exact forall_of_listed (fun _ _ _ hat => hat.key?_eq_none) hlist (by omega)

namespace Statement

theorem SlotsStandIn.closed {tokens : List Token} {s : Statement} (h : s.SlotsStandIn tokens)
    (hnone : placeholderCount tokens = 0) : s.Closed := by
  cases s with
  | insert s =>
      obtain ⟨before, keyword, list, after, rfl, -, hlist⟩ := h
      simp only [Token.placeholderCount_append] at hnone
      rw [count_cons, count_cons (.mark .leftParen)] at hnone
      exact forall_of_listed (fun _ _ _ hat => hat.closed) hlist (by omega)
  | update s =>
      obtain ⟨⟨before, keyword, list, after, hset, -, hlist⟩, hclause⟩ := h
      refine ⟨?_, hclause.closed hnone⟩
      rw [hset, Token.placeholderCount_append, Token.placeholderCount_append, count_cons] at hnone
      exact forall_of_listed (fun _ _ _ hat => hat.closed) hlist (by omega)
  | delete s => exact Predicate.StandsIn.closed h hnone
  | select s => exact Predicate.StandsIn.closed h hnone
  | _ => trivial

/-- A text has no parameter. -/
def Parameterless (sql : String) : Prop :=
  ∀ tokens, Token.scan sql = .ok tokens → placeholderCount tokens = 0

/-- A statement that is read from a text without parameters looks at none. -/
theorem closed_of_parse {sql : String} (hnone : Parameterless sql) {s : Statement}
    (hparse : parse sql = .ok s) : s.Closed := by
  unfold parse at hparse
  split at hparse
  · cases hparse
  · next tokens hscan =>
      obtain ⟨rest, hstatement, -⟩ := exists_of_ofTokens hparse
      have hcount := hnone tokens hscan
      have hplain : ∀ t ∈ tokens, t.isPlaceholder = false := by
        simpa [placeholderCount, List.countP_eq_zero] using hcount
      have hqualifier : NoQualifier tokens :=
        List.Pairwise.isChain <|
          List.pairwise_of_forall_mem_list fun t ht u _ (_ : u = _) => hplain t ht
      exact (Parser.statement_stands hqualifier hstatement).closed hcount

end Statement

/-! ## Execution -/

section Execution

variable {predicate : Option Predicate}

theorem Predicate.Closed.keys_eq_nil {p : Predicate} (h : Predicate.Closed (some p)) :
    p.keys = [] := by
  rw [keys, List.filterMap_eq_nil_iff]
  exact h p rfl

theorem idSlot?_closed (h : Predicate.Closed predicate) : idSlot? predicate = none := by
  cases predicate with
  | none => rfl
  | some p => simp [idSlot?, Predicate.idSlot?_eq, h.keys_eq_nil]

/-- A closed clause selects every row. -/
theorem selects_closed (h : Predicate.Closed predicate) (params : List Value) :
    selects params predicate = selects [] predicate := by
  cases predicate with
  | none => rfl
  | some p => simp [funext_iff, selects, h.keys_eq_nil]

theorem Insert.fields_closed {s : Insert} (h : ∀ v ∈ s.values, v.Closed) (params : List Value) :
    s.fields params = s.fields [] := by
  refine List.filterMap_congr fun field hfield => ?_
  have hvalue := h field.2 (List.of_mem_zip hfield).2
  cases hoperand : field.2 with
  | placeholder slot =>
      rw [hoperand] at hvalue
      exact hvalue.elim
  | literal l => simp [hoperand, Operand.resolve]

namespace Registry

/-- A closed statement is executed in the same way whatever is supplied. -/
theorem execute_closed (r : Registry) (options : ExecOptions) {s : Statement} (h : s.Closed)
    (path : Path) (params : List Value) :
    r.execute options s path params = r.execute options s path [] := by
  cases s with
  | insert s => cases path <;> simp only [execute, insertRow, s.fields_closed h params]
  | update s => cases path <;> simp only [execute, updateRows, idSlot?_closed h.2]
  | delete s => cases path <;> simp only [execute, deleteRow, idSlot?_closed h]
  | select s => cases path <;> simp only [execute, fetchOne, fetchMany, selects_closed h params]
  | _ => cases path <;> rfl

end Registry

end Execution

/-! ## Handles -/

namespace Answer

theorem andThen_congr {α β : Type} {a a' : Answer α} (f : Database → α → Answer β)
    (hresult : a.result = a'.result) (hdatabase : a.database = a'.database) :
    (a.andThen f).result = (a'.andThen f).result ∧
      (a.andThen f).database = (a'.andThen f).database := by
  cases h : a.result with
  | error e =>
      rw [andThen_of_error f h, andThen_of_error f (hresult ▸ h)]
      exact ⟨rfl, hdatabase⟩
  | ok value =>
      rw [andThen_of_ok f h, andThen_of_ok f (hresult ▸ h), hdatabase]
      exact ⟨rfl, rfl⟩

end Answer

namespace Database

section Closed

variable (db : Database) {s : Statement} {p : Prepared}

theorem dispatch_closed (sql : String) (h : s.Closed) (path : Path) (params : List Value) :
    (db.dispatch sql s path params).result = (db.dispatch sql s path []).result ∧
      (db.dispatch sql s path params).database = (db.dispatch sql s path []).database := by
  unfold dispatch
  simp only [Registry.execute_closed _ _ h path params]
  split <;> exact ⟨rfl, rfl⟩

theorem run_closed (h : ∀ s, p.parsed = .ok s → s.Closed) (params : List Value) :
    (db.run p params).result = (db.run p []).result ∧
      (db.run p params).database = (db.run p []).database := by
  unfold run runPrepared
  cases hparsed : p.parsed with
  | error e => exact ⟨rfl, rfl⟩
  | ok s =>
      obtain ⟨hresult, hdatabase⟩ := db.dispatch_closed p.sql (h s hparsed) .run params
      by_cases hcontrol : s.kind.isControl = true
      · simp only [hcontrol, if_true, and_self]
      · simp only [hcontrol, if_false, Bool.false_eq_true]
        exact Answer.andThen_congr _ hresult hdatabase

theorem fetchMany_closed (h : ∀ s, p.parsed = .ok s → s.Closed) (params : List Value) :
    (db.fetchMany p params).result = (db.fetchMany p []).result ∧
      (db.fetchMany p params).database = (db.fetchMany p []).database := by
  unfold fetchMany
  cases hparsed : p.parsed with
  | error e => exact ⟨rfl, rfl⟩
  | ok s =>
      obtain ⟨hresult, hdatabase⟩ :=
        db.dispatch_closed p.sql (h s hparsed) .fetchMany params
      exact Answer.andThen_congr _ hresult hdatabase

end Closed

end Database

namespace Request

variable {sql : String} {s : Statement}

theorem alone_of_query (hparse : Statement.parse sql = .ok s) (h : s.kind = .select) :
    alone sql = .fetchMany (.ofText sql) [] := by
  unfold alone
  rw [hparse]
  cases s with
  | select q => rfl
  | _ => cases h

theorem alone_of_not_query (hparse : Statement.parse sql = .ok s) (h : s.kind ≠ .select) :
    alone sql = .run (.ofText sql) [] := by
  unfold alone
  rw [hparse]
  cases s with
  | select q => exact absurd rfl h
  | _ => rfl

end Request

/-- What a handle tells of a result: changes and rows, and of anything else that there are none. -/
def StatementResult.throughHandle (isQuery : Bool) : StatementResult → StatementResult
  | changed c => .changed c
  | rows rs => .rows rs
  | _ => if isQuery then .rows [] else .changed .none

section Corresponds

variable {result : Except DatabaseError StatementResult}

theorem Corresponds.changed_eq {changes : Except DatabaseError Changes}
    (h : Corresponds (result.map .result) (changes.map .changes)) :
    changes.map .changed = result.map (StatementResult.throughHandle false) := by
  cases result <;> cases changes <;> cases h <;> rfl

theorem Corresponds.rows_eq {rows : Except DatabaseError (List Row)}
    (h : Corresponds (result.map .result) (rows.map .rows)) :
    rows.map .rows = result.map (StatementResult.throughHandle true) := by
  cases result <;> cases rows <;> cases h <;> rfl

end Corresponds

namespace Shell

section Bound

variable (db : Database) {sql : String} {s : Statement}

/-- What a handle tells in general when it has nothing to tell. -/
theorem executeBound_of_unread {e : ParseError} (hparse : Statement.parse sql = .error e)
    (params : List Value) :
    executeBound db (.ofText sql) params = (db.execute sql).map
      (.throughHandle (decide ((Prepared.ofText sql).kind = .select))) := by
  have hparsed : (Prepared.ofText sql).parsed = .error e := hparse
  have hexecute : db.execute sql = db.unhandled sql e.message (.ignored e.message) := by
    simp only [Database.execute, Database.executeText, hparse]
  rw [hexecute, Database.map_unhandled, executeBound]
  split
  · next hkind =>
      simp only [Database.fetchMany, hparsed, Database.map_unhandled, hkind]
      rfl
  · next hkind =>
      simp only [Database.run, Database.runPrepared, hparsed, Database.map_unhandled, hkind]
      rfl

/-- A text without parameters that is executed through a handle, whatever is supplied, leaves what
it leaves when it is executed by itself, and its result is what a handle tells of the other one. -/
theorem executeBound_closed (hnone : Statement.Parameterless sql) (params : List Value) :
    (executeBound db (.ofText sql) params).database = (db.execute sql).database ∧
      (executeBound db (.ofText sql) params).result = (db.execute sql).result.map
        (.throughHandle (decide ((Prepared.ofText sql).kind = .select))) := by
  have hclosed : ∀ s, (Prepared.ofText sql).parsed = .ok s → s.Closed :=
    fun s hparsed => Statement.closed_of_parse hnone hparsed
  obtain ⟨hdatabase, hresult⟩ := db.answer_alone sql
  cases hparse : Statement.parse sql with
  | error e =>
      rw [executeBound_of_unread db hparse]
      exact ⟨rfl, rfl⟩
  | ok s =>
      have hkind : (Prepared.ofText sql).kind = s.kind := by
        simp only [Prepared.kind, Prepared.ofText, hparse]
      rw [executeBound, hkind]
      by_cases hquery : s.kind = .select
      · obtain ⟨hsame, hleft⟩ := db.fetchMany_closed hclosed params
        rw [Request.alone_of_query hparse hquery] at hdatabase hresult
        rw [if_pos hquery, decide_eq_true hquery, Answer.database_map, hleft, Answer.map, hsame]
        exact ⟨hdatabase.symm, Corresponds.rows_eq hresult⟩
      · obtain ⟨hsame, hleft⟩ := db.run_closed hclosed params
        rw [Request.alone_of_not_query hparse hquery] at hdatabase hresult
        rw [if_neg hquery, decide_eq_false hquery, Answer.database_map, hleft, Answer.map, hsame]
        exact ⟨hdatabase.symm, Corresponds.changed_eq hresult⟩

end Bound

end Shell

/-! ## Reports -/

/-- A result is changes or rows. -/
def StatementResult.isData : StatementResult → Bool
  | changed _ | rows _ => true
  | _ => false

/-- An outcome is changes or rows. -/
def Outcome.isData : Outcome → Bool
  | changed _ | row _ _ | rows _ _ => true
  | _ => false

/-- A statement with a meaning, the report of which is changes or rows. -/
def Statement.reportsData : Statement → Bool
  | insert s => s.columns ≠ []
  | update s => (idSlot? s.predicate).isSome
  | delete s => (idSlot? s.predicate).isSome
  | select s =>
    match s.projection with
    | .expressions _ => false
    | _ => true
  | _ => false

section Reports

variable {r r' : Registry} {options : ExecOptions} {params : List Value} {outcome : Outcome}

theorem Registry.isData_updateRows (r : Registry) (options : ExecOptions) (s : Update)
    (params : List Value) :
    (r.updateRows options s params).1.isData = (idSlot? s.predicate).isSome := by
  unfold updateRows
  cases idSlot? s.predicate with
  | none => rfl
  | some slot => cases r.find? s.relation <;> rfl

theorem Registry.isData_deleteRow (r : Registry) (s : Delete) (params : List Value) :
    (r.deleteRow s params).1.isData = (idSlot? s.predicate).isSome := by
  unfold deleteRow
  cases idSlot? s.predicate with
  | none => rfl
  | some slot => cases r.find? s.relation <;> rfl

theorem Registry.isData_fetchMany (r : Registry) (s : Select) (params : List Value) :
    (r.fetchMany s params).isData = (Statement.select s).reportsData := by
  rw [fetchMany, Statement.reportsData]
  cases s.projection <;> rfl

/-- The outcome of a statement whose text is executed is changes or rows if the statement is one
that reports them. -/
theorem Registry.isData_of_execute {s : Statement} {sql : String}
    (h : r.execute options s ((Request.execute sql).path s) params = .ok (outcome, r')) :
    outcome.isData = s.reportsData := by
  cases s with
  | insert s =>
      rcases insertRow_eq_ok h with ⟨hnil, rfl, -⟩ | ⟨hne, -, rfl, -⟩ | ⟨hne, _, _, _, -, -, rfl, -⟩
      · simp [Outcome.isData, Statement.reportsData, hnil]
      · simp [Outcome.isData, Statement.reportsData, hne]
      · simp [Outcome.isData, Statement.reportsData, hne]
  | update s =>
      have hpair : r.updateRows options s params = (outcome, r') := Except.ok.inj h
      rw [Statement.reportsData, ← isData_updateRows r options s params, hpair]
  | delete s =>
      have hpair : r.deleteRow s params = (outcome, r') := Except.ok.inj h
      rw [Statement.reportsData, ← isData_deleteRow r s params, hpair]
  | select s =>
      have hpair : (r.fetchMany s params, r) = (outcome, r') := Except.ok.inj h
      rw [← isData_fetchMany r s params, (Prod.mk.inj hpair).1]
  | _ =>
      cases h
      rfl

namespace Database

variable {db : Database} {sql : String} {result : StatementResult}

theorem isData_of_unhandled {reason : String}
    (h : (db.unhandled sql reason (StatementResult.ignored reason)).result = .ok result) :
    result.isData = false := by
  unfold unhandled at h
  split at h
  · cases h
    rfl
  · cases h

/-- Executing a text that succeeds reports changes or rows exactly for a statement of such a
kind. -/
theorem isData_execute (h : (db.execute sql).result = .ok result) :
    result.isData = true ↔ ∃ s, Statement.parse sql = .ok s ∧ s.reportsData = true := by
  cases hparse : Statement.parse sql with
  | error e =>
      simp only [execute, executeText, hparse] at h
      simp [isData_of_unhandled h]
  | ok s =>
      simp only [Except.ok.injEq, exists_eq_left']
      rw [← Bool.eq_iff_iff]
      cases hcontrol : s.kind.isControl with
      | true =>
          simp only [execute, executeText, hparse, hcontrol, if_true] at h
          rcases moves_control db hcontrol with ⟨hresult, -⟩ | ⟨fault, hfault⟩
          · cases h.symm.trans hresult
            cases s <;> first | rfl | cases hcontrol
          · rw [hfault] at h
            cases h
      | false =>
          have hpath : (Request.execute sql).path s =
              if s.kind = .select then .fetchMany else .run := rfl
          simp only [execute, executeText, hparse, hcontrol, Bool.false_eq_true, if_false,
            ← hpath] at h
          cases hexec : db.registry.execute db.config.execOptions s
              ((Request.execute sql).path s) [] with
          | error e =>
              rw [Answer.andThen_of_error _ (dispatch_of_error sql hexec).1] at h
              cases h
          | ok p =>
              rw [Answer.andThen_of_ok _ (dispatch_of_ok sql hexec).1, Answer.result_after] at h
              rw [← Registry.isData_of_execute hexec]
              generalize p.1 = outcome at h
              cases outcome with
              | unsupported shape => exact isData_of_unhandled h
              | _ =>
                  cases h
                  rfl

end Database

end Reports

/-! ## Shells -/

/-- What is printed; a notice goes to the log. -/
def Emission.isPrinted : Emission → Bool
  | notice _ => false
  | _ => true

namespace Shell

/-- What a turn prints. -/
def Turn.printed (t : Turn) : List Emission :=
  t.emissions.filter Emission.isPrinted

/-- A shell with parameters bound to its next statement. -/
def withPending (s : Shell) (params : List Value) : Shell :=
  { s with pending := params }

section Attempts

variable (s : Shell) (sql : String)

theorem printed_attempt :
    (s.attempt sql).printed =
      match s.statementText sql with
      | .ok text => [line text]
      | .error _ => [] := by
  have hnotices : (s.statementNotices sql).filter Emission.isPrinted = [] := by
    simp [statementNotices, noticed, Emission.isPrinted]
  unfold attempt Turn.printed
  cases s.statementText sql with
  | ok text => simp [hnotices, line, Emission.isPrinted]
  | error e => exact hnotices

theorem shell_attempt : (s.attempt sql).shell = s.afterStatement sql := by
  unfold attempt
  cases s.statementText sql <;> rfl

theorem fault_attempt :
    (s.attempt sql).fault =
      match (s.answer sql).result with
      | .ok _ => none
      | .error e => some (.database e) := by
  unfold attempt statementText
  cases (s.answer sql).result <;> rfl

end Attempts

/-- The text of a result that is neither changes nor rows begins with a letter. -/
theorem head?_resultText (format : OutputFormat) {result : StatementResult}
    (h : result.isData = false) :
    (resultText format result).toList.head? ≠ some '(' ∧
      (resultText format result).toList.head? ≠ some '0' := by
  have hdisplay : resultText format result = result.display := by
    cases result with
    | changed c => cases h
    | rows rs => cases h
    | _ => rfl
  rw [hdisplay]
  cases result with
  | changed c => cases h
  | rows rs => cases h
  | created relation => simp [StatementResult.display]
  | transaction command => cases command <;> decide
  | pragma => decide
  | ignored reason => simp [StatementResult.display]

/-- What a handle has to tell of a result that is neither changes nor rows. -/
theorem resultText_throughHandle (format : OutputFormat) (isQuery : Bool) {result : StatementResult}
    (h : result.isData = false) :
    resultText format (result.throughHandle isQuery) =
      if isQuery then "(0 rows)" else "0 rows affected" := by
  cases result with
  | changed c => cases h
  | rows rs => cases h
  | _ => cases isQuery <;> rfl

/-- What a handle tells is shown as the result itself only if that is changes or rows. -/
theorem resultText_throughHandle_iff (format : OutputFormat) (isQuery : Bool)
    (result : StatementResult) :
    resultText format (result.throughHandle isQuery) = resultText format result ↔
      result.isData = true := by
  cases hdata : result.isData with
  | true =>
      cases result with
      | changed c => simp [StatementResult.throughHandle]
      | rows rs => simp [StatementResult.throughHandle]
      | _ => cases hdata
  | false =>
      obtain ⟨hparen, hzero⟩ := head?_resultText format hdata
      rw [resultText_throughHandle format isQuery hdata]
      simp only [Bool.false_eq_true, iff_false]
      intro heq
      rw [← heq] at hparen hzero
      cases isQuery with
      | true => exact hparen rfl
      | false => exact hzero rfl

/-- A statement without parameters leaves the same shell whether parameters are pending or not, and
fails with the same error. It prints the same exactly if it fails, or reports changes or rows: an
insertion with a column list, or a query of columns. Of any other statement it is printed that
nothing was changed, or that there are no rows. -/
theorem printed_alike_iff (s : Shell) (sql : String) (params : List Value)
    (hnone : Statement.Parameterless sql) (hparams : params ≠ []) :
    let bare := (s.withPending []).attempt sql
    let bound := (s.withPending params).attempt sql
    let told := bare.fault.isSome = true ∨
      ∃ st, Statement.parse sql = .ok st ∧ st.reportsData = true
    bound.shell = bare.shell ∧ bound.fault = bare.fault ∧ bound.exits = bare.exits ∧
      (bound.printed = bare.printed ↔ told) ∧
      (¬ told → bound.printed =
        [line ((if (Prepared.ofText sql).kind = .select then "(0 rows)" else "0 rows affected")
          ++ timeNote s.timing)]) := by
  intro bare bound told
  obtain ⟨hdatabase, hresult⟩ := executeBound_closed s.database hnone params
  have hbare : (s.withPending []).answer sql = s.database.execute sql := rfl
  have hbound : (s.withPending params).answer sql = executeBound s.database (.ofText sql) params :=
    if_neg hparams
  have hshell : bound.shell = bare.shell := by
    rw [shell_attempt, shell_attempt, afterStatement, afterStatement, hbare, hbound, hdatabase]
    rfl
  have hfault : bare.fault = match (s.database.execute sql).result with
      | .ok _ => none
      | .error e => some (.database e) := fault_attempt _ sql
  have hsame : bound.fault = bare.fault := by
    rw [hfault, fault_attempt, hbound, hresult]
    cases (s.database.execute sql).result <;> rfl
  refine ⟨hshell, hsame, (exits_attempt _ sql).trans (exits_attempt _ sql).symm, ?_⟩
  rw [printed_attempt, printed_attempt, statementText, statementText, hbare, hbound, hresult]
  cases hexecute : (s.database.execute sql).result with
  | error e =>
      have htold : told := .inl (by rw [hfault, hexecute]; rfl)
      exact ⟨iff_of_true rfl htold, fun h => absurd htold h⟩
  | ok result =>
      have htold : told ↔ result.isData = true := by
        rw [Database.isData_execute hexecute]
        exact or_iff_right (by rw [hfault, hexecute]; exact Bool.false_ne_true)
      refine ⟨?_, fun h => ?_⟩
      · rw [htold, ← resultText_throughHandle_iff s.format
          (decide ((Prepared.ofText sql).kind = .select)) result]
        simp [Except.map, line, withPending]
      · have hdata : result.isData = false := Bool.eq_false_iff.mpr (mt htold.mpr h)
        simp only [Except.map, withPending, resultText_throughHandle s.format _ hdata,
          decide_eq_true_eq]

/-- An insertion of a text with a question mark, which is no parameter, reports its row with a
parameter pending as it does without. -/
theorem printed_alike_of_insertion :
    let s := ((start .default .raw).shell.attempt "CREATE TABLE t (a)").shell
    let sql := "INSERT INTO t (a) VALUES ('?')"
    let bare := (s.withPending []).attempt sql
    let bound := (s.withPending [.integer 7]).attempt sql
    Statement.Parameterless sql ∧ [Value.integer 7] ≠ [] ∧ bound.shell = bare.shell ∧
      bound.printed = bare.printed ∧ bare.printed = [line "1 row affected (last insert id 1)"] := by
  intro s sql bare bound
  have hnone : Statement.Parameterless sql := by
    intro tokens hscan
    have hread : Token.scan sql = .ok [.word "INSERT" none, .word "INTO" none, .word "t" none,
        .mark .leftParen, .word "a" none, .mark .rightParen, .word "VALUES" none, .mark .leftParen,
        .text .plain "?", .mark .rightParen] := by decide +kernel
    rw [← Except.ok.inj (hread.symm.trans hscan)]
    rfl
  have hparse : Statement.parse sql = .ok (.insert ⟨"t", ["a"], [.literal (.text "?")]⟩) := by
    decide +kernel
  obtain ⟨hshell, -, -, halike, -⟩ := printed_alike_iff s sql [.integer 7] hnone (by simp)
  exact ⟨hnone, by simp, hshell, halike.mpr (.inr ⟨_, hparse, rfl⟩), by decide +kernel⟩

/-- A creation that is reported as such without parameters is reported as no change with one
pending, although the relation was created. -/
theorem creation_reported_as_no_change :
    let s := (start .default .raw).shell
    let sql := "CREATE TABLE t (a)"
    let bare := (s.withPending []).attempt sql
    let bound := (s.withPending [.integer 7]).attempt sql
    (∃ tokens, Token.scan sql = .ok tokens ∧ placeholderCount tokens = 0) ∧
      bound.shell.database.registry.contains "t" = true ∧
      bare.printed = [line "CREATE TABLE t"] ∧ bound.printed = [line "0 rows affected"] := by
  intro s sql bare bound
  have hscan : Token.scan sql = .ok [.word "CREATE" none, .word "TABLE" none, .word "t" none,
      .mark .leftParen, .word "a" none, .mark .rightParen] := by decide +kernel
  exact ⟨⟨_, hscan, rfl⟩, by decide +kernel, by decide +kernel, by decide +kernel⟩

end Shell

end MiniSql
