import MiniSql.Proofs.Effects
import MiniSql.Proofs.Fetching

/-!
# Rows that are inserted

An insertion that succeeds appends one row and moves the counter by one. The row begins with its
identity; after it come the columns that the insertion gives values, in the order in which they
are first given one, each with the value given last. What is given for `id` is dropped, and a
column without a value is left out.

No earlier row has the identity, so a query by identity finds the new row and nothing else. A
query by another key column looks for one spelling of its name, and finds the new row only if
the insertion spelled it in this way.

**Results.**
* `Insert.stores_rowWithId`: the row that an insertion stores.
* `IsQueryOf.parse_eq_ok`: how a query by one column is read.
* `Database.answer_insert_eq_ok`: what a successful insertion leaves.
* `insert_then_fetch`: an insertion and the query for its row.
* `found_again_iff_canonical`: an insertion and a query by the column that it names.
-/

namespace MiniSql

open Token (Flat outside)

/-! ## Stored rows -/

namespace Insert

/-- The value that an insertion gives a column: the last one of those that it has. -/
def given? (s : Insert) (params : List Value) (column : String) : Option Value :=
  (((s.columns.zip s.values).filter (·.1 = column)).filterMap (·.2.resolve params)).getLast?

/-- The columns that an insertion gives values, one for each value. -/
def named (s : Insert) (params : List Value) : List String :=
  ((s.columns.zip s.values).filter fun entry => (entry.2.resolve params).isSome).map Prod.fst

/-- The row that an insertion stores: its identity, and then the other columns that are given
values, in the order in which they are first given one, each with the last of its values. -/
structure Stores (s : Insert) (params : List Value) (id : Int64) (row : Row) : Prop where
  names : row.names = idColumn :: ((s.named params).filter (· ≠ idColumn)).eraseDups
  identity : row.get? idColumn = some (.integer id)
  value : ∀ column, column ≠ idColumn → row.get? column = s.given? params column

theorem getField?_reverse_fields (s : Insert) (params : List Value) (column : String) :
    Row.getField? column (s.fields params).reverse = s.given? params column :=
  getField?_reverse_resolved Prod.fst Prod.snd params (s.columns.zip s.values) column

theorem map_fst_fields (s : Insert) (params : List Value) :
    (s.fields params).map Prod.fst = s.named params :=
  map_fst_resolved Prod.fst Prod.snd params (s.columns.zip s.values)

theorem stores_rowWithId (s : Insert) (params : List Value) (id : Int64) :
    s.Stores params id (Relation.rowWithId id (s.fields params)) where
  names := by
    have hfirst : (Row.empty.set idColumn (.integer id)).names = [idColumn] := rfl
    rw [Relation.rowWithId, Row.names_setAll_filter_id, hfirst, map_fst_fields]
    simp
  identity := by rw [Relation.get?_rowWithId, if_pos rfl]
  value column hcolumn := by
    rw [Relation.get?_rowWithId, if_neg hcolumn, Relation.given?, getField?_reverse_fields]

end Insert

/-! ## Queries by one column -/

/-- The query of every column of a relation, under one test. -/
def Select.byColumn (relation column : String) : Select :=
  ⟨relation, .all, some ⟨[.equals column 0]⟩⟩

/-- The text is the query of every column of a relation, under one test. -/
def IsQueryOf (sql relation column : String) : Prop :=
  ∃ (condition : Keyword "WHERE") (c : Comparison), c.qualifier = none ∧ c.column = column ∧
    IsQueryUnder sql relation (condition.token :: c.tokens)

namespace Comparison

variable {c : Comparison} {k : KeyColumn}

theorem mem_tokens (hqualifier : c.qualifier = none) {t : Token} (ht : t ∈ c.tokens) :
    t = .word c.column c.quote ∨ t = c.equality ∨ t = .placeholder c.label := by
  simpa [tokens, hqualifier] using ht

/-- The name of a key column is none of the words that have a meaning of their own in a
clause. -/
theorem isKeyword_eq_false (hkey : c.key? = some k) (hqualifier : c.qualifier = none) {t : Token}
    (ht : t ∈ c.tokens) {name : String} (hname : KeyColumn.ofName? name = none) :
    t.isKeyword name = false := by
  rw [Bool.eq_false_iff]
  intro hkeyword
  rcases mem_tokens hqualifier ht with rfl | rfl | rfl
  · cases hquote : c.quote with
    | some q => rw [hquote] at hkeyword; cases hkeyword
    | none =>
        rw [hquote, Token.isKeyword_word] at hkeyword
        rw [key?, KeyColumn.ofName?_of_sameFold hkeyword, hname] at hkey
        cases hkey
  · have hequality := c.isEquality
    cases hmark : c.equality with
    | mark m => rw [hmark] at hkeyword; cases hkeyword
    | _ => rw [hmark] at hequality; cases hequality
  · cases hkeyword

/-- A test of a key column is a clause of one conjunct. -/
theorem ofTokens_tokens (hkey : c.key? = some k) (hqualifier : c.qualifier = none) :
    (Predicate.ofTokens 0 c.tokens).1 = ⟨[.equals c.column 0]⟩ := by
  have htest : c.IsTest := by simp [IsTest, hqualifier]
  have hflat := htest.flat
  have hplain : ∀ t ∈ c.tokens, ∀ name, KeyColumn.ofName? name = none →
      t.isKeyword name = false :=
    fun _ ht _ => isKeyword_eq_false hkey hqualifier ht
  have halternatives : Token.split (·.isKeyword "OR") c.tokens = [c.tokens] := by
    have hpieces : ∀ p ∈ [c.tokens], p ≠ [] ∧ Token.depthFrom 0 p = 0 ∧
        ∀ t ∈ outside 0 p, t.isKeyword "OR" = false := by
      intro p hp
      obtain rfl := List.mem_singleton.mp hp
      rw [hflat.outside_eq]
      exact ⟨c.tokens_ne_nil, hflat.depthFrom_eq 0, fun t ht => hplain t ht "OR" (by decide)⟩
    simpa using @split_joined (·.isKeyword "OR") (.word "OR" none) rfl [c.tokens] hpieces
  have hconjuncts : splitConjuncts c.tokens = [c.tokens] := by
    have hpieces : ∀ p ∈ [c.tokens], Flat p ∧
        ∀ t ∈ p, t.isKeyword "BETWEEN" = false ∧ t.isKeyword "AND" = false := by
      intro p hp
      obtain rfl := List.mem_singleton.mp hp
      exact ⟨hflat, fun t ht =>
        ⟨hplain t ht "BETWEEN" (by decide), hplain t ht "AND" (by decide)⟩⟩
    simpa using @splitConjuncts_joined (.word "AND" none) rfl [c.tokens]
      (List.cons_ne_nil _ _) hpieces
  have hread : Conjunct.read 0 c.tokens = (.equals c.column 0, 1) := by
    rw [Conjunct.read, hflat.stripParens_eq, c.comparedColumn?_tokens]
  simp only [Predicate.ofTokens, halternatives, hconjuncts, Conjunct.readAll, hread, ite_self]

end Comparison

/-- A query by a key column is read as such. -/
theorem IsQueryOf.parse_eq_ok {sql relation column : String} {k : KeyColumn}
    (h : IsQueryOf sql relation column) (hcolumn : KeyColumn.ofName? column = some k) :
    Statement.parse sql = .ok (.select (.byColumn relation column)) := by
  obtain ⟨condition, c, hqualifier, rfl, hquery⟩ := h
  have htest : c.IsTest := by simp [Comparison.IsTest, hqualifier]
  have hends : ∀ name ∈ clauseEnds, KeyColumn.ofName? name = none := by decide
  have hplain : ∀ t ∈ outside 0 c.tokens,
      t ≠ .mark .semicolon ∧ t.isOneOf clauseEnds = false := by
    intro t ht
    rw [htest.flat.outside_eq] at ht
    refine ⟨htest.ne_semicolon t ht, ?_⟩
    rw [Token.isOneOf, List.any_eq_false]
    intro name hname
    simp [c.isKeyword_eq_false hcolumn hqualifier ht (hends name hname)]
  have hread := Predicate.read_of_outside condition c.tokens_ne_nil hplain
  rw [c.ofTokens_tokens hcolumn hqualifier] at hread
  exact hquery.parse_eq_ok hread rfl

theorem Select.tests_byColumn (relation : String) {column : String} {k : KeyColumn}
    (hcolumn : KeyColumn.ofName? column = some k) : (byColumn relation column).tests = [(k, 0)] := by
  show [Conjunct.equals column 0].filterMap Conjunct.key? = [(k, 0)]
  rw [List.filterMap_cons, Conjunct.key?, hcolumn]
  rfl

/-! ## Relations -/

namespace Relation

variable {r : Relation}

theorem WellKept.id?_ne_nextId (h : r.WellKept) {row : Row} (hrow : row ∈ r.rows) :
    row.id? ≠ some r.nextId := by
  intro hid
  have hmem : r.nextId ∈ r.ids := List.mem_filterMap.mpr ⟨row, hrow, hid⟩
  exact Int64.lt_irrefl (h.bounded _ hmem).2

/-- The identity that is given out next finds the row that gets it, and no other. -/
theorem WellKept.filter_nextId (h : r.WellKept) {row : Row}
    (hrow : row.get? idColumn = some (.integer r.nextId)) :
    (r.rows ++ [row]).filter (matchesId (some (.integer r.nextId))) = [row] := by
  have hold : ∀ old ∈ r.rows, ¬ matchesId (some (.integer r.nextId)) old = true := by
    intro old hold hmatches
    obtain ⟨i, fields, hfields⟩ := (h.wellFormed old hold).first
    have hid := Row.id?_of_fields hfields
    obtain ⟨v, hv, hequal⟩ := matchesId_eq_true hid hmatches
    obtain rfl := Option.some.inj hv
    rw [Value.beq_integer, beq_iff_eq] at hequal
    exact h.id?_ne_nextId hold (hequal ▸ hid)
  have hnew : matchesId (some (.integer r.nextId)) row = true := by
    rw [matchesId, hrow]
    exact beq_self_eq_true r.nextId
  rw [List.filter_append, List.filter_eq_nil_iff.mpr hold, List.nil_append,
    List.filter_cons_of_pos hnew, List.filter_nil]

end Relation

/-! ## Registries and databases -/

namespace Registry

/-- The second registry has one more row at the end of a relation, whose counter is one
higher. -/
structure Extended (r r' : Registry) (name : String) (relation : Relation) (row : Row) :
    Prop where
  target : r'.find? name =
    some { relation with rows := relation.rows ++ [row], nextId := relation.nextId + 1 }
  others : ∀ other, other ≠ name → r'.find? other = r.find? other
  names : r'.entries.map Prod.fst = r.entries.map Prod.fst

variable {r r' : Registry} {name : String} {relation : Relation} {options : ExecOptions}
  {params : List Value} {row : Row}

theorem extended_replace (hfind : r.find? name = some relation) (row : Row) :
    r.Extended (r.replace name
      { relation with rows := relation.rows ++ [row], nextId := relation.nextId + 1 })
      name relation row where
  target := by rw [find?_replace, if_pos rfl, hfind]; rfl
  others other hne := find?_replace_of_ne _ hne
  names := map_fst_replaceEntry _ _ _

theorem Extended.rowsOf (h : r.Extended r' name relation row) :
    r'.rowsOf name = relation.rows ++ [row] :=
  rowsOf_of_find? h.target

/-- An insertion that succeeds gives the identity of the counter, which is not the last one. -/
theorem execute_insert_eq_ok {s : Insert} {outcome : Outcome} (hcolumns : s.columns ≠ [])
    (hfind : r.find? s.relation = some relation)
    (h : r.execute options (.insert s) .run params = .ok (outcome, r')) :
    outcome = .changed ⟨1, some relation.nextId⟩ ∧ relation.nextId ≠ Int64.maxValue ∧
      r.Extended r' s.relation relation
        (Relation.rowWithId relation.nextId (s.fields params)) := by
  rw [execute, insertRow, if_neg hcolumns, hfind] at h
  obtain ⟨⟨id, relation'⟩, hins, hpair⟩ := exists_of_map_ok h
  obtain ⟨rfl, hmax, rfl⟩ := Relation.insert_eq_ok hins
  cases hpair
  exact ⟨rfl, hmax, extended_replace hfind _⟩

/-- The rows of a query under one test of a key column. -/
theorem fetched_byColumn (r : Registry) (relation : String) {column : String} {k : KeyColumn}
    (hcolumn : KeyColumn.ofName? column = some k) (v : Value) :
    r.fetched (.byColumn relation column) [v] =
      (r.rowsOf relation).filter fun row => row.get? k.name == some v := by
  have htests : ∀ row, (Select.byColumn relation column).tests.all (passes [v] row) =
      (row.get? k.name == some v) := by
    intro row
    rw [Select.tests_byColumn relation hcolumn, List.all_cons, List.all_nil, Bool.and_true]
    rfl
  have hall : ∀ rows : List Row, rows.map Projection.all.apply = rows := List.map_id'
  show ((r.rowsOf relation).filter fun row =>
    (Select.byColumn relation column).tests.all (passes [v] row)).map Projection.all.apply = _
  simp only [htests, hall]

/-- A query under one test of a key column is executed on both paths. -/
theorem execute_byColumn (r : Registry) (options : ExecOptions) (relation : String)
    {column : String} {k : KeyColumn} (hcolumn : KeyColumn.ofName? column = some k) (v : Value) :
    let rows := (r.rowsOf relation).filter fun row => row.get? k.name == some v
    let s : Statement := .select (.byColumn relation column)
    ∃ filter, r.execute options s .fetchMany [v] = .ok (.rows rows filter, r) ∧
      r.execute options s .fetchOne [v] = .ok (.row rows.head? filter, r) := by
  intro rows s
  have hplain : ∀ text, (Select.byColumn relation column).projection ≠ .expressions text := nofun
  have htests : (Select.byColumn relation column).tests ≠ [] := by
    rw [Select.tests_byColumn relation hcolumn]
    exact List.cons_ne_nil _ _
  have hmany := r.fetchMany_eq [v] hplain
  have hone := r.fetchOne_eq [v] hplain
  rw [if_pos (.inr htests)] at hone
  rw [r.fetched_byColumn relation hcolumn] at hmany hone
  exact ⟨_, by rw [execute, hmany], by rw [execute, hone]⟩

end Registry

namespace Database

variable {db : Database} {r : Request} {s : Insert} {relation : Relation}

/-- A successful insertion into a relation replies with the identity of the counter, and leaves
the relation extended by the row. -/
theorem answer_insert_eq_ok {reply : Reply} (hstatement : r.statement = .ok (.insert s))
    (hpath : r.path (.insert s) = .run) (hcolumns : s.columns ≠ [])
    (hfind : db.registry.find? s.relation = some relation)
    (hok : (db.answer r).result = .ok reply) :
    reply = r.reply (.changed ⟨1, some relation.nextId⟩) ∧
      relation.nextId ≠ Int64.maxValue ∧
      db.registry.Extended (db.answer r).database.registry s.relation relation
        (Relation.rowWithId relation.nextId (s.fields r.params)) := by
  have hcommand := Request.command?_eq_none hstatement rfl
  cases hexec : db.registry.execute db.config.execOptions (.insert s) (r.path (.insert s))
      r.params with
  | error e =>
      rw [(db.answer_of_refused hstatement hcommand hexec).2] at hok
      cases hok
  | ok left =>
      obtain ⟨outcome, registry⟩ := left
      obtain ⟨hdatabase, hresult⟩ := db.answer_of_executed hstatement hcommand hexec
      rw [hpath] at hexec
      obtain ⟨rfl, hmax, hextended⟩ := Registry.execute_insert_eq_ok hcolumns hfind hexec
      rw [hdatabase]
      refine ⟨?_, hmax, hextended⟩
      exact Except.ok.inj (hok.symm.trans hresult)

/-- The answers to a query by a key column: the rows that hold the value, or the first one. -/
theorem answer_byColumn (db : Database) {query relation column : String} {k : KeyColumn}
    (hquery : IsQueryOf query relation column) (hcolumn : KeyColumn.ofName? column = some k)
    (v : Value) :
    let rows := (db.registry.rowsOf relation).filter fun row => row.get? k.name == some v
    (db.answer (.fetchMany (.ofText query) [v])).result = .ok (.rows rows) ∧
      (db.answer (.fetchOne (.ofText query) [v])).result = .ok (.row rows.head?) := by
  intro rows
  have hparse : (Prepared.ofText query).parsed = .ok (.select (.byColumn relation column)) :=
    hquery.parse_eq_ok hcolumn
  obtain ⟨filter, hmany, hone⟩ :=
    db.registry.execute_byColumn db.config.execOptions relation hcolumn v
  exact ⟨(db.answer_of_executed (r := .fetchMany (.ofText query) [v]) hparse rfl hmany).2,
    (db.answer_of_executed (r := .fetchOne (.ofText query) [v]) hparse rfl hone).2⟩

/-- An insertion that succeeds takes the identity from the counter, moves the counter by one and
appends one row; all else stays. The row holds its identity and what the insertion gives the
other columns. No earlier row has the identity, and a query by it returns the row. -/
theorem insert_then_fetch (config : Config) (calls : List Call) (r : Request) (s : Insert)
    (relation : Relation) (reply : Reply) (hstatement : r.statement = .ok (.insert s))
    (hpath : r.path (.insert s) = .run) (hcolumns : s.columns ≠ [])
    (hfind : ((create config).afterCalls calls).registry.find? s.relation = some relation)
    (hok : (((create config).afterCalls calls).answer r).result = .ok reply) :
    let db := (create config).afterCalls calls
    let after := (db.answer r).database
    ∃ n row, reply = r.reply (.changed ⟨1, some n⟩) ∧ n = relation.nextId ∧
      (n + 1).toInt = n.toInt + 1 ∧
      db.registry.Extended after.registry s.relation relation row ∧
      s.Stores r.params n row ∧
      (∀ old ∈ relation.rows, old.id? ≠ some n) ∧
      ∀ query, IsQueryOf query s.relation idColumn →
        (after.answer (.fetchOne (.ofText query) [.integer n])).result = .ok (.row (some row)) := by
  intro db after
  have hkept : relation.WellKept :=
    ((wellKept_create config).afterCalls calls).registry.relations _
      (Registry.mem_of_relationOf? hfind)
  obtain ⟨hreply, hmax, hextended⟩ :=
    answer_insert_eq_ok hstatement hpath hcolumns hfind hok
  have hstores := s.stores_rowWithId r.params relation.nextId
  refine ⟨relation.nextId, _, hreply, rfl, Relation.toInt_add_one_of_ne_max hmax, hextended,
    hstores, fun old hold => hkept.id?_ne_nextId hold, ?_⟩
  intro query hquery
  have hrows := hkept.filter_nextId hstores.identity
  rw [← hextended.rowsOf] at hrows
  rw [(answer_byColumn after hquery (k := .id) rfl _).2]
  exact congrArg (fun rows => Except.ok (Reply.row (List.head? rows))) hrows

/-- An insertion that names a column twice, gives another one no value, and names `id` in vain. -/
theorem insert_then_fetch_second_row :
    let calls : List Call := [.turn (.request (.execute "CREATE TABLE t")),
      .turn (.request (.run (.ofText "INSERT INTO t (a) VALUES (?)") [.integer 7]))]
    let sql := "INSERT INTO t (b, id, a, b, c) VALUES (?, 9, NULL, ?, ?)"
    let s : Insert := ⟨"t", ["b", idColumn, "a", "b", "c"], [.placeholder 0,
      .literal (.integer 9), .literal .null, .placeholder 1, .placeholder 2]⟩
    let r : Request := .run (.ofText sql) [.text "x", .integer 3]
    let relation : Relation := ⟨"t", [⟨[("id", .integer 1), ("a", .integer 7)]⟩], 2, []⟩
    let query := "SELECT * FROM t WHERE id = ?"
    let db := (Database.create .default).afterCalls calls
    let after := (db.answer r).database
    db.registry.find? s.relation = some relation ∧
      (db.answer r).result = .ok (.changes ⟨1, some 2⟩) ∧ IsQueryOf query s.relation idColumn ∧
      ∃ row, db.registry.Extended after.registry s.relation relation row ∧
        s.Stores r.params 2 row ∧
        (after.answer (.fetchOne (.ofText query) [.integer 2])).result = .ok (.row (some row)) := by
  intro calls sql s r relation query db after
  obtain ⟨hstatement, hfind, hok⟩ : r.statement = .ok (.insert s) ∧
      db.registry.find? s.relation = some relation ∧
      (db.answer r).result = .ok (.changes ⟨1, some 2⟩) := by
    decide +kernel
  have hquery : IsQueryOf query s.relation idColumn := by
    refine ⟨⟨.word "WHERE" none, by decide⟩, ⟨none, "id", none, .mark .equal, rfl, ""⟩, rfl, rfl,
      ⟨.word "SELECT" none, by decide⟩, ⟨.word "FROM" none, by decide⟩, none, ?_⟩
    exact Token.scan_of_eq_layout (by decide) (by decide) (by decide)
  obtain ⟨n, row, -, rfl, -, hextended, hstores, -, hfetch⟩ :=
    insert_then_fetch .default calls r s relation _ hstatement rfl (List.cons_ne_nil _ _) hfind hok
  exact ⟨hfind, hok, hquery, row, hextended, hstores, hfetch query hquery⟩

end Database

/-! ## Spellings of key columns

A field keeps the spelling of its column, and a test of a key column looks for one spelling,
whichever one it is written in. -/

theorem KeyColumn.ofName?_name (k : KeyColumn) : ofName? k.name = some k := by
  cases k <;> decide

theorem KeyColumn.ne_idColumn {column : String} {k : KeyColumn} (hcolumn : ofName? column = some k)
    (hid : k ≠ .id) : column ≠ idColumn := by
  rintro rfl
  exact hid (Option.some.inj (hcolumn.symm.trans (ofName?_name .id)))

/-- A row of one value holds it under the spelling of its column. -/
theorem Relation.get?_rowWithId_single (n : Int64) (column : String) (v : Value) {name : String}
    (hname : name ≠ idColumn) :
    (rowWithId n [(column, v)]).get? name = if column = name then some v else none := by
  rw [get?_rowWithId, if_neg hname]
  rfl

namespace Database

/-- A value inserted for a key column is found again exactly if the column is spelled as tests of
it look for it. -/
theorem found_again_iff_canonical (config : Config) (calls : List Call)
    (sql query name column : String) (k : KeyColumn) (v : Value) (relation : Relation)
    (reply : Reply) (hcolumn : KeyColumn.ofName? column = some k) (hid : k ≠ .id)
    (hself : (v == v) = true)
    (hparse : Statement.parse sql = .ok (.insert ⟨name, [column], [.placeholder 0]⟩))
    (hquery : IsQueryOf query name column)
    (hfind : ((create config).afterCalls calls).registry.find? name = some relation)
    (hok : (((create config).afterCalls calls).answer (.run (.ofText sql) [v])).result =
      .ok reply) :
    let db := (create config).afterCalls calls
    let after := (db.answer (.run (.ofText sql) [v])).database
    ∃ row rows, db.registry.Extended after.registry name relation row ∧
      row.get? column = some v ∧
      (after.answer (.fetchMany (.ofText query) [v])).result = .ok (.rows rows) ∧
      (row ∈ rows ↔ column = k.name) := by
  intro db after
  let row := Relation.rowWithId relation.nextId [(column, v)]
  have hkey := KeyColumn.ne_idColumn k.ofName?_name hid
  have hrow : row.get? column = some v := by
    rw [Relation.get?_rowWithId_single _ _ _ (KeyColumn.ne_idColumn hcolumn hid), if_pos rfl]
  have hextended : db.registry.Extended after.registry name relation row :=
    (answer_insert_eq_ok (r := .run (.ofText sql) [v]) hparse rfl (List.cons_ne_nil column [])
      hfind hok).2.2
  refine ⟨row, _, hextended, hrow, (answer_byColumn after hquery hcolumn v).1, ?_⟩
  rw [hextended.rowsOf, List.mem_filter]
  constructor
  · rintro ⟨-, hpasses⟩
    by_contra hspelling
    rw [Relation.get?_rowWithId_single _ _ _ hkey, if_neg hspelling] at hpasses
    cases hpasses
  · rintro rfl
    refine ⟨List.mem_append_right _ List.mem_cons_self, ?_⟩
    rw [hrow]
    exact hself

theorem afterCalls_createTable :
    (create .default).afterCalls [.turn (.request (.execute "CREATE TABLE t"))] =
      ⟨.default, ⟨[("t", .create "t" [])]⟩, none, 1⟩ := by
  decide +kernel

/-- A value that is found again under the spelling of tests. -/
theorem found_again_of_status :
    let calls : List Call := [.turn (.request (.execute "CREATE TABLE t"))]
    let sql := "INSERT INTO t (status) VALUES (?)"
    let query := "SELECT * FROM t WHERE status = ?"
    let db := (Database.create .default).afterCalls calls
    let after := (db.answer (.run (.ofText sql) [.text "new"])).database
    Statement.parse sql = .ok (.insert ⟨"t", ["status"], [.placeholder 0]⟩) ∧
      IsQueryOf query "t" "status" ∧
      ∃ row rows, row.get? "status" = some (.text "new") ∧
        (after.answer (.fetchMany (.ofText query) [.text "new"])).result = .ok (.rows rows) ∧
        row ∈ rows := by
  intro calls sql query db after
  have hparse : Statement.parse sql = .ok (.insert ⟨"t", ["status"], [.placeholder 0]⟩) := by
    rw [Statement.parse, show Token.scan sql = .ok [.word "INSERT" none, .word "INTO" none,
      .word "t" none, .mark .leftParen, .word "status" none, .mark .rightParen,
      .word "VALUES" none, .mark .leftParen, .placeholder "", .mark .rightParen] from
        Token.scan_of_eq_layout (by decide) (by decide) (by decide)]
    with_unfolding_all rfl
  have hquery : IsQueryOf query "t" "status" := by
    refine ⟨⟨.word "WHERE" none, by decide⟩, ⟨none, "status", none, .mark .equal, rfl, ""⟩, rfl,
      rfl, ⟨.word "SELECT" none, by decide⟩, ⟨.word "FROM" none, by decide⟩, none, ?_⟩
    exact Token.scan_of_eq_layout (by decide) (by decide) (by decide)
  have hdb : db = _ := afterCalls_createTable
  have hfind : db.registry.find? "t" = some (.create "t" []) := by rw [hdb]; rfl
  have hexec : db.registry.execute db.config.execOptions
      (.insert ⟨"t", ["status"], [.placeholder 0]⟩) .run [.text "new"] =
        .ok (.changed ⟨1, some 1⟩, ⟨[("t", ⟨"t", [⟨[("id", .integer 1), ("status", .text "new")]⟩],
          2, []⟩)]⟩) := by
    rw [hdb]
    decide +kernel
  have hok : (db.answer (.run (.ofText sql) [.text "new"])).result = .ok (.changes ⟨1, some 1⟩) :=
    (db.answer_of_executed (r := .run (.ofText sql) [.text "new"]) hparse
      (Request.command?_eq_none hparse rfl) hexec).2
  obtain ⟨row, rows, -, hrow, hfetch, hfound⟩ := found_again_iff_canonical .default calls sql query
    "t" "status" .status (.text "new") (.create "t" []) _ (by decide) (by decide) (by decide)
    hparse hquery hfind hok
  exact ⟨hparse, hquery, row, rows, hrow, hfetch, hfound.mpr rfl⟩

/-- A value that is not found again under the spelling that it was inserted with. -/
theorem not_found_again_of_capitals :
    let calls : List Call := [.turn (.request (.execute "CREATE TABLE t"))]
    let sql := "INSERT INTO t (EMAIL) VALUES (?)"
    let query := "SELECT * FROM t WHERE EMAIL = ?"
    let db := (Database.create .default).afterCalls calls
    let after := (db.answer (.run (.ofText sql) [.text "a"])).database
    KeyColumn.ofName? "EMAIL" = some .email ∧
      Statement.parse sql = .ok (.insert ⟨"t", ["EMAIL"], [.placeholder 0]⟩) ∧
      IsQueryOf query "t" "EMAIL" ∧
      (db.answer (.run (.ofText sql) [.text "a"])).result = .ok (.changes ⟨1, some 1⟩) ∧
      after.registry.rowsOf "t" = [⟨[("id", .integer 1), ("EMAIL", .text "a")]⟩] ∧
      (after.answer (.fetchMany (.ofText query) [.text "a"])).result = .ok (.rows []) := by
  intro calls sql query db after
  have hparse : Statement.parse sql = .ok (.insert ⟨"t", ["EMAIL"], [.placeholder 0]⟩) := by
    rw [Statement.parse, show Token.scan sql = .ok [.word "INSERT" none, .word "INTO" none,
      .word "t" none, .mark .leftParen, .word "EMAIL" none, .mark .rightParen,
      .word "VALUES" none, .mark .leftParen, .placeholder "", .mark .rightParen] from
        Token.scan_of_eq_layout (by decide) (by decide) (by decide)]
    with_unfolding_all rfl
  have hquery : IsQueryOf query "t" "EMAIL" := by
    refine ⟨⟨.word "WHERE" none, by decide⟩, ⟨none, "EMAIL", none, .mark .equal, rfl, ""⟩, rfl,
      rfl, ⟨.word "SELECT" none, by decide⟩, ⟨.word "FROM" none, by decide⟩, none, ?_⟩
    exact Token.scan_of_eq_layout (by decide) (by decide) (by decide)
  have hkey : KeyColumn.ofName? "EMAIL" = some .email := by decide
  have hdb : db = _ := afterCalls_createTable
  have hexec : db.registry.execute db.config.execOptions
      (.insert ⟨"t", ["EMAIL"], [.placeholder 0]⟩) .run [.text "a"] =
        .ok (.changed ⟨1, some 1⟩, ⟨[("t", ⟨"t", [⟨[("id", .integer 1), ("EMAIL", .text "a")]⟩],
          2, []⟩)]⟩) := by
    rw [hdb]
    decide +kernel
  obtain ⟨hafter, hok⟩ :=
    db.answer_of_executed (r := .run (.ofText sql) [.text "a"]) hparse
      (Request.command?_eq_none hparse rfl) hexec
  have hrows : after.registry.rowsOf "t" = [⟨[("id", .integer 1), ("EMAIL", .text "a")]⟩] := by
    rw [show after = _ from hafter]
    rfl
  refine ⟨hkey, hparse, hquery, hok, hrows, ?_⟩
  rw [(answer_byColumn after hquery hkey _).1, hrows]
  rfl

end Database

end MiniSql
