import Mathlib.Tactic.Positivity
import MiniSql.Proofs.Identity
import MiniSql.Proofs.Selection

/-!
# Rows that are written

An update and a removal find their rows by the first test of `id` in their clause, and look at
nothing else in it. A fetch applies every recognized test of its clause. So a row that is
written passes the first test of `id`, but it may fail another test, and then a fetch under
the same clause does not return it.

Identities are distinct, and a value equals one integer at most; so a write finds one row at
most.

**Results.**
* `Relation.WellKept.countP_matchesId_le_one`: at most one row has a given identity.
* `Predicate.read_shifted`: a clause is read alike wherever it stands, up to its slots.
* `writes_pass_first_id`: the rows that are written and those that are fetched.
* `removal_beside_fetched`: a removal of a row that is not fetched.
-/

namespace MiniSql

open Token (placeholderCount)

/-! ## Rows of an identity -/

theorem Binary64.eq_of_isInteger {x : Binary64} {i j : Int} (hi : x.isInteger i = true)
    (hj : x.isInteger j = true) : i = j := by
  cases x with
  | finite x =>
      rw [isInteger_finite] at hi hj
      have hunits : (unitsPerOne : Int) ≠ 0 := by
        rw [unitsPerOne, Nat.one_shiftLeft]
        positivity
      exact mul_right_cancel₀ hunits (hi.symm.trans hj)
  | infinite negative => cases hi
  | notANumber => cases hi

/-- A value equals one integer at most. -/
theorem Value.eq_of_beq_integer {v : Value} {i j : Int64} (hi : (integer i == v) = true)
    (hj : (integer j == v) = true) : i = j := by
  cases v with
  | null => cases hi
  | integer k =>
      rw [beq_integer, beq_iff_eq] at hi hj
      exact hi.trans hj.symm
  | real x =>
      rw [beq_integer_real] at hi hj
      exact Int64.toInt_inj.mp (Binary64.eq_of_isInteger hi hj)
  | text s => cases hi

/-- Where no two members of a list have a property, one at most has it. -/
theorem countP_le_one_of_pairwise {α : Type} {p : α → Bool} {l : List α}
    (h : l.Pairwise fun a b => p a = true → ¬ p b = true) : l.countP p ≤ 1 := by
  induction l with
  | nil => exact Nat.zero_le 1
  | cons a l ih =>
      obtain ⟨hfirst, hrest⟩ := List.pairwise_cons.mp h
      by_cases ha : p a = true
      · have hnone : l.countP p = 0 := List.countP_eq_zero.mpr fun b hb => hfirst b hb ha
        rw [List.countP_cons_of_pos ha, hnone]
      · rw [List.countP_cons_of_neg ha]
        exact ih hrest

namespace Relation

/-- A row with an identity is found by the values that equal it. -/
theorem matchesId_eq_true {row : Row} {i : Int64} {id : Option Value} (hid : row.id? = some i)
    (h : matchesId id row = true) : ∃ v, id = some v ∧ (Value.integer i == v) = true := by
  obtain ⟨held, hheld, hinteger⟩ := Option.bind_eq_some_iff.mp hid
  obtain rfl : held = .integer i := by
    cases held with
    | integer j => rw [Option.some.inj hinteger]
    | _ => cases hinteger
  rw [matchesId, hheld] at h
  cases id with
  | none => cases h
  | some v => exact ⟨v, rfl, h⟩

/-- Of two rows of a well-kept relation one at most has a given identity. -/
theorem WellKept.pairwise_matchesId {r : Relation} (h : r.WellKept) (id : Option Value) :
    r.rows.Pairwise fun a b => matchesId id a = true → ¬ matchesId id b = true := by
  have hincreasing := List.pairwise_filterMap.mp h.increasing
  refine hincreasing.imp_of_mem ?_
  intro a b ha hb hless hmatchesa hmatchesb
  obtain ⟨i, _, hfieldsa⟩ := (h.wellFormed a ha).first
  obtain ⟨j, _, hfieldsb⟩ := (h.wellFormed b hb).first
  have hi := Row.id?_of_fields hfieldsa
  have hj := Row.id?_of_fields hfieldsb
  obtain ⟨v, rfl, heqi⟩ := matchesId_eq_true hi hmatchesa
  obtain ⟨w, hw, heqj⟩ := matchesId_eq_true hj hmatchesb
  obtain rfl := Option.some.inj hw
  obtain rfl := Value.eq_of_beq_integer heqi heqj
  exact Int64.lt_irrefl (hless i hi i hj)

theorem WellKept.countP_matchesId_le_one {r : Relation} (h : r.WellKept) (id : Option Value) :
    r.rows.countP (matchesId id) ≤ 1 :=
  countP_le_one_of_pairwise (h.pairwise_matchesId id)

/-- A removal takes every row with the identity, since there is no second one. -/
theorem WellKept.not_mem_deleteById {r : Relation} (h : r.WellKept) {id : Option Value}
    {row : Row} (hmatches : matchesId id row = true) : row ∉ (r.deleteById id).2.rows := by
  intro hleft
  have hleft : row ∈ r.rows.eraseP (matchesId id) := hleft
  obtain ⟨first, before, after, -, hfirst, hrows, herase⟩ :=
    List.exists_of_eraseP (List.mem_of_mem_eraseP hleft) hmatches
  have hpairwise := h.pairwise_matchesId id
  rw [hrows] at hpairwise
  rw [herase] at hleft
  rw [List.pairwise_append] at hpairwise
  rcases List.mem_append.mp hleft with hbefore | hafter
  · exact hpairwise.2.2 row hbefore first List.mem_cons_self hmatches hfirst
  · exact List.rel_of_pairwise_cons hpairwise.2.1 hafter hfirst hmatches

theorem mem_deleteById {r : Relation} {id : Option Value} {row : Row} (hrow : row ∈ r.rows)
    (hmatches : ¬ matchesId id row = true) : row ∈ (r.deleteById id).2.rows :=
  (List.mem_eraseP_of_neg hmatches).mpr hrow

theorem mem_updateById {r : Relation} {id : Option Value} {assignments : List Field} {row : Row}
    (hrow : row ∈ r.rows) (hmatches : ¬ matchesId id row = true) :
    row ∈ (r.updateById id assignments).2.rows :=
  List.mem_map.mpr ⟨row, hrow, if_neg hmatches⟩

theorem assign_mem_updateById {r : Relation} {id : Option Value} {assignments : List Field}
    {row : Row} (hrow : row ∈ r.rows) (hmatches : matchesId id row = true) :
    assign assignments row ∈ (r.updateById id assignments).2.rows :=
  List.mem_map.mpr ⟨row, hrow, if_pos hmatches⟩

end Relation

/-! ## Clauses on their own

In an update the slots of the clause come after those of the assignments. -/

namespace Conjunct

/-- The conjunct behind as many further parameters. -/
def shift (taken : Nat) : Conjunct → Conjunct
  | equals column slot => equals column (taken + slot)
  | other text => other text

theorem key?_shift (taken : Nat) (c : Conjunct) :
    (c.shift taken).key? = c.key?.map fun test => (test.1, taken + test.2) := by
  cases c with
  | equals column slot =>
      rw [shift, key?, key?, Option.map_map]
      rfl
  | other text => rfl

theorem read_shift (taken slot : Nat) (tokens : List Token) :
    read (taken + slot) tokens =
      ((read slot tokens).1.shift taken, taken + (read slot tokens).2) := by
  rw [read, read]
  cases comparedColumn? (Token.stripParens tokens) with
  | none => simp only [shift, Nat.add_assoc]
  | some column => simp only [shift, Nat.add_assoc]

theorem readAll_shift (taken slot : Nat) (pieces : List (List Token)) :
    readAll (taken + slot) pieces =
      ((readAll slot pieces).1.map (shift taken), taken + (readAll slot pieces).2) := by
  induction pieces generalizing slot with
  | nil => rfl
  | cons tokens rest ih =>
      rw [readAll, readAll, read_shift]
      simp only [ih, List.map_cons]

end Conjunct

namespace Predicate

/-- The clause behind as many further parameters. -/
def shift (taken : Nat) (p : Predicate) : Predicate :=
  ⟨p.conjuncts.map (Conjunct.shift taken)⟩

theorem ofTokens_shift (taken : Nat) (tokens : List Token) :
    (ofTokens taken tokens).1 = (ofTokens 0 tokens).1.shift taken := by
  have hread := fun pieces => Conjunct.readAll_shift taken 0 pieces
  simp only [Nat.add_zero] at hread
  rw [ofTokens, ofTokens]
  simp only [hread, shift]

theorem keys_shift (taken : Nat) (p : Predicate) :
    (p.shift taken).keys = p.keys.map fun test => (test.1, taken + test.2) := by
  rw [keys, keys, shift, List.filterMap_map, List.map_filterMap]
  apply List.filterMap_congr
  intro c _
  exact c.key?_shift taken

/-- The slot for a write is that of the first test of `id` among the tests for a fetch. -/
theorem idSlot?_eq (p : Predicate) :
    p.idSlot? = (p.keys.find? (·.1 = .id)).map Prod.snd := by
  rw [idSlot?, keys]
  induction p.conjuncts with
  | nil => rfl
  | cons c cs ih =>
      rw [List.findSome?_cons, List.filterMap_cons]
      cases hkey : c.key? with
      | none => exact ih
      | some test =>
          obtain ⟨column, slot⟩ := test
          cases column with
          | id => rfl
          | _ => exact ih

theorem idSlot?_shift (taken : Nat) (p : Predicate) :
    (p.shift taken).idSlot? = p.idSlot?.map (taken + ·) := by
  rw [idSlot?_eq, idSlot?_eq, keys_shift, List.find?_map, Option.map_map, Option.map_map]
  rfl

/-- The first test of `id` is one of the tests. -/
theorem mem_keys_of_idSlot? {p : Predicate} {slot : Nat} (h : p.idSlot? = some slot) :
    (.id, slot) ∈ p.keys := by
  rw [idSlot?_eq] at h
  obtain ⟨⟨column, slot⟩, hfind, rfl⟩ := Option.map_eq_some_iff.mp h
  have hcolumn := List.find?_some hfind
  simp only [decide_eq_true_eq] at hcolumn
  exact hcolumn ▸ List.mem_of_find?_eq_some hfind

/-- A clause that is read begins with its `WHERE`, and only its slots depend on what stands
before it. -/
theorem read_shifted {taken : Nat} {clause rest : List Token} {p : Predicate}
    (h : read taken clause = .ok (some p, rest)) :
    ∃ (condition : Keyword "WHERE") (tokens : List Token) (q : Predicate),
      clause = condition.token :: tokens ∧ read 0 clause = .ok (some q, rest) ∧
        p = q.shift taken := by
  unfold read at h
  split at h
  · cases h
  · next t ts =>
      split at h
      · next hwhere =>
          simp only at h
          split at h
          · cases h
          · next hne =>
              cases h
              refine ⟨⟨t, hwhere⟩, ts, _, rfl, ?_, ofTokens_shift taken _⟩
              rw [read, if_pos hwhere]
              simp only [if_neg hne]
      · cases h

end Predicate

/-- A test behind further parameters is one of the parameters from there on. -/
theorem passes_shifted (params : List Value) (row : Row) (column : KeyColumn) (taken slot : Nat) :
    passes params row (column, taken + slot) = passes (params.drop taken) row (column, slot) := by
  rw [passes, passes, List.getElem?_drop]

/-! ## Statements that write -/

namespace Statement

/-- The clause by which a statement finds the rows that it writes. -/
def writeClause? : Statement → Option Predicate
  | update s => s.predicate
  | delete s => s.predicate
  | _ => none

/-- What a statement makes of a row that it finds: it is changed or removed. -/
def Writes (params : List Value) (row : Row) (after : List Row) : Statement → Prop
  | update s => Relation.assign (s.fields params) row ∈ after
  | delete _ => row ∉ after
  | _ => False

/-- A statement that writes ends with a clause, which is read alike on its own. Behind other
parameters its slots come after those that are taken; a parameter takes one unless it is a
qualifier. -/
structure WritesUnder (s : Statement) (sql : String) (clause : List Token) (taken : Nat)
    (p : Predicate) : Prop where
  parsed : parse sql = .ok s
  scanned : ∃ front, Token.scan sql = .ok (front ++ clause) ∧
    (NoQualifier (front ++ clause) → placeholderCount front = taken)
  read : ∃ rest, Predicate.read 0 clause = .ok (some p, rest) ∧ Parser.finish rest = .ok ()
  shifted : s.writeClause? = some (p.shift taken)

end Statement

/-- The clause of a statement stands at the end of what the statement is read from. -/
theorem Parser.read_of_writeClause? {kind : StatementKind} {tokens rest : List Token}
    {s : Statement} {p : Predicate} (h : statement kind tokens = .ok (s, rest))
    (hclause : s.writeClause? = some p) :
    ∃ front clause taken, tokens = front ++ clause ∧
      (NoQualifier tokens → placeholderCount front = taken) ∧
      Predicate.read taken clause = .ok (some p, rest) := by
  obtain ⟨-, hparse⟩ := isReadFrom_of_statement h
  cases s with
  | update u =>
      obtain ⟨passed, keyword, list, clause, taken, rfl, hcount, -, hlist, hread⟩ :=
        update_eq_ok hparse
      rw [show u.predicate = some p from hclause] at hread
      exact ⟨_, clause, taken, rfl, fun hq => (slot_of_update hq hcount hlist).2.symm, hread⟩
  | delete d =>
      obtain ⟨passed, clause, rfl, hcount, hread⟩ := delete_eq_ok hparse
      rw [show d.predicate = some p from hclause] at hread
      exact ⟨passed, clause, 0, rfl, fun _ => hcount, hread⟩
  | _ => cases hclause

namespace Statement

theorem exists_writesUnder {sql : String} {s : Statement} {p : Predicate}
    (h : parse sql = .ok s) (hclause : s.writeClause? = some p) :
    ∃ clause taken q, s.WritesUnder sql clause taken q := by
  have hparse := h
  unfold parse at hparse
  split at hparse
  · cases hparse
  · next tokens hscan =>
      unfold ofTokens at hparse
      split at hparse
      · cases hparse
      · obtain ⟨⟨s', rest⟩, hstatement, hparse⟩ := exists_of_bind_ok hparse
        obtain ⟨⟨⟩, hfinish, hparse⟩ := exists_of_bind_ok hparse
        cases hparse
        obtain ⟨front, clause, taken, rfl, hcount, hread⟩ :=
          Parser.read_of_writeClause? hstatement hclause
        obtain ⟨_, _, q, -, hown, rfl⟩ := Predicate.read_shifted hread
        exact ⟨clause, taken, q, h, ⟨front, hscan, hcount⟩, ⟨rest, hown, hfinish⟩, hclause⟩

end Statement

/-! ## Rows that are written, and rows that are fetched -/

namespace Registry

variable {r : Registry} {name : String}

theorem rowsOf_of_find? {relation : Relation} (hfind : r.find? name = some relation) :
    r.rowsOf name = relation.rows := by
  rw [rowsOf, hfind]

theorem rowsOf_replace {relation relation' : Relation} (hfind : r.find? name = some relation) :
    (r.replace name relation').rowsOf name = relation'.rows := by
  rw [rowsOf, find?_replace, if_pos rfl, hfind]
  rfl

theorem find?_replace_of_ne {other : String} (relation : Relation) (hne : other ≠ name) :
    (r.replace name relation).find? other = r.find? other := by
  rw [find?_replace, if_neg hne]

section

variable {options : ExecOptions} {params : List Value} {s : Statement} {p : Predicate} {slot : Nat}

/-- A write to a relation that does not exist does nothing. -/
theorem execute_write_of_none (hrelation : s.relation? = some name)
    (hclause : s.writeClause? = some p) (hslot : p.idSlot? = some slot)
    (hfind : r.find? name = none) :
    r.execute options s .run params = .ok (.changed .none, r) := by
  cases s with
  | update u =>
      obtain rfl := Option.some.inj hrelation
      have hid : MiniSql.idSlot? u.predicate = some slot :=
        (congrArg MiniSql.idSlot? hclause).trans hslot
      simp only [execute, updateRows, hid, hfind]
  | delete d =>
      obtain rfl := Option.some.inj hrelation
      have hid : MiniSql.idSlot? d.predicate = some slot :=
        (congrArg MiniSql.idSlot? hclause).trans hslot
      simp only [execute, deleteRow, hid, hfind]
  | _ => cases hclause

/-- A write to a relation writes the rows that pass the first test of `id` in the clause, and no
others. -/
theorem execute_write_of_some (hrelation : s.relation? = some name)
    (hclause : s.writeClause? = some p) (hslot : p.idSlot? = some slot) {relation : Relation}
    (hfind : r.find? name = some relation) (hkept : relation.WellKept) :
    ∃ outcome relation', r.execute options s .run params =
        .ok (outcome, r.replace name relation') ∧
      ∀ row ∈ relation.rows,
        (passes params row (.id, slot) = true → s.Writes params row relation'.rows) ∧
        (¬ passes params row (.id, slot) = true → row ∈ relation'.rows) := by
  cases s with
  | update u =>
      obtain rfl := Option.some.inj hrelation
      have hid : MiniSql.idSlot? u.predicate = some slot :=
        (congrArg MiniSql.idSlot? hclause).trans hslot
      refine ⟨(r.updateRows options u params).1,
        (relation.updateById params[slot]? (u.fields params)).2, ?_, ?_⟩
      · simp only [execute, updateRows, hid, hfind]
      · intro row hrow
        exact ⟨Relation.assign_mem_updateById hrow, Relation.mem_updateById hrow⟩
  | delete d =>
      obtain rfl := Option.some.inj hrelation
      have hid : MiniSql.idSlot? d.predicate = some slot :=
        (congrArg MiniSql.idSlot? hclause).trans hslot
      refine ⟨(r.deleteRow d params).1, (relation.deleteById params[slot]?).2, ?_, ?_⟩
      · simp only [execute, deleteRow, hid, hfind]
      · intro row hrow
        exact ⟨hkept.not_mem_deleteById, Relation.mem_deleteById hrow⟩
  | _ => cases hclause

/-- What a write does to a registry. -/
theorem execute_write (h : r.WellKept) (hrelation : s.relation? = some name)
    (hclause : s.writeClause? = some p) (hslot : p.idSlot? = some slot) :
    ∃ outcome r', r.execute options s .run params = .ok (outcome, r') ∧
      (∀ other, other ≠ name → r'.find? other = r.find? other) ∧
      ∀ row ∈ r.rowsOf name,
        (passes params row (.id, slot) = true → s.Writes params row (r'.rowsOf name)) ∧
        (¬ passes params row (.id, slot) = true → row ∈ r'.rowsOf name) := by
  cases hfind : r.find? name with
  | none =>
      refine ⟨_, r, execute_write_of_none hrelation hclause hslot hfind, fun _ _ => rfl, ?_⟩
      intro row hrow
      rw [rowsOf, hfind] at hrow
      cases hrow
  | some relation =>
      have hkept := h.relations _ (mem_of_relationOf? hfind)
      obtain ⟨outcome, relation', hexec, hrows⟩ :=
        execute_write_of_some hrelation hclause hslot hfind hkept
      refine ⟨outcome, _, hexec, fun other => find?_replace_of_ne relation', ?_⟩
      rw [rowsOf_of_find? hfind, rowsOf_replace hfind]
      exact hrows

end

/-- A fetch under a clause with a test returns the rows that pass every test. -/
theorem fetchMany_of_recognized (relation : String) {p : Predicate} (params : List Value)
    (h : p.keys ≠ []) :
    ∃ rows filter, r.fetchMany ⟨relation, .all, some p⟩ params = .rows rows filter ∧
      ∀ row, row ∈ rows ↔
        row ∈ r.rowsOf relation ∧ ∀ test ∈ p.keys, passes params row test = true := by
  have hrecognized := p.isRecognized_iff.mpr h
  refine ⟨_, _, rfl, ?_⟩
  intro row
  have hall : ∀ rows : List Row, rows.map Projection.all.apply = rows := List.map_id'
  have hfilter : Filter.ofPredicate (some p) = .recognized := if_pos hrecognized
  rw [hall, hfilter]
  simp only [List.mem_filter, selects, List.all_eq_true]

end Registry

namespace Statement

theorem isControl_of_writeClause? {s : Statement} {p : Predicate}
    (h : s.writeClause? = some p) : s.kind.isControl = false := by
  cases s with
  | update u => rfl
  | delete d => rfl
  | _ => cases h

/-- The clause by which a statement writes is the one under which a query fetches. -/
theorem WritesUnder.parse_query {s : Statement} {sql query relation : String}
    {clause : List Token} {taken : Nat} {p : Predicate} (h : s.WritesUnder sql clause taken p)
    (hquery : IsQueryUnder query relation clause) :
    parse query = .ok (.select ⟨relation, .all, some p⟩) := by
  obtain ⟨rest, hread, hfinish⟩ := h.read
  obtain ⟨condition, tokens, -, rfl, -, -⟩ := Predicate.read_shifted hread
  exact hquery.parse_eq_ok hread hfinish

/-- Where a text says `WHERE` once, the clause by which it writes begins there. -/
theorem WritesUnder.eq_of_where {s : Statement} {sql : String} {clause front tokens : List Token}
    {word : Token} {taken : Nat} {p : Predicate} (h : s.WritesUnder sql clause taken p)
    (hscan : Token.scan sql = .ok (front ++ word :: tokens))
    (hfront : ∀ t ∈ front, t.isKeyword "WHERE" = false)
    (htokens : ∀ t ∈ tokens, t.isKeyword "WHERE" = false)
    (hplain : NoQualifier (front ++ word :: tokens)) :
    clause = word :: tokens ∧ taken = placeholderCount front := by
  obtain ⟨front', hscan', hcount⟩ := h.scanned
  obtain ⟨rest, hread, -⟩ := h.read
  obtain ⟨condition, later, -, rfl, -, -⟩ := Predicate.read_shifted hread
  have heq : front ++ word :: tokens = front' ++ condition.token :: later :=
    Except.ok.inj (hscan.symm.trans hscan')
  have hsplit : front' = front ∧ condition.token :: later = word :: tokens := by
    rcases List.append_eq_append_iff.mp heq with ⟨between, rfl, htail⟩ | ⟨between, rfl, htail⟩
    · cases between with
      | nil => exact ⟨List.append_nil front, htail.symm⟩
      | cons t between =>
          -- A later `WHERE` would be a second one.
          obtain ⟨-, rfl⟩ := List.cons.inj htail
          have hnot := htokens condition.token (by simp)
          rw [condition.spells] at hnot
          cases hnot
    · cases between with
      | nil => exact ⟨(List.append_nil front').symm, htail⟩
      | cons t between =>
          obtain ⟨rfl, -⟩ := List.cons.inj htail
          have hnot := hfront condition.token (by simp)
          rw [condition.spells] at hnot
          cases hnot
  obtain ⟨rfl, hclause⟩ := hsplit
  rw [hclause] at hcount ⊢
  exact ⟨rfl, (hcount hplain).symm⟩

end Statement

namespace Database

/-- What is left by running a text that writes. -/
theorem answer_write {db : Database} (h : db.WellKept) {s : Statement} {sql relation : String}
    {p : Predicate} {slot : Nat} (hparse : Statement.parse sql = .ok s)
    (hrelation : s.relation? = some relation) (hclause : s.writeClause? = some p)
    (hslot : p.idSlot? = some slot) (params : List Value) :
    let after := (db.answer (.run (.ofText sql) params)).database.registry
    (∀ other, other ≠ relation → after.find? other = db.registry.find? other) ∧
      ∀ row ∈ db.registry.rowsOf relation,
        (passes params row (.id, slot) = true → s.Writes params row (after.rowsOf relation)) ∧
        (¬ passes params row (.id, slot) = true → row ∈ after.rowsOf relation) := by
  intro after
  obtain ⟨outcome, registry, hexec, hothers, hrows⟩ :=
    Registry.execute_write h.registry hrelation hclause hslot
  have hstatement : (Request.run (.ofText sql) params).statement = .ok s := hparse
  have hcommand := Request.command?_eq_none hstatement (Statement.isControl_of_writeClause? hclause)
  obtain ⟨hdatabase, -⟩ := db.answer_of_executed hstatement hcommand hexec
  have hafter : after = registry := congrArg Database.registry hdatabase
  rw [hafter]
  exact ⟨hothers, hrows⟩

/-- What is returned by fetching under a clause with a test. -/
theorem answer_query (db : Database) {query relation : String} {p : Predicate}
    (hparse : Statement.parse query = .ok (.select ⟨relation, .all, some p⟩))
    (hkeys : p.keys ≠ []) (params : List Value) :
    ∃ rows, (db.answer (.fetchMany (.ofText query) params)).result = .ok (.rows rows) ∧
      ∀ row, row ∈ rows ↔
        row ∈ db.registry.rowsOf relation ∧ ∀ test ∈ p.keys, passes params row test = true := by
  obtain ⟨rows, filter, hfetch, hrows⟩ :=
    db.registry.fetchMany_of_recognized relation params hkeys
  have hstatement : (Request.fetchMany (.ofText query) params).statement =
      .ok (.select ⟨relation, .all, some p⟩) := hparse
  have hexec : db.registry.execute db.config.execOptions (.select ⟨relation, .all, some p⟩)
      .fetchMany params = .ok (.rows rows filter, db.registry) := by
    rw [Registry.execute, hfetch]
  obtain ⟨-, hresult⟩ := db.answer_of_executed hstatement rfl hexec
  exact ⟨rows, hresult, hrows⟩

/-- What a statement writes, it finds by the first test of `id` in its clause: the rows that
are written pass this test, and are fetched under the clause exactly if they pass its other
tests. Every row that is fetched is written. -/
theorem writes_pass_first_id (config : Config) (calls : List Call) (sql relation : String)
    (s : Statement) (hparse : Statement.parse sql = .ok s)
    (hrelation : s.relation? = some relation) (hid : (idSlot? s.writeClause?).isSome) :
    let db := (create config).afterCalls calls
    ∃ clause taken p first, s.WritesUnder sql clause taken p ∧ p.idSlot? = some first ∧
      ∀ query params, IsQueryUnder query relation clause →
        let after := (db.answer (.run (.ofText sql) params)).database.registry
        let own := params.drop taken
        ∃ rows, (db.answer (.fetchMany (.ofText query) own)).result = .ok (.rows rows) ∧
          (∀ other, other ≠ relation → after.find? other = db.registry.find? other) ∧
          (∀ row ∈ db.registry.rowsOf relation, row ∉ after.rowsOf relation →
            passes own row (.id, first) = true ∧
              (row ∈ rows ↔
                ∀ test ∈ p.keys, test ≠ (.id, first) → passes own row test = true)) ∧
          ∀ row ∈ rows, s.Writes params row (after.rowsOf relation) := by
  intro db
  have hkept : db.WellKept := (wellKept_create config).afterCalls calls
  obtain ⟨slot, hslot⟩ := Option.isSome_iff_exists.mp hid
  obtain ⟨whole, hclause, hwhole⟩ := Option.bind_eq_some_iff.mp hslot
  obtain ⟨clause, taken, p, hwrites⟩ := Statement.exists_writesUnder hparse hclause
  obtain rfl : whole = p.shift taken := Option.some.inj (hclause.symm.trans hwrites.shifted)
  -- The slot that the write looks at is that of the clause on its own, behind those taken.
  obtain ⟨first, hfirst, rfl⟩ :=
    Option.map_eq_some_iff.mp ((p.idSlot?_shift taken).symm.trans hwhole)
  refine ⟨clause, taken, p, first, hwrites, hfirst, ?_⟩
  intro query params hquery after own
  have hmem := Predicate.mem_keys_of_idSlot? hfirst
  obtain ⟨rows, hresult, hrows⟩ := db.answer_query (hwrites.parse_query hquery)
    (List.ne_nil_of_mem hmem) own
  obtain ⟨hothers, hwritten⟩ := answer_write hkept hparse hrelation hclause hwhole params
  refine ⟨rows, hresult, hothers, ?_, ?_⟩
  · intro row hrow hgone
    have hpasses : passes own row (.id, first) = true := by
      by_contra hfails
      rw [← passes_shifted] at hfails
      exact hgone ((hwritten row hrow).2 hfails)
    refine ⟨hpasses, ?_⟩
    rw [hrows]
    constructor
    · rintro ⟨-, hall⟩ test htest -
      exact hall test htest
    · intro hothers
      refine ⟨hrow, fun test htest => ?_⟩
      by_cases hid : test = (.id, first)
      · rw [hid]
        exact hpasses
      · exact hothers test htest hid
  · intro row hfetched
    obtain ⟨hrow, hall⟩ := (hrows row).mp hfetched
    have hpasses := hall _ hmem
    rw [← passes_shifted] at hpasses
    exact (hwritten row hrow).1 hpasses

/-- The row that is fetched under the clause of a removal is the one that the removal removes. -/
theorem removal_of_fetched :
    let sql := "DELETE FROM bookings WHERE provider_id = ? AND id = ?"
    let query := "SELECT * FROM bookings WHERE provider_id = ? AND id = ?"
    let s : Statement := .delete ⟨"bookings", some ⟨[.equals "provider_id" 0, .equals "id" 1]⟩⟩
    let calls : List Call :=
      [.script "CREATE TABLE bookings; INSERT INTO bookings (provider_id) VALUES (7)"]
    let params : List Value := [.integer 7, .integer 1]
    let row : Row := ⟨[("id", .integer 1), ("provider_id", .integer 7)]⟩
    let db := (create .default).afterCalls calls
    Statement.parse sql = .ok s ∧ s.relation? = some "bookings" ∧ (idSlot? s.writeClause?).isSome ∧
      (∃ clause p, s.WritesUnder sql clause 0 p ∧ IsQueryUnder query "bookings" clause) ∧
      (db.answer (.fetchMany (.ofText query) params)).result = .ok (.rows [row]) ∧
      row ∉ (db.answer (.run (.ofText sql) params)).database.registry.rowsOf "bookings" := by
  intro sql query s calls params row db
  let front : List Token := [.word "DELETE" none, .word "FROM" none, .word "bookings" none]
  let tests : List Token := [.word "provider_id" none, .mark .equal, .placeholder "",
    .word "AND" none, .word "id" none, .mark .equal, .placeholder ""]
  let clause : List Token := .word "WHERE" none :: tests
  have hscan : Token.scan sql = .ok (front ++ clause) :=
    Token.scan_of_eq_layout (by decide) (by decide) (by decide)
  have hparse : Statement.parse sql = .ok s := by
    rw [Statement.parse, hscan]
    with_unfolding_all rfl
  have hquery : IsQueryUnder query "bookings" clause :=
    ⟨⟨.word "SELECT" none, by decide⟩, ⟨.word "FROM" none, by decide⟩, none,
      Token.scan_of_eq_layout (by decide) (by decide) (by decide)⟩
  obtain ⟨own, taken, p, first, hwrites, -, hrows⟩ :=
    writes_pass_first_id .default calls sql "bookings" s hparse rfl rfl
  obtain ⟨rfl, rfl⟩ : own = clause ∧ taken = 0 :=
    hwrites.eq_of_where hscan (by decide) (by decide) (by decide)
  have hfetched : (db.answer (.fetchMany (.ofText query) params)).result = .ok (.rows [row]) := by
    decide +kernel
  obtain ⟨rows, hresult, -, -, hremoved⟩ := hrows query params hquery
  rw [List.drop_zero, hfetched] at hresult
  cases hresult
  exact ⟨hparse, rfl, rfl, ⟨clause, p, hwrites, hquery⟩, hfetched, hremoved row List.mem_cons_self⟩

/-- A row of another provider is removed, although a fetch under the clause of the removal does
not return it. -/
theorem removal_beside_fetched :
    let create := "CREATE TABLE t (provider_id)"
    let insert := "INSERT INTO t (provider_id) VALUES (7)"
    let sql := "DELETE FROM t WHERE id = ? AND provider_id = ?"
    let query := "SELECT * FROM t WHERE id = ? AND provider_id = ?"
    let p : Predicate := ⟨[.equals "id" 0, .equals "provider_id" 1]⟩
    let params : List Value := [.integer 1, .integer 8]
    let row : Row := ⟨[("id", .integer 1), ("provider_id", .integer 7)]⟩
    let db := (Database.create .default).afterCalls
      [.turn (.request (.execute create)), .turn (.request (.execute insert))]
    (∃ clause, (Statement.delete ⟨"t", some p⟩).WritesUnder sql clause 0 p ∧
        IsQueryUnder query "t" clause) ∧
      row ∈ db.registry.rowsOf "t" ∧
      row ∉ (db.answer (.run (.ofText sql) params)).database.registry.rowsOf "t" ∧
      (db.answer (.fetchMany (.ofText query) params)).result = .ok (.rows []) := by
  intro create insert sql query p params row db
  have hcreate : Statement.parse create =
      .ok (.createTable ⟨"t", false, [Column.define "provider_id" []]⟩) := by
    rw [Statement.parse, show Token.scan create = .ok [.word "CREATE" none, .word "TABLE" none,
      .word "t" none, .mark .leftParen, .word "provider_id" none, .mark .rightParen] from
        Token.scan_of_eq_layout (by decide) (by decide) (by decide)]
    with_unfolding_all rfl
  have hinsert : Statement.parse insert =
      .ok (.insert ⟨"t", ["provider_id"], [.literal (.integer 7)]⟩) := by
    rw [Statement.parse, show Token.scan insert = .ok [.word "INSERT" none, .word "INTO" none,
      .word "t" none, .mark .leftParen, .word "provider_id" none, .mark .rightParen,
      .word "VALUES" none, .mark .leftParen, .number "7" false, .mark .rightParen] from
        Token.scan_of_eq_layout (by decide) (by decide) (by decide)]
    with_unfolding_all rfl
  let clause : List Token := [.word "WHERE" none, .word "id" none, .mark .equal,
    .placeholder "", .word "AND" none, .word "provider_id" none, .mark .equal, .placeholder ""]
  have hscan : Token.scan sql =
      .ok ([.word "DELETE" none, .word "FROM" none, .word "t" none] ++ clause) :=
    Token.scan_of_eq_layout (by decide) (by decide) (by decide)
  have hdelete : Statement.parse sql = .ok (.delete ⟨"t", some p⟩) := by
    rw [Statement.parse, hscan]
    with_unfolding_all rfl
  have hwrites : (Statement.delete ⟨"t", some p⟩).WritesUnder sql clause 0 p :=
    ⟨hdelete, ⟨_, hscan, fun _ => rfl⟩, ⟨[], by with_unfolding_all rfl, rfl⟩, rfl⟩
  have hquery : IsQueryUnder query "t" clause :=
    ⟨⟨.word "SELECT" none, by decide⟩, ⟨.word "FROM" none, by decide⟩, none,
      Token.scan_of_eq_layout (by decide) (by decide) (by decide)⟩
  have hdb : db = ⟨.default, ⟨[("t", ⟨"t", [row], 2, [Column.define "provider_id" []]⟩)]⟩, none,
      2⟩ := by
    have hfirst := answer_of_executed (.create .default) (r := .execute create) hcreate
      (Request.command?_eq_none hcreate rfl) rfl
    show ((Database.answer _ (.execute create)).database.answer (.execute insert)).database = _
    rw [hfirst.1, (answer_of_executed _ (r := .execute insert) hinsert
      (Request.command?_eq_none hinsert rfl) rfl).1]
    rfl
  refine ⟨⟨clause, hwrites, hquery⟩, ?_, ?_, ?_⟩
  · rw [hdb]
    exact List.mem_cons_self
  · rw [hdb, (answer_of_executed _ (r := .run (.ofText sql) params) hdelete
      (Request.command?_eq_none hdelete rfl) rfl).1]
    exact List.not_mem_nil
  · rw [hdb, (answer_of_executed _ (r := .fetchMany (.ofText query) params)
      (hwrites.parse_query hquery) rfl rfl).2]
    rfl

end Database

end MiniSql
