import MiniSql.Proofs.Identity
import MiniSql.Proofs.Untouched

/-!
# Uniqueness of values

A relation with unique columns refuses a row that repeats one of their values. The row that
counts is the one that would be stored: its identity is that of the counter, whatever the
insertion says of `id`, and of a column named twice it holds the last value.

The check looks at the first value that an insertion gives for a column. This is the stored
value of a column other than `id` that is named at most once. A column named twice is judged
by a value that is not stored, so that a repeated value passes and a fresh one is refused.

**Results.**
* `get?_rowWithId`: what the stored row holds.
* `repeatedValue?_eq_none_iff`: when nothing is found to be repeated.
* `insert_unless_repeated`: insertions are refused for repeated values and for no others.
* `insert_judges_first_value`: a column named twice.
-/

namespace MiniSql

namespace Relation

/-- The stored row has the identity of the counter, and the last value given for every other
column. -/
theorem get?_rowWithId (id : Int64) (fields : List Field) (name : String) :
    (rowWithId id fields).get? name =
      if name = idColumn then some (.integer id) else given? fields.reverse name := by
  by_cases hname : name = idColumn
  · subst hname
    rw [rowWithId, Row.get?_setAll_of_ne name_ne_of_mem_filter, Row.get?_set, if_pos rfl,
      if_pos rfl]
  · rw [rowWithId, Row.get?_setAll, ← List.filter_reverse, Row.getField?_filter_ne hname,
      Row.get?_set, if_neg hname, if_neg hname, Row.get?_empty, Option.or_none, given?]

/-- A row of the relation holds, in a unique column, the value that the given row has there.
`NULL` repeats nothing. -/
def Repeats (r : Relation) (row : Row) : Prop :=
  ∃ column ∈ r.columns, column.unique = true ∧
    ∃ value, row.get? column.name = some value ∧ value.isNull = false ∧
      ∃ held ∈ r.rows, ∃ other, held.get? column.name = some other ∧ (other == value) = true

/-- What an insertion gives for the unique columns is what would be stored: each is named at
most once, and a unique `id` is left to the counter, whose value no row has yet. -/
structure GivenAsStored (r : Relation) (fields : List Field) : Prop where
  once : ∀ column ∈ r.columns, column.unique = true → column.name ≠ idColumn →
    (fields.map Prod.fst).count column.name ≤ 1
  identity : ∀ column ∈ r.columns, column.unique = true → column.name = idColumn →
    idColumn ∉ fields.map Prod.fst ∧
      ∀ held ∈ r.rows, ∀ other, held.get? idColumn = some other →
        (other == .integer r.nextId) = false

theorem some_beq_some_iff {held : Option Value} {value : Value} :
    (held == some value) = true ↔ ∃ other, held = some other ∧ (other == value) = true := by
  cases held with
  | none => simp
  | some other => simp

/-- Nothing is found to be repeated when no first value of a unique column is held. -/
theorem repeatedValue?_eq_none_iff {r : Relation} {fields : List Field} :
    r.repeatedValue? fields = none ↔
      ∀ column ∈ r.columns, column.unique = true → ∀ value,
        given? fields column.name = some value → value.isNull = false →
        ∀ held ∈ r.rows, ∀ other, held.get? column.name = some other →
          (other == value) = false := by
  unfold repeatedValue?
  rw [List.findSome?_eq_none_iff]
  constructor
  · intro hnone column hcolumn hunique value hgiven hnull held hheld other hother
    have hfree := hnone column (List.mem_filter.mpr ⟨hcolumn, hunique⟩)
    simp only [hgiven, hnull, Bool.not_false, Bool.true_and, ite_eq_right_iff, reduceCtorEq,
      imp_false, Bool.not_eq_true] at hfree
    have hne := List.any_eq_false.mp hfree held hheld
    rw [hother] at hne
    simpa using hne
  · intro hfree column hcolumn
    obtain ⟨hmem, hunique⟩ := List.mem_filter.mp hcolumn
    cases hgiven : given? fields column.name with
    | none => rfl
    | some value =>
        refine if_neg ?_
        rw [Bool.and_eq_true, List.any_eq_true]
        rintro ⟨hnull, held, hheld, hequal⟩
        obtain ⟨other, hother, hsame⟩ := some_beq_some_iff.mp hequal
        have := hfree column hmem hunique value hgiven (by simpa using hnull) held hheld other
          hother
        simp [hsame] at this

/-- Where the stored values are those given, the check finds the repeated ones. -/
theorem GivenAsStored.repeatedValue?_eq_none_iff {r : Relation} {fields : List Field}
    (h : r.GivenAsStored fields) :
    r.repeatedValue? fields = none ↔ ¬ r.Repeats (rowWithId r.nextId fields) := by
  rw [Relation.repeatedValue?_eq_none_iff]
  constructor
  · rintro hfree ⟨column, hcolumn, hunique, value, hvalue, hnull, held, hheld, other, hother,
      hequal⟩
    rw [get?_rowWithId] at hvalue
    by_cases hname : column.name = idColumn
    · rw [if_pos hname] at hvalue
      cases hvalue
      rw [hname] at hother
      have := (h.identity column hcolumn hunique hname).2 held hheld other hother
      simp [this] at hequal
    · rw [if_neg hname, given?, Row.getField?_reverse (h.once column hcolumn hunique hname)]
        at hvalue
      have := hfree column hcolumn hunique value hvalue hnull held hheld other hother
      simp [this] at hequal
  · intro hfree column hcolumn hunique value hgiven hnull held hheld other hother
    by_cases hname : column.name = idColumn
    · rw [hname, given?, Row.getField?_eq_none (h.identity column hcolumn hunique hname).1]
        at hgiven
      cases hgiven
    · rw [← Bool.not_eq_true]
      intro hequal
      refine hfree ⟨column, hcolumn, hunique, value, ?_, hnull, held, hheld, other, hother, hequal⟩
      rw [get?_rowWithId, if_neg hname, given?,
        Row.getField?_reverse (h.once column hcolumn hunique hname)]
      exact hgiven

/-- A checked insertion succeeds when nothing is found to be repeated and an identity is
left. -/
theorem insert_isOk_iff {r : Relation} {fields : List Field} :
    (∃ id r', r.insert fields true = .ok (id, r')) ↔
      r.repeatedValue? fields = none ∧ r.nextId ≠ Int64.maxValue := by
  unfold insert
  rw [if_pos rfl]
  cases hrepeated : r.repeatedValue? fields with
  | some found => simp
  | none =>
      by_cases hmax : r.nextId = Int64.maxValue
      · simp [hmax]
      · simp [hmax]

/-- Where the stored values are those given, a checked insertion is refused exactly when the
row to be stored repeats a value or no identity is left. No row that is stored repeats a
value, and a refused insertion leaves the relations of the database as they were. -/
theorem insert_unless_repeated (r : Relation) (fields : List Field)
    (h : r.GivenAsStored fields) :
    ((∃ id r', r.insert fields true = .ok (id, r')) ↔
      ¬ r.Repeats (rowWithId r.nextId fields) ∧ r.nextId ≠ Int64.maxValue) ∧
    (∀ id r', r.insert fields true = .ok (id, r') →
      r'.rows = r.rows ++ [rowWithId r.nextId fields] ∧
        ¬ r.Repeats (rowWithId r.nextId fields)) ∧
    (∀ (db : Database) (p : Prepared) (params : List Value) (e : DatabaseError),
      (db.run p params).result = .error e → db.Untouched (db.run p params).database) := by
  refine ⟨?_, ?_, ?_⟩
  · rw [insert_isOk_iff, h.repeatedValue?_eq_none_iff]
  · intro id r' hins
    obtain ⟨-, -, rfl⟩ := insert_eq_ok hins
    have hfree := (insert_isOk_iff.mp ⟨id, _, hins⟩).1
    exact ⟨rfl, h.repeatedValue?_eq_none_iff.mp hfree⟩
  · intro db p params e hfailed
    refine Database.untouched_answer db (.run p params) ?_
    intro reply hreply
    obtain ⟨changes, hchanges, -⟩ := Answer.exists_of_map_ok hreply
    rw [hfailed] at hchanges
    cases hchanges

/-- A value that a unique column holds already is given once, and refused. -/
theorem insert_refused_for_held_value :
    let held : Row := ⟨[(idColumn, .integer 1), ("a", .integer 7)]⟩
    let r : Relation := ⟨"t", [held], 2, [⟨"a", "", false, true, false⟩]⟩
    r.GivenAsStored [("a", .real (.ofInt 7))] ∧
      ¬ ∃ id r', r.insert [("a", .real (.ofInt 7))] true = .ok (id, r') := by
  intro held r
  have hgiven : r.GivenAsStored [("a", .real (.ofInt 7))] := by
    constructor
    · intro column hcolumn _ _
      obtain rfl := List.mem_singleton.mp hcolumn
      decide
    · intro column hcolumn _ hname
      obtain rfl := List.mem_singleton.mp hcolumn
      exact absurd hname (by decide)
  refine ⟨hgiven, ?_⟩
  rw [(insert_unless_repeated r _ hgiven).1]
  rintro ⟨hfresh, -⟩
  refine hfresh ⟨_, List.mem_singleton_self _, rfl, .real (.ofInt 7), rfl, rfl, held,
    List.mem_singleton_self _, .integer 7, rfl, ?_⟩
  decide +kernel

/-- A column named twice, and a unique `id`, are judged by a value that is not stored: a
repeated value passes, and fresh ones are refused. -/
theorem insert_judges_first_value :
    let held : Row := ⟨[(idColumn, .integer 1), ("a", .integer 7)]⟩
    let r : Relation := ⟨"t", [held], 2, [⟨"a", "", false, true, false⟩]⟩
    let s : Relation := ⟨"t", [held], 2, [⟨idColumn, "", false, true, false⟩]⟩
    ((∃ id r', r.insert [("a", .integer 8), ("a", .integer 7)] true = .ok (id, r')) ∧
      r.Repeats (rowWithId 2 [("a", .integer 8), ("a", .integer 7)])) ∧
    ((¬ ∃ id r', r.insert [("a", .integer 7), ("a", .integer 8)] true = .ok (id, r')) ∧
      ¬ r.Repeats (rowWithId 2 [("a", .integer 7), ("a", .integer 8)])) ∧
    ((¬ ∃ id s', s.insert [(idColumn, .integer 1)] true = .ok (id, s')) ∧
      ¬ s.Repeats (rowWithId 2 [(idColumn, .integer 1)])) := by
  intro held r s
  refine ⟨⟨⟨_, _, rfl⟩, ?_⟩, ⟨?_, ?_⟩, ?_, ?_⟩
  · exact ⟨_, List.mem_singleton_self _, rfl, .integer 7, rfl, rfl, held,
      List.mem_singleton_self _, .integer 7, rfl, rfl⟩
  · rintro ⟨id, r', hins⟩
    cases hins
  · rintro ⟨column, hcolumn, -, value, hvalue, -, row, hrow, other, hother, hequal⟩
    obtain rfl := List.mem_singleton.mp hcolumn
    obtain rfl := List.mem_singleton.mp hrow
    cases hvalue
    cases hother
    cases hequal
  · rintro ⟨id, s', hins⟩
    cases hins
  · rintro ⟨column, hcolumn, -, value, hvalue, -, row, hrow, other, hother, hequal⟩
    obtain rfl := List.mem_singleton.mp hcolumn
    obtain rfl := List.mem_singleton.mp hrow
    cases hvalue
    cases hother
    cases hequal

end Relation

end MiniSql
