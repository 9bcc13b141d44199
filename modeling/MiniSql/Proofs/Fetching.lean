import MiniSql.Execution

/-!
# Fetching one row and fetching all

The first row and all rows of a query are found by different code. Where a clause has a test
that is recognized, or there is no clause, both look for the same rows; where nothing of a
clause is recognized, all rows are fetched, and the first row is none.

**Results.**
* `Registry.fetchMany_eq`, `Registry.fetchOne_eq`: what the two paths return.
* `Registry.fetchMany_and`: a further conjunct selects among the rows fetched without it.
* `Registry.fetch_paths_agree`: the two paths side by side.
-/

namespace MiniSql

namespace Select

/-- The tests by which a query selects rows, in textual order. -/
def tests (s : Select) : List (KeyColumn × Nat) :=
  s.predicate.elim [] Predicate.keys

/-- The query with one more conjunct at the end of its clause. -/
def and (s : Select) (c : Conjunct) : Select :=
  { s with predicate := some ⟨s.predicate.elim [] Predicate.conjuncts ++ [c]⟩ }

/-- A further conjunct adds a test at the end, or none. -/
theorem tests_and (s : Select) (c : Conjunct) : (s.and c).tests = s.tests ++ c.key?.toList := by
  have hkeys : (s.and c).tests =
      (s.predicate.elim [] Predicate.conjuncts ++ [c]).filterMap Conjunct.key? := rfl
  have htests : (s.predicate.elim [] Predicate.conjuncts).filterMap Conjunct.key? = s.tests := by
    rw [tests]
    cases s.predicate with
    | none => rfl
    | some p => rfl
  rw [hkeys, List.filterMap_append, htests, List.filterMap_cons]
  cases c.key? with
  | none => rfl
  | some test => rfl

/-- A clause selects rows by its tests. -/
theorem selects_eq (s : Select) (params : List Value) (row : Row) :
    selects params s.predicate row = s.tests.all (passes params row) := by
  rw [tests]
  cases s.predicate with
  | none => rfl
  | some p => rfl

end Select

namespace Filter

/-- A query without a clause has no filter and no tests. -/
theorem tests_of_unfiltered {s : Select} (h : ofPredicate s.predicate = .unfiltered) :
    s.predicate = none ∧ s.tests = [] := by
  cases hpredicate : s.predicate with
  | none => exact ⟨rfl, by rw [Select.tests, hpredicate]; rfl⟩
  | some p =>
      rw [hpredicate, ofPredicate] at h
      split at h <;> cases h

theorem tests_of_recognized {s : Select} (h : ofPredicate s.predicate = .recognized) :
    s.tests ≠ [] := by
  cases hpredicate : s.predicate with
  | none =>
      rw [hpredicate] at h
      cases h
  | some p =>
      rw [hpredicate, ofPredicate] at h
      split at h
      · next hrecognized =>
          rw [Select.tests, hpredicate]
          exact p.isRecognized_iff.mp hrecognized
      · cases h

theorem tests_of_unrecognized {s : Select} (h : ofPredicate s.predicate = .unrecognized) :
    s.predicate ≠ none ∧ s.tests = [] := by
  cases hpredicate : s.predicate with
  | none =>
      rw [hpredicate] at h
      cases h
  | some p =>
      rw [hpredicate, ofPredicate] at h
      split at h
      · cases h
      · next hrecognized =>
          refine ⟨nofun, ?_⟩
          rw [Select.tests, hpredicate]
          exact Decidable.not_not.mp fun hne => hrecognized (p.isRecognized_iff.mpr hne)

end Filter

namespace Registry

variable (r : Registry) {s : Select} (params : List Value)

/-- The rows of a query: those that pass every test, in order, under the select list. -/
def fetched (s : Select) (params : List Value) : List Row :=
  ((r.rowsOf s.relation).filter fun row => s.tests.all (passes params row)).map s.projection.apply

/-- Without a recognized test every row counts. -/
theorem fetched_of_tests (htests : s.tests = []) :
    r.fetched s params = (r.rowsOf s.relation).map s.projection.apply := by
  have hall : ((r.rowsOf s.relation).filter fun row => s.tests.all (passes params row)) =
      r.rowsOf s.relation := by
    rw [htests]
    exact List.filter_eq_self.mpr fun _ _ => rfl
  rw [fetched, hall]

/-- All rows of a query are fetched, and nothing else. -/
theorem fetchMany_eq (hplain : ∀ text, s.projection ≠ .expressions text) :
    r.fetchMany s params = .rows (r.fetched s params) (.ofPredicate s.predicate) := by
  unfold fetchMany
  split
  · next text hprojection => exact absurd hprojection (hplain text)
  · cases hfilter : Filter.ofPredicate s.predicate with
    | recognized => simp only [fetched, funext (s.selects_eq params)]
    | unfiltered =>
        rw [r.fetched_of_tests params (Filter.tests_of_unfiltered hfilter).2]
    | unrecognized =>
        rw [r.fetched_of_tests params (Filter.tests_of_unrecognized hfilter).2]

/-- The first row of a query is fetched, unless it has a clause of which nothing is
recognized. -/
theorem fetchOne_eq (hplain : ∀ text, s.projection ≠ .expressions text) :
    r.fetchOne s params =
      .row (if s.predicate = none ∨ s.tests ≠ [] then (r.fetched s params).head? else none)
        (.ofPredicate s.predicate) := by
  unfold fetchOne
  split
  · next text hprojection => exact absurd hprojection (hplain text)
  · cases hfilter : Filter.ofPredicate s.predicate with
    | recognized =>
        rw [if_pos (.inr (Filter.tests_of_recognized hfilter)), fetched, List.head?_map,
          List.head?_filter]
        simp only [funext (s.selects_eq params)]
    | unfiltered =>
        obtain ⟨hpredicate, htests⟩ := Filter.tests_of_unfiltered hfilter
        rw [if_pos (.inl hpredicate), r.fetched_of_tests params htests, List.head?_map]
    | unrecognized =>
        obtain ⟨hpredicate, htests⟩ := Filter.tests_of_unrecognized hfilter
        have hnone : ¬ (s.predicate = none ∨ s.tests ≠ []) := by
          rintro (hno | hsome)
          · exact hpredicate hno
          · exact hsome htests
        rw [if_neg hnone]
        rfl

/-- A further conjunct loses rows, and keeps the order of the others. -/
theorem fetched_and_sublist (s : Select) (c : Conjunct) :
    (r.fetched (s.and c) params).Sublist (r.fetched s params) := by
  have hrows : r.fetched (s.and c) params =
      (((r.rowsOf s.relation).filter fun row => s.tests.all (passes params row)).filter
        fun row => c.key?.toList.all (passes params row)).map s.projection.apply := by
    simp only [fetched, Select.tests_and, List.all_append, List.filter_filter]
    congr 2
    funext row
    exact Bool.and_comm _ _
  rw [hrows]
  exact List.filter_sublist.map _

/-- Both paths return the rows that pass every recognized test, in order and under the select
list: the one path all of them, and the other the first one, or none if there is a clause
without a recognized test. A further conjunct, of whatever kind, selects among these rows. -/
theorem fetch_paths_agree (options : ExecOptions) (s : Select)
    (hplain : ∀ text, s.projection ≠ .expressions text) :
    let rows := ((r.rowsOf s.relation).filter fun row => s.tests.all (passes params row)).map
      s.projection.apply
    let first := if s.predicate = none ∨ s.tests ≠ [] then rows.head? else none
    r.execute options (.select s) .fetchMany params =
        .ok (.rows rows (.ofPredicate s.predicate), r) ∧
      r.execute options (.select s) .fetchOne params =
        .ok (.row first (.ofPredicate s.predicate), r) ∧
      ∀ c, ∃ fewer, r.execute options (.select (s.and c)) .fetchMany params =
          .ok (.rows fewer (.ofPredicate (s.and c).predicate), r) ∧ fewer.Sublist rows := by
  intro rows first
  refine ⟨?_, ?_, ?_⟩
  · rw [execute, r.fetchMany_eq params hplain]
    rfl
  · rw [execute, r.fetchOne_eq params hplain]
    rfl
  · intro c
    refine ⟨r.fetched (s.and c) params, ?_, r.fetched_and_sublist params s c⟩
    have hplain : ∀ text, (s.and c).projection ≠ .expressions text := hplain
    rw [execute, r.fetchMany_eq params hplain]

/-- Three rows under a clause with one recognized test and another conjunct. The test that is
added has no parameter, so it keeps the rows without the column. -/
theorem fetch_paths_agree_on_three_rows :
    let first : Row := ⟨[("id", .integer 1), ("email", .text "a"), ("x", .integer 5)]⟩
    let second : Row := ⟨[("id", .integer 2), ("email", .text "b")]⟩
    let third : Row := ⟨[("id", .integer 3), ("x", .null), ("email", .text "a"),
      ("role", .text "r")]⟩
    let r : Registry := ⟨[("t", ⟨"t", [first, second, third], 4, []⟩)]⟩
    let s : Select := ⟨"t", .columns ["x", "id"], some ⟨[.equals "Email" 0, .other "x > 1"]⟩⟩
    let shown : List Row := [⟨[("x", .integer 5), ("id", .integer 1)]⟩,
      ⟨[("x", .null), ("id", .integer 3)]⟩]
    let fetch (s : Select) (path : Path) :=
      r.execute ⟨.matched, false⟩ (.select s) path [.text "a"]
    (∀ text, s.projection ≠ .expressions text) ∧
      fetch s .fetchMany = .ok (.rows shown .recognized, r) ∧
      fetch s .fetchOne = .ok (.row shown.head? .recognized, r) ∧
      ∃ fewer, fetch (s.and (.equals "role" 1)) .fetchMany = .ok (.rows fewer .recognized, r) ∧
        fewer.Sublist shown := by
  intro first second third r s shown fetch
  have hplain : ∀ text, s.projection ≠ .expressions text := nofun
  obtain ⟨hmany, hone, hfewer⟩ := r.fetch_paths_agree [.text "a"] ⟨.matched, false⟩ s hplain
  exact ⟨hplain, hmany, hone, hfewer (.equals "role" 1)⟩

end Registry

end MiniSql
