import Mathlib.Logic.Relation
import MiniSql.Execution

/-!
# Changes of registries

Every way in which executing one statement can change a registry: a relation is created under
a free name, or the rows of one relation are written. What is proved of these two changes
holds of every statement on every path, and of every sequence of statements.

**Results.**
* `evolves_of_execute`: executing a statement makes at most such changes.
* `execute_eq_self`: an outcome that reports no change left the registry alone.
-/

namespace MiniSql

/-- One write to the rows of a relation. -/
inductive Relation.Write : Relation → Relation → Prop
  | insert {r r' : Relation} {fields : List Field} {enforceUnique : Bool} {id : Int64} :
      r.insert fields enforceUnique = .ok (id, r') →
      Write r r'
  | update (r : Relation) (id : Option Value) (assignments : List Field) :
      Write r (r.updateById id assignments).2
  | delete (r : Relation) (id : Option Value) :
      Write r (r.deleteById id).2

namespace Relation

/-- An update that matches no row changes nothing. -/
theorem updateById_eq_self {r : Relation} {id : Option Value} {assignments : List Field}
    (h : (r.updateById id assignments).1 = 0) :
    (r.updateById id assignments).2 = r := by
  have hnone : ∀ row ∈ r.rows, ¬ matchesId id row := List.countP_eq_zero.mp h
  have hrows : (r.rows.map fun row =>
      if matchesId id row then assign assignments row else row) = r.rows.map fun row => row := by
    apply List.map_congr_left
    intro row hrow
    exact if_neg (hnone row hrow)
  simp only [updateById, hrows, List.map_id']

/-- A removal that finds no row changes nothing. -/
theorem deleteById_eq_self {r : Relation} {id : Option Value}
    (h : (r.deleteById id).1 = false) :
    (r.deleteById id).2 = r := by
  have hnone : ∀ row ∈ r.rows, ¬ matchesId id row := List.any_eq_false.mp h
  simp only [deleteById, List.eraseP_of_forall_not hnone]

end Relation

/-- The outcome reports a change: a relation was created, or rows were written. -/
def Outcome.reportsChange : Outcome → Bool
  | created _ fresh => fresh
  | changed changes => changes.count ≠ 0
  | _ => false

namespace Registry

/-- One change of a registry at a name. -/
inductive Change (name : String) : Registry → Registry → Prop
  | create {r : Registry} (columns : List Column) :
      r.contains name = false →
      Change name r (r.add name (.create name columns))
  | write {r : Registry} {relation relation' : Relation} :
      r.find? name = some relation →
      Relation.Write relation relation' →
      Change name r (r.replace name relation')

/-- Any number of changes of a registry. -/
def Evolves : Registry → Registry → Prop :=
  Relation.ReflTransGen fun r r' => ∃ name, Change name r r'

theorem Evolves.refl (r : Registry) : r.Evolves r :=
  Relation.ReflTransGen.refl

theorem Evolves.trans {r s t : Registry} (h : r.Evolves s) (h' : s.Evolves t) : r.Evolves t :=
  Relation.ReflTransGen.trans h h'

theorem Evolves.of_change {r r' : Registry} {name : String} (h : Change name r r') :
    r.Evolves r' :=
  Relation.ReflTransGen.single ⟨name, h⟩

theorem replaceEntry_self {name : String} {relation : Relation}
    {es : List (String × Relation)} (h : relationOf? name es = some relation) :
    replaceEntry name relation es = es := by
  induction es with
  | nil => rfl
  | cons e es ih =>
      by_cases he : e.1 = name
      · rw [relationOf?, if_pos he] at h
        obtain rfl : e.2 = relation := Option.some.inj h
        rw [replaceEntry, if_pos he]
      · rw [relationOf?, if_neg he] at h
        rw [replaceEntry, if_neg he, ih h]

/-- Putting a relation in its own place changes nothing. -/
theorem replace_self {r : Registry} {name : String} {relation : Relation}
    (h : r.find? name = some relation) :
    r.replace name relation = r := by
  show (⟨replaceEntry name relation r.entries⟩ : Registry) = r
  rw [replaceEntry_self h]

section Execution

variable {r r' : Registry} {options : ExecOptions} {params : List Value} {outcome : Outcome}

theorem evolves_of_create (name : String) (columns : List Column) :
    r.Evolves (r.create name columns).2 := by
  unfold create
  split
  · exact Evolves.refl r
  · next hfree =>
      exact Evolves.of_change (.create columns (by simpa using hfree))

/-- What an insertion that is not refused came to. -/
theorem insertRow_eq_ok {s : Insert}
    (h : r.insertRow options s params = .ok (outcome, r')) :
    (s.columns = [] ∧ outcome = .unsupported .insertWithoutColumns ∧ r' = r) ∨
    (s.columns ≠ [] ∧ r.find? s.relation = none ∧ outcome = .changed .none ∧ r' = r) ∨
    (s.columns ≠ [] ∧ ∃ relation id relation',
      r.find? s.relation = some relation ∧
      relation.insert (s.fields params) options.enforceUnique = .ok (id, relation') ∧
      outcome = .changed ⟨1, some id⟩ ∧ r' = r.replace s.relation relation') := by
  unfold insertRow at h
  split at h
  · next hcolumns =>
      obtain ⟨rfl, rfl⟩ := Prod.mk.inj (Except.ok.inj h)
      exact .inl ⟨hcolumns, rfl, rfl⟩
  · next hcolumns =>
      refine .inr ?_
      split at h
      · next hfind =>
          obtain ⟨rfl, rfl⟩ := Prod.mk.inj (Except.ok.inj h)
          exact .inl ⟨hcolumns, hfind, rfl, rfl⟩
      · next relation hfind =>
          refine .inr ⟨hcolumns, relation, ?_⟩
          cases hins : relation.insert (s.fields params) options.enforceUnique with
          | error e => simp [hins, Except.map] at h
          | ok p =>
              rw [hins] at h
              obtain ⟨rfl, rfl⟩ := Prod.mk.inj (Except.ok.inj h)
              exact ⟨p.1, p.2, hfind, rfl, rfl, rfl⟩

theorem evolves_of_insertRow {s : Insert}
    (h : r.insertRow options s params = .ok (outcome, r')) :
    r.Evolves r' := by
  rcases insertRow_eq_ok h with ⟨-, -, rfl⟩ | ⟨-, -, -, rfl⟩ |
    ⟨-, relation, id, relation', hfind, hins, -, rfl⟩
  · exact Evolves.refl r'
  · exact Evolves.refl r'
  · exact Evolves.of_change (.write hfind (.insert hins))

theorem evolves_of_updateRows (s : Update) :
    r.Evolves (r.updateRows options s params).2 := by
  unfold updateRows
  split
  · exact Evolves.refl r
  · split
    · exact Evolves.refl r
    · next relation hfind =>
        exact Evolves.of_change (.write hfind (.update relation _ _))

theorem evolves_of_deleteRow (s : Delete) :
    r.Evolves (r.deleteRow s params).2 := by
  unfold deleteRow
  split
  · exact Evolves.refl r
  · split
    · exact Evolves.refl r
    · next relation hfind =>
        exact Evolves.of_change (.write hfind (.delete relation _))

/-- Executing a statement makes at most changes of the two kinds. -/
theorem evolves_of_execute {s : Statement} {path : Path}
    (h : r.execute options s path params = .ok (outcome, r')) :
    r.Evolves r' := by
  unfold execute at h
  split at h
  case h_1 s =>
    cases h
    exact evolves_of_create s.relation s.columns
  case h_2 => exact evolves_of_insertRow h
  case h_3 s =>
    obtain ⟨rfl, rfl⟩ := Prod.mk.inj (Except.ok.inj h)
    exact evolves_of_updateRows s
  case h_4 s =>
    obtain ⟨rfl, rfl⟩ := Prod.mk.inj (Except.ok.inj h)
    exact evolves_of_deleteRow s
  all_goals
    cases h
    exact Evolves.refl r

theorem create_eq_self {name : String} {columns : List Column}
    (hquiet : (r.create name columns).1 = false) :
    (r.create name columns).2 = r := by
  unfold create at hquiet ⊢
  split
  · rfl
  · next hfree => simp [hfree] at hquiet

theorem insertRow_eq_self {s : Insert}
    (h : r.insertRow options s params = .ok (outcome, r'))
    (hquiet : outcome.reportsChange = false) :
    r' = r := by
  rcases insertRow_eq_ok h with ⟨-, -, rfl⟩ | ⟨-, -, -, rfl⟩ | ⟨-, _, id, _, -, -, rfl, -⟩
  · rfl
  · rfl
  · cases hquiet

theorem updateRows_eq_self {s : Update}
    (hquiet : (r.updateRows options s params).1.reportsChange = false) :
    (r.updateRows options s params).2 = r := by
  unfold updateRows at hquiet ⊢
  split
  · rfl
  · next slot hslot =>
      split
      · rfl
      · next relation hfind =>
          simp only [hslot, hfind] at hquiet ⊢
          cases hcount : options.updateCount with
          | alwaysOne =>
              rw [hcount] at hquiet
              cases hquiet
          | matched =>
              have hzero : (relation.updateById params[slot]? (s.fields params)).1 = 0 := by
                simpa [hcount, Outcome.reportsChange] using hquiet
              rw [Relation.updateById_eq_self hzero]
              exact replace_self hfind

theorem deleteRow_eq_self {s : Delete}
    (hquiet : (r.deleteRow s params).1.reportsChange = false) :
    (r.deleteRow s params).2 = r := by
  unfold deleteRow at hquiet ⊢
  split
  · rfl
  · next slot hslot =>
      split
      · rfl
      · next relation hfind =>
          simp only [hslot, hfind] at hquiet ⊢
          have hnone : (relation.deleteById params[slot]?).1 = false := by
            simpa [Outcome.reportsChange] using hquiet
          rw [Relation.deleteById_eq_self hnone]
          exact replace_self hfind

/-- An outcome that reports no change left the registry alone. -/
theorem execute_eq_self {s : Statement} {path : Path}
    (h : r.execute options s path params = .ok (outcome, r'))
    (hquiet : outcome.reportsChange = false) :
    r' = r := by
  unfold execute at h
  split at h
  case h_1 s =>
    obtain ⟨rfl, rfl⟩ := Prod.mk.inj (Except.ok.inj h)
    exact create_eq_self hquiet
  case h_2 => exact insertRow_eq_self h hquiet
  case h_3 s =>
    obtain ⟨rfl, rfl⟩ := Prod.mk.inj (Except.ok.inj h)
    exact updateRows_eq_self hquiet
  case h_4 s =>
    obtain ⟨rfl, rfl⟩ := Prod.mk.inj (Except.ok.inj h)
    exact deleteRow_eq_self hquiet
  all_goals
    cases h
    rfl

/-- Only an execution for effect changes a registry. -/
theorem execute_eq_self_of_fetch {s : Statement} {path : Path} (hpath : path ≠ .run)
    (h : r.execute options s path params = .ok (outcome, r')) :
    r' = r := by
  unfold execute at h
  split at h
  case h_1 => exact absurd rfl hpath
  case h_2 => exact absurd rfl hpath
  case h_3 => exact absurd rfl hpath
  case h_4 => exact absurd rfl hpath
  all_goals
    cases h
    rfl

/-- An update reports its changes, or has no meaning. -/
theorem outcome_of_updateRows (s : Update) :
    (∃ changes, (r.updateRows options s params).1 = .changed changes) ∨
      ∃ shape, (r.updateRows options s params).1 = .unsupported shape := by
  unfold updateRows
  split
  · exact .inr ⟨_, rfl⟩
  · split
    · exact .inl ⟨_, rfl⟩
    · exact .inl ⟨_, rfl⟩

/-- A removal reports its changes, or has no meaning. -/
theorem outcome_of_deleteRow (s : Delete) :
    (∃ changes, (r.deleteRow s params).1 = .changed changes) ∨
      ∃ shape, (r.deleteRow s params).1 = .unsupported shape := by
  unfold deleteRow
  split
  · exact .inr ⟨_, rfl⟩
  · split
    · exact .inl ⟨_, rfl⟩
    · exact .inl ⟨_, rfl⟩

/-- Only a statement that creates a relation has an outcome that says so. -/
theorem kind_of_created {s : Statement} {path : Path} {name : String} {fresh : Bool}
    (h : r.execute options s path params = .ok (.created name fresh, r')) :
    s.kind = .createTable := by
  unfold execute at h
  split at h
  case h_1 => rfl
  case h_2 =>
    rcases insertRow_eq_ok h with ⟨-, hout, -⟩ | ⟨-, -, hout, -⟩ | ⟨-, _, _, _, -, -, hout, -⟩
    · cases hout
    · cases hout
    · cases hout
  case h_3 s =>
    have hout := congrArg Prod.fst (Except.ok.inj h)
    rcases outcome_of_updateRows s with ⟨_, hchanged⟩ | ⟨_, hshape⟩
    · cases hchanged.symm.trans hout
    · cases hshape.symm.trans hout
  case h_4 s =>
    have hout := congrArg Prod.fst (Except.ok.inj h)
    rcases outcome_of_deleteRow s with ⟨_, hchanged⟩ | ⟨_, hshape⟩
    · cases hchanged.symm.trans hout
    · cases hshape.symm.trans hout
  case h_5 s =>
    have hout := congrArg Prod.fst (Except.ok.inj h)
    unfold fetchOne at hout
    split at hout
    · cases hout
    · cases hout
  case h_6 s =>
    have hout := congrArg Prod.fst (Except.ok.inj h)
    unfold fetchMany at hout
    split at hout
    · cases hout
    · cases hout
  all_goals cases h

end Execution

end Registry

end MiniSql
