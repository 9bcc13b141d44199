import MiniSql.Proofs.Requests

/-!
# Statements on different relations

A statement that names a relation looks at this relation only, and changes no other one. What
two such transformations of a registry do at different names is done in either order: each
gives what it gives alone, and under every name the same relation is found in the end. The
order of the entries may differ, as a relation is added behind those that exist.

**Results.**
* `ActsAt.commute`: transformations at different names.
* `actsAt_perform`: executing a statement acts at the relation it names.
* `perform_apart`: both together, for statements on all paths.
* `dispatch_eq_perform`: a database executes its statements in this way.
-/

namespace MiniSql.Registry

variable {α β : Type} {name other : String}

/-! ## Acting at a name -/

/-- A transformation of registries with a result that looks at one name, and changes what is
found there only. -/
structure ActsAt (name : String) (f : Registry → α × Registry) : Prop where
  frame : ∀ (r : Registry) (other : String),
    other ≠ name → (f r).2.find? other = r.find? other
  result : ∀ r r' : Registry, r.find? name = r'.find? name → (f r).1 = (f r').1
  content : ∀ r r' : Registry,
    r.find? name = r'.find? name → (f r).2.find? name = (f r').2.find? name

/-- What is done at two different names is done in either order. -/
theorem ActsAt.commute {f : Registry → α × Registry} {g : Registry → β × Registry}
    (hf : ActsAt name f) (hg : ActsAt other g) (hne : other ≠ name) (r : Registry) :
    (f (g r).2).1 = (f r).1 ∧ (g (f r).2).1 = (g r).1 ∧
      ∀ n, (f (g r).2).2.find? n = (g (f r).2).2.find? n := by
  have hname : (g r).2.find? name = r.find? name := hg.frame r name hne.symm
  have hother : (f r).2.find? other = r.find? other := hf.frame r other hne
  refine ⟨hf.result _ _ hname, hg.result _ _ hother, fun n => ?_⟩
  by_cases hn : n = name
  · subst hn
    rw [hf.content _ _ hname, hg.frame _ n hne.symm]
  · rw [hf.frame _ n hn]
    by_cases hn' : n = other
    · subst hn'
      exact (hg.content _ _ hother).symm
    · rw [hg.frame r n hn', hg.frame _ n hn', hf.frame r n hn]

/-- To look at a relation is to act at its name. -/
theorem ActsAt.of_read {g : Registry → α}
    (h : ∀ r r' : Registry, r.find? name = r'.find? name → g r = g r') :
    ActsAt name fun r => (g r, r) where
  frame _ _ _ := rfl
  result := h
  content _ _ hfind := hfind

/-- To put a relation in its place is to act at its name. -/
theorem ActsAt.of_write {f : Registry → α × Registry} (missing : α) (result : Relation → α)
    (content : Relation → Relation)
    (hnone : ∀ r : Registry, r.find? name = none → f r = (missing, r))
    (hsome : ∀ (r : Registry) (relation : Relation), r.find? name = some relation →
      f r = (result relation, r.replace name (content relation))) :
    ActsAt name f where
  frame r other hne := by
    cases hfind : r.find? name with
    | none => rw [hnone r hfind]
    | some relation => rw [hsome r relation hfind, find?_replace, if_neg hne]
  result r r' hsame := by
    cases hfind : r.find? name with
    | none => rw [hnone r hfind, hnone r' (hsame ▸ hfind)]
    | some relation => rw [hsome r relation hfind, hsome r' relation (hsame ▸ hfind)]
  content r r' hsame := by
    cases hfind : r.find? name with
    | none => rw [hnone r hfind, hnone r' (hsame ▸ hfind), hsame]
    | some relation =>
        rw [hsome r relation hfind, hsome r' relation (hsame ▸ hfind), find?_replace,
          find?_replace, hsame]

/-- To create a relation is to act at its name. -/
theorem actsAt_create (name : String) (columns : List Column) :
    ActsAt name fun r => r.create name columns := by
  have hexists : ∀ {r : Registry} {relation : Relation}, r.find? name = some relation →
      r.create name columns = (false, r) := by
    intro r relation hfind
    rw [create, contains, hfind]
    rfl
  have hfree : ∀ {r : Registry}, r.find? name = none →
      r.create name columns = (true, r.add name (.create name columns)) := by
    intro r hfind
    rw [create, contains, hfind]
    rfl
  constructor
  · intro r other hne
    cases hfind : r.find? name with
    | none => simp only [hfree hfind, find?_add, if_neg hne, Option.or_none]
    | some relation => simp only [hexists hfind]
  · intro r r' hsame
    cases hfind : r.find? name with
    | none => simp only [hfree hfind, hfree (hsame ▸ hfind)]
    | some relation => simp only [hexists hfind, hexists (hsame ▸ hfind)]
  · intro r r' hsame
    cases hfind : r.find? name with
    | none => simp only [hfree hfind, hfree (hsame ▸ hfind), find?_add, hsame]
    | some relation => simp only [hexists hfind, hexists (hsame ▸ hfind), hsame]

/-! ## Executing a statement -/

section Execution

variable (options : ExecOptions) (params : List Value)

/-- The outcome of a statement and the registry afterwards. One that is refused leaves the
registry as it was. -/
def perform (s : Statement) (path : Path) (r : Registry) :
    Except StorageError Outcome × Registry :=
  match r.execute options s path params with
  | .ok (outcome, r') => (.ok outcome, r')
  | .error e => (.error e, r)

theorem rowsOf_eq {r r' : Registry} (h : r.find? name = r'.find? name) :
    r.rowsOf name = r'.rowsOf name := by
  rw [rowsOf, rowsOf, h]

theorem actsAt_insert (s : Insert) :
    ActsAt s.relation (perform options params (.insert s) .run) := by
  by_cases hcolumns : s.columns = []
  · have hread : perform options params (.insert s) .run =
        fun r => (.ok (.unsupported .insertWithoutColumns), r) := by
      funext r
      simp only [perform, execute, insertRow, if_pos hcolumns]
    rw [hread]
    exact .of_read fun _ _ _ => rfl
  · -- A refused insertion puts the relation back as it was.
    refine .of_write (.ok (.changed .none))
      (fun relation =>
        (relation.insert (s.fields params) options.enforceUnique).map fun p =>
          .changed ⟨1, some p.1⟩)
      (fun relation =>
        match relation.insert (s.fields params) options.enforceUnique with
        | .ok p => p.2
        | .error _ => relation) ?_ ?_
    · intro r hfind
      simp only [perform, execute, insertRow, if_neg hcolumns, hfind]
    · intro r relation hfind
      simp only [perform, execute, insertRow, if_neg hcolumns, hfind]
      cases hinsert : relation.insert (s.fields params) options.enforceUnique with
      | ok p => rfl
      | error e =>
          rw [replace_self hfind]
          rfl

theorem actsAt_update (s : Update) :
    ActsAt s.relation (perform options params (.update s) .run) := by
  cases hslot : idSlot? s.predicate with
  | none =>
      have hread : perform options params (.update s) .run =
          fun r => (.ok (.unsupported .updateWithoutId), r) := by
        funext r
        simp only [perform, execute, updateRows, hslot]
      rw [hread]
      exact .of_read fun _ _ _ => rfl
  | some slot =>
      refine .of_write (.ok (.changed .none))
        (fun relation =>
          .ok (.changed ⟨if options.updateCount = .alwaysOne then 1
            else (relation.updateById params[slot]? (s.fields params)).1, none⟩))
        (fun relation =>
          (relation.updateById params[slot]? (s.fields params)).2) ?_ ?_
      · intro r hfind
        simp only [perform, execute, updateRows, hslot, hfind]
      · intro r relation hfind
        cases hcount : options.updateCount with
        | alwaysOne => simp [perform, execute, updateRows, hslot, hfind, hcount]
        | matched => simp [perform, execute, updateRows, hslot, hfind, hcount]

theorem actsAt_delete (s : Delete) :
    ActsAt s.relation (perform options params (.delete s) .run) := by
  cases hslot : idSlot? s.predicate with
  | none =>
      have hread : perform options params (.delete s) .run =
          fun r => (.ok (.unsupported .deleteWithoutId), r) := by
        funext r
        simp only [perform, execute, deleteRow, hslot]
      rw [hread]
      exact .of_read fun _ _ _ => rfl
  | some slot =>
      refine .of_write (.ok (.changed .none))
        (fun relation =>
          .ok (.changed ⟨if (relation.deleteById params[slot]?).1 then 1 else 0, none⟩))
        (fun relation => (relation.deleteById params[slot]?).2) ?_ ?_
      · intro r hfind
        simp only [perform, execute, deleteRow, hslot, hfind]
      · intro r relation hfind
        simp only [perform, execute, deleteRow, hslot, hfind]

/-- Executing a statement acts at the relation it names, on every path. -/
theorem actsAt_perform {s : Statement} (hs : s.relation? = some name) (path : Path) :
    ActsAt name (perform options params s path) := by
  cases s with
  | createTable c =>
      obtain rfl : c.relation = name := Option.some.inj hs
      cases path with
      | run =>
          have hcreate := actsAt_create c.relation c.columns
          exact ⟨hcreate.frame,
            fun r r' h => congrArg (fun fresh => Except.ok (Outcome.created c.relation fresh))
              (hcreate.result r r' h),
            hcreate.content⟩
      | _ => exact .of_read fun _ _ _ => rfl
  | insert i =>
      obtain rfl : i.relation = name := Option.some.inj hs
      cases path with
      | run => exact actsAt_insert options params i
      | _ => exact .of_read fun _ _ _ => rfl
  | update u =>
      obtain rfl : u.relation = name := Option.some.inj hs
      cases path with
      | run => exact actsAt_update options params u
      | _ => exact .of_read fun _ _ _ => rfl
  | delete d =>
      obtain rfl : d.relation = name := Option.some.inj hs
      cases path with
      | run => exact actsAt_delete options params d
      | _ => exact .of_read fun _ _ _ => rfl
  | select q =>
      obtain rfl : q.relation = name := Option.some.inj hs
      cases path with
      | run => exact .of_read fun _ _ _ => rfl
      | fetchOne =>
          exact .of_read fun r r' h => congrArg Except.ok (by simp only [fetchOne, rowsOf_eq h])
      | fetchMany =>
          exact .of_read fun r r' h => congrArg Except.ok (by simp only [fetchMany, rowsOf_eq h])
  | _ => cases hs

end Execution

/-- A statement leaves every relation but the one it names as it is, present or absent, and
what comes of it depends on that relation only. Two statements that name different relations
may be executed in either order, each on its own path: what comes of each is the same, and
under every name the same relation is found afterwards. -/
theorem perform_apart (s : Statement) (name : String) (hs : s.relation? = some name)
    (options : ExecOptions) (path : Path) (params : List Value) :
    (∀ (r : Registry) (other : String), other ≠ name →
      (r.perform options params s path).2.find? other = r.find? other) ∧
    (∀ r r' : Registry, r.find? name = r'.find? name →
      (r.perform options params s path).1 = (r'.perform options params s path).1 ∧
        (r.perform options params s path).2.find? name =
          (r'.perform options params s path).2.find? name) ∧
    ∀ (u : Statement) (other : String), u.relation? = some other → other ≠ name →
      ∀ (options' : ExecOptions) (path' : Path) (params' : List Value) (r : Registry),
        let first := r.perform options params s path
        let second := r.perform options' params' u path'
        (second.2.perform options params s path).1 = first.1 ∧
          (first.2.perform options' params' u path').1 = second.1 ∧
          ∀ n, (second.2.perform options params s path).2.find? n =
            (first.2.perform options' params' u path').2.find? n := by
  have hacts := actsAt_perform options params hs path
  refine ⟨hacts.frame, fun r r' h => ⟨hacts.result r r' h, hacts.content r r' h⟩, ?_⟩
  intro u other hu hne options' path' params' r
  exact hacts.commute (actsAt_perform options' params' hu path') hne r

/-- A refused insertion and a creation, in either order. -/
theorem perform_apart_refused :
    let s : Statement := .insert ⟨"t", ["x"], [.placeholder 0]⟩
    let u : Statement := .createTable ⟨"u", false, []⟩
    let options : ExecOptions := ⟨.matched, true⟩
    let r : Registry := ⟨[("t", ⟨"t", [⟨[("id", .integer 1), ("x", .integer 7)]⟩], 2,
      [⟨"x", "", false, true, false⟩]⟩)]⟩
    let first := r.perform options [.integer 7] s .run
    let second := r.perform options [] u .run
    s.relation? = some "t" ∧ u.relation? = some "u" ∧ "u" ≠ "t" ∧
      first.1 = .error (.uniqueViolation "t" "x" "7") ∧ second.1 = .ok (.created "u" true) ∧
      (second.2.perform options [.integer 7] s .run).1 = first.1 ∧
      (first.2.perform options [] u .run).1 = second.1 ∧
      ∀ n, (second.2.perform options [.integer 7] s .run).2.find? n =
        (first.2.perform options [] u .run).2.find? n := by
  intro s u options r first second
  obtain ⟨-, -, hcommute⟩ := perform_apart s "t" rfl options .run [.integer 7]
  exact ⟨rfl, rfl, by decide, rfl, rfl, hcommute u "u" rfl (by decide) options .run [] r⟩

end MiniSql.Registry

namespace MiniSql.Database

/-- A database that executes a statement performs it on its relations. -/
theorem dispatch_eq_perform (db : Database) (sql : String) (s : Statement) (path : Path)
    (params : List Value) :
    let performed := db.registry.perform db.config.execOptions params s path
    (db.dispatch sql s path params).result = performed.1.mapError .ofStorage ∧
      (db.dispatch sql s path params).database.registry = performed.2 := by
  intro performed
  cases hexec : db.registry.execute db.config.execOptions s path params with
  | error e =>
      have hperformed : performed = (.error e, db.registry) := by
        simp only [performed, Registry.perform, hexec]
      obtain ⟨hresult, hdatabase⟩ := dispatch_of_error sql hexec
      rw [hperformed, hresult, hdatabase]
      exact ⟨rfl, rfl⟩
  | ok p =>
      have hperformed : performed = (.ok p.1, p.2) := by
        simp only [performed, Registry.perform, hexec]
      obtain ⟨hresult, hdatabase⟩ := dispatch_of_ok sql hexec
      rw [hperformed, hresult, hdatabase]
      exact ⟨rfl, rfl⟩

end MiniSql.Database
