import MiniSql.Proofs.Rows
import MiniSql.Proofs.Runs

/-!
# Identities of rows

The rows of a relation are numbered by a counter that only grows: whatever an insertion or an
update names, the field `id` comes first, holds the number of the row, and never changes. The
relations of every database that calls can lead to are kept in this way, the live ones and
those saved by an open transaction alike.

**Results.**
* `Relation.WellKept.write`: every write to a well-kept relation keeps it so.
* `Database.WellKept.moves`: so does every turn.
* `identities_of_run`: the state of every run.
-/

namespace MiniSql

/-! ## Rows -/

namespace Row

/-- A row begins with its identity, and the names of its fields are distinct. -/
structure WellFormed (row : Row) : Prop where
  first : ∃ (i : Int64) (rest : List Field), row.fields = (idColumn, .integer i) :: rest
  distinct : row.names.Nodup

theorem WellFormed.set {row : Row} (h : row.WellFormed) {name : String} (value : Value)
    (hname : name ≠ idColumn) :
    (row.set name value).WellFormed := by
  obtain ⟨i, rest, hfields⟩ := h.first
  refine ⟨⟨i, setField name value rest, ?_⟩, nodup_names_set h.distinct name value⟩
  rw [Row.set, hfields, setField, if_neg hname.symm]

theorem WellFormed.setAll {row : Row} (h : row.WellFormed) {fields : List Field}
    (hfields : ∀ f ∈ fields, f.1 ≠ idColumn) :
    (row.setAll fields).WellFormed := by
  induction fields generalizing row with
  | nil => exact h
  | cons f fs ih =>
      exact ih (h.set f.2 (hfields f List.mem_cons_self))
        fun g hg => hfields g (List.mem_cons_of_mem f hg)

theorem id?_of_fields {row : Row} {i : Int64} {rest : List Field}
    (h : row.fields = (idColumn, .integer i) :: rest) :
    row.id? = some i := by
  simp [id?, get?, h, getField?, Value.integer?]

end Row

/-! ## Relations -/

namespace Relation

theorem name_ne_of_mem_filter {fields : List Field} :
    ∀ f ∈ fields.filter (·.1 ≠ idColumn), f.1 ≠ idColumn := by
  intro f hf
  simpa using (List.mem_filter.mp hf).2

theorem wellFormed_rowWithId (id : Int64) (fields : List Field) :
    (rowWithId id fields).WellFormed := by
  refine Row.WellFormed.setAll ⟨⟨id, [], rfl⟩, ?_⟩ name_ne_of_mem_filter
  exact List.nodup_singleton idColumn

theorem id?_rowWithId (id : Int64) (fields : List Field) :
    (rowWithId id fields).id? = some id := by
  rw [rowWithId, Row.id?, Row.get?_setAll_of_ne name_ne_of_mem_filter, Row.get?_set, if_pos rfl]
  rfl

theorem id?_assign (assignments : List Field) (row : Row) :
    (assign assignments row).id? = row.id? := by
  rw [assign, Row.id?, Row.get?_setAll_of_ne name_ne_of_mem_filter, Row.id?]

/-- The identities of the rows, in order. -/
def ids (r : Relation) : List Int64 :=
  r.rows.filterMap Row.id?

/-- Every row is numbered, in increasing order and below the counter. -/
structure WellKept (r : Relation) : Prop where
  wellFormed : ∀ row ∈ r.rows, row.WellFormed
  increasing : r.ids.Pairwise (· < ·)
  bounded : ∀ i ∈ r.ids, 1 ≤ i ∧ i < r.nextId
  counter : 1 ≤ r.nextId

theorem wellKept_create (name : String) (columns : List Column) :
    (create name columns).WellKept where
  wellFormed _ hrow := nomatch hrow
  increasing := List.Pairwise.nil
  bounded _ hi := nomatch hi
  counter := Int64.le_refl 1

/-- The counter does not wrap below its greatest value. -/
theorem toInt_add_one_of_ne_max {i : Int64} (h : i ≠ Int64.maxValue) :
    (i + 1).toInt = i.toInt + 1 := by
  have hle := Int64.toInt_le i
  have hge := Int64.le_toInt i
  have hne : i.toInt ≠ Int64.maxValue.toInt := fun heq => h (Int64.toInt_inj.mp heq)
  have hmax : Int64.maxValue.toInt = 2 ^ 63 - 1 := rfl
  have hone : (1 : Int64).toInt = 1 := rfl
  rw [Int64.toInt_add, hone, Int.bmod_eq_of_le (by omega) (by omega)]

theorem lt_add_one_of_ne_max {i : Int64} (h : i ≠ Int64.maxValue) : i < i + 1 := by
  rw [Int64.lt_iff_toInt_lt, toInt_add_one_of_ne_max h]
  omega

theorem ids_updateById (r : Relation) (id : Option Value) (assignments : List Field) :
    (r.updateById id assignments).2.ids = r.ids := by
  rw [ids, ids, updateById, List.filterMap_map]
  apply List.filterMap_congr
  intro row _
  show Row.id? (if matchesId id row then assign assignments row else row) = row.id?
  split
  · exact id?_assign assignments row
  · rfl

/-- An insertion adds the identity that the counter gave. -/
theorem ids_insert {r r' : Relation} {fields : List Field} {enforceUnique : Bool} {id : Int64}
    (hins : r.insert fields enforceUnique = .ok (id, r')) :
    r'.ids = r.ids ++ [r.nextId] := by
  obtain ⟨-, -, rfl⟩ := insert_eq_ok hins
  simp [ids, List.filterMap_append, id?_rowWithId]

theorem WellKept.insert {r r' : Relation} {fields : List Field} {enforceUnique : Bool}
    {id : Int64} (h : r.WellKept) (hins : r.insert fields enforceUnique = .ok (id, r')) :
    r'.WellKept := by
  have hids := ids_insert hins
  obtain ⟨-, hmax, rfl⟩ := insert_eq_ok hins
  have hnext : r.nextId < r.nextId + 1 := lt_add_one_of_ne_max hmax
  refine ⟨?_, ?_, ?_, ?_⟩
  · intro row hrow
    rcases List.mem_append.mp hrow with hold | hnew
    · exact h.wellFormed row hold
    · obtain rfl := List.mem_singleton.mp hnew
      exact wellFormed_rowWithId r.nextId fields
  -- The new identity is the old counter, which is above all identities so far.
  · rw [hids, List.pairwise_append]
    refine ⟨h.increasing, List.pairwise_singleton _ _, ?_⟩
    intro i hi j hj
    obtain rfl := List.mem_singleton.mp hj
    exact (h.bounded i hi).2
  · rw [hids]
    intro i hi
    rcases List.mem_append.mp hi with hold | hnew
    · exact ⟨(h.bounded i hold).1, Int64.lt_trans (h.bounded i hold).2 hnext⟩
    · obtain rfl := List.mem_singleton.mp hnew
      exact ⟨h.counter, hnext⟩
  · exact Int64.le_trans h.counter (Int64.le_of_lt hnext)

/-- No identity is left once the counter is at its greatest value. -/
theorem insert_of_counter_at_max {r : Relation} (fields : List Field) (enforceUnique : Bool)
    (hmax : r.nextId = Int64.maxValue) :
    ∃ e, r.insert fields enforceUnique = .error e ∧
      (e = .identityOverflow r.name ∨
        ∃ column value, e = .uniqueViolation r.name column value) := by
  unfold insert
  split
  · next column value _ => exact ⟨_, rfl, .inr ⟨column, value.display, rfl⟩⟩
  · rw [if_pos hmax]
    exact ⟨_, rfl, .inl rfl⟩

theorem WellKept.update {r : Relation} (h : r.WellKept) (id : Option Value)
    (assignments : List Field) :
    (r.updateById id assignments).2.WellKept := by
  refine ⟨?_, ?_, ?_, h.counter⟩
  · intro row hrow
    obtain ⟨old, hold, rfl⟩ := List.mem_map.mp hrow
    split
    · exact (h.wellFormed old hold).setAll name_ne_of_mem_filter
    · exact h.wellFormed old hold
  · rw [ids_updateById]
    exact h.increasing
  · rw [ids_updateById]
    exact h.bounded

theorem WellKept.delete {r : Relation} (h : r.WellKept) (id : Option Value) :
    (r.deleteById id).2.WellKept := by
  have hrows : (r.deleteById id).2.rows.Sublist r.rows := List.eraseP_sublist
  have hids : (r.deleteById id).2.ids.Sublist r.ids := hrows.filterMap Row.id?
  exact ⟨fun row hrow => h.wellFormed row (hrows.subset hrow), h.increasing.sublist hids,
    fun i hi => h.bounded i (hids.subset hi), h.counter⟩

/-- Every write to a well-kept relation keeps it so. -/
theorem WellKept.write {r r' : Relation} (h : r.WellKept) (hwrite : Write r r') :
    r'.WellKept := by
  cases hwrite with
  | insert hins => exact h.insert hins
  | update id assignments => exact h.update id assignments
  | delete id => exact h.delete id

theorem name_of_write {r r' : Relation} (hwrite : Write r r') : r'.name = r.name := by
  cases hwrite with
  | insert hins =>
      obtain ⟨-, -, rfl⟩ := insert_eq_ok hins
      rfl
  | update id assignments => rfl
  | delete id => rfl

end Relation

/-! ## Registries -/

namespace Registry

/-- Names are distinct, each relation bears the name under which it is kept, and each is well
kept. -/
structure WellKept (r : Registry) : Prop where
  distinct : (r.entries.map Prod.fst).Nodup
  named : ∀ e ∈ r.entries, e.2.name = e.1
  relations : ∀ e ∈ r.entries, e.2.WellKept

theorem wellKept_empty : empty.WellKept where
  distinct := List.nodup_nil
  named _ he := nomatch he
  relations _ he := nomatch he

theorem mem_of_relationOf? {es : List (String × Relation)} {name : String}
    {relation : Relation} (h : relationOf? name es = some relation) :
    (name, relation) ∈ es := by
  induction es with
  | nil => cases h
  | cons e es ih =>
      by_cases he : e.1 = name
      · rw [relationOf?, if_pos he] at h
        obtain rfl : e.2 = relation := Option.some.inj h
        subst he
        exact List.mem_cons_self
      · rw [relationOf?, if_neg he] at h
        exact List.mem_cons_of_mem e (ih h)

theorem not_mem_of_relationOf?_eq_none {es : List (String × Relation)} {name : String}
    (h : relationOf? name es = none) :
    name ∉ es.map Prod.fst := by
  induction es with
  | nil => exact List.not_mem_nil
  | cons e es ih =>
      by_cases he : e.1 = name
      · rw [relationOf?, if_pos he] at h
        cases h
      · rw [relationOf?, if_neg he] at h
        rw [List.map_cons, List.mem_cons, not_or]
        exact ⟨fun hname => he hname.symm, ih h⟩

theorem map_fst_replaceEntry (name : String) (relation : Relation)
    (es : List (String × Relation)) :
    (replaceEntry name relation es).map Prod.fst = es.map Prod.fst := by
  induction es with
  | nil => rfl
  | cons e es ih =>
      by_cases he : e.1 = name
      · rw [replaceEntry, if_pos he]
        rfl
      · rw [replaceEntry, if_neg he, List.map_cons, List.map_cons, ih]

/-- An entry after a replacement is an old one or the relation put in place. -/
theorem mem_replaceEntry {name : String} {relation : Relation}
    {es : List (String × Relation)} {e : String × Relation}
    (h : e ∈ replaceEntry name relation es) :
    e ∈ es ∨ e = (name, relation) := by
  induction es with
  | nil => cases h
  | cons d ds ih =>
      by_cases hd : d.1 = name
      · rw [replaceEntry, if_pos hd] at h
        rcases List.mem_cons.mp h with rfl | hds
        · exact .inr (by rw [hd])
        · exact .inl (List.mem_cons_of_mem d hds)
      · rw [replaceEntry, if_neg hd] at h
        rcases List.mem_cons.mp h with rfl | hds
        · exact .inl List.mem_cons_self
        · exact (ih hds).imp_left (List.mem_cons_of_mem d)

theorem WellKept.add {r : Registry} (h : r.WellKept) {name : String} (columns : List Column)
    (hfree : r.contains name = false) :
    (r.add name (.create name columns)).WellKept := by
  have hnone : relationOf? name r.entries = none := by
    simpa [contains, find?] using hfree
  refine ⟨?_, ?_, ?_⟩
  · rw [Registry.add, List.map_append, List.map_singleton, ← List.concat_eq_append]
    exact (List.nodup_concat _ _).mpr ⟨not_mem_of_relationOf?_eq_none hnone, h.distinct⟩
  · intro e he
    rcases List.mem_append.mp he with hold | hnew
    · exact h.named e hold
    · obtain rfl := List.mem_singleton.mp hnew
      rfl
  · intro e he
    rcases List.mem_append.mp he with hold | hnew
    · exact h.relations e hold
    · obtain rfl := List.mem_singleton.mp hnew
      exact Relation.wellKept_create name columns

theorem WellKept.replace {r : Registry} (h : r.WellKept) {name : String}
    {relation relation' : Relation} (hfind : r.find? name = some relation)
    (hwrite : Relation.Write relation relation') :
    (r.replace name relation').WellKept := by
  have hmem : (name, relation) ∈ r.entries := mem_of_relationOf? hfind
  refine ⟨?_, ?_, ?_⟩
  · rw [Registry.replace, map_fst_replaceEntry]
    exact h.distinct
  · intro e he
    rcases mem_replaceEntry he with hold | rfl
    · exact h.named e hold
    · exact (Relation.name_of_write hwrite).trans (h.named _ hmem)
  · intro e he
    rcases mem_replaceEntry he with hold | rfl
    · exact h.relations e hold
    · exact (h.relations _ hmem).write hwrite

theorem WellKept.evolves {r r' : Registry} (h : r.WellKept) (hevolves : r.Evolves r') :
    r'.WellKept := by
  induction hevolves with
  | refl => exact h
  | tail _ hchange ih =>
      obtain ⟨name, hchange⟩ := hchange
      cases hchange with
      | create columns hfree => exact ih.add columns hfree
      | write hfind hwrite => exact ih.replace hfind hwrite

end Registry

/-! ## Databases -/

namespace Database

/-- The live relations are well kept, and so are those that an open transaction saved. -/
structure WellKept (db : Database) : Prop where
  registry : db.registry.WellKept
  snapshot : ∀ saved, db.snapshot = some saved → saved.WellKept

theorem wellKept_create (config : Config) : (create config).WellKept where
  registry := Registry.wellKept_empty
  snapshot _ hsaved := nomatch hsaved

/-- Every turn keeps a database well kept. -/
theorem WellKept.moves {db db' : Database} {command : Option StatementKind} (h : db.WellKept)
    (hmoves : Moves db command db') :
    db'.WellKept := by
  cases hmoves with
  | data hstep =>
      refine ⟨h.registry.evolves hstep.registry, ?_⟩
      rw [hstep.snapshot]
      exact h.snapshot
  | begin _ =>
      refine ⟨h.registry, ?_⟩
      rintro saved ⟨⟩
      exact h.registry
  | commit _ => exact ⟨h.registry, fun saved hsaved => nomatch hsaved⟩
  | rollback hsaved => exact ⟨h.snapshot _ hsaved, fun saved hsaved => nomatch hsaved⟩

theorem WellKept.afterTurns {db : Database} (h : db.WellKept) (turns : List Turn) :
    (db.afterTurns turns).WellKept := by
  induction turns generalizing db with
  | nil => exact h
  | cons t rest ih => exact ih (h.moves (moves_afterTurn db t))

/-- Whatever is called, in whatever order, relations stay well kept. -/
theorem WellKept.afterCalls {db : Database} (h : db.WellKept) (calls : List Call) :
    (db.afterCalls calls).WellKept := by
  rw [afterCalls_eq]
  exact h.afterTurns (db.turns calls)

/-- An insertion into a relation whose counter is at its greatest value is refused. -/
theorem answer_of_counter_at_max (db : Database) {r : Request} {s : Insert}
    {relation : Relation} (hstatement : r.statement = .ok (.insert s))
    (hpath : r.path (.insert s) = .run) (hcolumns : s.columns ≠ [])
    (hfind : db.registry.find? s.relation = some relation)
    (hmax : relation.nextId = Int64.maxValue) :
    ((db.answer r).result = .error (.storage (.identityOverflow relation.name)) ∨
      ∃ column value,
        (db.answer r).result = .error (.constraintViolation relation.name column value)) ∧
    (db.answer r).database.registry = db.registry := by
  obtain ⟨e, hins, he⟩ := Relation.insert_of_counter_at_max (s.fields r.params)
    db.config.execOptions.enforceUnique hmax
  have hexec : db.registry.execute db.config.execOptions (.insert s) (r.path (.insert s))
      r.params = .error e := by
    rw [hpath]
    show db.registry.insertRow db.config.execOptions s r.params = .error e
    rw [Registry.insertRow, if_neg hcolumns, hfind]
    simp only [hins]
    rfl
  have hcommand : r.command? = none := Request.command?_eq_none hstatement rfl
  obtain ⟨hdatabase, hresult⟩ := answer_of_refused db hstatement hcommand hexec
  rw [hresult, hdatabase]
  refine ⟨?_, rfl⟩
  rcases he with rfl | ⟨column, value, rfl⟩
  · exact .inl rfl
  · exact .inr ⟨column, value, rfl⟩

/-- In the state of every run relations are well kept, the live ones and those saved by an
open transaction, and where a counter is at its greatest value insertions are refused instead
of wrapping it. -/
theorem identities_of_run :
    (∀ (config : Config) (calls : List Call), ((create config).afterCalls calls).WellKept) ∧
    ∀ (db : Database) (r : Request) (s : Insert) (relation : Relation),
      r.statement = .ok (.insert s) → r.path (.insert s) = .run → s.columns ≠ [] →
      db.registry.find? s.relation = some relation → relation.nextId = Int64.maxValue →
      ((db.answer r).result = .error (.storage (.identityOverflow relation.name)) ∨
        ∃ column value,
          (db.answer r).result = .error (.constraintViolation relation.name column value)) ∧
      (db.answer r).database.registry = db.registry := by
  constructor
  · intro config calls
    exact (wellKept_create config).afterCalls calls
  · intro db r s relation hstatement hpath hcolumns hfind hmax
    exact db.answer_of_counter_at_max hstatement hpath hcolumns hfind hmax

/-- The last identity is never given out. -/
theorem refused_after_last_identity :
    let full : Relation := ⟨"t", [], Int64.maxValue, []⟩
    let db : Database := ⟨.default, ⟨[("t", full)]⟩, none, 0⟩
    let sql := "INSERT INTO t (a) VALUES (?)"
    ((create .default).afterCalls [.schema, .script "BEGIN"]).WellKept ∧
      (db.answer (.run (.ofText sql) [.integer 7])).database.registry = db.registry := by
  intro full db sql
  have hparse : Statement.parse sql = .ok (.insert ⟨"t", ["a"], [.placeholder 0]⟩) := by
    decide +kernel
  constructor
  · exact identities_of_run.1 .default [.schema, .script "BEGIN"]
  · exact (identities_of_run.2 db (.run (.ofText sql) [.integer 7]) _ full hparse rfl
      (List.cons_ne_nil "a" []) rfl rfl).2

end Database

end MiniSql
