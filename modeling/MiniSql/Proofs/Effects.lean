import MiniSql.Proofs.Uniqueness
import MiniSql.Proofs.Writes

/-!
# Effects of writes

A write by identity finds one row at most, since identities are distinct and a value equals one
of them at most. A removal takes this row out and moves nothing else; the counter stays, so that
the same removal finds nothing afterwards. An update sets fields of this row: of the values that
it gives a column the last one counts, fields that exist keep their places, and new ones go to
the end in the order in which they were first given.

**Results.**
* `Relation.WellKept.exists_split`: the row of an identity and the rows around it.
* `writes_one_row`: what a write leaves of a database.
-/

namespace MiniSql

/-! ## Rows with fields set -/

namespace Row

/-- Among the new names `id` does not count when its fields are not set. -/
theorem names_setAll_filter_id (row : Row) (fields : List Field) :
    (row.setAll (fields.filter (·.1 ≠ idColumn))).names = row.names ++
      ((fields.map Prod.fst).filter fun name => name ≠ idColumn ∧ name ∉ row.names).eraseDups := by
  have hfilter : (fields.filter (·.1 ≠ idColumn)).map Prod.fst =
      (fields.map Prod.fst).filter (· ≠ idColumn) := by
    rw [List.filter_map]
    rfl
  rw [names_setAll, hfilter, List.filter_filter]
  congr 2
  apply List.filter_congr
  intro name _
  by_cases hname : name = idColumn <;> simp [hname]

end Row

/-! ## Fields that are given values

Insertions and updates pair columns with operands, and keep the pairs whose operand has a value. -/

section Resolved

variable {α : Type} (column : α → String) (operand : α → Operand) (params : List Value)
  (entries : List α)

theorem getField?_reverse_resolved (name : String) :
    Row.getField? name (entries.filterMap fun e =>
        ((operand e).resolve params).map (column e, ·)).reverse =
      ((entries.filter (column · = name)).filterMap
        fun e => (operand e).resolve params).getLast? := by
  rw [Row.getField?_reverse_eq_getLast?]
  congr 1
  induction entries with
  | nil => rfl
  | cons e rest ih =>
      cases hvalue : (operand e).resolve params with
      | none =>
          by_cases hname : column e = name <;> simp_all
      | some value =>
          by_cases hname : column e = name <;> simp_all

theorem map_fst_resolved :
    (entries.filterMap fun e => ((operand e).resolve params).map (column e, ·)).map Prod.fst =
      (entries.filter fun e => ((operand e).resolve params).isSome).map column := by
  induction entries with
  | nil => rfl
  | cons e rest ih =>
      cases hvalue : (operand e).resolve params with
      | none => simpa [hvalue] using ih
      | some value => simpa [hvalue] using ih

end Resolved

/-! ## Updated rows -/

namespace Update

/-- The value that an update gives a column: the last one of those that it has. -/
def given? (u : Update) (params : List Value) (column : String) : Option Value :=
  ((u.assignments.filter (·.column = column)).filterMap (·.value.resolve params)).getLast?

/-- The columns that an update gives values, one for each value. -/
def columns (u : Update) (params : List Value) : List String :=
  (u.assignments.filter fun a => (a.value.resolve params).isSome).map (·.column)

/-- The second row is the first one after the update: every column but `id` has the value given
last, or else the one it had; fields that were there keep their places, and new ones stand at
the end in the order in which they are first given a value. -/
structure Revises (u : Update) (params : List Value) (row row' : Row) : Prop where
  value : ∀ column, column ≠ idColumn →
    row'.get? column = (u.given? params column).or (row.get? column)
  identity : row'.get? idColumn = row.get? idColumn
  names : row'.names = row.names ++
    ((u.columns params).filter fun column => column ≠ idColumn ∧ column ∉ row.names).eraseDups

theorem getField?_reverse_fields (u : Update) (params : List Value) (column : String) :
    Row.getField? column (u.fields params).reverse = u.given? params column :=
  getField?_reverse_resolved Assignment.column Assignment.value params u.assignments column

theorem map_fst_fields (u : Update) (params : List Value) :
    (u.fields params).map Prod.fst = u.columns params :=
  map_fst_resolved Assignment.column Assignment.value params u.assignments

theorem revises_assign (u : Update) (params : List Value) (row : Row) :
    u.Revises params row (Relation.assign (u.fields params) row) where
  value column hcolumn := by
    rw [Relation.assign, Row.get?_setAll, ← List.filter_reverse,
      Row.getField?_filter_ne hcolumn, getField?_reverse_fields]
  identity := Row.get?_setAll_of_ne Relation.name_ne_of_mem_filter
  names := by rw [Relation.assign, Row.names_setAll_filter_id, map_fst_fields]

end Update

/-! ## Relations -/

namespace Relation

variable {r : Relation} {id : Option Value} {row : Row} {before rest : List Row}

/-- The row of an identity, and the rows around it, which have other identities. -/
theorem WellKept.exists_split (h : r.WellKept) (hrow : row ∈ r.rows)
    (hmatches : matchesId id row = true) :
    ∃ before rest, r.rows = before ++ row :: rest ∧
      ∀ other ∈ before ++ rest, ¬ matchesId id other = true := by
  obtain ⟨before, rest, hrows⟩ := List.append_of_mem hrow
  refine ⟨before, rest, hrows, ?_⟩
  have hpairwise := h.pairwise_matchesId id
  rw [hrows, List.pairwise_append] at hpairwise
  obtain ⟨-, hrest, hbefore⟩ := hpairwise
  intro other hother hfound
  rcases List.mem_append.mp hother with hmem | hmem
  · exact hbefore other hmem row List.mem_cons_self hfound hmatches
  · exact List.rel_of_pairwise_cons hrest hmem hmatches hfound

theorem deleteById_of_split (hrows : r.rows = before ++ row :: rest)
    (hmatches : matchesId id row = true)
    (hothers : ∀ other ∈ before ++ rest, ¬ matchesId id other = true) :
    (r.deleteById id).2 = { r with rows := before ++ rest } := by
  have hbefore : ∀ other ∈ before, ¬ matchesId id other = true :=
    fun other hother => hothers other (List.mem_append_left rest hother)
  rw [deleteById, hrows, List.eraseP_append_right _ hbefore, List.eraseP_cons_of_pos hmatches]

/-- Rows of other identities are not updated. -/
theorem map_assign_eq_self {assignments : List Field} {rows : List Row}
    (hnone : ∀ other ∈ rows, ¬ matchesId id other = true) :
    rows.map (fun row => if matchesId id row then assign assignments row else row) = rows := by
  induction rows with
  | nil => rfl
  | cons other rest ih =>
      rw [List.map_cons, if_neg (hnone other List.mem_cons_self),
        ih fun row hrow => hnone row (List.mem_cons_of_mem other hrow)]

theorem updateById_of_split (assignments : List Field) (hrows : r.rows = before ++ row :: rest)
    (hmatches : matchesId id row = true)
    (hothers : ∀ other ∈ before ++ rest, ¬ matchesId id other = true) :
    (r.updateById id assignments).2 =
      { r with rows := before ++ assign assignments row :: rest } := by
  have hbefore : ∀ other ∈ before, ¬ matchesId id other = true :=
    fun other hother => hothers other (List.mem_append_left rest hother)
  have hrest : ∀ other ∈ rest, ¬ matchesId id other = true :=
    fun other hother => hothers other (List.mem_append_right before hother)
  simp only [updateById, hrows, List.map_append, List.map_cons, map_assign_eq_self hbefore,
    map_assign_eq_self hrest, if_pos hmatches]

/-- Rows without the identity are not found, and neither is a row for no identity. -/
theorem WellKept.countP_eq_zero (h : r.WellKept)
    (hnone : ∀ v, id = some v → ∀ row ∈ r.rows, ¬ matchesId (some v) row = true) :
    r.rows.countP (matchesId id) = 0 := by
  rw [List.countP_eq_zero]
  intro row hrow hmatches
  obtain ⟨i, fields, hfields⟩ := (h.wellFormed row hrow).first
  obtain ⟨v, rfl, -⟩ := matchesId_eq_true (Row.id?_of_fields hfields) hmatches
  exact hnone v rfl row hrow hmatches

end Relation

/-! ## Registries and databases -/

namespace Registry

/-- The second registry differs from the first in the rows of one relation at most. -/
structure Rewritten (r r' : Registry) (name : String) (relation : Relation) (rows : List Row) :
    Prop where
  target : r'.find? name = some { relation with rows := rows }
  others : ∀ other, other ≠ name → r'.find? other = r.find? other

variable {r : Registry} {name : String} {relation : Relation} {options : ExecOptions}
  {params : List Value} {slot : Nat}

theorem rewritten_replace (hfind : r.find? name = some relation) (rows : List Row) :
    r.Rewritten (r.replace name { relation with rows := rows }) name relation rows where
  target := by rw [find?_replace, if_pos rfl, hfind]; rfl
  others other hne := find?_replace_of_ne _ hne

variable (options params) in
theorem execute_update {u : Update} (hslot : MiniSql.idSlot? u.predicate = some slot)
    (hfind : r.find? u.relation = some relation) :
    r.execute options (.update u) .run params =
      .ok ((r.updateRows options u params).1,
        r.replace u.relation (relation.updateById params[slot]? (u.fields params)).2) := by
  simp only [execute, updateRows, hslot, hfind]

variable (options params) in
theorem execute_delete {d : Delete} (hslot : MiniSql.idSlot? d.predicate = some slot)
    (hfind : r.find? d.relation = some relation) :
    r.execute options (.delete d) .run params =
      .ok (.changed ⟨if (relation.deleteById params[slot]?).1 then 1 else 0, none⟩,
        r.replace d.relation (relation.deleteById params[slot]?).2) := by
  simp only [execute, deleteRow, hslot, hfind]

end Registry

namespace Database

variable {db : Database} {r : Request} {s : Statement} {name : String} {relation : Relation}
  {slot : Nat}

/-- A write by identity leaves what it makes of the relation, and reports it. -/
theorem answer_write_of_some (hstatement : r.statement = .ok s) (hpath : r.path s = .run)
    (hrelation : s.relation? = some name) (hslot : idSlot? s.writeClause? = some slot)
    (hfind : db.registry.find? name = some relation) :
    (∀ d, s = .delete d →
      (db.answer r).database.registry =
          db.registry.replace name (relation.deleteById r.params[slot]?).2 ∧
        (db.answer r).result = .ok (r.reply
          (.changed ⟨if (relation.deleteById r.params[slot]?).1 then 1 else 0, none⟩))) ∧
    (∀ u, s = .update u →
      (db.answer r).database.registry =
        db.registry.replace name (relation.updateById r.params[slot]? (u.fields r.params)).2) := by
  constructor
  · rintro d rfl
    obtain rfl := Option.some.inj hrelation
    have hexec := Registry.execute_delete db.config.execOptions r.params hslot hfind
    rw [← hpath] at hexec
    obtain ⟨hdatabase, hresult⟩ := db.answer_of_executed hstatement
      (Request.command?_eq_none hstatement rfl) hexec
    exact ⟨congrArg Database.registry hdatabase, hresult⟩
  · rintro u rfl
    obtain rfl := Option.some.inj hrelation
    have hexec := Registry.execute_update db.config.execOptions r.params hslot hfind
    rw [← hpath] at hexec
    obtain ⟨hdatabase, -⟩ := db.answer_of_executed hstatement
      (Request.command?_eq_none hstatement rfl) hexec
    exact congrArg Database.registry hdatabase

/-- Every statement with a test of `id` is an update or a removal. -/
theorem update_or_delete (hslot : idSlot? s.writeClause? = some slot) :
    (∃ u, s = .update u) ∨ ∃ d, s = .delete d := by
  cases s with
  | update u => exact .inl ⟨u, rfl⟩
  | delete d => exact .inr ⟨d, rfl⟩
  | _ => cases hslot

/-- A write that finds no row changes nothing, and a removal reports so. -/
theorem answer_write_of_unmatched (hstatement : r.statement = .ok s) (hpath : r.path s = .run)
    (hrelation : s.relation? = some name) (hslot : idSlot? s.writeClause? = some slot)
    (hfind : db.registry.find? name = some relation)
    (hnone : relation.rows.countP (Relation.matchesId r.params[slot]?) = 0) :
    (db.answer r).database.registry = db.registry ∧
      ∀ d, s = .delete d → (db.answer r).result = .ok (r.reply (.changed .none)) := by
  obtain ⟨hdelete, hupdate⟩ := answer_write_of_some hstatement hpath hrelation hslot hfind
  have hremoved : (relation.deleteById r.params[slot]?).1 = false := by
    rw [Relation.deleteById, List.any_eq_false]
    exact List.countP_eq_zero.mp hnone
  rcases update_or_delete hslot with ⟨u, rfl⟩ | ⟨d, rfl⟩
  · refine ⟨?_, by rintro d ⟨⟩⟩
    rw [hupdate u rfl, Relation.updateById_eq_self hnone, Registry.replace_self hfind]
  · obtain ⟨hregistry, hresult⟩ := hdelete d rfl
    rw [hremoved] at hresult
    refine ⟨?_, fun _ _ => hresult⟩
    rw [hregistry, Relation.deleteById_eq_self hremoved, Registry.replace_self hfind]

/-- A write by identity finds the row whose identity equals the parameter, if there is one, and
nothing else changes. A removal takes the row out, and once more it finds nothing; an update
revises the row in its place. The other rows, their order, the counter, the columns and all
other relations stay. -/
theorem writes_one_row (config : Config) (calls : List Call) (r : Request) (s : Statement)
    (name : String) (relation : Relation) (slot : Nat) (hstatement : r.statement = .ok s)
    (hpath : r.path s = .run) (hrelation : s.relation? = some name)
    (hslot : idSlot? s.writeClause? = some slot)
    (hfind : ((create config).afterCalls calls).registry.find? name = some relation) :
    let db := (create config).afterCalls calls
    let after := (db.answer r).database
    ((∀ v, r.params[slot]? = some v →
        ∀ row ∈ relation.rows, ¬ Relation.matchesId (some v) row = true) →
      after.registry = db.registry) ∧
    ∀ v, r.params[slot]? = some v →
      ∀ row ∈ relation.rows, Relation.matchesId (some v) row = true →
        ∃ before rest, relation.rows = before ++ row :: rest ∧
          (∀ other ∈ before ++ rest, ¬ Relation.matchesId (some v) other = true) ∧
          (∀ d, s = .delete d →
            db.registry.Rewritten after.registry name relation (before ++ rest) ∧
              (after.answer r).database.registry = after.registry ∧
              (after.answer r).result = .ok (r.reply (.changed .none))) ∧
          (∀ u, s = .update u →
            ∃ row', u.Revises r.params row row' ∧
              db.registry.Rewritten after.registry name relation (before ++ row' :: rest)) := by
  intro db after
  have hkept : relation.WellKept :=
    ((wellKept_create config).afterCalls calls).registry.relations _
      (Registry.mem_of_relationOf? hfind)
  obtain ⟨hdelete, hupdate⟩ := answer_write_of_some hstatement hpath hrelation hslot hfind
  constructor
  · intro hnone
    exact (answer_write_of_unmatched hstatement hpath hrelation hslot hfind
      (hkept.countP_eq_zero hnone)).1
  · intro v hv row hrow hmatches
    obtain ⟨before, rest, hrows, hothers⟩ := hkept.exists_split hrow hmatches
    refine ⟨before, rest, hrows, hothers, ?_, ?_⟩
    · intro d hs
      have hleft := Relation.deleteById_of_split hrows hmatches hothers
      have hregistry := (hdelete d hs).1
      rw [hv, hleft] at hregistry
      have hrewritten := Registry.rewritten_replace hfind (before ++ rest)
      rw [← hregistry] at hrewritten
      have hnone : (before ++ rest).countP (Relation.matchesId r.params[slot]?) = 0 := by
        rw [hv]
        exact List.countP_eq_zero.mpr hothers
      obtain ⟨hagain, hzero⟩ := answer_write_of_unmatched hstatement hpath hrelation hslot
        hrewritten.target hnone
      exact ⟨hrewritten, hagain, hzero d hs⟩
    · intro u hs
      have hleft := Relation.updateById_of_split (u.fields r.params) hrows hmatches hothers
      have hregistry := hupdate u hs
      rw [hv, hleft] at hregistry
      refine ⟨_, u.revises_assign r.params row, ?_⟩
      show db.registry.Rewritten (db.answer r).database.registry name relation _
      rw [hregistry]
      exact Registry.rewritten_replace hfind _

/-- An update that gives one column twice, and `id` in vain. The second row is found by a number of
double precision. -/
theorem update_of_second_row :
    let insert : Prepared := .ofText "INSERT INTO t (a) VALUES (?)"
    let calls : List Call := [.turn (.request (.execute "CREATE TABLE t")),
      .turn (.request (.run insert [.integer 7])), .turn (.request (.run insert [.integer 8]))]
    let sql := "UPDATE t SET b = ?, id = 9, a = ?, b = NULL WHERE id = ?"
    let u : Update := ⟨"t", [⟨"b", .placeholder 0⟩, ⟨idColumn, .literal (.integer 9)⟩,
      ⟨"a", .placeholder 1⟩, ⟨"b", .literal .null⟩], some ⟨[.equals "id" 2]⟩⟩
    let params : List Value := [.text "x", .integer 3, .real (.ofInt 2)]
    let r : Request := .run (.ofText sql) params
    let row : Row := ⟨[("id", .integer 2), ("a", .integer 8)]⟩
    let relation : Relation := ⟨"t", [⟨[("id", .integer 1), ("a", .integer 7)]⟩, row], 3, []⟩
    let db := (Database.create .default).afterCalls calls
    db.registry.find? "t" = some relation ∧ Relation.matchesId params[2]? row = true ∧
      ∃ before rest row', relation.rows = before ++ row :: rest ∧ u.Revises params row row' ∧
        db.registry.Rewritten (db.answer r).database.registry "t" relation
          (before ++ row' :: rest) := by
  intro insert calls sql u params r row relation db
  have hparse : Statement.parse sql = .ok (.update u) := by decide +kernel
  have hfind : db.registry.find? "t" = some relation := by decide +kernel
  have hmatches : Relation.matchesId params[2]? row = true := by decide +kernel
  obtain ⟨-, hwrites⟩ := writes_one_row .default calls r (.update u) "t" relation 2 hparse rfl rfl
    rfl hfind
  obtain ⟨before, rest, hrows, -, -, hupdate⟩ :=
    hwrites (.real (.ofInt 2)) rfl row (List.mem_cons_of_mem _ List.mem_cons_self) hmatches
  obtain ⟨row', hrevises, hrewritten⟩ := hupdate u rfl
  exact ⟨hfind, hmatches, before, rest, row', hrows, hrevises, hrewritten⟩

end Database

end MiniSql
