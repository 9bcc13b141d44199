import MiniSql.Registry
import MiniSql.Statement.Basic

/-!
# Executing statements

One statement is executed on one of three paths: for its effect, for the first matching row,
or for all matching rows. A statement that has no meaning on a path gives an outcome that
says so, and the caller decides what to make of it. Only an insertion can be refused.

Rows are selected by the recognized tests of the `WHERE` clause. A test whose parameter was
not supplied matches the rows that lack the column.
-/

namespace MiniSql

/-- How an update reports its changes. -/
inductive UpdateCount where
  /-- One, whenever the relation exists and the clause tests `id`. -/
  | alwaysOne
  /-- The number of rows that matched. -/
  | matched
deriving DecidableEq, Repr

/-- The switches of execution. -/
structure ExecOptions where
  updateCount : UpdateCount
  enforceUnique : Bool
deriving DecidableEq, Repr

/-- The paths on which a statement is executed. -/
inductive Path where
  | run
  | fetchOne
  | fetchMany
deriving DecidableEq, Repr

/-- What a write changed. -/
structure Changes where
  count : Nat
  lastInsertId : Option Int64
deriving DecidableEq, Repr

/-- The report of a write that changed nothing. -/
def Changes.none : Changes := ⟨0, Option.none⟩

/-- How a fetch selected its rows. -/
inductive Filter where
  | unfiltered
  | recognized
  | unrecognized
deriving DecidableEq, Repr

/-- Statement shapes without a meaning on a path. -/
inductive Shape where
  | selectForEffect
  | control
  | notFetchable (kind : StatementKind)
  | insertWithoutColumns
  | updateWithoutId
  | deleteWithoutId
  | projection (text : String)
deriving DecidableEq, Repr

/-- The wording of a shape without a meaning. -/
def Shape.message : Shape → String
  | selectForEffect => "SELECT cannot be run for effect"
  | control => "transaction control is handled by the database"
  | notFetchable kind => kind.name ++ " cannot be fetched"
  | insertWithoutColumns => "INSERT without a column list"
  | updateWithoutId => "UPDATE without an \x60id = ?\x60 predicate"
  | deleteWithoutId => "DELETE without an \x60id = ?\x60 predicate"
  | projection text => "projection '" ++ text ++ "'"

/-- What came of executing a statement. -/
inductive Outcome where
  /-- A creation; `created` is false when the relation existed. -/
  | created (relation : String) (created : Bool)
  | changed (changes : Changes)
  | row (row : Option Row) (filter : Filter)
  | rows (rows : List Row) (filter : Filter)
  /-- The statement has no effect on data. -/
  | inert
  | unsupported (shape : Shape)
deriving DecidableEq

/-- The outcome says that the shape has no meaning. -/
def Outcome.isUnsupported : Outcome → Bool
  | unsupported _ => true
  | _ => false

/-- The value of an operand under parameters; a parameter that was not supplied has none. -/
def Operand.resolve (params : List Value) : Operand → Option Value
  | placeholder slot => params[slot]?
  | literal l => some (.ofLiteral l)

/-- The named values of an insertion; columns without a value are left out. -/
def Insert.fields (s : Insert) (params : List Value) : List Field :=
  (s.columns.zip s.values).filterMap fun (column, operand) =>
    (operand.resolve params).map (column, ·)

/-- The named values of an update; columns without a value are left out. -/
def Update.fields (s : Update) (params : List Value) : List Field :=
  s.assignments.filterMap fun a => (a.value.resolve params).map (a.column, ·)

/-- How a clause selects rows. -/
def Filter.ofPredicate : Option Predicate → Filter
  | none => unfiltered
  | some p => if p.isRecognized then recognized else unrecognized

/-- A row passes a test: its field of the column's name equals the parameter, or both are
missing. -/
def passes (params : List Value) (row : Row) (test : KeyColumn × Nat) : Bool :=
  row.get? test.1.name == params[test.2]?

/-- A row passes every recognized test of a clause. -/
def selects (params : List Value) (predicate : Option Predicate) (row : Row) : Bool :=
  match predicate with
  | none => true
  | some p => p.keys.all (passes params row)

/-- The row under a select list. -/
def Projection.apply (p : Projection) (row : Row) : Row :=
  match p with
  | columns names => row.project names
  | _ => row

/-- The first slot that a clause compares `id` with. -/
def idSlot? (predicate : Option Predicate) : Option Nat :=
  predicate.bind Predicate.idSlot?

namespace Registry

/-- Executes an insertion. Nothing happens if the relation does not exist. -/
def insertRow (r : Registry) (options : ExecOptions) (s : Insert) (params : List Value) :
    Except StorageError (Outcome × Registry) :=
  if s.columns = [] then .ok (.unsupported .insertWithoutColumns, r)
  else
    match r.find? s.relation with
    | none => .ok (.changed .none, r)
    | some relation =>
      (relation.insert (s.fields params) options.enforceUnique).map fun (id, relation) =>
        (.changed ⟨1, some id⟩, r.replace s.relation relation)

/-- Executes an update of the rows with an identity. -/
def updateRows (r : Registry) (options : ExecOptions) (s : Update) (params : List Value) :
    Outcome × Registry :=
  match idSlot? s.predicate with
  | none => (.unsupported .updateWithoutId, r)
  | some slot =>
    match r.find? s.relation with
    | none => (.changed .none, r)
    | some relation =>
      let (matched, relation) := relation.updateById params[slot]? (s.fields params)
      let count :=
        match options.updateCount with
        | .alwaysOne => 1
        | .matched => matched
      (.changed ⟨count, none⟩, r.replace s.relation relation)

/-- Executes the removal of the row with an identity. -/
def deleteRow (r : Registry) (s : Delete) (params : List Value) : Outcome × Registry :=
  match idSlot? s.predicate with
  | none => (.unsupported .deleteWithoutId, r)
  | some slot =>
    match r.find? s.relation with
    | none => (.changed .none, r)
    | some relation =>
      let (removed, relation) := relation.deleteById params[slot]?
      (.changed ⟨if removed then 1 else 0, none⟩, r.replace s.relation relation)

/-- The rows of a relation; none if it does not exist. -/
def rowsOf (r : Registry) (name : String) : List Row :=
  match r.find? name with
  | some relation => relation.rows
  | none => []

/-- The first row of a query. A clause of which nothing is recognized finds none. -/
def fetchOne (r : Registry) (s : Select) (params : List Value) : Outcome :=
  match s.projection with
  | .expressions text => .unsupported (.projection text)
  | _ =>
    let filter := Filter.ofPredicate s.predicate
    let row :=
      match filter with
      | .unfiltered => (r.rowsOf s.relation).head?
      | .recognized => (r.rowsOf s.relation).find? (selects params s.predicate)
      | .unrecognized => none
    .row (row.map s.projection.apply) filter

/-- All rows of a query. A clause of which nothing is recognized does not filter. -/
def fetchMany (r : Registry) (s : Select) (params : List Value) : Outcome :=
  match s.projection with
  | .expressions text => .unsupported (.projection text)
  | _ =>
    let filter := Filter.ofPredicate s.predicate
    let rows :=
      match filter with
      | .recognized => (r.rowsOf s.relation).filter (selects params s.predicate)
      | _ => r.rowsOf s.relation
    .rows (rows.map s.projection.apply) filter

/-- Executes a statement on a path. -/
def execute (r : Registry) (options : ExecOptions) (s : Statement) (path : Path)
    (params : List Value) : Except StorageError (Outcome × Registry) :=
  match s, path with
  | .createTable s, .run =>
    let (created, r) := r.create s.relation s.columns
    .ok (.created s.relation created, r)
  | .insert s, .run => r.insertRow options s params
  | .update s, .run => .ok (r.updateRows options s params)
  | .delete s, .run => .ok (r.deleteRow s params)
  | .select s, .fetchOne => .ok (r.fetchOne s params, r)
  | .select s, .fetchMany => .ok (r.fetchMany s params, r)
  | .select _, .run => .ok (.unsupported .selectForEffect, r)
  | .pragma _, _ => .ok (.inert, r)
  | .begin, _ => .ok (.unsupported .control, r)
  | .commit, _ => .ok (.unsupported .control, r)
  | .rollback, _ => .ok (.unsupported .control, r)
  | s, _ => .ok (.unsupported (.notFetchable s.kind), r)

end Registry

end MiniSql
