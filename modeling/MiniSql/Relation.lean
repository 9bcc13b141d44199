import MiniSql.Column
import MiniSql.Row

/-!
# Relations

A relation owns its rows in order of insertion, the identity that its next row receives, and
the columns it was declared with. Identities are never reused: a removed row leaves a gap.

An insertion either appends one row, whose first field is its identity, or is refused and
leaves the relation as it was.

**Results.** What a successful insertion changes.
-/

namespace MiniSql

/-- Why an insertion is refused. -/
inductive StorageError where
  /-- A unique column already holds the value, given as text. -/
  | uniqueViolation (relation column value : String)
  /-- No further identity fits 64 bits. -/
  | identityOverflow (relation : String)
deriving DecidableEq, Repr

/-- The wording of a refusal. -/
def StorageError.message : StorageError → String
  | uniqueViolation relation column value =>
    "Unique constraint failed: " ++ relation ++ "." ++ column ++ " (value '" ++ value ++ "')"
  | identityOverflow relation => "Identity counter exhausted for table: " ++ relation

/-- A relation. -/
structure Relation where
  name : String
  rows : List Row
  /-- The identity of the next row. -/
  nextId : Int64
  columns : List Column
deriving DecidableEq

namespace Relation

/-- A relation without rows; its first row gets the identity one. -/
def create (name : String) (columns : List Column) : Relation :=
  ⟨name, [], 1, columns⟩

/-- Relations are equal when their names, columns and counters are, and their rows are equal
one by one. -/
instance : BEq Relation :=
  ⟨fun r s => r.name == s.name && r.rows == s.rows && r.nextId == s.nextId &&
    r.columns == s.columns⟩

/-- The first field of a name in a list of fields. -/
def given? (fields : List Field) (name : String) : Option Value :=
  Row.getField? name fields

/-- A declared unique column in which the new fields repeat a value, and that value. `NULL`
repeats nothing. -/
def repeatedValue? (r : Relation) (fields : List Field) : Option (String × Value) :=
  (r.columns.filter (·.unique)).findSome? fun column =>
    match given? fields column.name with
    | none => none
    | some value =>
      if !value.isNull && r.rows.any (fun row => row.get? column.name == some value) then
        some (column.name, value)
      else none

/-- The row with an identity and the fields other than `id`. -/
def rowWithId (id : Int64) (fields : List Field) : Row :=
  (Row.empty.set idColumn (.integer id)).setAll (fields.filter (·.1 ≠ idColumn))

/-- Appends a row with the next identity, and gives the identity. With `enforceUnique` a
value repeated in a unique column is refused. -/
def insert (r : Relation) (fields : List Field) (enforceUnique : Bool) :
    Except StorageError (Int64 × Relation) :=
  match if enforceUnique then r.repeatedValue? fields else none with
  | some (column, value) => .error (.uniqueViolation r.name column value.display)
  | none =>
    if r.nextId = Int64.maxValue then .error (.identityOverflow r.name)
    else .ok (r.nextId,
      { r with rows := r.rows ++ [rowWithId r.nextId fields], nextId := r.nextId + 1 })

/-- The row has the given identity; no identity matches the rows that lack one. -/
def matchesId (id : Option Value) (row : Row) : Bool :=
  row.get? idColumn == id

/-- Sets fields other than `id`. -/
def assign (assignments : List Field) (row : Row) : Row :=
  row.setAll (assignments.filter (·.1 ≠ idColumn))

/-- Applies assignments to every row with the given identity, and counts these rows. -/
def updateById (r : Relation) (id : Option Value) (assignments : List Field) :
    Nat × Relation :=
  (r.rows.countP (matchesId id),
    { r with rows := r.rows.map fun row =>
        if matchesId id row then assign assignments row else row })

/-- Removes the first row with the given identity, and says whether there was one. -/
def deleteById (r : Relation) (id : Option Value) : Bool × Relation :=
  (r.rows.any (matchesId id), { r with rows := r.rows.eraseP (matchesId id) })

/-- A successful insertion uses up one identity and appends one row. -/
theorem insert_eq_ok {r r' : Relation} {fields : List Field} {enforceUnique : Bool}
    {id : Int64} (h : r.insert fields enforceUnique = .ok (id, r')) :
    id = r.nextId ∧ r.nextId ≠ Int64.maxValue ∧
      r' = { r with rows := r.rows ++ [rowWithId r.nextId fields], nextId := r.nextId + 1 } := by
  unfold insert at h
  split at h
  · cases h
  · split at h
    · cases h
    · next hmax =>
        cases h
        exact ⟨rfl, hmax, rfl⟩

end Relation

end MiniSql
