import MiniSql.Value

/-!
# Rows

A row is an ordered record of named values. Setting a field that exists changes its value in
place, and a new field goes to the end, so the order is that of first writing.

**Results.** Reading a field after a field was set.
-/

namespace MiniSql

/-- The name of the field that identifies a row within its relation. -/
def idColumn : String := "id"

/-- A field of a row. -/
abbrev Field := String × Value

/-- A row: its fields in order. -/
structure Row where
  fields : List Field
deriving DecidableEq

namespace Row

instance : Inhabited Row := ⟨⟨[]⟩⟩

/-- The row without fields. -/
def empty : Row := ⟨[]⟩

/-- Sets a field in a list of fields. -/
def setField (name : String) (value : Value) : List Field → List Field
  | [] => [(name, value)]
  | f :: fs => if f.1 = name then (name, value) :: fs else f :: setField name value fs

/-- The value of a field in a list of fields. -/
def getField? (name : String) : List Field → Option Value
  | [] => none
  | f :: fs => if f.1 = name then some f.2 else getField? name fs

/-- The value of a field. -/
def get? (r : Row) (name : String) : Option Value :=
  getField? name r.fields

/-- The row has a field. -/
def contains (r : Row) (name : String) : Bool :=
  (r.get? name).isSome

/-- Sets a field. -/
def set (r : Row) (name : String) (value : Value) : Row :=
  ⟨setField name value r.fields⟩

/-- Sets several fields one after the other. -/
def setAll (r : Row) (fields : List Field) : Row :=
  fields.foldl (fun r f => r.set f.1 f.2) r

/-- The row of a list of fields; of repeated names the last value counts. -/
def ofFields (fields : List Field) : Row :=
  empty.setAll fields

/-- The names of the fields in order. -/
def names (r : Row) : List String :=
  r.fields.map Prod.fst

/-- The identity of a row whose field `id` is an integer. -/
def id? (r : Row) : Option Int64 :=
  (r.get? idColumn).bind Value.integer?

/-- The listed fields that the row has, in the order of the list. -/
def project (r : Row) (names : List String) : Row :=
  ⟨names.filterMap fun name => (r.get? name).map (name, ·)⟩

/-- Rows are equal when they have the same names in order and equal values. -/
instance : BEq Row := ⟨fun r s => r.fields == s.fields⟩

/-- The text of a row. -/
def display (r : Row) : String :=
  "\x7b" ++ ", ".intercalate (r.fields.map fun (name, value) => name ++ ": " ++ value.display)
    ++ "\x7d"

/-- The JSON text of a row. -/
def toJson (r : Row) : String :=
  Json.object (r.fields.map fun (name, value) => (name, value.toJson))

theorem getField?_setField (name other : String) (value : Value) (fields : List Field) :
    getField? other (setField name value fields) =
      if other = name then some value else getField? other fields := by
  induction fields with
  | nil => grind [setField, getField?]
  | cons f fs ih => grind [setField, getField?]

/-- After a field was set it has the value, and every other field is as before. -/
@[simp] theorem get?_set (r : Row) (name other : String) (value : Value) :
    (r.set name value).get? other = if other = name then some value else r.get? other :=
  getField?_setField name other value r.fields

@[simp] theorem get?_empty (name : String) : empty.get? name = none := rfl

end Row

end MiniSql
