import MiniSql.Relation

/-!
# Registries

All relations of one database, each under its name. Relations are created and never dropped.
Names are compared exactly.

**Results.** What a registry holds under a name after a relation was added or changed.
-/

namespace MiniSql

/-- The relations of a database with their names. -/
structure Registry where
  entries : List (String × Relation)
deriving DecidableEq

namespace Registry

/-- The registry without relations. -/
def empty : Registry := ⟨[]⟩

instance : Inhabited Registry := ⟨empty⟩

/-- The first relation of a name in a list of entries. -/
def relationOf? (name : String) : List (String × Relation) → Option Relation
  | [] => none
  | e :: es => if e.1 = name then some e.2 else relationOf? name es

/-- Replaces the first relation of a name in a list of entries. -/
def replaceEntry (name : String) (relation : Relation) :
    List (String × Relation) → List (String × Relation)
  | [] => []
  | e :: es => if e.1 = name then (e.1, relation) :: es else e :: replaceEntry name relation es

/-- The relation of a name. -/
def find? (r : Registry) (name : String) : Option Relation :=
  relationOf? name r.entries

/-- There is a relation of a name. -/
def contains (r : Registry) (name : String) : Bool :=
  (r.find? name).isSome

/-- Adds a relation under a name that is free. -/
def add (r : Registry) (name : String) (relation : Relation) : Registry :=
  ⟨r.entries ++ [(name, relation)]⟩

/-- Creates a relation, and says whether it did: a relation that exists is left alone. -/
def create (r : Registry) (name : String) (columns : List Column) : Bool × Registry :=
  if r.contains name then (false, r) else (true, r.add name (.create name columns))

/-- Makes sure that a relation exists. -/
def ensure (r : Registry) (name : String) : Registry :=
  (r.create name []).2

/-- Puts a relation in the place of the one of that name. -/
def replace (r : Registry) (name : String) (relation : Relation) : Registry :=
  ⟨replaceEntry name relation r.entries⟩

/-- Number of relations. -/
def size (r : Registry) : Nat :=
  r.entries.length

/-- Number of rows of all relations. -/
def totalRows (r : Registry) : Nat :=
  r.entries.foldr (fun e n => e.2.rows.length + n) 0

/-- The names in increasing order of their code points. -/
def names (r : Registry) : List String :=
  (r.entries.map Prod.fst).mergeSort fun a b => a ≤ b

/-- Registries are equal when they hold equal relations under the same names. -/
instance : BEq Registry :=
  ⟨fun r s => r.size == s.size && r.entries.all fun e => s.find? e.1 == some e.2⟩

@[simp] theorem find?_empty (name : String) : empty.find? name = none := rfl

theorem relationOf?_concat (es : List (String × Relation)) (e : String × Relation)
    (name : String) :
    relationOf? name (es ++ [e]) =
      (relationOf? name es).or (if name = e.1 then some e.2 else none) := by
  induction es with
  | nil => grind [relationOf?]
  | cons d ds ih => grind [relationOf?]

theorem relationOf?_replaceEntry (es : List (String × Relation)) (name other : String)
    (relation : Relation) :
    relationOf? other (replaceEntry name relation es) =
      if other = name then (relationOf? name es).map fun _ => relation
      else relationOf? other es := by
  induction es with
  | nil => grind [relationOf?, replaceEntry]
  | cons d ds ih => grind [relationOf?, replaceEntry]

/-- A relation added under a free name is found there, and no other name is affected. -/
theorem find?_add (r : Registry) (name other : String) (relation : Relation) :
    (r.add name relation).find? other =
      (r.find? other).or (if other = name then some relation else none) :=
  relationOf?_concat r.entries (name, relation) other

/-- A replaced relation is found under its name, and no other name is affected. -/
theorem find?_replace (r : Registry) (name other : String) (relation : Relation) :
    (r.replace name relation).find? other =
      if other = name then (r.find? name).map fun _ => relation else r.find? other :=
  relationOf?_replaceEntry r.entries name other relation

end Registry

end MiniSql
