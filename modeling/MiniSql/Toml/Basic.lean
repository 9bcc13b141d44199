import MiniSql.Binary64.Basic

/-!
# TOML values

The values that a TOML document holds, and the rules by which its lines build up tables.

A table comes about in one of four ways, which decides how later lines may extend it. A
dotted key walks through tables that were not written with a header, and writes into a table
made by dotted keys alone. A header walks through every table but those between braces, and
opens a table that is new or was only implied. An array of tables stands for its last table.

**Results.** What changing a member does to the value of a name.
-/

namespace MiniSql

/-- How a table came about. -/
inductive Toml.Origin where
  /-- It has a header of its own. -/
  | header
  /-- It was named inside the header of another table. -/
  | implied
  /-- It was named inside a dotted key. -/
  | dotted
  /-- It was written between braces. -/
  | inline
deriving DecidableEq, Repr

/-- A TOML value. -/
inductive Toml where
  | string (s : String)
  | integer (i : Int64)
  | float (x : Binary64)
  | bool (b : Bool)
  /-- A date, a time, or both. -/
  | moment
  | array (items : List Toml)
  | table (origin : Toml.Origin) (members : List (String × Toml))
  /-- An array of tables with headers of their own. -/
  | tables (items : List (List (String × Toml)))

namespace Toml

/-- The named values of a table, in order of first mention. -/
abbrev Members := List (String × Toml)

/-- A key with dots: the names of the tables it walks through, and its last name. -/
structure Path where
  through : List String
  last : String
deriving DecidableEq

/-- The value of a name. -/
def member? (name : String) : Members → Option Toml
  | [] => none
  | m :: ms => if m.1 = name then some m.2 else member? name ms

/-- Changes the value of a name, or gives it a first one. -/
def alter (name : String) (change : Option Toml → Option Toml) : Members → Option Members
  | [] => (change none).map fun v => [(name, v)]
  | m :: ms =>
    if m.1 = name then (change (some m.2)).map fun v => (name, v) :: ms
    else (alter name change ms).map (m :: ·)

/-- Changes the last of several items. -/
def alterLast {α : Type} (change : α → Option α) : List α → Option (List α)
  | [] => none
  | [a] => (change a).map ([·])
  | a :: as => (alterLast change as).map (a :: ·)

/-- Gives a name its only value. -/
def define (name : String) (value : Toml) (members : Members) : Option Members :=
  alter name (fun | none => some value | some _ => none) members

/-- A dotted key may walk through a table of the origin; `last` says whether it writes
there. -/
def Origin.admitsDotted (last : Bool) : Origin → Bool
  | dotted => true
  | implied => !last
  | _ => false

/-- Gives a value to the name at the end of a dotted key. -/
def assignAt (last : String) (value : Toml) : List String → Members → Option Members
  | [], members => define last value members
  | name :: through, members =>
    alter name (fun
      | none => (assignAt last value through []).map (table .dotted)
      | some (table origin inner) =>
        if origin.admitsDotted through.isEmpty then
          (assignAt last value through inner).map (table origin)
        else none
      | some (tables items) =>
        if through.isEmpty then none
        else (alterLast (assignAt last value through) items).map tables
      | some _ => none) members

/-- Gives a value to a key. -/
def assign (members : Members) (pair : Path × Toml) : Option Members :=
  assignAt pair.1.last pair.2 pair.1.through members

/-- Changes the value at the end of the path of a header. -/
def openAt (last : String) (change : Option Toml → Option Toml) :
    List String → Members → Option Members
  | [], members => alter last change members
  | name :: through, members =>
    alter name (fun
      | none => (openAt last change through []).map (table .implied)
      | some (table origin inner) =>
        if origin = .inline then none
        else (openAt last change through inner).map (table origin)
      | some (tables items) => (alterLast (openAt last change through) items).map tables
      | some _ => none) members

/-- A header and the values below it. `repeated` headers add a table to an array. -/
structure Section where
  path : Path
  repeated : Bool
  pairs : List (Path × Toml)

/-- Adds a section to the table of the document. -/
def addSection (root : Members) (s : Section) : Option Members :=
  let filled (members : Members) : Option Members := s.pairs.foldlM assign members
  openAt s.path.last (fun value =>
    if s.repeated then
      match value with
      | none => (filled []).map fun t => tables [t]
      | some (tables items) => (filled []).map fun t => tables (items ++ [t])
      | some _ => none
    else
      match value with
      | none => (filled []).map (table .header)
      | some (table .implied members) => (filled members).map (table .header)
      | some _ => none) s.path.through root

/-- The table of a document: the values before the first header, and its sections. -/
def build (pairs : List (Path × Toml)) (sections : List Section) : Option Members := do
  let root ← pairs.foldlM assign []
  sections.foldlM addSection root

/-! ## Records -/

/-- A value that a record can be read from. -/
def isRecord : Toml → Bool
  | moment | array _ | table _ _ | tables _ => true
  | _ => false

/-- The field of a record: by its name in a table, and by its place in an array. -/
def field? (place : Nat) (name : String) : Toml → Option Toml
  | table _ members => member? name members
  | array items => items[place]?
  | tables items => items[place]?.map (table .header)
  | _ => none

/-- A table or array that holds nothing. -/
def isHollow : Toml → Bool
  | array items => items.isEmpty
  | table _ members => members.isEmpty
  | tables items => items.isEmpty
  | _ => false

/-- The truth value of a value. -/
def bool? : Toml → Option Bool
  | bool b => some b
  | _ => none

/-- The text of a value. -/
def string? : Toml → Option String
  | string s => some s
  | _ => none

/-- The number of a value that is an integer and not negative. -/
def nat? : Toml → Option Nat
  | integer i => if 0 ≤ i.toInt then some i.toInt.toNat else none
  | _ => none

/-- The word that chooses one of several cases: a string, or the name of the only member of a
table if there is nothing in that member. -/
def choice? : Toml → Option String
  | string s => some s
  | table _ [(name, value)] => if value.isHollow then some name else none
  | _ => none

/-- Reads a value that may be absent; an absent one has a default. -/
def readOr {α : Type} (default : α) (read? : Toml → Option α) : Option Toml → Option α
  | none => some default
  | some value => read? value

/-! ## Members -/

/-- A successful change of one member leaves the value of every other name alone. -/
theorem member?_alter_of_ne {name other : String} {change : Option Toml → Option Toml}
    {members changed : Members} (h : alter name change members = some changed)
    (hne : other ≠ name) : member? other changed = member? other members := by
  induction members generalizing changed with
  | nil =>
    obtain ⟨v, -, rfl⟩ := Option.map_eq_some_iff.1 h
    simp [member?, Ne.symm hne]
  | cons m ms ih =>
    rw [alter] at h
    split at h
    · next hm =>
      obtain ⟨v, -, rfl⟩ := Option.map_eq_some_iff.1 h
      simp [member?, hm, Ne.symm hne]
    · obtain ⟨rest, hrest, rfl⟩ := Option.map_eq_some_iff.1 h
      simp [member?, ih hrest]

end Toml

end MiniSql
