/-!
# Column declarations

What a creation statement says about a column. Declarations are advisory: rows may have
other columns, and only the flag for uniqueness is ever consulted.
-/

namespace MiniSql

/-- A declared column. -/
structure Column where
  name : String
  /-- The declared type as written, possibly empty. -/
  type : String
  primaryKey : Bool
  unique : Bool
  notNull : Bool
deriving DecidableEq, Repr

namespace Column

/-- A column without constraints. -/
def plain (name type : String) : Column :=
  ⟨name, type, false, false, false⟩

/-- The constraints of a column in words, in a fixed order. -/
def constraints (c : Column) : List String :=
  (if c.primaryKey then ["PRIMARY KEY"] else []) ++
    (if c.unique then ["UNIQUE"] else []) ++
    (if c.notNull then ["NOT NULL"] else [])

/-- The declaration in words. -/
def display (c : Column) : String :=
  " ".intercalate (c.name :: (if c.type = "" then [] else [c.type]) ++ c.constraints)

end Column

end MiniSql
