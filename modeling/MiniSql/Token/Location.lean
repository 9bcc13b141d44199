/-!
# Locations in text

A location is a line and a column, both counted from one. A line feed starts a new line and
every other character takes one column. A location is found again in the text by walking
over it from the start.
-/

namespace MiniSql

/-- Line and column of a character, counted from one. -/
structure Location where
  line : Nat
  column : Nat
deriving DecidableEq, Repr

namespace Location

/-- The location of the first character. -/
def start : Location := ⟨1, 1⟩

/-- The location after a character. -/
def advance (l : Location) (c : Char) : Location :=
  if c = '\n' then ⟨l.line + 1, 1⟩ else ⟨l.line, l.column + 1⟩

/-- The location after a run of characters. -/
def advanceOver (l : Location) (cs : List Char) : Location :=
  cs.foldl advance l

@[simp] theorem advanceOver_nil (l : Location) : l.advanceOver [] = l := rfl

@[simp] theorem advanceOver_cons (l : Location) (c : Char) (cs : List Char) :
    l.advanceOver (c :: cs) = (l.advance c).advanceOver cs := rfl

/-- Walking over two runs one after the other. -/
theorem advanceOver_append (l : Location) (cs ds : List Char) :
    l.advanceOver (cs ++ ds) = (l.advanceOver cs).advanceOver ds := by
  simp [advanceOver]

/-- The character at a location, and its offset in bytes, in a text whose first character
is at location `here` and byte `offset`. -/
def find? (target here : Location) (offset : Nat) : List Char → Option (Nat × Char)
  | [] => none
  | c :: cs =>
    if here = target then some (offset, c)
    else find? target (here.advance c) (offset + c.utf8Size) cs

end Location

end MiniSql
