import MiniSql.Json.Writer
import MiniSql.Literal

/-!
# Values

The values held by rows and bound to parameters: `NULL`, integers of 64 bits, numbers of
double precision and texts. Truth values are stored as the integers one and zero.

Two values are equal when they are the same text, both `NULL`, or denote the same number,
whichever way the number is stored. No rounding takes part in the comparison.

**Results.** When two values of each pair of kinds are equal.
-/

namespace MiniSql

/-- A value of a row or parameter. -/
inductive Value where
  | null
  | integer (i : Int64)
  | real (x : Binary64)
  | text (s : String)
deriving DecidableEq

namespace Value

instance : Inhabited Value := ⟨null⟩

/-- The value of a truth value. -/
def ofBool (b : Bool) : Value :=
  integer (if b then 1 else 0)

/-- The value of an integer, exact when it fits 64 bits and the nearest number of double
precision otherwise. -/
def ofInt (i : Int) : Value :=
  if Int64.minValue.toInt ≤ i ∧ i ≤ Int64.maxValue.toInt then integer (.ofInt i)
  else real (.ofInt i)

/-- The value of a literal. -/
def ofLiteral : Literal → Value
  | .null => null
  | .integer i => integer i
  | .real x => real x
  | .text s => text s

/-- The value of something that may be absent: `NULL` when it is. -/
def ofOption {α : Type} (f : α → Value) : Option α → Value
  | some a => f a
  | none => null

/-- The value is `NULL`. -/
def isNull : Value → Bool
  | null => true
  | _ => false

/-- The integer of an integer value. -/
def integer? : Value → Option Int64
  | integer i => some i
  | _ => none

/-- A numeric value as a number of double precision; an integer is rounded to the nearest. -/
def number? : Value → Option Binary64
  | integer i => some (.ofInt i.toInt)
  | real x => some x
  | _ => none

/-- The text of a text value. -/
def text? : Value → Option String
  | text s => some s
  | _ => none

/-- The name of a value's kind. -/
def typeName : Value → String
  | null => "null"
  | integer _ => "integer"
  | real _ => "real"
  | text _ => "text"

/-- The text of a value as shown to a reader. -/
def display : Value → String
  | null => "NULL"
  | integer i => i.toInt.repr
  | real x => x.display
  | text s => s

/-- The JSON text of a value. -/
def toJson : Value → String
  | null => "null"
  | integer i => Json.integer i.toInt
  | real x => Json.real x
  | text s => Json.string s

/-- Equality of values. -/
def equal : Value → Value → Bool
  | null, null => true
  | integer i, integer j => i == j
  | real x, real y => x.sameNumber y
  | text s, text t => s == t
  | integer i, real x => x.isInteger i.toInt
  | real x, integer i => x.isInteger i.toInt
  | _, _ => false

instance : BEq Value := ⟨equal⟩

@[simp] theorem beq_null (v : Value) : (v == null) = v.isNull := by
  cases v <;> rfl

@[simp] theorem beq_integer (i j : Int64) : (integer i == integer j) = (i == j) := rfl

@[simp] theorem beq_text (s t : String) : (text s == text t) = (s == t) := rfl

@[simp] theorem beq_real (x y : Binary64) : (real x == real y) = x.sameNumber y := rfl

@[simp] theorem beq_integer_real (i : Int64) (x : Binary64) :
    (integer i == real x) = x.isInteger i.toInt := rfl

@[simp] theorem beq_real_integer (i : Int64) (x : Binary64) :
    (real x == integer i) = x.isInteger i.toInt := rfl

end Value

end MiniSql
