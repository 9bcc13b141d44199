/-!
# Double-precision numbers

A finite number of double precision is a signed whole multiple of the least positive one,
`2 ^ -1074`: a mantissa below `2 ^ 53` scaled by a power of two. The least scale belongs to
the small numbers, every other scale has a mantissa of full length, so that each number has
exactly one mantissa and one scale. The two zeros differ in their sign alone.

**Results.** Two finite numbers denote the same number exactly when they have equally many
units; a number equals an integer exactly when its units are that many whole ones.
-/

namespace MiniSql

/-- Units of `2 ^ -1074` in one. -/
def unitsPerOne : Nat := 1 <<< 1074

/-- The mantissas and scales in use: a full mantissa above the least scale. -/
def Binary64.Canonical (mantissa scale : Nat) : Prop :=
  mantissa < 1 <<< 53 ∧ scale ≤ 2045 ∧ (scale = 0 ∨ 1 <<< 52 ≤ mantissa)

instance (mantissa scale : Nat) : Decidable (Binary64.Canonical mantissa scale) :=
  inferInstanceAs (Decidable (_ ∧ _ ∧ _))

/-- A finite number: `mantissa * 2 ^ scale` units with a sign. -/
structure Binary64.Finite where
  negative : Bool
  mantissa : Nat
  scale : Nat
  canonical : Binary64.Canonical mantissa scale
deriving DecidableEq

/-- A number of double precision. -/
inductive Binary64 where
  | finite (x : Binary64.Finite)
  | infinite (negative : Bool)
  | notANumber
deriving DecidableEq

namespace Binary64

/-- Size in units. -/
def Finite.magnitude (x : Finite) : Nat :=
  x.mantissa <<< x.scale

/-- Signed size in units. -/
def Finite.units (x : Finite) : Int :=
  if x.negative then -(x.magnitude : Int) else x.magnitude

/-- The zero of a sign. -/
def zero (negative : Bool) : Binary64 :=
  .finite ⟨negative, 0, 0, by decide⟩

instance : Inhabited Binary64 := ⟨zero false⟩

/-- The number of opposite sign. -/
def neg : Binary64 → Binary64
  | .finite x => .finite { x with negative := !x.negative }
  | .infinite negative => .infinite (!negative)
  | .notANumber => .notANumber

/-- Neither an infinity nor the result of an undefined operation. -/
def isFinite : Binary64 → Bool
  | .finite _ => true
  | _ => false

/-- Two numbers denote the same number: the zeros are one number, and what is not a number
differs from everything. -/
def sameNumber : Binary64 → Binary64 → Bool
  | .finite x, .finite y => x.units == y.units
  | .infinite m, .infinite n => m == n
  | _, _ => false

/-- A number denotes the integer `i`. -/
def isInteger (x : Binary64) (i : Int) : Bool :=
  match x with
  | .finite x => x.units == i * unitsPerOne
  | _ => false

/-- Finite numbers are the same number exactly when they have equally many units. -/
@[simp] theorem sameNumber_finite (x y : Finite) :
    sameNumber (.finite x) (.finite y) = true ↔ x.units = y.units :=
  beq_iff_eq

/-- What is not a number is not even itself. -/
@[simp] theorem sameNumber_notANumber (x : Binary64) :
    sameNumber .notANumber x = false := by
  cases x <;> rfl

/-- Being an integer is counted in whole ones. -/
@[simp] theorem isInteger_finite (x : Finite) (i : Int) :
    isInteger (.finite x) i = true ↔ x.units = i * unitsPerOne :=
  beq_iff_eq

end Binary64

end MiniSql
