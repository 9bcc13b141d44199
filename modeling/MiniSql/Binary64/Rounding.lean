import MiniSql.Binary64.Basic

/-!
# Rounding to double precision

The number of double precision nearest to a fraction, a tie going to the even mantissa. The
scale is chosen so that the rounded mantissa has at most 53 binary digits; a mantissa that
rounding carries to `2 ^ 53` moves on to the next scale, and a scale beyond the greatest one
overflows to infinity.

Whole numbers and decimals are fractions, so each is rounded once and correctly.
-/

namespace MiniSql

/-- The whole number nearest to `num / den`, a tie going to the even one. -/
def roundHalfEven (num den : Nat) : Nat :=
  let whole := num / den
  let rest := 2 * (num % den)
  if rest < den then whole
  else if rest = den then whole + whole % 2
  else whole + 1

/-- An exact quotient is its own rounding. -/
theorem roundHalfEven_mul (n : Nat) {den : Nat} (h : 0 < den) :
    roundHalfEven (n * den) den = n := by
  simp [roundHalfEven, Nat.mul_div_cancel n h, h]

namespace Binary64

/-- The number with a mantissa of at most `2 ^ 53` at a scale; infinity when the scale is
beyond the greatest one. -/
def ofMantissa (negative : Bool) (mantissa scale : Nat) : Binary64 :=
  let carried := mantissa = 1 <<< 53
  let mantissa' := if carried then 1 <<< 52 else mantissa
  let scale' := if carried then scale + 1 else scale
  if h : Canonical mantissa' scale' then .finite ⟨negative, mantissa', scale', h⟩
  else .infinite negative

/-- The scale at which a size of that many whole units has a mantissa of 53 digits. -/
def scaleOf (units : Nat) : Nat :=
  units.log2 - 52

/-- The number nearest to `num / den`, with the given sign. -/
def ofRatio (negative : Bool) (num den : Nat) : Binary64 :=
  let units := num * unitsPerOne
  let scale := scaleOf (units / den)
  ofMantissa negative (roundHalfEven units (den <<< scale)) scale

/-- The number nearest to an integer. -/
def ofInt (i : Int) : Binary64 :=
  ofRatio (decide (i < 0)) i.natAbs 1

/-- A power of ten. -/
def tenTo (exponent : Nat) : Nat :=
  Nat.pow 10 exponent

/-- Decimal exponents beyond which every decimal overflows or vanishes. -/
def decimalReach : Int := 400

/-- The number nearest to `digits * 10 ^ exponent`, with the given sign. A decimal far
outside the range is decided by the place of its first digit alone. -/
def ofDecimal (negative : Bool) (digits : Nat) (exponent : Int) : Binary64 :=
  let place := exponent + (Nat.toDigits 10 digits).length
  if digits = 0 ∨ place < -decimalReach then zero negative
  else if decimalReach < place then .infinite negative
  else ofRatio negative (digits * tenTo exponent.toNat) (tenTo (-exponent).toNat)

@[simp] theorem ofDecimal_zero (negative : Bool) (exponent : Int) :
    ofDecimal negative 0 exponent = zero negative := by
  simp [ofDecimal]

end Binary64

end MiniSql
