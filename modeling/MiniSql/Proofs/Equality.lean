import Mathlib.Algebra.Order.Field.Rat
import Mathlib.Tactic.Ring
import MiniSql.Proofs.Nearest
import MiniSql.Proofs.Writes

/-!
# Equality of values

A finite number of double precision is a rational number, and so is an integer. Two values are equal
when they stand for the same thing, be it a rational number, an infinity, a text or `NULL`; what is
not a number stands for nothing. So equality is symmetric and transitive without exception, and
reflexive with the one exception of what is not a number.

An integer and a number of double precision may also be compared by conversion: the number has no
fractional part, lies in the range of the integers, and is converted to the integer. The ends of
the range are themselves numbers of double precision. The least integer is one of them; the
greatest is not, and is rounded to the next power of two, which the range leaves out. Converting
therefore decides the same as comparing exactly.

**Results.**
* `Finite.toRat_eq`: a finite number is its units divided by the units in one.
* `Value.beq_eq_true_iff`: equal values are those that stand for the same thing.
* `Binary64.convertsTo_eq`: comparing by conversion is comparing exactly.
* `Value.beq_exact`: equality of values is identity of numbers.
-/

namespace MiniSql

namespace Binary64

/-! ## Rational numbers -/

/-- The rational number that a finite number is: mantissa and power of two, with its sign. -/
def Finite.toRat (x : Finite) : ℚ :=
  (if x.negative then -1 else 1) * x.mantissa * 2 ^ ((x.scale : ℤ) - 1074)

theorem cast_one_shiftLeft (n : ℕ) : ((1 <<< n : ℕ) : ℚ) = 2 ^ (n : ℤ) := by
  rw [Nat.one_shiftLeft, Nat.cast_pow, Nat.cast_two, zpow_natCast]

theorem cast_unitsPerOne : (unitsPerOne : ℚ) = 2 ^ (1074 : ℤ) :=
  cast_one_shiftLeft 1074

theorem unitsPerOne_ne_zero : (unitsPerOne : ℚ) ≠ 0 :=
  Nat.cast_ne_zero.mpr unitsPerOne_pos.ne'

theorem Finite.cast_units (x : Finite) :
    (x.units : ℚ) = (if x.negative then -1 else 1) * x.mantissa * 2 ^ (x.scale : ℤ) := by
  rw [units, magnitude_eq, zpow_natCast]
  split <;> push_cast <;> ring

/-- A finite number is its units divided by the units in one. -/
theorem Finite.toRat_eq (x : Finite) : x.toRat = x.units / unitsPerOne := by
  rw [toRat, cast_units, cast_unitsPerOne, zpow_sub₀ two_ne_zero, mul_div_assoc]

theorem Finite.toRat_eq_toRat_iff (x y : Finite) : x.toRat = y.toRat ↔ x.units = y.units := by
  rw [toRat_eq, toRat_eq, div_left_inj' unitsPerOne_ne_zero, Int.cast_inj]

theorem Finite.toRat_eq_cast_iff (x : Finite) (i : Int) :
    x.toRat = i ↔ x.units = i * unitsPerOne := by
  rw [toRat_eq, div_eq_iff unitsPerOne_ne_zero, ← Int.cast_natCast, ← Int.cast_mul, Int.cast_inj]

/-! ## Conversion to integers -/

/-- The order of numbers; what is not a number is neither below nor above. -/
def less : Binary64 → Binary64 → Bool
  | .finite x, .finite y => x.units < y.units
  | .infinite negative, .finite _ => negative
  | .finite _, .infinite negative => !negative
  | .infinite m, .infinite n => m && !n
  | _, _ => false

/-- A number without a fractional part; infinities have none to compare with zero. -/
def isWhole : Binary64 → Bool
  | .finite x => x.units.tmod unitsPerOne == 0
  | _ => false

/-- A number in the range of the integers, whose ends are rounded to double precision. The upper end
is left out. -/
def inRange (x : Binary64) : Bool :=
  ((ofInt Int64.minValue.toInt).less x || (ofInt Int64.minValue.toInt).sameNumber x) &&
    x.less (ofInt Int64.maxValue.toInt)

/-- The integer that a number is converted to: its whole part, toward zero, or the end of the range
that is nearest to it. What is not a number becomes zero. -/
def toInt64 : Binary64 → Int64
  | .finite x =>
    .ofInt (max Int64.minValue.toInt (min Int64.maxValue.toInt (x.units.tdiv unitsPerOne)))
  | .infinite negative => if negative then Int64.minValue else Int64.maxValue
  | .notANumber => 0

/-- Comparison by conversion: a whole number in range that is converted to the integer. -/
def convertsTo (x : Binary64) (i : Int64) : Bool :=
  x.isWhole && x.inRange && x.toInt64 == i

/-- The least integer is a number of double precision. -/
theorem exists_ofInt_minValue : ∃ x : Finite, ofInt Int64.minValue.toInt = .finite x ∧
    x.units = -9223372036854775808 * unitsPerOne :=
  ⟨⟨true, 1 <<< 52, 1085, by decide⟩, by decide +kernel, by decide +kernel⟩

/-- The greatest integer is rounded up to the next power of two. -/
theorem exists_ofInt_maxValue : ∃ x : Finite, ofInt Int64.maxValue.toInt = .finite x ∧
    x.units = 9223372036854775808 * unitsPerOne :=
  ⟨⟨false, 1 <<< 52, 1085, by decide⟩, by decide +kernel, by decide +kernel⟩

theorem inRange_finite (x : Finite) : inRange (.finite x) = true ↔
    -9223372036854775808 * unitsPerOne ≤ x.units ∧
      x.units < 9223372036854775808 * unitsPerOne := by
  obtain ⟨least, hleast, hunits⟩ := exists_ofInt_minValue
  obtain ⟨greatest, hgreatest, hunits'⟩ := exists_ofInt_maxValue
  rw [inRange, hleast, hgreatest, Bool.and_eq_true, Bool.or_eq_true, sameNumber_finite,
    le_iff_lt_or_eq]
  simp only [less, decide_eq_true_eq, hunits, hunits']

theorem toInt_toInt64 {x : Finite} {whole : Int} (hunits : x.units = whole * unitsPerOne)
    (hleast : -9223372036854775808 ≤ whole) (hgreatest : whole < 9223372036854775808) :
    (toInt64 (.finite x)).toInt = whole := by
  have hone : (unitsPerOne : Int) ≠ 0 := Int.natCast_ne_zero.mpr unitsPerOne_pos.ne'
  have hclamp : max Int64.minValue.toInt (min Int64.maxValue.toInt whole) = whole := by
    rw [Int64.toInt_minValue, Int64.toInt_maxValue]
    omega
  rw [toInt64, hunits, Int.mul_tdiv_cancel whole hone, hclamp]
  exact Int64.toInt_ofInt_of_le hleast hgreatest

/-- A whole number is as many units as its whole part has; in range, the whole part is the integer
that it is converted to. -/
theorem convertsTo_finite (x : Finite) (i : Int64) :
    convertsTo (.finite x) i = true ↔ x.units = i.toInt * unitsPerOne := by
  have hone : (0 : Int) < unitsPerOne := Int.natCast_pos.mpr unitsPerOne_pos
  rw [convertsTo, Bool.and_eq_true, Bool.and_eq_true, inRange_finite, beq_iff_eq]
  constructor
  · rintro ⟨⟨hwhole, hleast, hgreatest⟩, hconverted⟩
    rw [isWhole, beq_iff_eq] at hwhole
    have hunits : x.units = x.units.tdiv unitsPerOne * unitsPerOne :=
      (Int.tdiv_mul_cancel_of_tmod_eq_zero hwhole).symm
    rw [hunits] at hleast hgreatest
    have htoInt := toInt_toInt64 hunits (le_of_mul_le_mul_right hleast hone)
      (lt_of_mul_lt_mul_right hgreatest hone.le)
    rw [← hconverted, htoInt, ← hunits]
  · intro hunits
    have hleast : -9223372036854775808 ≤ i.toInt := i.le_toInt
    have hgreatest : i.toInt < 9223372036854775808 := i.toInt_lt
    refine ⟨⟨?_, ?_⟩, Int64.toInt_inj.mp (toInt_toInt64 hunits hleast hgreatest)⟩
    · rw [isWhole, beq_iff_eq, hunits, Int.mul_tmod_left]
    · rw [hunits]
      exact ⟨mul_le_mul_of_nonneg_right hleast hone.le, mul_lt_mul_of_pos_right hgreatest hone⟩

/-- Comparing by conversion is comparing exactly. -/
theorem convertsTo_eq (x : Binary64) (i : Int64) : x.convertsTo i = x.isInteger i.toInt := by
  cases x with
  | finite x => rw [Bool.eq_iff_iff, convertsTo_finite, isInteger_finite]
  | infinite negative => rfl
  | notANumber => rfl

end Binary64

/-! ## What values stand for -/

/-- What a value may stand for. -/
inductive Meaning where
  | null
  | number (q : ℚ)
  | infinity (negative : Bool)
  | text (s : String)

/-- What a number of double precision stands for; what is not a number stands for nothing. -/
def Binary64.meaning? : Binary64 → Option Meaning
  | .finite x => some (.number x.toRat)
  | .infinite negative => some (.infinity negative)
  | .notANumber => none

namespace Value

/-- What a value stands for. -/
def meaning? : Value → Option Meaning
  | null => some .null
  | integer i => some (.number i.toInt)
  | real x => x.meaning?
  | text s => some (.text s)

/-- The rational number that a value is: an integer, or a finite number of double precision. -/
def rational? : Value → Option ℚ
  | integer i => some i.toInt
  | real (.finite x) => some x.toRat
  | _ => none

theorem rational?_eq_some_iff (v : Value) (q : ℚ) :
    v.rational? = some q ↔ v.meaning? = some (.number q) := by
  cases v with
  | real x => cases x <;> simp [rational?, meaning?, Binary64.meaning?]
  | _ => simp [rational?, meaning?]

/-- Only what is not a number stands for nothing. -/
theorem meaning?_eq_none_iff (v : Value) : v.meaning? = none ↔ v = real .notANumber := by
  cases v with
  | real x => cases x <;> simp [meaning?, Binary64.meaning?]
  | _ => simp [meaning?]

theorem sameNumber_eq_true_iff (x y : Binary64) :
    x.sameNumber y = true ↔ ∃ m, x.meaning? = some m ∧ y.meaning? = some m := by
  cases x with
  | finite x =>
      cases y with
      | finite y =>
          simp only [Binary64.sameNumber_finite, ← Binary64.Finite.toRat_eq_toRat_iff,
            Binary64.meaning?, Option.some.injEq, exists_eq_left', Meaning.number.injEq]
          exact eq_comm
      | _ => simp [Binary64.sameNumber, Binary64.meaning?]
  | infinite m =>
      cases y with
      | infinite n =>
          simp only [Binary64.sameNumber, beq_iff_eq, Binary64.meaning?, Option.some.injEq,
            exists_eq_left', Meaning.infinity.injEq]
          exact eq_comm
      | _ => simp [Binary64.sameNumber, Binary64.meaning?]
  | notANumber => simp [Binary64.meaning?]

theorem isInteger_eq_true_iff (x : Binary64) (i : Int) :
    x.isInteger i = true ↔ x.meaning? = some (.number i) := by
  cases x with
  | finite x => simp [Binary64.meaning?, Binary64.Finite.toRat_eq_cast_iff]
  | _ => simp [Binary64.isInteger, Binary64.meaning?]

/-- Equal values are those that stand for the same thing. -/
theorem beq_eq_true_iff (v w : Value) :
    (v == w) = true ↔ ∃ m, v.meaning? = some m ∧ w.meaning? = some m := by
  change equal v w = true ↔ _
  cases v with
  | null =>
      cases w with
      | real y => cases y <;> simp [equal, meaning?, Binary64.meaning?]
      | _ => simp [equal, meaning?]
  | integer i =>
      cases w with
      | integer j =>
          simp only [equal, beq_iff_eq, meaning?, Option.some.injEq, exists_eq_left',
            Meaning.number.injEq, Int.cast_inj, Int64.toInt_inj]
          exact eq_comm
      | real y => simp [equal, meaning?, isInteger_eq_true_iff]
      | _ => simp [equal, meaning?]
  | real x =>
      cases w with
      | real y => exact sameNumber_eq_true_iff x y
      | integer j => simp [equal, meaning?, isInteger_eq_true_iff]
      | _ => cases x <;> simp [equal, meaning?, Binary64.meaning?]
  | text s =>
      cases w with
      | text t =>
          simp only [equal, beq_iff_eq, meaning?, Option.some.injEq, exists_eq_left',
            Meaning.text.injEq]
          exact eq_comm
      | real y => cases y <;> simp [equal, meaning?, Binary64.meaning?]
      | _ => simp [equal, meaning?]

/-! ## Equality -/

theorem beq_symm (v w : Value) : (v == w) = (w == v) := by
  rw [Bool.eq_iff_iff, beq_eq_true_iff, beq_eq_true_iff]
  simp only [and_comm]

theorem beq_trans {u v w : Value} (huv : (u == v) = true) (hvw : (v == w) = true) :
    (u == w) = true := by
  obtain ⟨m, hu, hv⟩ := (beq_eq_true_iff u v).mp huv
  obtain ⟨n, hv', hw⟩ := (beq_eq_true_iff v w).mp hvw
  obtain rfl : m = n := Option.some.inj (hv.symm.trans hv')
  exact (beq_eq_true_iff u w).mpr ⟨m, hu, hw⟩

theorem beq_self_iff (v : Value) : (v == v) = true ↔ v ≠ real .notANumber := by
  rw [beq_eq_true_iff, ne_eq, ← meaning?_eq_none_iff, ← ne_eq, Option.ne_none_iff_exists']
  simp only [and_self]

/-- A value that is a rational number equals the values that are the same number. -/
theorem beq_iff_rational? {v : Value} {q : ℚ} (hv : v.rational? = some q) (w : Value) :
    (v == w) = true ↔ w.rational? = some q := by
  rw [rational?_eq_some_iff] at hv ⊢
  simp [beq_eq_true_iff, hv]

theorem beq_integer_real_iff (i : Int64) (x : Binary64) :
    (integer i == real x) = true ↔ ∃ y : Binary64.Finite, x = .finite y ∧ y.toRat = i.toInt := by
  rw [beq_iff_rational? rfl]
  cases x <;> simp [rational?]

/-- Equal values are of one kind. -/
theorem kind_of_beq {v w : Value} (h : (v == w) = true) :
    v.isNull = w.isNull ∧ v.number?.isSome = w.number?.isSome ∧ v.text? = w.text? := by
  change equal v w = true at h
  cases v <;> cases w <;> simp_all [equal, isNull, number?, text?]

end Value

/-- Equality of values is identity of numbers. It is symmetric and transitive, and reflexive but for
what is not a number. A value that is a rational number, an integer or a finite number of double
precision, equals exactly the values that are the same rational number; an integer and a number of
double precision are compared without rounding, and in the same way when the number is converted to
an integer. `NULL`, numbers and texts never equal one another, and of distinct integers one at most
equals a value. -/
theorem Value.beq_exact :
    (∀ v w : Value, (v == w) = (w == v)) ∧
    (∀ u v w : Value, (u == v) = true → (v == w) = true → (u == w) = true) ∧
    (∀ v : Value, (v == v) = true ↔ v ≠ real .notANumber) ∧
    (∀ (v w : Value) (q : ℚ), v.rational? = some q →
      ((v == w) = true ↔ w.rational? = some q)) ∧
    (∀ (i : Int64) (x : Binary64),
      ((integer i == real x) = true ↔
        ∃ y : Binary64.Finite, x = .finite y ∧ y.toRat = i.toInt) ∧
      (integer i == real x) = x.convertsTo i) ∧
    (∀ v w : Value, (v == w) = true →
      v.isNull = w.isNull ∧ v.number?.isSome = w.number?.isSome ∧ v.text? = w.text?) ∧
    ∀ (v : Value) (is : List Int64), is.Nodup → is.countP (integer · == v) ≤ 1 := by
  refine ⟨beq_symm, fun _ _ _ => beq_trans, beq_self_iff, fun _ w _ hv => beq_iff_rational? hv w,
    fun i x => ⟨beq_integer_real_iff i x, (x.convertsTo_eq i).symm⟩, fun _ _ => kind_of_beq, ?_⟩
  intro v is hdistinct
  refine countP_le_one_of_pairwise (hdistinct.imp ?_)
  intro i j hne hi hj
  exact hne (eq_of_beq_integer hi hj)

/-- Both zeros of double precision are the integer zero. The least integer is rounded to itself, and
the greatest to a number that no integer of 64 bits equals. -/
theorem Value.beq_exact_of_bounds :
    let least := real (.ofInt Int64.minValue.toInt)
    let beyond := real (.ofInt Int64.maxValue.toInt)
    let bounds := [Int64.minValue, 0, Int64.maxValue]
    (integer 0).rational? = some 0 ∧ (real (.zero true)).rational? = some 0 ∧
      (integer 0 == real (.zero true)) = true ∧
      (real (.zero true) == real (.zero false)) = true ∧
      (integer 0 == real (.zero false)) = true ∧
      (integer .minValue == least) = true ∧ (integer .maxValue == beyond) = false ∧
      bounds.Nodup ∧ bounds.countP (integer · == least) ≤ 1 := by
  intro least beyond bounds
  obtain ⟨-, htrans, -, hnumber, -, -, hone⟩ := beq_exact
  have hinteger : (integer 0).rational? = some 0 := by simp [rational?]
  have hzero : (real (.zero true)).rational? = some 0 := by
    simp [rational?, Binary64.zero, Binary64.Finite.toRat]
  have hnegative := (hnumber (integer 0) (real (.zero true)) 0 hinteger).mpr hzero
  have hzeros : (real (.zero true) == real (.zero false)) = true := by decide
  have hdistinct : bounds.Nodup := by decide
  exact ⟨hinteger, hzero, hnegative, hzeros, htrans _ _ _ hnegative hzeros, by decide +kernel,
    by decide +kernel, hdistinct, hone least bounds hdistinct⟩

end MiniSql
