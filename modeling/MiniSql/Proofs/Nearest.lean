import Mathlib.Tactic.Ring
import MiniSql.Binary64.Shortest

/-!
# The nearest number of double precision

A fraction is read as the number of double precision that it is nearest to. The neighbours of a
number with a given scale are one step of that scale away, except that below a least full mantissa
the steps are half as long. A fraction that lies within half a step on either side of a number is
therefore rounded to it, and the number depends on nothing but the value of the fraction.

**Results.**
* `roundHalfEven_eq`: what is nearer than one half to a whole number is rounded to it.
* `Binary64.ofRatio_of_near`: a fraction near to a number is rounded to that number.
* `Binary64.ofRatio_eq_of_mul_eq`: equal fractions are rounded alike.
* `Binary64.ofDecimal_mul_tenTo`: a decimal with zeros at its end.
-/

namespace MiniSql

/-! ## Whole numbers -/

section Whole

variable {num den n : Nat}

theorem roundHalfEven_eq (hlow : 2 * (n * den) < 2 * num + den)
    (hhigh : 2 * num < 2 * (n * den) + den) : roundHalfEven num den = n := by
  have hden : 0 < den := by omega
  have hdiv : den * (num / den) + num % den = num := Nat.div_add_mod num den
  have hmod : num % den < den := Nat.mod_lt num hden
  obtain hq | hq : num / den = n ∨ num / den + 1 = n := by
    have hle : n ≤ num / den + 1 := by
      by_contra hgt
      have hmul : (num / den + 2) * den ≤ n * den := Nat.mul_le_mul_right den (by omega)
      rw [Nat.add_mul, Nat.mul_comm (num / den)] at hmul
      omega
    have hge : num / den ≤ n := by
      by_contra hlt
      have hmul : (n + 1) * den ≤ num / den * den := Nat.mul_le_mul_right den (by omega)
      rw [Nat.add_mul, Nat.mul_comm (num / den)] at hmul
      omega
    omega
  · have hrest : 2 * (num % den) < den := by
      rw [hq, Nat.mul_comm] at hdiv
      omega
    simp only [roundHalfEven, if_pos hrest, hq]
  · have hrest : den < 2 * (num % den) := by
      rw [← hq, Nat.add_mul, Nat.mul_comm (num / den)] at hlow
      omega
    simp only [roundHalfEven, if_neg (Nat.not_lt.mpr hrest.le), if_neg hrest.ne', hq]

theorem roundHalfEven_mul_mul (num den : Nat) {c : Nat} (hc : 0 < c) :
    roundHalfEven (num * c) (den * c) = roundHalfEven num den := by
  have hlt : 2 * (num % den * c) < den * c ↔ 2 * (num % den) < den := by
    rw [← Nat.mul_assoc]
    exact Nat.mul_lt_mul_right hc
  have heq : 2 * (num % den * c) = den * c ↔ 2 * (num % den) = den := by
    rw [← Nat.mul_assoc]
    exact Nat.mul_left_inj hc.ne'
  simp only [roundHalfEven, Nat.mul_div_mul_right _ _ hc, Nat.mul_mod_mul_right, hlt, heq]

end Whole

namespace Binary64

/-! ## Fractions -/

theorem unitsPerOne_pos : 0 < unitsPerOne := by
  rw [unitsPerOne, Nat.one_shiftLeft]
  exact Nat.two_pow_pos 1074

theorem ofRatio_mul_mul (negative : Bool) (num den : Nat) {c : Nat} (hc : 0 < c) :
    ofRatio negative (num * c) (den * c) = ofRatio negative num den := by
  have hunits : num * c * unitsPerOne = num * unitsPerOne * c := Nat.mul_right_comm ..
  have hshift : ∀ s, (den * c) <<< s = den <<< s * c := fun s => by
    rw [Nat.shiftLeft_eq, Nat.shiftLeft_eq, Nat.mul_right_comm]
  simp only [ofRatio, hunits, hshift, Nat.mul_div_mul_right _ _ hc, roundHalfEven_mul_mul _ _ hc]

/-- Equal fractions are rounded alike. -/
theorem ofRatio_eq_of_mul_eq (negative : Bool) {a b c d : Nat} (hb : 0 < b) (hd : 0 < d)
    (h : a * d = c * b) : ofRatio negative a b = ofRatio negative c d := by
  calc ofRatio negative a b
      = ofRatio negative (a * d) (b * d) := (ofRatio_mul_mul negative a b hd).symm
    _ = ofRatio negative (c * b) (d * b) := by rw [h, Nat.mul_comm b d]
    _ = ofRatio negative c d := ofRatio_mul_mul negative c d hb

namespace Finite

/-- A fraction lies nearer to a number than half a step of its scale; below a least full mantissa
the steps are half as long. -/
structure Near (x : Finite) (num den : Nat) : Prop where
  below : 2 * (x.magnitude * den) < 2 * (num * unitsPerOne) + 2 ^ x.scale * den
  above : 2 * (num * unitsPerOne) < 2 * (x.magnitude * den) + 2 ^ x.scale * den
  edge : x.mantissa = 2 ^ 52 →
    4 * (x.magnitude * den) < 4 * (num * unitsPerOne) + 2 ^ x.scale * den

theorem mantissa_lt (x : Finite) : x.mantissa < 2 ^ 53 :=
  x.canonical.1

theorem magnitude_eq (x : Finite) : x.magnitude = x.mantissa * 2 ^ x.scale :=
  Nat.shiftLeft_eq ..

theorem full_of_scale (x : Finite) (h : x.scale ≠ 0) : 2 ^ 52 ≤ x.mantissa :=
  x.canonical.2.2.resolve_left h

end Finite

theorem ofMantissa_of_canonical (x : Finite) :
    ofMantissa x.negative x.mantissa x.scale = .finite x := by
  have hne : x.mantissa ≠ 1 <<< 53 := (x.mantissa_lt).ne
  simp only [ofMantissa, if_neg hne, dif_pos x.canonical]

/-- A mantissa that was carried. -/
theorem ofMantissa_carried (x : Finite) {s : Nat} (hmantissa : x.mantissa = 2 ^ 52)
    (hscale : x.scale = s + 1) : ofMantissa x.negative (2 ^ 53) s = .finite x := by
  obtain ⟨negative, mantissa, scale, hcanonical⟩ := x
  obtain rfl : mantissa = 2 ^ 52 := hmantissa
  obtain rfl : scale = s + 1 := hscale
  have hcarried : (2 ^ 53 : Nat) = 1 <<< 53 := rfl
  simp only [ofMantissa, if_pos hcarried]
  exact dif_pos hcanonical

theorem scaleOf_eq {units s : Nat} (hlow : 2 ^ (52 + s) ≤ units) (hhigh : units < 2 ^ (53 + s)) :
    scaleOf units = s := by
  have hlog : units.log2 = 52 + s := by
    rw [Nat.log2_eq_iff (by have := Nat.two_pow_pos (52 + s); omega)]
    exact ⟨hlow, by rwa [Nat.add_right_comm]⟩
  rw [scaleOf, hlog]
  omega

theorem scaleOf_eq_zero {units : Nat} (h : units < 2 ^ 53) : scaleOf units = 0 := by
  by_cases hzero : units = 0
  · subst hzero
    rfl
  · have hlog : units.log2 < 53 := (Nat.log2_lt hzero).mpr h
    rw [scaleOf]
    omega

namespace Finite.Near

variable {x : Finite} {num den : Nat}

theorem den_pos (h : x.Near num den) : 0 < den := by
  have hbelow := h.below
  have habove := h.above
  refine Nat.pos_of_ne_zero fun hzero => ?_
  subst hzero
  omega

/-- The rounded mantissa at the number's own scale. -/
theorem roundHalfEven_eq (h : x.Near num den) :
    roundHalfEven (num * unitsPerOne) (den <<< x.scale) = x.mantissa := by
  have hstep : x.mantissa * (den <<< x.scale) = x.magnitude * den := by
    rw [Nat.shiftLeft_eq, x.magnitude_eq]
    ring
  have hshift : den <<< x.scale = 2 ^ x.scale * den := by
    rw [Nat.shiftLeft_eq, Nat.mul_comm]
  refine MiniSql.roundHalfEven_eq ?_ ?_
  · rw [hstep, hshift]
    exact h.below
  · rw [hstep, hshift]
    exact h.above

theorem lt_top (h : x.Near num den) :
    num * unitsPerOne < 2 ^ (53 + x.scale) * den := by
  have hmantissa : x.mantissa + 1 ≤ 2 ^ 53 := x.mantissa_lt
  have hmul : (x.mantissa + 1) * (2 ^ x.scale * den) ≤ 2 ^ 53 * (2 ^ x.scale * den) :=
    Nat.mul_le_mul_right _ hmantissa
  have hstep : 2 ^ (53 + x.scale) * den = 2 ^ 53 * (2 ^ x.scale * den) := by
    rw [Nat.pow_add, Nat.mul_assoc]
  have hmagnitude : x.magnitude * den = x.mantissa * (2 ^ x.scale * den) := by
    rw [x.magnitude_eq, Nat.mul_assoc]
  have habove := h.above
  rw [hmagnitude] at habove
  rw [hstep]
  rw [Nat.add_mul] at hmul
  omega

/-- A fraction that is smaller than every full mantissa at the number's scale: the number has the
least one. -/
theorem mantissa_of_lt (h : x.Near num den) (hscale : x.scale ≠ 0)
    (hlt : num * unitsPerOne < 2 ^ (52 + x.scale) * den) : x.mantissa = 2 ^ 52 := by
  have hfull := x.full_of_scale hscale
  by_contra hne
  have hmul : (2 ^ 52 + 1) * (2 ^ x.scale * den) ≤ x.mantissa * (2 ^ x.scale * den) :=
    Nat.mul_le_mul_right _ (by omega)
  have hstep : 2 ^ (52 + x.scale) * den = 2 ^ 52 * (2 ^ x.scale * den) := by
    rw [Nat.pow_add, Nat.mul_assoc]
  have hmagnitude : x.magnitude * den = x.mantissa * (2 ^ x.scale * den) := by
    rw [x.magnitude_eq, Nat.mul_assoc]
  have hbelow := h.below
  rw [hmagnitude] at hbelow
  rw [hstep] at hlt
  rw [Nat.add_mul] at hmul
  omega

end Finite.Near

/-- A fraction that is near to a number is rounded to it. -/
theorem ofRatio_of_near {x : Finite} {num den : Nat} (h : x.Near num den) :
    ofRatio x.negative num den = .finite x := by
  have hden := h.den_pos
  have htop : num * unitsPerOne / den < 2 ^ (53 + x.scale) :=
    (Nat.div_lt_iff_lt_mul hden).mpr h.lt_top
  -- At the number's own scale the mantissa is found at once.
  have hown (hscale : scaleOf (num * unitsPerOne / den) = x.scale) :
      ofRatio x.negative num den = .finite x := by
    simp only [ofRatio, hscale, h.roundHalfEven_eq]
    exact ofMantissa_of_canonical x
  by_cases hzero : x.scale = 0
  · refine hown ?_
    rw [hzero] at htop ⊢
    exact scaleOf_eq_zero htop
  · by_cases hfull : 2 ^ (52 + x.scale) * den ≤ num * unitsPerOne
    · exact hown (scaleOf_eq ((Nat.le_div_iff_mul_le hden).mpr hfull) htop)
    -- Just below a least full mantissa the scale is one less, and rounding carries.
    · obtain ⟨s, hs⟩ : ∃ s, x.scale = s + 1 := Nat.exists_eq_succ_of_ne_zero hzero
      have hlt := Nat.lt_of_not_ge hfull
      have hmantissa := h.mantissa_of_lt hzero hlt
      have hedge := h.edge hmantissa
      have hmagnitude : x.magnitude * den = 2 ^ 53 * (2 ^ s * den) := by
        rw [x.magnitude_eq, hmantissa, hs]
        ring
      have hunit : 2 ^ x.scale * den = 2 * (2 ^ s * den) := by
        rw [hs]
        ring
      have hupper : 2 ^ (52 + x.scale) * den = 2 ^ 53 * (2 ^ s * den) := by
        rw [hs]
        ring
      have hlower : 2 ^ (52 + s) * den = 2 ^ 52 * (2 ^ s * den) := by ring
      rw [hmagnitude, hunit] at hedge
      rw [hupper] at hlt
      have hscale : scaleOf (num * unitsPerOne / den) = s := by
        refine scaleOf_eq ?_ ?_
        · rw [Nat.le_div_iff_mul_le hden, hlower]
          omega
        · rw [Nat.div_lt_iff_lt_mul hden]
          have hpow : 2 ^ (53 + s) * den = 2 ^ 53 * (2 ^ s * den) := by ring
          rw [hpow]
          exact hlt
      have hround : roundHalfEven (num * unitsPerOne) (den <<< s) = 2 ^ 53 := by
        rw [Nat.shiftLeft_eq, Nat.mul_comm den]
        exact roundHalfEven_eq (by omega) (by omega)
      simp only [ofRatio, hscale, hround]
      exact ofMantissa_carried x hmantissa hs

/-! ## Decimals -/

theorem tenTo_eq (k : Nat) : tenTo k = 10 ^ k := rfl

theorem tenTo_pos (k : Nat) : 0 < tenTo k :=
  Nat.pow_pos (by decide)

theorem tenTo_add (a b : Nat) : tenTo (a + b) = tenTo a * tenTo b :=
  Nat.pow_add 10 a b

theorem toDigits_mul_tenTo {n : Nat} (hn : n ≠ 0) (k : Nat) :
    Nat.toDigits 10 (n * tenTo k) = Nat.toDigits 10 n ++ List.replicate k '0' := by
  induction k with
  | zero => simp [tenTo_eq]
  | succ k ih =>
      have hpos : 0 < n * tenTo k := Nat.mul_pos (Nat.pos_of_ne_zero hn) (tenTo_pos k)
      have hnext : n * tenTo (k + 1) = 10 * (n * tenTo k) + 0 := by
        rw [tenTo_eq, tenTo_eq]
        ring
      have happend := Nat.toDigits_append_toDigits (by decide : 1 < 10) hpos (by decide : 0 < 10)
      rw [hnext, ← happend, ih, Nat.toDigits_zero, List.append_assoc, List.replicate_succ']

/-- A decimal within reach is a fraction. -/
theorem ofDecimal_of_reach (negative : Bool) {digits : Nat} {exponent : Int} (hdigits : digits ≠ 0)
    (hlow : -decimalReach ≤ exponent + (Nat.toDigits 10 digits).length)
    (hhigh : exponent + (Nat.toDigits 10 digits).length ≤ decimalReach) :
    ofDecimal negative digits exponent =
      ofRatio negative (digits * tenTo exponent.toNat) (tenTo (-exponent).toNat) := by
  simp only [ofDecimal]
  rw [if_neg (by omega), if_neg (by omega)]

/-- Zeros at the end of the digits count like powers of ten. -/
theorem ofDecimal_mul_tenTo (negative : Bool) (digits k : Nat) (exponent : Int) :
    ofDecimal negative (digits * tenTo k) exponent = ofDecimal negative digits (exponent + k) := by
  by_cases hzero : digits = 0
  · subst hzero
    rw [Nat.zero_mul, ofDecimal_zero, ofDecimal_zero]
  have hne : digits * tenTo k ≠ 0 := Nat.mul_ne_zero hzero (tenTo_pos k).ne'
  have hplace : exponent + ((Nat.toDigits 10 (digits * tenTo k)).length : Int) =
      exponent + k + (Nat.toDigits 10 digits).length := by
    rw [toDigits_mul_tenTo hzero, List.length_append, List.length_replicate]
    omega
  have hratio : ofRatio negative (digits * tenTo k * tenTo exponent.toNat)
        (tenTo (-exponent).toNat) =
      ofRatio negative (digits * tenTo (exponent + k).toNat) (tenTo (-(exponent + k)).toNat) := by
    refine ofRatio_eq_of_mul_eq negative (tenTo_pos _) (tenTo_pos _) ?_
    have hexponents : k + exponent.toNat + (-(exponent + k)).toNat =
        (exponent + k).toNat + (-exponent).toNat := by omega
    simp only [tenTo_eq, Nat.mul_assoc, ← Nat.pow_add]
    rw [hexponents]
  simp only [ofDecimal, hplace, hratio, hzero, hne]

end Binary64

end MiniSql
