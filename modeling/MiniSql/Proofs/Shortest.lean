import MiniSql.Proofs.Nearest

/-!
# Shortest decimals read back

Seventeen digits always tell a number of double precision. On the decimal grid with so many digits
a step is less than the distance between the points where rounding goes over to the neighbours of
the number. One of the two decimals next to the number is therefore rounded to it, so that the
search for the shortest decimal ends with a hit.

**Results.**
* `Binary64.Finite.steps_bounds`: a number in steps of its seventeenth digit.
* `Binary64.Finite.isSome_onGrid`: the search has a hit at seventeen digits.
* `Binary64.Finite.shortest_reads`: the shortest decimal reads back.
-/

namespace MiniSql.Binary64

/-! ## The place of the first digit -/

/-- Bounds of the number of digits that a whole number has. -/
theorem toDigits_bounds {n : Nat} (hn : n ≠ 0) :
    10 ^ ((Nat.toDigits 10 n).length - 1) ≤ n ∧ n < 10 ^ (Nat.toDigits 10 n).length := by
  have hpos : 0 < (Nat.toDigits 10 n).length := Nat.length_toDigits_pos
  refine ⟨?_, (Nat.length_toDigits_le_iff (by decide) hpos).mp le_rfl⟩
  by_cases hone : (Nat.toDigits 10 n).length = 1
  · rw [hone]
    exact Nat.pos_of_ne_zero hn
  · by_contra hlt
    have hle := (Nat.length_toDigits_le_iff (by decide) (by omega)).mpr (Nat.lt_of_not_ge hlt)
    omega

namespace Finite

section Places

variable {x : Finite}

/-- The places up to the first digit, counted from the smallest decimal in reach. -/
def places (x : Finite) : Nat :=
  (Nat.toDigits 10 (x.magnitude * tenTo 400 / unitsPerOne)).length

theorem place_eq (x : Finite) : x.place = (x.places : Int) - 401 := rfl

theorem magnitude_le (x : Finite) {s : Nat} (hs : 2045 ≤ s) : x.magnitude ≤ 2 ^ 53 * 2 ^ s := by
  have hscale : x.scale ≤ s := x.canonical.2.1.trans hs
  rw [x.magnitude_eq]
  exact Nat.mul_le_mul x.mantissa_lt.le (Nat.pow_le_pow_right (by decide) hscale)

/-- The least number is not too small for the places counted, and the greatest not too great. -/
theorem reach_bounds :
    tenTo 76 * unitsPerOne ≤ tenTo 400 ∧
    2 ^ 53 * 2 ^ 2045 * tenTo 400 < tenTo 709 * unitsPerOne := by
  decide +kernel

theorem length_toDigits_le_iff {n k : Nat} (hk : 0 < k) :
    (Nat.toDigits 10 n).length ≤ k ↔ n < tenTo k :=
  Nat.length_toDigits_le_iff (by decide) hk

/-- The places of a number that is not zero, and what they say about its size. -/
theorem places_bounds (h : x.magnitude ≠ 0) :
    77 ≤ x.places ∧ x.places ≤ 709 ∧
    tenTo (x.places - 1) * unitsPerOne ≤ x.magnitude * tenTo 400 ∧
    x.magnitude * tenTo 400 < tenTo x.places * unitsPerOne := by
  obtain ⟨hleast, hgreatest⟩ := reach_bounds
  have hleast : tenTo 76 * unitsPerOne ≤ x.magnitude * tenTo 400 :=
    hleast.trans (Nat.le_mul_of_pos_left _ (Nat.pos_of_ne_zero h))
  have hgreatest : x.magnitude * tenTo 400 < tenTo 709 * unitsPerOne :=
    (Nat.mul_le_mul_right _ (x.magnitude_le le_rfl)).trans_lt hgreatest
  have hlow : tenTo 76 ≤ x.magnitude * tenTo 400 / unitsPerOne :=
    (Nat.le_div_iff_mul_le unitsPerOne_pos).mpr hleast
  have hhigh : x.magnitude * tenTo 400 / unitsPerOne < tenTo 709 :=
    (Nat.div_lt_iff_lt_mul unitsPerOne_pos).mpr hgreatest
  have hne : x.magnitude * tenTo 400 / unitsPerOne ≠ 0 :=
    ((tenTo_pos 76).trans_le hlow).ne'
  obtain ⟨hfirst, hlast⟩ := toDigits_bounds hne
  refine ⟨?_, (length_toDigits_le_iff (by decide)).mpr hhigh,
    (Nat.le_div_iff_mul_le unitsPerOne_pos).mp hfirst,
    (Nat.div_lt_iff_lt_mul unitsPerOne_pos).mp hlast⟩
  by_contra hlt
  have hfew := (length_toDigits_le_iff (by decide)).mp (Nat.le_of_lt_succ (Nat.not_le.mp hlt))
  exact absurd hlow (Nat.not_le.mpr hfew)

/-! ## Seventeen digits -/

section Scaled

variable {t p q a b u m : Nat}

/-- A bound in one scale is one in another. -/
theorem le_of_scaled (ht : 0 < t) (h : p * b = t * (q * a)) (hle : p * u ≤ m * t) :
    q * (u * a) ≤ m * b := by
  refine Nat.le_of_mul_le_mul_left ?_ ht
  calc t * (q * (u * a))
      = p * b * u := by rw [h]; ring
    _ = p * u * b := Nat.mul_right_comm ..
    _ ≤ m * t * b := Nat.mul_le_mul_right b hle
    _ = t * (m * b) := by ring

theorem lt_of_scaled (hb : 0 < b) (h : p * b = t * (q * a)) (hlt : m * t < p * u) :
    m * b < q * (u * a) := by
  suffices hscaled : t * (m * b) < t * (q * (u * a)) from Nat.lt_of_mul_lt_mul_left hscaled
  calc t * (m * b)
      = m * t * b := by ring
    _ < p * u * b := Nat.mul_lt_mul_of_pos_right hlt hb
    _ = p * b * u := Nat.mul_right_comm ..
    _ = t * (q * (u * a)) := by rw [h]; ring

end Scaled

theorem inSteps_place (x : Finite) :
    x.inSteps (x.place - 16) =
      (x.magnitude * tenTo (417 - x.places), unitsPerOne * tenTo (x.places - 417)) := by
  have hdown : (-(x.place - 16)).toNat = 417 - x.places := by
    rw [place_eq]
    omega
  have hup : (x.place - 16).toNat = x.places - 417 := by
    rw [place_eq]
    omega
  rw [inSteps, hdown, hup]

/-- In steps of the seventeenth digit a number has seventeen digits before the point. -/
theorem steps_bounds (h : x.magnitude ≠ 0) :
    tenTo 16 * (unitsPerOne * tenTo (x.places - 417)) ≤ x.magnitude * tenTo (417 - x.places) ∧
    x.magnitude * tenTo (417 - x.places) <
      tenTo 17 * (unitsPerOne * tenTo (x.places - 417)) := by
  obtain ⟨hleast, -, hlow, hhigh⟩ := places_bounds h
  have hfirst : tenTo (x.places - 1) * tenTo (417 - x.places) =
      tenTo 400 * (tenTo 16 * tenTo (x.places - 417)) := by
    rw [← tenTo_add, ← tenTo_add, ← tenTo_add]
    exact congrArg tenTo (by omega)
  have hlast : tenTo x.places * tenTo (417 - x.places) =
      tenTo 400 * (tenTo 17 * tenTo (x.places - 417)) := by
    rw [← tenTo_add, ← tenTo_add, ← tenTo_add]
    exact congrArg tenTo (by omega)
  exact ⟨le_of_scaled (tenTo_pos 400) hfirst hlow,
    lt_of_scaled (tenTo_pos (417 - x.places)) hlast hhigh⟩

/-! ## The neighbours on a grid -/

/-- One step of the number's scale, measured like the number in steps of a decimal grid. -/
def gap (x : Finite) (step : Int) : Nat :=
  2 ^ x.scale * tenTo (-step).toNat

variable {step : Int} {num den : Nat}

theorem inSteps_num (h : x.inSteps step = (num, den)) : num = x.mantissa * x.gap step := by
  obtain ⟨rfl, -⟩ := Prod.mk.inj h
  rw [x.magnitude_eq, gap, Nat.mul_assoc]

theorem inSteps_den (h : x.inSteps step = (num, den)) (digits : Nat) :
    digits * tenTo step.toNat * unitsPerOne = digits * den := by
  obtain ⟨-, rfl⟩ := Prod.mk.inj h
  ring

/-- The lower neighbour is near when little is cut off. -/
theorem near_lower (h : x.inSteps step = (num, den)) (hrest : 2 * (num % den) < x.gap step)
    (hedge : x.mantissa = 2 ^ 52 → 4 * (num % den) < x.gap step) :
    x.Near (num / den * tenTo step.toNat) (tenTo (-step).toNat) := by
  have hnum : x.magnitude * tenTo (-step).toNat = num := (Prod.mk.inj h).1
  have hlow : num / den * tenTo step.toNat * unitsPerOne = num / den * den := inSteps_den h _
  have hdiv : num / den * den + num % den = num := Nat.div_add_mod' num den
  have hgap : 2 ^ x.scale * tenTo (-step).toNat = x.gap step := rfl
  refine ⟨?_, ?_, fun hmantissa => ?_⟩
  · rw [hnum, hlow, hgap]
    omega
  · rw [hnum, hlow, hgap]
    omega
  · have hedge := hedge hmantissa
    rw [hnum, hlow, hgap]
    omega

/-- The upper neighbour is near when little is missing. -/
theorem near_upper (h : x.inSteps step = (num, den)) (hden : num % den < den)
    (hrest : 2 * (den - num % den) < x.gap step) :
    x.Near ((num / den + 1) * tenTo step.toNat) (tenTo (-step).toNat) := by
  have hnum : x.magnitude * tenTo (-step).toNat = num := (Prod.mk.inj h).1
  have hhigh : (num / den + 1) * tenTo step.toNat * unitsPerOne = num / den * den + den := by
    rw [inSteps_den h, Nat.add_mul, Nat.one_mul]
  have hdiv : num / den * den + num % den = num := Nat.div_add_mod' num den
  have hgap : 2 ^ x.scale * tenTo (-step).toNat = x.gap step := rfl
  refine ⟨?_, ?_, fun _ => ?_⟩
  · rw [hnum, hhigh, hgap]
    omega
  · rw [hnum, hhigh, hgap]
    omega
  · rw [hnum, hhigh, hgap]
    omega

/-- A grid on which the number has seventeen digits is finer than the numbers around it: one
neighbour is near. -/
theorem near_neighbour (h : x.inSteps step = (num, den)) (hgrid : tenTo 16 * den ≤ num)
    (hden : 0 < den) :
    x.Near (num / den * tenTo step.toNat) (tenTo (-step).toNat) ∨
    x.Near ((num / den + 1) * tenTo step.toNat) (tenTo (-step).toNat) := by
  have hmod : num % den < den := Nat.mod_lt num hden
  have hsixteen : tenTo 16 = 10000000000000000 := by decide
  have hnum := inSteps_num h
  have hmantissa : x.mantissa * x.gap step ≤ (2 ^ 53 - 1) * x.gap step :=
    Nat.mul_le_mul_right _ (Nat.le_sub_one_of_lt x.mantissa_lt)
  rw [hsixteen] at hgrid
  by_cases hupper : 2 * (den - num % den) < x.gap step
  · exact .inr (near_upper h hmod hupper)
  · refine .inl (near_lower h ?_ fun hleast => ?_)
    · omega
    · rw [hleast] at hnum
      omega

/-! ## The search -/

/-- A near decimal in reach reads back. -/
theorem readsBack_of_near {digits : Nat}
    (hnear : x.Near (digits * tenTo step.toNat) (tenTo (-step).toNat)) (hdigits : digits ≠ 0)
    (hlow : -decimalReach ≤ step + (Nat.toDigits 10 digits).length)
    (hhigh : step + (Nat.toDigits 10 digits).length ≤ decimalReach) :
    x.readsBack step digits = true := by
  refine decide_eq_true ?_
  rw [ofDecimal_of_reach x.negative hdigits hlow hhigh]
  exact ofRatio_of_near hnear

theorem isSome_onGrid_of_readsBack (tie : Tie) (h : x.inSteps step = (num, den))
    (hreads : x.readsBack step (num / den) = true ∨ x.readsBack step (num / den + 1) = true) :
    (x.onGrid tie step).isSome = true := by
  simp only [onGrid, h]
  split
  · rfl
  · next hlower =>
      split
      · rfl
      · next hupper =>
          have hlow := hreads.resolve_right hupper
          simp [hlow, hupper] at hlower

/-- A decimal of the seventeenth digit after the place of a number is within reach. -/
theorem reach_of_digits (hx : x.magnitude ≠ 0) {digits : Nat} (h : digits ≤ tenTo 17) :
    -decimalReach ≤ x.place - 16 + (Nat.toDigits 10 digits).length ∧
    x.place - 16 + (Nat.toDigits 10 digits).length ≤ decimalReach := by
  obtain ⟨hleast, hgreatest, -, -⟩ := places_bounds hx
  have hmost : (Nat.toDigits 10 digits).length ≤ 18 :=
    (length_toDigits_le_iff (by decide)).mpr (h.trans_lt (by decide))
  rw [place_eq, decimalReach]
  omega

/-- The search has a hit at seventeen digits. -/
theorem isSome_onGrid (tie : Tie) (hx : x.magnitude ≠ 0) :
    (x.onGrid tie (x.place - 16)).isSome = true := by
  obtain ⟨num, den, hsteps⟩ : ∃ num den, x.inSteps (x.place - 16) = (num, den) := ⟨_, _, rfl⟩
  obtain ⟨hden, hlow, hhigh⟩ : 0 < den ∧ tenTo 16 * den ≤ num ∧ num < tenTo 17 * den := by
    obtain ⟨rfl, rfl⟩ := Prod.mk.inj ((inSteps_place x).symm.trans hsteps)
    exact ⟨Nat.mul_pos unitsPerOne_pos (tenTo_pos _), steps_bounds hx⟩
  have hlower : tenTo 16 ≤ num / den := (Nat.le_div_iff_mul_le hden).mpr hlow
  have hupper : num / den < tenTo 17 := (Nat.div_lt_iff_lt_mul hden).mpr hhigh
  have hpos : 0 < tenTo 16 := tenTo_pos 16
  refine isSome_onGrid_of_readsBack tie hsteps ?_
  rcases near_neighbour hsteps hlow hden with hnear | hnear
  · obtain ⟨hleast, hgreatest⟩ := reach_of_digits hx hupper.le
    exact .inl (readsBack_of_near hnear (by omega) hleast hgreatest)
  · obtain ⟨hleast, hgreatest⟩ := reach_of_digits hx hupper
    exact .inr (readsBack_of_near hnear (Nat.succ_ne_zero _) hleast hgreatest)

end Places

theorem eq_zero_of_magnitude {x : Finite} (h : x.magnitude = 0) : zero x.negative = .finite x := by
  obtain ⟨negative, mantissa, scale, hcanonical⟩ := x
  have hmantissa : mantissa = 0 := by
    rw [magnitude_eq] at h
    exact (Nat.mul_eq_zero.mp h).resolve_right (Nat.two_pow_pos scale).ne'
  subst hmantissa
  have hscale : scale = 0 := hcanonical.2.2.resolve_right (by decide)
  subst hscale
  rfl

theorem magnitude_of_zero {x : Finite} (h : zero x.negative = .finite x) : x.magnitude = 0 := by
  rw [zero, Binary64.finite.injEq] at h
  rw [← h]
  rfl

/-- The shortest decimal of a number reads back as it; the zeros have a decimal of their own. -/
theorem shortest_reads (x : Finite) (tie : Tie) :
    ∃ digits step, x.shortest tie = .ofDecimal digits step ∧ (digits = 0 → step = 0) ∧
      ofDecimal x.negative digits step = .finite x := by
  by_cases hx : x.magnitude = 0
  · refine ⟨0, 0, ?_, fun _ => rfl, ?_⟩
    · rw [shortest, if_pos hx]
      decide
    · rw [ofDecimal_zero]
      exact eq_zero_of_magnitude hx
  · obtain ⟨d, hfound⟩ : ∃ d,
        ((List.range 17).findSome? fun (n : Nat) => x.onGrid tie (x.place - n)) = some d := by
      have hsome : ((List.range 17).findSome? fun (n : Nat) =>
          x.onGrid tie (x.place - n)).isSome = true :=
        List.findSome?_isSome_iff.mpr ⟨16, by decide, isSome_onGrid tie hx⟩
      exact Option.isSome_iff_exists.mp hsome
    obtain ⟨n, -, hgrid⟩ := List.exists_of_findSome?_eq_some hfound
    obtain ⟨digits, hd, hreads⟩ := onGrid_eq_some hgrid
    have hvalue : ofDecimal x.negative digits (x.place - n) = .finite x := of_decide_eq_true hreads
    refine ⟨digits, x.place - n, ?_, fun hzero => ?_, hvalue⟩
    · rw [shortest, if_neg hx, ← hd]
      simp only [hfound]
    · rw [hzero, ofDecimal_zero] at hvalue
      exact absurd (magnitude_of_zero hvalue) hx

end Finite

end MiniSql.Binary64
