/-!
# Ranges of characters

A class of characters is given by the ranges of its code points. Membership is decided by
looking at the ranges.
-/

namespace MiniSql.Text

/-- First and last code point of a range. -/
abbrev CharRange := Nat × Nat

/-- A range holds a character whose code point lies between its ends. -/
def CharRange.holds (r : CharRange) (c : Char) : Bool :=
  r.1 ≤ c.toNat && c.toNat ≤ r.2

@[simp] theorem CharRange.holds_iff (r : CharRange) (c : Char) :
    r.holds c = true ↔ r.1 ≤ c.toNat ∧ c.toNat ≤ r.2 := by
  simp [CharRange.holds]

/-- One of the ranges holds the character. -/
def within (ranges : Array CharRange) (c : Char) : Bool :=
  ranges.any (·.holds c)

/-- Membership in a class is membership in one of its ranges. -/
theorem within_iff (ranges : Array CharRange) (c : Char) :
    within ranges c = true ↔ ∃ r ∈ ranges, r.1 ≤ c.toNat ∧ c.toNat ≤ r.2 := by
  simp only [within, Array.any_eq_true', CharRange.holds_iff]

end MiniSql.Text
