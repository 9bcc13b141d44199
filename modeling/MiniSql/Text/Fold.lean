/-!
# Letter case of ASCII

Keywords and the names of recognized columns are compared without regard to the case of the
letters `A` to `Z`; every other character stands for itself.
-/

namespace MiniSql.Text

/-- The characters of a text with its ASCII capitals made small. -/
def fold (s : String) : List Char :=
  s.toList.map Char.toLower

/-- Two texts differ at most in the case of ASCII letters. -/
def sameFold (a b : String) : Bool :=
  fold a == fold b

theorem sameFold_iff (a b : String) : sameFold a b = true ↔ fold a = fold b := by
  simp [sameFold]

@[simp] theorem sameFold_self (a : String) : sameFold a a = true := by
  simp [sameFold]

theorem sameFold_comm (a b : String) : sameFold a b = sameFold b a := by
  rw [Bool.eq_iff_iff, sameFold_iff, sameFold_iff, eq_comm]

/-- Texts that agree with a third one agree with each other. -/
theorem sameFold_trans {a b c : String}
    (hab : sameFold a b = true) (hbc : sameFold b c = true) : sameFold a c = true := by
  rw [sameFold_iff] at *
  exact hab.trans hbc

end MiniSql.Text
