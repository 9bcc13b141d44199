import MiniSql.Binary64.Rounding

/-!
# Shortest decimals

The decimal with the fewest digits that reads back as a given number, and among those the
nearest to it. For one, two, … seventeen digits the two neighbours of the number on the
decimal grid of that many digits are read back; the first grid with a hit gives the answer.
When both neighbours of one grid read back and are equally near, a rule for ties decides.
-/

namespace MiniSql.Binary64

/-- Which of two equally near decimals is chosen. -/
inductive Tie where
  /-- The greater one. -/
  | up
  /-- The one with an even last digit. -/
  | even
deriving DecidableEq

/-- The decimal `d.ddd * 10 ^ exponent`, its digits most significant first. -/
structure Scientific where
  digits : List Char
  exponent : Int
deriving DecidableEq

/-- Zeros at the end of the digits carry no value; one digit stays. -/
def dropTrailingZeros (digits : List Char) : List Char :=
  match (digits.reverse.dropWhile (· = '0')).reverse with
  | [] => ['0']
  | ds => ds

/-- The decimal `digits * 10 ^ exponent` by its first digit. -/
def Scientific.ofDecimal (digits : Nat) (exponent : Int) : Scientific :=
  let ds := Nat.toDigits 10 digits
  ⟨dropTrailingZeros ds, exponent + (ds.length - 1)⟩

/-- Exponent of the first decimal digit of a positive number. Every positive number exceeds
`10 ^ -400`, so the digits of its multiple by `10 ^ 400` count the places. -/
def Finite.place (x : Finite) : Int :=
  (Nat.toDigits 10 (x.magnitude * tenTo 400 / unitsPerOne)).length - 401

/-- Numerator and denominator of the number's size in steps of `10 ^ step`. -/
def Finite.inSteps (x : Finite) (step : Int) : Nat × Nat :=
  (x.magnitude * tenTo (-step).toNat, unitsPerOne * tenTo step.toNat)

/-- The upper one of two neighbours is chosen: `num / den` lies nearer to it, or halfway
between them and the rule for ties prefers it. -/
def Tie.picksUpper (tie : Tie) (num den : Nat) : Bool :=
  let rest := 2 * (num % den)
  match tie with
  | .up => decide (den ≤ rest)
  | .even => decide (den < rest) || (decide (rest = den) && decide (num / den % 2 = 1))

/-- The decimal `digits * 10 ^ step` reads back as the number. -/
def Finite.readsBack (x : Finite) (step : Int) (digits : Nat) : Bool :=
  decide (Binary64.ofDecimal x.negative digits step = .finite x)

/-- The neighbour of the number on the grid with the given step that reads back, the nearer
one if both do. -/
def Finite.onGrid (x : Finite) (tie : Tie) (step : Int) : Option Scientific :=
  let (num, den) := x.inSteps step
  let low := num / den
  let lowReads := x.readsBack step low
  let highReads := x.readsBack step (low + 1)
  if lowReads && !(highReads && tie.picksUpper num den) then some (.ofDecimal low step)
  else if highReads then some (.ofDecimal (low + 1) step)
  else none

/-- The digits of the number's size written out to seventeen places. -/
def Finite.toSeventeen (x : Finite) : Scientific :=
  let step := x.place - 16
  let (num, den) := x.inSteps step
  .ofDecimal (num / den) step

/-- The shortest decimal that reads back as the number, without its sign. -/
def Finite.shortest (x : Finite) (tie : Tie) : Scientific :=
  if x.magnitude = 0 then ⟨['0'], 0⟩
  else
    let place := x.place
    match (List.range 17).findSome? fun (n : Nat) => x.onGrid tie (place - n) with
    | some d => d
    | none => x.toSeventeen

/-- A decimal found on a grid reads back as the number. -/
theorem Finite.onGrid_eq_some {x : Finite} {tie : Tie} {step : Int} {d : Scientific}
    (h : x.onGrid tie step = some d) :
    ∃ digits, d = .ofDecimal digits step ∧ x.readsBack step digits = true := by
  simp only [Finite.onGrid] at h
  split at h
  · next hlow =>
      simp only [Bool.and_eq_true] at hlow
      exact ⟨_, (Option.some.inj h).symm, hlow.1⟩
  · split at h
    · next hhigh => exact ⟨_, (Option.some.inj h).symm, hhigh⟩
    · cases h

end MiniSql.Binary64
