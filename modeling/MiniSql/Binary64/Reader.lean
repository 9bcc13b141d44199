import MiniSql.Binary64.Rounding

/-!
# Reading numbers

Reading the text of an integer and of a number of double precision. An integer is a run of
digits with an optional sign and must fit 64 bits. A number has digits with an optional point
and exponent, or is one of the words `inf`, `infinity` and `nan` in any letter case.
-/

namespace MiniSql

/-- A number literal split at its marks. -/
structure DecimalText where
  whole : List Char
  fraction : List Char
  exponent : Int
deriving DecidableEq

namespace DecimalText

/-- All digits as one whole number. -/
def digits (d : DecimalText) : Nat :=
  Nat.ofDigitChars 10 (d.whole ++ d.fraction) 0

/-- The exponent that belongs to the digits read as one whole number. -/
def scale (d : DecimalText) : Int :=
  d.exponent - d.fraction.length

/-- The number of double precision nearest to the literal. -/
def toBinary64 (d : DecimalText) (negative : Bool) : Binary64 :=
  .ofDecimal negative d.digits d.scale

end DecimalText

/-- A sign in front: whether it is a minus, and the rest. -/
def splitSign : List Char → Bool × List Char
  | '-' :: cs => (true, cs)
  | '+' :: cs => (false, cs)
  | cs => (false, cs)

/-- A whole text of digits, at least one. -/
def readDigits? (cs : List Char) : Option Nat :=
  if cs ≠ [] ∧ cs.all Char.isDigit then some (Nat.ofDigitChars 10 cs 0) else none

/-- A whole text that is an exponent or nothing. -/
def readExponent? : List Char → Option Int
  | [] => some 0
  | c :: cs =>
    if c = 'e' ∨ c = 'E' then
      let (negative, digits) := splitSign cs
      (readDigits? digits).map fun n => if negative then -(n : Int) else n
    else none

/-- A fraction in front: its digits, and the rest. -/
def splitFraction : List Char → List Char × List Char
  | '.' :: cs => (cs.takeWhile Char.isDigit, cs.dropWhile Char.isDigit)
  | cs => ([], cs)

/-- A whole text of digits with an optional point and exponent; at least one digit stands
before or after the point. -/
def readDecimal? (cs : List Char) : Option DecimalText :=
  let whole := cs.takeWhile Char.isDigit
  let (fraction, rest) := splitFraction (cs.dropWhile Char.isDigit)
  if whole = [] ∧ fraction = [] then none
  else (readExponent? rest).map (DecimalText.mk whole fraction)

/-- The integer within 64 bits that a text denotes. -/
def readInteger? (cs : List Char) : Option Int64 :=
  let (negative, digits) := splitSign cs
  (readDigits? digits).bind fun n =>
    let i := if negative then -(n : Int) else n
    if Int64.minValue.toInt ≤ i ∧ i ≤ Int64.maxValue.toInt then some (.ofInt i) else none

/-- The number of double precision that a text denotes. -/
def Binary64.read? (cs : List Char) : Option Binary64 :=
  let (negative, rest) := splitSign cs
  match readDecimal? rest with
  | some d => some (d.toBinary64 negative)
  | none =>
    let word := rest.map Char.toLower
    if word = ['i', 'n', 'f'] ∨ word = ['i', 'n', 'f', 'i', 'n', 'i', 't', 'y'] then
      some (.infinite negative)
    else if word = ['n', 'a', 'n'] then some .notANumber
    else none

/-- The digits of a whole number read back. -/
@[simp] theorem readDigits?_toDigits (n : Nat) :
    readDigits? (Nat.toDigits 10 n) = some n := by
  have hall : (Nat.toDigits 10 n).all Char.isDigit = true := by
    simp only [List.all_eq_true]
    exact fun c hc => Nat.isDigit_of_mem_toDigits (by decide) (by decide) hc
  simp [readDigits?, hall, Nat.toDigits_ne_nil]

end MiniSql
