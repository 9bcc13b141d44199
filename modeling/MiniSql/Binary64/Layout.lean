import MiniSql.Binary64.Shortest

/-!
# Written numbers

The text of a number: the shortest decimal laid out by the rules of a format. A format says
between which exponents a number is written without an exponent, whether a whole number
keeps a fraction of one zero, and which way ties of the shortest decimal go.

Two formats are in use: `display` for values shown to a reader, and `json`.
-/

namespace MiniSql.Binary64

/-- The rules of a number format. -/
structure Layout where
  /-- Choice between equally near shortest decimals. -/
  tie : Tie
  /-- Exponents written without an exponent mark; `none` for all of them. -/
  positional : Option (Int × Int)
  /-- A whole number ends in `.0`. -/
  pointZero : Bool

/-- Values are shown without an exponent, whole numbers without a point. -/
def Layout.display : Layout := ⟨.up, none, false⟩

/-- JSON numbers of double precision have a point or an exponent, so that they are not taken
for integers. -/
def Layout.json : Layout := ⟨.even, some (-5, 15), true⟩

/-- Digits without an exponent. -/
def Layout.positionalText (l : Layout) (d : Scientific) : List Char :=
  if d.exponent < 0 then
    ['0', '.'] ++ List.replicate (-d.exponent - 1).toNat '0' ++ d.digits
  else
    let length := d.exponent.toNat + 1
    let whole := d.digits.take length ++ List.replicate (length - d.digits.length) '0'
    let fraction := d.digits.drop length
    if fraction = [] then
      if l.pointZero then whole ++ ['.', '0'] else whole
    else whole ++ '.' :: fraction

/-- Digits with an exponent. -/
def exponentText (d : Scientific) : List Char :=
  let mantissa :=
    match d.digits with
    | first :: second :: rest => first :: '.' :: second :: rest
    | ds => ds
  let sign := if d.exponent < 0 then '-' else '+'
  mantissa ++ 'e' :: sign :: Nat.toDigits 10 d.exponent.natAbs

/-- The text of a decimal. -/
def Layout.text (l : Layout) (d : Scientific) : List Char :=
  match l.positional with
  | none => l.positionalText d
  | some (least, greatest) =>
    if least ≤ d.exponent ∧ d.exponent ≤ greatest then l.positionalText d
    else exponentText d

/-- The text of a finite number. -/
def Layout.finiteText (l : Layout) (x : Finite) : String :=
  let digits := l.text (x.shortest l.tie)
  String.ofList (if x.negative then '-' :: digits else digits)

/-- The text of a number as shown to a reader. -/
def display : Binary64 → String
  | .finite x => Layout.display.finiteText x
  | .infinite negative => if negative then "-inf" else "inf"
  | .notANumber => "NaN"

end MiniSql.Binary64
