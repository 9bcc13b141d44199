import MiniSql.Text.Hexadecimal
import MiniSql.Value

/-!
# Reading JSON

Reading a JSON array of scalars: `null`, truth values, numbers and strings. A number with a
point or an exponent is of double precision, and so are negative zero and an integer beyond
64 bits; every other integer is exact. A number too great for double precision, a control
character inside a string and half of a surrogate pair are refused.

Decimals are read with correct rounding: a numeral of double precision is the double nearest to the
number that it denotes, of two nearest ones the even one. A reader that rounds in several steps may
give a neighbour in the last place instead, for `51.248178375505404` for example.
-/

namespace MiniSql.Json

/-- White space between the parts of JSON text. -/
def isSpace (c : Char) : Bool :=
  c = ' ' || c = '\t' || c = '\n' || c = '\r'

/-- The text after white space. -/
def skipSpace (cs : List Char) : List Char :=
  cs.dropWhile isSpace

/-- The number that four digits of base sixteen denote. -/
def unit? (a b c d : Char) : Option Nat :=
  Text.hexNumber? [a, b, c, d]

/-- The first half of a surrogate pair. -/
def isHighSurrogate (u : Nat) : Bool :=
  0xD800 ≤ u && u ≤ 0xDBFF

/-- The second half of a surrogate pair. -/
def isLowSurrogate (u : Nat) : Bool :=
  0xDC00 ≤ u && u ≤ 0xDFFF

/-- The character of a surrogate pair. -/
def pairChar (high low : Nat) : Char :=
  Char.ofNat (0x10000 + (high - 0xD800) * 0x400 + (low - 0xDC00))

/-- The character that a backslash and a letter stand for. -/
def unescape? (c : Char) : Option Char :=
  if c = '\x22' ∨ c = '\\' ∨ c = '/' then some c
  else if c = 'b' then some '\x08'
  else if c = 'f' then some '\x0c'
  else if c = 'n' then some '\n'
  else if c = 'r' then some '\r'
  else if c = 't' then some '\t'
  else none

/-- The characters of a string up to its closing quote, and the text after the quote. -/
def stringBody : List Char → Option (List Char × List Char)
  | [] => none
  | '\x22' :: rest => some ([], rest)
  | '\\' :: 'u' :: a :: b :: c :: d :: '\\' :: 'u' :: e :: f :: g :: h :: rest =>
    match unit? a b c d with
    | none => none
    | some u =>
      if isHighSurrogate u then
        match unit? e f g h with
        | some v =>
          if isLowSurrogate v then
            (stringBody rest).map fun (s, r) => (pairChar u v :: s, r)
          else none
        | none => none
      else if isLowSurrogate u then none
      else
        (stringBody ('\\' :: 'u' :: e :: f :: g :: h :: rest)).map fun (s, r) =>
          (Char.ofNat u :: s, r)
  | '\\' :: 'u' :: a :: b :: c :: d :: rest =>
    match unit? a b c d with
    | none => none
    | some u =>
      if isHighSurrogate u || isLowSurrogate u then none
      else (stringBody rest).map fun (s, r) => (Char.ofNat u :: s, r)
  | '\\' :: c :: rest =>
    match unescape? c with
    | some d => (stringBody rest).map fun (s, r) => (d :: s, r)
    | none => none
  | c :: rest =>
    if c.toNat < 0x20 ∨ c = '\\' then none
    else (stringBody rest).map fun (s, r) => (c :: s, r)

/-- A number literal: its sign and digits, and whether it had a point or an exponent. -/
structure NumberText where
  negative : Bool
  decimal : DecimalText
  isReal : Bool
deriving DecidableEq

/-- The fraction in front, with at least one digit after the point, and the rest. -/
def fraction? : List Char → Option (Option (List Char) × List Char)
  | '.' :: cs =>
    let digits := cs.takeWhile Char.isDigit
    if digits = [] then none else some (some digits, cs.dropWhile Char.isDigit)
  | cs => some (none, cs)

/-- The exponent in front, with at least one digit, and the rest. -/
def exponent? : List Char → Option (Option Int × List Char)
  | [] => some (none, [])
  | c :: cs =>
    if c = 'e' ∨ c = 'E' then
      let (negative, unsigned) := splitSign cs
      let digits := unsigned.takeWhile Char.isDigit
      (readDigits? digits).map fun n =>
        (some (if negative then -(n : Int) else n), unsigned.dropWhile Char.isDigit)
    else some (none, c :: cs)

/-- The number in front and the text after it. A whole part has no leading zero. -/
def number? (cs : List Char) : Option (NumberText × List Char) := do
  let (negative, unsigned) :=
    match cs with
    | '-' :: rest => (true, rest)
    | rest => (false, rest)
  let whole :=
    match unsigned with
    | '0' :: _ => ['0']
    | rest => rest.takeWhile Char.isDigit
  if whole = [] then none
  let (fraction, rest) ← fraction? (unsigned.drop whole.length)
  let (exponent, rest) ← exponent? rest
  return (⟨negative, ⟨whole, fraction.getD [], exponent.getD 0⟩,
    fraction.isSome || exponent.isSome⟩, rest)

/-- The value of a number literal, rounded once if it is of double precision, unless it is too
great. -/
def NumberText.value? (n : NumberText) : Option Value :=
  let value :=
    if n.isReal ∨ (n.negative ∧ n.decimal.digits = 0) then
      .real (n.decimal.toBinary64 n.negative)
    else Value.ofInt (if n.negative then -(n.decimal.digits : Int) else n.decimal.digits)
  match value with
  | .real x => if x.isFinite then some value else none
  | _ => some value

/-- The scalar in front and the text after it. -/
def scalar? : List Char → Option (Value × List Char)
  | 'n' :: 'u' :: 'l' :: 'l' :: rest => some (.null, rest)
  | 't' :: 'r' :: 'u' :: 'e' :: rest => some (.ofBool true, rest)
  | 'f' :: 'a' :: 'l' :: 's' :: 'e' :: rest => some (.ofBool false, rest)
  | '\x22' :: rest => (stringBody rest).map fun (s, r) => (.text (String.ofList s), r)
  | cs => do
    let (n, rest) ← number? cs
    return (← n.value?, rest)

/-- The items of an array from its first one on, and the text after its bracket. Each item
takes at least one character, so `fuel` items are enough for a text of that length. -/
def items? (fuel : Nat) (cs : List Char) : Option (List Value × List Char) :=
  match fuel with
  | 0 => none
  | fuel + 1 => do
    let (value, rest) ← scalar? (skipSpace cs)
    match skipSpace rest with
    | ',' :: rest =>
      let (values, rest) ← items? fuel rest
      return (value :: values, rest)
    | ']' :: rest => return ([value], rest)
    | _ => none

/-- The array in front and the text after it. -/
def array? (cs : List Char) : Option (List Value × List Char) :=
  match skipSpace cs with
  | '[' :: rest =>
    match skipSpace rest with
    | ']' :: rest => some ([], rest)
    | _ => items? rest.length rest
  | _ => none

/-- The values of a text that is an array of scalars. -/
def readValues? (s : String) : Option (List Value) :=
  match array? s.toList with
  | some (values, rest) => if skipSpace rest = [] then some values else none
  | none => none

end MiniSql.Json
