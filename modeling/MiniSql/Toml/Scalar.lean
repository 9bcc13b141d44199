import MiniSql.Toml.Basic
import MiniSql.Binary64.Reader
import MiniSql.Text.Hexadecimal

/-!
# Numbers and moments of TOML

A value that is no string, array or table is one word, read as a whole: a truth value, an
integer, a number with a point or an exponent, or a moment. Single underscores may stand
between digits. An integer must fit 64 bits, and a decimal one has no leading zero. A number
too great for double precision is refused. A moment is a date, a time of day, or a date and a
time with an optional offset.
-/

namespace MiniSql.Toml

/-- The digits of a run in which single underscores stand between digits. -/
def ungroup? (isDigit : Char → Bool) : List Char → Option (List Char)
  | [] => none
  | [c] => if isDigit c then some [c] else none
  | c :: '_' :: cs => if isDigit c then (ungroup? isDigit cs).map (c :: ·) else none
  | c :: cs => if isDigit c then (ungroup? isDigit cs).map (c :: ·) else none

/-- The digits of a decimal whole number. -/
def whole? (cs : List Char) : Option (List Char) := do
  let digits ← ungroup? Char.isDigit cs
  if digits.head? = some '0' ∧ digits ≠ ['0'] then none else some digits

/-- The number of digits of a base, from the number of one digit. -/
def inBase (base : Nat) (cs : List Char) : Nat :=
  cs.foldl (fun n c => n * base + (Text.hexValue? c).getD 0) 0

/-- A whole number with its base in front. -/
def based? : List Char → Option Int
  | '0' :: 'x' :: cs => (ungroup? (fun c => (Text.hexValue? c).isSome) cs).map (inBase 16 ·)
  | '0' :: 'o' :: cs => (ungroup? (fun c => '0' ≤ c && c ≤ '7') cs).map (inBase 8 ·)
  | '0' :: 'b' :: cs => (ungroup? (fun c => c = '0' || c = '1') cs).map (inBase 2 ·)
  | _ => none

/-- A decimal whole number with an optional sign. -/
def decimal? (cs : List Char) : Option Int :=
  let (negative, rest) := splitSign cs
  (whole? rest).map fun digits =>
    let n := Nat.ofDigitChars 10 digits 0
    if negative then -(n : Int) else n

/-- An integer. -/
def integerWord? (cs : List Char) : Option Toml :=
  ((based? cs).or (decimal? cs)).bind fun i =>
    if Int64.minValue.toInt ≤ i ∧ i ≤ Int64.maxValue.toInt then some (.integer (.ofInt i))
    else none

/-- An exponent, or nothing. -/
def power? : List Char → Option Int
  | [] => some 0
  | c :: cs =>
    if c = 'e' ∨ c = 'E' then
      let (negative, rest) := splitSign cs
      (ungroup? Char.isDigit rest).map fun digits =>
        let n := Nat.ofDigitChars 10 digits 0
        if negative then -(n : Int) else n
    else none

/-- The digits behind a point up to an exponent, or none without a point. -/
def places? : List Char → Option (List Char × List Char)
  | '.' :: cs =>
    let isPower (c : Char) : Bool := c = 'e' || c = 'E'
    (ungroup? Char.isDigit (cs.takeWhile (!isPower ·))).map (·, cs.dropWhile (!isPower ·))
  | cs => some ([], cs)

/-- A number with a point, an exponent or both, or one of the words for what is not
finite. -/
def floatWord? (cs : List Char) : Option Toml :=
  let (negative, rest) := splitSign cs
  if rest = ['i', 'n', 'f'] then some (.float (.infinite negative))
  else if rest = ['n', 'a', 'n'] then some (.float .notANumber)
  else do
    let isWhole (c : Char) : Bool := c.isDigit || c = '_'
    let whole ← whole? (rest.takeWhile isWhole)
    let marks := rest.dropWhile isWhole
    if marks = [] then none
    let (fraction, rest) ← places? marks
    let power ← power? rest
    let x := (DecimalText.mk whole fraction power).toBinary64 negative
    if x = .infinite false then none else some (.float x)

/-! ## Moments -/

/-- The number of two digits in front. -/
def twoDigits? : List Char → Option (Nat × List Char)
  | a :: b :: cs => (readDigits? [a, b]).map (·, cs)
  | _ => none

/-- The number of days of a month. -/
def daysIn (year month : Nat) : Nat :=
  if month = 2 then
    if year % 4 = 0 ∧ (year % 100 ≠ 0 ∨ year % 400 = 0) then 29 else 28
  else if month = 4 ∨ month = 6 ∨ month = 9 ∨ month = 11 then 30
  else 31

/-- The text after the date in front. -/
def date? (cs : List Char) : Option (List Char) := do
  let year ← readDigits? (cs.take 4)
  let '-' :: cs := cs.drop 4 | none
  let (month, '-' :: cs) ← twoDigits? cs | none
  let (day, cs) ← twoDigits? cs
  if 1 ≤ month ∧ month ≤ 12 ∧ 1 ≤ day ∧ day ≤ daysIn year month then some cs else none

/-- The text after the hour and minute in front. -/
def hourMinute? (cs : List Char) : Option (List Char) := do
  let (hour, ':' :: cs) ← twoDigits? cs | none
  let (minute, cs) ← twoDigits? cs
  if hour < 24 ∧ minute < 60 then some cs else none

/-- The text after the time of day in front. A minute may end with a leap second. -/
def time? (cs : List Char) : Option (List Char) := do
  let ':' :: cs ← hourMinute? cs | none
  let (second, cs) ← twoDigits? cs
  if 60 < second then none
  match cs with
  | '.' :: rest =>
    if (rest.takeWhile Char.isDigit).isEmpty then none else some (rest.dropWhile Char.isDigit)
  | _ => some cs

/-- The text is an offset from universal time, or empty. -/
def isOffset : List Char → Bool
  | [] => true
  | ['Z'] | ['z'] => true
  | '+' :: cs | '-' :: cs => hourMinute? cs == some []
  | _ => false

/-- The text is a moment. -/
def isMoment (cs : List Char) : Bool :=
  match date? cs with
  | some [] => true
  | some (c :: rest) =>
    (c = 'T' || c = 't' || c = ' ') && (time? rest).any isOffset
  | none => time? cs == some []

/-! ## Words -/

/-- A character of a word. -/
def isWordPart (c : Char) : Bool :=
  c.isAlphanum || c = '+' || c = '-' || c = '_' || c = '.' || c = ':'

/-- The word in front, and the text after it. A date may be followed by a blank and a time. -/
def splitWord (cs : List Char) : List Char × List Char :=
  let word := cs.takeWhile isWordPart
  match date? word, cs.dropWhile isWordPart with
  | some [], ' ' :: c :: rest =>
    if c.isDigit then
      (word ++ ' ' :: (c :: rest).takeWhile isWordPart, (c :: rest).dropWhile isWordPart)
    else (word, ' ' :: c :: rest)
  | _, rest => (word, rest)

/-- The value of a word. -/
def wordValue? (word : List Char) : Option Toml :=
  if word = ['t', 'r', 'u', 'e'] then some (.bool true)
  else if word = ['f', 'a', 'l', 's', 'e'] then some (.bool false)
  else if isMoment word then some .moment
  else (integerWord? word).or (floatWord? word)

/-- The value of the word in front, and the text after it. -/
def scalar? (cs : List Char) : Option (Toml × List Char) :=
  let (word, rest) := splitWord cs
  (wordValue? word).map (·, rest)

end MiniSql.Toml
