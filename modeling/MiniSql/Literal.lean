import MiniSql.Binary64.Layout
import MiniSql.Binary64.Reader
import MiniSql.ParseError

/-!
# Literals

Values written into statement text: `NULL`, integers of 64 bits, numbers of double precision
and texts. `TRUE` and `FALSE` are the integers one and zero. A numeral that does not fit an
integer is a number of double precision.
-/

namespace MiniSql

/-- A value written into statement text. -/
inductive Literal where
  | null
  | integer (i : Int64)
  | real (x : Binary64)
  | text (s : String)
deriving DecidableEq

namespace Literal

/-- Text in single quotes, a quote inside it doubled. -/
def quote (s : String) : String :=
  String.ofList
    ('\x27' :: s.toList.flatMap (fun c => if c = '\x27' then [c, c] else [c]) ++ ['\x27'])

/-- The text of a literal. -/
def display : Literal → String
  | null => "NULL"
  | integer i => i.toInt.repr
  | real x => x.display
  | text s => quote s

/-- The literal `NULL`. -/
def isNull : Literal → Bool
  | null => true
  | _ => false

/-- Reads a numeral, negated if asked: an integer if it fits 64 bits, else a number of
double precision. The negation of the least integer is that integer. -/
def readNumber (numeral : String) (negative : Bool) : Except ParseError Literal :=
  match readInteger? numeral.toList with
  | some i => .ok (.integer (if negative then -i else i))
  | none =>
    match Binary64.read? numeral.toList with
    | some x => .ok (.real (if negative then x.neg else x))
    | none => .error (.invalidLiteral ("Invalid number: " ++ numeral))

end Literal

end MiniSql
