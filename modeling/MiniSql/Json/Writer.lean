import MiniSql.Binary64.Layout

/-!
# Writing JSON

The compact text of JSON values. Inside a string the quote, the backslash and the controls
below the blank are escaped, the common controls by a letter, and every other character
stands for itself. A number of double precision always has a point or an exponent; what is
not finite has no JSON form and is written as `null`.
-/

namespace MiniSql.Json

/-- One character inside a string. -/
def escapeChar (c : Char) : List Char :=
  if c = '\x22' then ['\\', '\x22']
  else if c = '\\' then ['\\', '\\']
  else if c = '\x08' then ['\\', 'b']
  else if c = '\x0c' then ['\\', 'f']
  else if c = '\n' then ['\\', 'n']
  else if c = '\r' then ['\\', 'r']
  else if c = '\t' then ['\\', 't']
  else if c.toNat < 0x20 then
    ['\\', 'u', '0', '0', Nat.digitChar (c.toNat / 16), Nat.digitChar (c.toNat % 16)]
  else [c]

/-- A string. -/
def string (s : String) : String :=
  String.ofList ('\x22' :: s.toList.flatMap escapeChar ++ ['\x22'])

/-- An integer. -/
def integer (i : Int) : String :=
  i.repr

/-- A number of double precision. -/
def real : Binary64 → String
  | .finite x => Binary64.Layout.json.finiteText x
  | _ => "null"

/-- A truth value. -/
def bool (b : Bool) : String :=
  if b then "true" else "false"

/-- An array of written values. -/
def array (items : List String) : String :=
  "[" ++ ",".intercalate items ++ "]"

/-- An object of names and written values. -/
def object (members : List (String × String)) : String :=
  "\x7b" ++ ",".intercalate (members.map fun (name, value) => string name ++ ":" ++ value)
    ++ "\x7d"

/-- A value, or `null`. -/
def optional : Option String → String
  | some value => value
  | none => "null"

/-- A tagged value: an object with the tag as its only name. -/
def tagged (tag value : String) : String :=
  object [(tag, value)]

@[simp] theorem string_empty : string "" = "\x22\x22" := rfl

@[simp] theorem array_nil : array [] = "[]" := rfl

end MiniSql.Json
