import MiniSql.Toml.Quoted

/-!
# Writing TOML

A value is written on a line of its own behind its key. A string takes the first of these
forms that can hold it without an escape: a basic string on one line, a literal string on one
line, a basic string of several lines, a literal string of several lines. A string that none
of them can hold is a basic one with escapes, of several lines if it has a line end.
-/

namespace MiniSql.Toml

/-- A form of a written string. -/
inductive StringForm where
  | basic
  | literal
  | basicLines
  | literalLines
deriving DecidableEq, Repr

/-- The length of the longest run of a character, `current` of them having just been seen. -/
def longestRun (c : Char) (current : Nat) : List Char → Nat
  | [] => current
  | d :: cs =>
    if d = c then longestRun c (current + 1) cs else max current (longestRun c 0 cs)

/-- A character that has to be escaped in every form. -/
def isForbidden (c : Char) : Bool :=
  c ≠ '\n' && !isPlain c

/-- The form in which a string is written. -/
def StringForm.choose (cs : List Char) : StringForm :=
  let single := longestRun '\'' 0 cs
  let double := longestRun '\x22' 0 cs
  let free := !cs.any isForbidden
  let oneLine := !cs.contains '\n'
  let unslashed := !cs.contains '\\'
  if free && oneLine && unslashed && double = 0 then basic
  else if free && oneLine && single = 0 then literal
  else if free && unslashed && double ≤ 2 then basicLines
  else if free && single ≤ 2 then literalLines
  else if oneLine then basic
  else basicLines

/-- The digits of a control character behind `\u`. -/
def codeDigits (c : Char) : List Char :=
  ['0', '0', (Nat.digitChar (c.toNat / 16)).toUpper, (Nat.digitChar (c.toNat % 16)).toUpper]

/-- One character of a basic string other than a quote; a line end stands for itself if
`lines`. -/
def escaped (lines : Bool) (c : Char) : List Char :=
  if c = '\x08' then ['\\', 'b']
  else if c = '\t' then ['\\', 't']
  else if c = '\n' then if lines then ['\n'] else ['\\', 'n']
  else if c = '\x0c' then ['\\', 'f']
  else if c = '\r' then ['\\', 'r']
  else if c = '\\' then ['\\', '\\']
  else if isForbidden c then '\\' :: 'u' :: codeDigits c
  else [c]

/-- The characters of a basic string after `quotes` bare quotes. On several lines two quotes
in a row may be bare, on one line none. -/
def basicBody (lines : Bool) (quotes : Nat) : List Char → List Char
  | [] => []
  | c :: cs =>
    if c = '\x22' then
      if lines && quotes < 2 then c :: basicBody lines (quotes + 1) cs
      else '\\' :: c :: basicBody lines 0 cs
    else escaped lines c ++ basicBody lines 0 cs

/-- The line end behind the opening of a string that has one itself. -/
def opening (cs : List Char) : List Char :=
  if cs.contains '\n' then ['\n'] else []

/-- A string. -/
def stringText (s : String) : String :=
  let cs := s.toList
  let quote (mark body : List Char) : String := String.ofList (mark ++ body ++ mark)
  match StringForm.choose cs with
  | .basic => quote ['\x22'] (basicBody false 0 cs)
  | .literal => quote ['\''] cs
  | .basicLines => quote ['\x22', '\x22', '\x22'] (opening cs ++ basicBody true 0 cs)
  | .literalLines => quote ['\'', '\'', '\''] (opening cs ++ cs)

/-- A truth value. -/
def boolText (b : Bool) : String :=
  if b then "true" else "false"

/-- A whole number. -/
def natText (n : Nat) : String :=
  n.repr

/-- A line with a key and a written value. -/
def pairLine (key value : String) : String :=
  key ++ " = " ++ value ++ "\n"

/-- The header of a table, after a blank line. -/
def headerLine (name : String) : String :=
  "\n[" ++ name ++ "]\n"

end MiniSql.Toml
