import MiniSql.Toml.Quoted
import MiniSql.Toml.Scalar

/-!
# Reading TOML documents

A document is a list of lines: a key with its value, the header of a table, or the header of
one more table of an array. Blank lines and comments may stand anywhere between them, and
inside an array; a table between braces stays on one line.

Arrays and tables between braces nest to a limited depth, and a dotted key has a limited
number of parts.
-/

namespace MiniSql.Toml

/-- The greatest depth to which arrays and tables between braces nest. -/
def maxDepth : Nat := 79

/-- The greatest number of parts of a dotted key. -/
def maxParts : Nat := 80

/-- A dotted key of at most so many parts; white space may surround each part. -/
def dottedKey? : Nat → Reader Path
  | 0, _ => none
  | parts + 1, cs =>
    match key? (skipGap cs) with
    | none => none
    | some (name, rest) =>
      match skipGap rest with
      | '.' :: rest =>
        (dottedKey? parts rest).map fun (path, r) => ({ path with through := name :: path.through }, r)
      | rest => some (⟨[], name⟩, rest)

/-- A dotted key. -/
def path? : Reader Path :=
  dottedKey? maxParts

/-- The text after white space, line ends and comments. -/
def skipLayout : List Char → List Char
  | '\n' :: cs => skipLayout cs
  | '\r' :: '\n' :: cs => skipLayout cs
  | '#' :: cs => skipLayout (cs.dropWhile isPlain)
  | c :: cs => if isGap c then skipLayout cs else c :: cs
  | [] => []
termination_by cs => cs.length
decreasing_by
  · simp
  · simp only [List.length_cons]; omega
  · have := (List.dropWhile_suffix (l := cs) isPlain).length_le; simp only [List.length_cons]; omega
  · simp

/-- The items of an array up to its bracket. Each takes at least one character, so `fuel`
items are enough for a text of that length. -/
def items? (item? : Reader Toml) : Nat → Reader (List Toml)
  | 0, _ => none
  | fuel + 1, cs =>
    match skipLayout cs with
    | ']' :: rest => some ([], rest)
    | cs =>
      match item? cs with
      | none => none
      | some (value, rest) =>
        match skipLayout rest with
        | ',' :: rest => (items? item? fuel rest).map fun (values, r) => (value :: values, r)
        | ']' :: rest => some ([value], rest)
        | _ => none

/-- A key, an equality sign, and a value. -/
def pair? (item? : Reader Toml) : Reader (Path × Toml) := fun cs =>
  match path? cs with
  | some (path, '=' :: rest) =>
    (item? (skipGap rest)).map fun (value, r) => ((path, value), skipGap r)
  | _ => none

/-- The pairs between braces up to the closing one. Each takes at least one character, so
`fuel` pairs are enough for a text of that length. -/
def pairs? (item? : Reader Toml) : Nat → Reader (List (Path × Toml))
  | 0, _ => none
  | fuel + 1, cs =>
    match pair? item? cs with
    | some (pair, ',' :: rest) =>
      (pairs? item? fuel rest).map fun (pairs, r) => (pair :: pairs, r)
    | some (pair, '\x7d' :: rest) => some ([pair], rest)
    | _ => none

/-- A table between braces, behind its opening one. -/
def braces? (item? : Reader Toml) : Reader Toml := fun cs =>
  match skipGap cs with
  | '\x7d' :: rest => some (.table .inline [], rest)
  | _ => do
    let (pairs, rest) ← pairs? item? cs.length cs
    return (.table .inline (← build pairs []), rest)

/-- A value that is no array and no table. -/
def simple? (cs : List Char) : Option (Toml × List Char) :=
  match quoted? cs with
  | some (s, rest) => some (.string (String.ofList s), rest)
  | none => scalar? cs

/-- A value of at most some depth. -/
def value? : Nat → Reader Toml
  | depth + 1, '[' :: cs =>
    (items? (value? depth) cs.length cs).map fun (values, r) => (.array values, r)
  | depth + 1, '\x7b' :: cs => braces? (value? depth) cs
  | _, cs => simple? cs

/-- A line that says something. -/
inductive Line where
  | pair (path : Path) (value : Toml)
  | header (path : Path) (repeated : Bool)

/-- The line in front. -/
def line? : Reader Line
  | '[' :: '[' :: cs =>
    match path? cs with
    | some (path, ']' :: ']' :: rest) => some (.header path true, rest)
    | _ => none
  | '[' :: cs =>
    match path? cs with
    | some (path, ']' :: rest) => some (.header path false, rest)
    | _ => none
  | cs => (pair? (value? maxDepth) cs).map fun ((path, value), rest) => (.pair path value, rest)

/-- The text after white space, a comment and the end of the line. -/
def endLine? (cs : List Char) : Option (List Char) :=
  let rest :=
    match skipGap cs with
    | '#' :: comment => comment.dropWhile isPlain
    | rest => rest
  if rest = [] then some [] else newline? rest

/-- The lines of a text. Each takes at least one character, so `fuel` lines are enough for a
text of fewer characters. -/
def lines? : Nat → List Char → Option (List Line)
  | 0, _ => none
  | fuel + 1, cs =>
    match skipLayout cs with
    | [] => some []
    | cs =>
      match line? cs with
      | none => none
      | some (line, rest) =>
        match endLine? rest with
        | none => none
        | some rest => (lines? fuel rest).map (line :: ·)

/-- The pairs before the first header, and the sections. -/
def sections : List Line → List (Path × Toml) × List Section
  | [] => ([], [])
  | .pair path value :: lines =>
    let (pairs, later) := sections lines
    ((path, value) :: pairs, later)
  | .header path repeated :: lines =>
    let (pairs, later) := sections lines
    ([], ⟨path, repeated, pairs⟩ :: later)

/-- The text after a byte order mark. -/
def dropMark : List Char → List Char
  | '\ufeff' :: cs => cs
  | cs => cs

/-- The table of a document. -/
def read? (text : String) : Option Toml := do
  let cs := dropMark text.toList
  let lines ← lines? (cs.length + 1) cs
  let (pairs, later) := sections lines
  return .table .header (← build pairs later)

end MiniSql.Toml
