import MiniSql.Text.Blank

/-!
# History of input

The shell remembers its inputs, oldest first, up to a greatest number. An input that begins
with a blank, or repeats the one before, is not remembered.

The history is kept in a file with a mark on its first line and one entry on each line after
it; inside an entry a backslash is written twice and a line end as a backslash and an `n`. A
file without the mark has its entries as they are.

**Results.** The history never grows beyond its greatest number of entries.
-/

namespace MiniSql

/-- The remembered inputs. -/
structure History where
  entries : List String
  /-- The greatest number of entries. -/
  limit : Nat
  /-- Number of entries added since the file was read. -/
  fresh : Nat
deriving DecidableEq, Repr

namespace History

/-- A history without entries. -/
def empty (limit : Nat) : History := ⟨[], limit, 0⟩

/-- An input is not remembered. -/
def ignores (h : History) (line : String) : Bool :=
  h.limit = 0 || line.toList.head?.all Text.isBlank || h.entries.getLast? = some line

/-- Remembers an input, forgetting the oldest one if there are too many. -/
def add (h : History) (line : String) : History :=
  if h.ignores line then h
  else
    let kept := if h.entries.length = h.limit then h.entries.drop 1 else h.entries
    let entries := kept ++ [line]
    { h with entries := entries, fresh := min (h.fresh + 1) entries.length }

/-! ## The file -/

/-- The mark on the first line of a file. -/
def mark : String := "#V2"

/-- An entry as it stands in a file. -/
def escape : List Char → List Char
  | [] => []
  | c :: cs =>
    if c = '\\' then '\\' :: '\\' :: escape cs
    else if c = '\n' then '\\' :: 'n' :: escape cs
    else c :: escape cs

/-- The entry of a line in a file, unless the line has a backslash before another
character. -/
def unescape? : List Char → Option (List Char)
  | [] => some []
  | '\\' :: '\\' :: cs => (unescape? cs).map ('\\' :: ·)
  | '\\' :: 'n' :: cs => (unescape? cs).map ('\n' :: ·)
  | c :: cs => if c = '\\' then none else (unescape? cs).map (c :: ·)

/-- The entry of a line in a file; a line that was not written as an entry stands for
itself. -/
def entryOf (line : String) : String :=
  match unescape? line.toList with
  | some cs => String.ofList cs
  | none => line

/-- A line without the carriage return before its line feed. -/
def withoutReturn (line : List Char) : List Char :=
  if line.getLast? = some '\r' then line.dropLast else line

/-- The lines of a text, without their ends. What follows the last line feed is a line if it
is not empty. -/
def textLines (text : String) : List String :=
  let pieces := text.toList.splitOn '\n'
  let rest := pieces.getLast?.filter (· ≠ [])
  (pieces.dropLast.map withoutReturn ++ rest.toList).map String.ofList

/-- The lines of a file after its mark, or all lines of a file that has none. -/
def fileLines (text : String) : Bool × List String :=
  match textLines text with
  | [] => (false, [])
  | first :: rest => if first = mark then (true, rest) else (false, first :: rest)

/-- The history of a file. -/
def ofFile (limit : Nat) (text : String) : History :=
  let (marked, lines) := fileLines text
  let entries := if marked then lines.map entryOf else lines
  { entries.foldl add (empty limit) with fresh := 0 }

/-- The lines of a file with a mark that were not written as entries. -/
def miswritten (text : String) : List String :=
  let (marked, lines) := fileLines text
  if marked then lines.filter fun line => (unescape? line.toList).isNone else []

/-- The text of the file. -/
def fileText (h : History) : String :=
  let line (entry : String) : String := String.ofList (escape entry.toList) ++ "\n"
  mark ++ "\n" ++ String.join (h.entries.map line)

/-- The history has entries that its file does not have. -/
def isDirty (h : History) : Bool :=
  h.entries ≠ [] && h.fresh ≠ 0

/-- A written entry reads back. -/
theorem unescape?_escape (cs : List Char) : unescape? (escape cs) = some cs := by
  induction cs with
  | nil => rfl
  | cons c cs ih =>
    by_cases hb : c = '\\'
    · simp [escape, hb, unescape?, ih]
    · by_cases hn : c = '\n'
      · simp [escape, hn, unescape?, ih]
      · simp [escape, hb, hn, unescape?, ih]

/-- Remembering keeps the history within its limit. -/
theorem length_add_le {h : History} (line : String) (hle : h.entries.length ≤ h.limit) :
    (h.add line).entries.length ≤ h.limit := by
  unfold add
  split
  · exact hle
  · next hig =>
    have : h.limit ≠ 0 := by
      intro h0
      simp [ignores, h0] at hig
    simp only [List.length_append, List.length_singleton]
    split
    · simp only [List.length_drop]; omega
    · omega

end History

end MiniSql
