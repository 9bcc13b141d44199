import MiniSql.Text.Backspace
import MiniSql.Text.Blank

/-!
# Piped input

Input that does not come from a terminal is a text. Its lines are gathered until they make an
input that can be executed: one that is blank, begins with a backslash, or ends with a
semicolon. Lines gathered into one input keep the line ends between them. Backspaces erase
what is before them, also in the lines gathered so far. What is left unfinished at the end of
the text is dropped.

**Results.** Every input that is gathered is complete.
-/

namespace MiniSql.Shell

/-- An input can be executed: it is blank, a command, or ends with a semicolon. -/
def isComplete (input : List Char) : Bool :=
  match Text.trimEnd (Text.trimStart input) with
  | [] => true
  | c :: cs => c = '\\' || (c :: cs).getLast? = some ';'

/-- A text without the carriage return at its end, and the carriage return. -/
def splitReturn (cs : List Char) : List Char × List Char :=
  if cs.getLast? = some '\r' then (cs.dropLast, ['\r']) else (cs, [])

/-- The complete inputs of a text, after the lines gathered so far. -/
def gather (gathered : List Char) : List (List Char) → List (List Char)
  | [] => []
  | [last] =>
    let input := Text.eraseBackspaces (gathered ++ last)
    if last ≠ [] ∧ isComplete input then [input] else []
  | line :: lines =>
    let (line, ending) := splitReturn (gathered ++ line)
    let input := Text.eraseBackspaces line
    if isComplete input then input :: gather [] lines
    else gather (input ++ ending ++ ['\n']) lines

/-- The complete inputs of a text. -/
def inputs (text : String) : List String :=
  (gather [] (text.toList.splitOn '\n')).map String.ofList

/-- Every gathered input is complete. -/
theorem isComplete_of_mem_gather {gathered input : List Char} {lines : List (List Char)}
    (h : input ∈ gather gathered lines) : isComplete input = true := by
  fun_induction gather gathered lines with
  | case1 => simp at h
  | case2 => simp_all
  | case3 => simp at h
  | case4 _ _ _ _ _ _ _ _ hc ih =>
    rcases List.mem_cons.1 h with rfl | h
    · exact hc
    · exact ih h
  | case5 _ _ _ _ _ _ _ _ _ ih => exact ih h

end MiniSql.Shell
