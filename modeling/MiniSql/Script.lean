import MiniSql.Text.Blank
import MiniSql.Token.Lexer

/-!
# Scripts

A script is a text of statements. It is cut at its semicolons, those inside quotes and
comments excepted; the pieces are trimmed, and a piece without tokens is dropped. A text with
a lexical fault stays in one piece, so that reading it reports the fault.
-/

namespace MiniSql.Script

/-- The byte ranges between cuts of one byte each, from `start` to the end. -/
def ranges (start : Nat) (cuts : List Nat) (size : Nat) : List (Nat × Nat) :=
  match cuts with
  | [] => [(start, size)]
  | cut :: rest => (start, cut) :: ranges (cut + 1) rest size

/-- The characters that begin in a range of bytes, the first of the list beginning at byte
`here`. -/
def slice (range : Nat × Nat) (here : Nat) : List Char → List Char
  | [] => []
  | c :: cs =>
    let rest := slice range (here + c.utf8Size) cs
    if range.1 ≤ here ∧ here < range.2 then c :: rest else rest

/-- A piece that is worth executing: it has a token or a lexical fault. -/
def isStatement (piece : String) : Bool :=
  piece ≠ "" &&
    match Token.scan piece with
    | .ok tokens => !tokens.isEmpty
    | .error _ => true

/-- The statements of a script. -/
def split (text : String) : List String :=
  let pieces :=
    match Token.semicolonOffsets text with
    | .ok cuts =>
      (ranges 0 cuts text.utf8ByteSize).map fun range =>
        String.ofList (slice range 0 text.toList)
    | .error _ => [text]
  (pieces.map Text.trim).filter isStatement

end MiniSql.Script
