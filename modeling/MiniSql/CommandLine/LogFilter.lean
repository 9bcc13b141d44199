import MiniSql.Notice
import MiniSql.Text.Alphabetic
import MiniSql.Text.Blank
import MiniSql.Text.Fold

/-!
# Log filters

A filter decides which notices are shown. It is a list of rules, each with the beginning of a
source, perhaps the name of a field, and the least level shown of such notices. Of the rules
that a notice fits, the one with the longest beginning counts, and among those one with a
field. A notice that fits no rule is not shown.

A filter is written as rules between commas: a level, the beginning of a source, or both with
an equality sign between them. After the beginning may stand brackets: with a field in braces
the rule is one about notices with that field, with anything else it is about spans or values
of fields, and fits no notice.
-/

namespace MiniSql

/-- A rule of a log filter: a notice of the sources, with the field if one is named, is shown
if its level is `least` or heavier. -/
structure LogRule where
  source : String
  field : Option String
  least : Nat
deriving DecidableEq, Repr

namespace LogRule

/-- A notice fits a rule. -/
def fits (r : LogRule) (n : Notice) : Bool :=
  r.source.toList.isPrefixOf n.source.toList && r.field.all (n.fieldNames.contains ·)

/-- A rule counts before another one. -/
def outranks (r s : LogRule) : Bool :=
  s.source.length < r.source.length ||
    (s.source.length = r.source.length &&
      match r.field, s.field with
      | some f, some g => g < f
      | some _, none => true
      | none, _ => false)

/-- The rule that counts of two, the later one if neither outranks the other. -/
def stronger (r s : LogRule) : LogRule :=
  if r.outranks s then r else s

end LogRule

/-- The rules of a log filter. -/
abbrev LogFilter := List LogRule

namespace LogFilter

/-- The least rank shown at a level of detail, from none to all. -/
def rankOfDetail (detail : Nat) : Nat :=
  6 - detail

/-- The words for the levels of detail, from none to all. -/
def words : List String :=
  ["off", "error", "warn", "info", "debug", "trace"]

/-- The level of detail that digits denote, perhaps after a plus sign. -/
def detailOfDigits? (text : List Char) : Option Nat :=
  let digits := if text.head? = some '+' then text.drop 1 else text
  if digits = [] ∨ !digits.all Char.isDigit then none
  else
    let detail := digits.foldl (fun n c => 10 * n + (c.toNat - 48)) 0
    if detail < words.length then some detail else none

/-- The least rank shown at a level: a word in any letter case, or a number. -/
def rankOf? (level : List Char) : Option Nat :=
  let detail := words.findIdx? (Text.sameFold (String.ofList level))
  (detail.or (detailOfDigits? level)).map rankOfDetail

/-- A character that a rule may begin with. -/
def beginsRule (c : Char) : Bool :=
  Text.isAlphanumeric c || c = '-' || c = ':' || c = '_' || c = '['

/-- The least rank after an equality sign, where nothing asks for everything. -/
def readLevel? (level : List Char) : Option Nat :=
  if level = [] then some (rankOfDetail 5) else rankOf? level

/-- Reads a rule: `none` if it is wrong, no rule if it fits no notice.

The parts of a rule are looked for behind its leading blanks, but the text of a part is cut
out at the same distance from the beginning of the rule, blanks included: so a blank before a
rule spoils it. -/
def readRule? (text : List Char) : Option (List LogRule) :=
  let cs := Text.trimEnd (Text.trimStart text)
  let behind (rest : List Char) : List Char := text.drop (cs.length - rest.length)
  let rankAt? (rest : List Char) : Option Nat :=
    match rest with
    | [] => some (rankOfDetail 5)
    | c :: level => if c = '=' then readLevel? (behind level) else none
  let rest := cs.dropWhile fun c => c ≠ '=' && c ≠ '['
  let source := String.ofList (text.take (cs.length - rest.length))
  if !cs.head?.any beginsRule then none
  else
    match rest with
    | [] =>
      match rankOf? text with
      | some rank => some [⟨"", none, rank⟩]
      | none => some [⟨String.ofList text, none, rankOfDetail 5⟩]
    | '[' :: span =>
      match span.dropWhile fun c => c ≠ ']' && c ≠ '\x7b' with
      | ']' :: rest => (rankAt? rest).map fun _ => []
      | '\x7b' :: inside =>
        let ending := inside.dropWhile (· ≠ '\x7d')
        let field := (behind inside).take (inside.length - ending.length)
        match ending with
        | '\x7d' :: ']' :: rest =>
          if field = [] then none
          else (rankAt? rest).map fun rank =>
            if span.head? = some '\x7b' ∧ !field.contains '=' then
              [⟨source, some (String.ofList field), rank⟩]
            else []
        | _ => none
      | _ => none
    | rest => (rankAt? rest).map fun rank => [⟨source, none, rank⟩]

/-- The filter that shows errors alone. -/
def errors : LogFilter := [⟨"", none, rankOfDetail 1⟩]

/-- Reads a filter. A text without rules shows errors alone. -/
def read? (text : String) : Option LogFilter :=
  let parts := (text.toList.splitOn ',').filter (· ≠ [])
  if parts = [] then some errors
  else (parts.mapM readRule?).map List.flatten

/-- The filter for the program's own sources at a level of detail. -/
def ofDetail (detail : Nat) : LogFilter :=
  [⟨"hangar", none, rankOfDetail detail⟩]

/-- The rule that counts for a notice. -/
def ruleFor? (filter : LogFilter) (n : Notice) : Option LogRule :=
  match List.filter (·.fits n) filter with
  | [] => none
  | r :: rs => some (rs.foldl LogRule.stronger r)

/-- A notice is shown. -/
def shows (filter : LogFilter) (n : Notice) : Bool :=
  (filter.ruleFor? n).any fun r => r.least ≤ n.level.rank

end LogFilter

end MiniSql
