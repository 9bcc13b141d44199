/-!
# Comma-separated values

A record is a line of fields between commas. A field that holds a comma, a quote or a line
end stands in quotes, and a quote inside is written twice.

**Results.** Text without special characters is its own field, and text without quotes is not
changed inside quotes.
-/

namespace MiniSql.Csv

/-- A character that only a quoted field may hold. -/
def isSpecial (c : Char) : Bool :=
  c = ',' || c = '\x22' || c = '\n' || c = '\r'

/-- The characters of a quoted field: each quote twice. -/
def doubled : List Char → List Char
  | [] => []
  | c :: cs => if c = '\x22' then c :: c :: doubled cs else c :: doubled cs

/-- A field. -/
def fieldText (cs : List Char) : List Char :=
  if cs.any isSpecial then '\x22' :: doubled cs ++ ['\x22'] else cs

/-- A field. -/
def field (s : String) : String :=
  String.ofList (fieldText s.toList)

/-- A record with its line end. -/
def record (fields : List String) : String :=
  ",".intercalate (fields.map field) ++ "\n"

/-- Text without a quote is not changed inside quotes. -/
theorem doubled_of_not_mem {cs : List Char} (h : '\x22' ∉ cs) : doubled cs = cs := by
  induction cs with
  | nil => rfl
  | cons c cs ih =>
    simp only [List.mem_cons, not_or] at h
    simp [doubled, ih h.2, Ne.symm h.1]

/-- Text that needs no quotes is its own field. -/
theorem fieldText_of_plain {cs : List Char} (h : cs.any isSpecial = false) :
    fieldText cs = cs := by
  simp [fieldText, h]

end MiniSql.Csv
