import MiniSql.Text.Hexadecimal

/-!
# Strings and keys of TOML

A basic string stands in double quotes and has escapes; a literal string stands in single
quotes and has none. Either may span lines between tripled quotes; then a line end right
after the opening quotes is dropped, and a backslash at the end of a line drops the white
space up to the next character. No string holds a control character other than a tab.

A key is a bare word or a string on one line, and several keys are joined by dots.

**Results.** What is read from a string leaves a shorter text.
-/

namespace MiniSql.Toml

/-- A reader of something in front of a text: what it reads, and the text after it. -/
abbrev Reader (α : Type) := List Char → Option (α × List Char)

/-- White space within a line. -/
def isGap (c : Char) : Bool :=
  c = ' ' || c = '\t'

/-- The text after the white space in front. -/
def skipGap (cs : List Char) : List Char :=
  cs.dropWhile isGap

/-- A character that may stand in a string or comment: a tab or no control character. -/
def isPlain (c : Char) : Bool :=
  c = '\t' || (0x20 ≤ c.toNat && c.toNat ≠ 0x7F)

/-- The text after the line end in front. -/
def newline? : List Char → Option (List Char)
  | '\n' :: cs => some cs
  | '\r' :: '\n' :: cs => some cs
  | _ => none

/-- The text after white space and line ends. -/
def skipLines : List Char → List Char
  | '\n' :: cs => skipLines cs
  | '\r' :: '\n' :: cs => skipLines cs
  | c :: cs => if isGap c then skipLines cs else c :: cs
  | [] => []

/-- The text after the first line end, white space before it included, and after every line
end and white space that follow it. -/
def joinLines? (cs : List Char) : Option (List Char) :=
  (newline? (skipGap cs)).map skipLines

/-- The character of a code point of `n` digits in front. -/
def codePoint? (n : Nat) (cs : List Char) : Option (Char × List Char) := do
  let digits := cs.take n
  if digits.length < n then none
  let code ← Text.hexNumber? digits
  return (← Text.charOf? code, cs.drop n)

/-- The character that a backslash and a letter stand for. -/
def unescape? (c : Char) : Option Char :=
  if c = '\x22' ∨ c = '\\' then some c
  else if c = 'b' then some '\x08'
  else if c = 'f' then some '\x0c'
  else if c = 'n' then some '\n'
  else if c = 'r' then some '\r'
  else if c = 't' then some '\t'
  else none

/-- The character of an escape, behind the backslash. -/
def escape? : Reader Char
  | 'u' :: cs => codePoint? 4 cs
  | 'U' :: cs => codePoint? 8 cs
  | c :: cs => (unescape? c).map (·, cs)
  | [] => none

theorem length_skipGap_le (cs : List Char) : (skipGap cs).length ≤ cs.length :=
  (List.dropWhile_suffix _).length_le

theorem length_skipLines_le (cs : List Char) : (skipLines cs).length ≤ cs.length := by
  fun_induction skipLines cs <;> grind

theorem length_of_newline? {cs rest : List Char} (h : newline? cs = some rest) :
    rest.length < cs.length := by
  unfold newline? at h
  split at h
  · cases h
    exact Nat.lt_succ_self _
  · cases h
    simp only [List.length_cons]
    omega
  · cases h

theorem length_of_joinLines? {cs rest : List Char} (h : joinLines? cs = some rest) :
    rest.length < cs.length := by
  obtain ⟨mid, hmid, rfl⟩ := Option.map_eq_some_iff.1 h
  have := length_of_newline? hmid
  have := length_skipGap_le cs
  have := length_skipLines_le mid
  omega

theorem length_of_escape? {cs rest : List Char} {c : Char} (h : escape? cs = some (c, rest)) :
    rest.length < cs.length := by
  have drops {n : Nat} {ds : List Char} (h : codePoint? n ds = some (c, rest)) :
      rest.length ≤ ds.length := by
    simp only [codePoint?, Option.pure_def, Option.bind_eq_bind] at h
    split at h
    · simp at h
    · simp only [Option.bind_eq_some_iff, Option.some.injEq, Prod.mk.injEq] at h
      obtain ⟨_, _, _, _, _, rfl⟩ := h
      simp
  unfold escape? at h
  split at h
  · have := drops h; simp only [List.length_cons]; omega
  · have := drops h; simp only [List.length_cons]; omega
  · simp only [Option.map_eq_some_iff, Prod.mk.injEq] at h
    obtain ⟨_, _, _, rfl⟩ := h
    simp
  · simp at h

/-! ## Strings -/

/-- A basic string on one line, behind its opening quote. -/
def basicLine : Reader (List Char)
  | '\x22' :: cs => some ([], cs)
  | '\\' :: cs =>
    match _h : escape? cs with
    | some (c, rest) => (basicLine rest).map fun (s, r) => (c :: s, r)
    | none => none
  | c :: cs => if isPlain c then (basicLine cs).map fun (s, r) => (c :: s, r) else none
  | [] => none
termination_by cs => cs.length
decreasing_by
  · have := length_of_escape? _h; simp only [List.length_cons]; omega
  · simp

/-- A literal string on one line, behind its opening quote. -/
def literalLine : Reader (List Char)
  | '\'' :: cs => some ([], cs)
  | c :: cs => if isPlain c then (literalLine cs).map fun (s, r) => (c :: s, r) else none
  | [] => none

/-- The end of a string of several lines, behind its three closing quotes: up to two more
quotes belong to the string. -/
def closing? (quote : Char) : Reader (List Char) := fun cs =>
  let quotes := cs.takeWhile (· = quote)
  if quotes.length ≤ 2 then some (quotes, cs.dropWhile (· = quote)) else none

/-- A basic string of several lines, behind its opening. -/
def basicLines : Reader (List Char)
  | '\x22' :: '\x22' :: '\x22' :: cs => closing? '\x22' cs
  | '\n' :: cs => (basicLines cs).map fun (s, r) => ('\n' :: s, r)
  | '\r' :: '\n' :: cs => (basicLines cs).map fun (s, r) => ('\n' :: s, r)
  | '\\' :: cs =>
    match _h : joinLines? cs with
    | some rest => basicLines rest
    | none =>
      match _h : escape? cs with
      | some (c, rest) => (basicLines rest).map fun (s, r) => (c :: s, r)
      | none => none
  | c :: cs => if isPlain c then (basicLines cs).map fun (s, r) => (c :: s, r) else none
  | [] => none
termination_by cs => cs.length
decreasing_by
  · simp
  · simp only [List.length_cons]; omega
  · have := length_of_joinLines? _h; simp only [List.length_cons]; omega
  · have := length_of_escape? _h; simp only [List.length_cons]; omega
  · simp

/-- A literal string of several lines, behind its opening. -/
def literalLines : Reader (List Char)
  | '\'' :: '\'' :: '\'' :: cs => closing? '\'' cs
  | '\n' :: cs => (literalLines cs).map fun (s, r) => ('\n' :: s, r)
  | '\r' :: '\n' :: cs => (literalLines cs).map fun (s, r) => ('\n' :: s, r)
  | c :: cs => if isPlain c then (literalLines cs).map fun (s, r) => (c :: s, r) else none
  | [] => none

/-- The text behind a line end, if there is one. -/
def dropNewline (cs : List Char) : List Char :=
  (newline? cs).getD cs

/-- A string. -/
def quoted? : Reader (List Char)
  | '\x22' :: '\x22' :: '\x22' :: cs => basicLines (dropNewline cs)
  | '\'' :: '\'' :: '\'' :: cs => literalLines (dropNewline cs)
  | '\x22' :: cs => basicLine cs
  | '\'' :: cs => literalLine cs
  | _ => none

/-! ## Keys -/

/-- A character of a bare key. -/
def isBare (c : Char) : Bool :=
  c.isAlphanum || c = '-' || c = '_'

/-- A key without dots. -/
def key? : Reader String
  | '\x22' :: cs => (basicLine cs).map fun (s, r) => (String.ofList s, r)
  | '\'' :: cs => (literalLine cs).map fun (s, r) => (String.ofList s, r)
  | cs =>
    let word := cs.takeWhile isBare
    if word = [] then none else some (String.ofList word, cs.dropWhile isBare)

end MiniSql.Toml
