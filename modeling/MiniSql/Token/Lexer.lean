import MiniSql.Text.Blank
import MiniSql.Text.Numeric
import MiniSql.Token.Basic
import MiniSql.Token.Location

/-!
# Reading tokens

Text is cut into lexemes from left to right; a lexeme is a token, a run of blanks or a
comment. The first character decides the kind, and each reader below says how many further
characters belong to the lexeme. A text, quoted word or block comment that is not closed is
a fault with a location.

**Results.** The lexemes of a text, their sources put together, are the text. Every lexeme
stands at the location that its predecessors lead to.
-/

namespace MiniSql

/-- What can be wrong with text before any grammar is applied. -/
inductive LexFault where
  | unclosedText
  | unclosedEscapedText
  | unclosedWord (quote : Quote)
  | unclosedComment
deriving DecidableEq, Repr

/-- A fault and where it lies. -/
structure LexError where
  fault : LexFault
  location : Location
deriving DecidableEq, Repr

/-- The wording of a fault. -/
def LexFault.message : LexFault → String
  | unclosedText => "Unterminated string literal"
  | unclosedEscapedText => "Unterminated encoded string literal"
  | unclosedWord q =>
    "Expected close delimiter '" ++ String.singleton q.closing ++ "' before EOF."
  | unclosedComment => "Unexpected EOF while in a multi-line comment"

/-- The wording of a fault with its location. -/
def LexError.message (e : LexError) : String :=
  e.fault.message ++ " at Line: " ++ e.location.line.repr ++
    ", Column " ++ e.location.column.repr

/-- A lexeme of a text. Blanks and comments have no token. -/
structure Lexeme where
  token : Option Token
  location : Location
  source : List Char
deriving DecidableEq, Repr

namespace Lexer

/-- Reads up to the closing character `q`, which stands for itself when it is doubled. The
answer is the content and the number of characters read, the closing one included. -/
def quotedText (q : Char) : List Char → Option (List Char × Nat)
  | [] => none
  | [c] => if c = q then some ([], 1) else none
  | c :: d :: rest =>
    if c = q then
      if d = q then (quotedText q rest).map fun (s, n) => (q :: s, n + 2)
      else some ([], 1)
    else (quotedText q (d :: rest)).map fun (s, n) => (c :: s, n + 1)

/-- The character that a backslash and `c` stand for. -/
def unescape (c : Char) : Char :=
  if c = 'r' then '\r' else if c = 'n' then '\n' else if c = 't' then '\t' else c

/-- Reads up to the closing single quote of a text with backslash escapes; a doubled quote
stands for one. -/
def escapedText : List Char → Option (List Char × Nat)
  | [] => none
  | [c] => if c = '\x27' then some ([], 1) else none
  | c :: d :: rest =>
    if c = '\\' then (escapedText rest).map fun (s, n) => (unescape d :: s, n + 2)
    else if c = '\x27' then
      if d = '\x27' then (escapedText rest).map fun (s, n) => (c :: s, n + 2)
      else some ([], 1)
    else (escapedText (d :: rest)).map fun (s, n) => (c :: s, n + 1)

/-- Number of characters up to the end of a block comment with `depth` further comments
around it. A comment opens or closes where a character and the one before it spell the mark,
whatever use the earlier one had. -/
def blockComment (depth : Nat) (previous : Char) : List Char → Option Nat
  | [] => none
  | c :: rest =>
    if previous = '/' ∧ c = '*' then (blockComment (depth + 1) c rest).map (· + 1)
    else if previous = '*' ∧ c = '/' then
      match depth with
      | 0 => some 1
      | outer + 1 => (blockComment outer c rest).map (· + 1)
    else (blockComment depth c rest).map (· + 1)

/-- Number of characters up to and including the end of the line. -/
def lineComment (cs : List Char) : Nat :=
  let line := (cs.takeWhile (· ≠ '\n')).length
  if (cs.drop line).isEmpty then line else line + 1

/-- Number of characters of an exponent in front, none unless it has a digit. -/
def exponentLength : List Char → Nat
  | [] => 0
  | e :: rest =>
    if e = 'e' ∨ e = 'E' then
      let sign := if rest.head? = some '+' ∨ rest.head? = some '-' then 1 else 0
      let digits := ((rest.drop sign).takeWhile Char.isDigit).length
      if digits = 0 then 0 else 1 + sign + digits
    else 0

/-- A digit of base sixteen. -/
def isHexDigit (c : Char) : Bool :=
  c.isDigit || ('a' ≤ c && c ≤ 'f') || ('A' ≤ c && c ≤ 'F')

/-- The number, hexadecimal text or point at the front of text that begins with a digit or a
point, and its number of characters. -/
def numeral (cs : List Char) : Token × Nat :=
  let whole := cs.takeWhile Char.isDigit
  let afterWhole := cs.drop whole.length
  if whole = ['0'] ∧ afterWhole.head? = some 'x' then
    let hex := (afterWhole.drop 1).takeWhile isHexDigit
    (.text .hex (String.ofList hex), hex.length + 2)
  else
    let point := if afterWhole.head? = some '.' then 1 else 0
    let fraction := (afterWhole.drop point).takeWhile Char.isDigit
    let plain := whole.length + point + fraction.length
    if whole = [] ∧ fraction = [] then (.mark .period, 1)
    else
      let length := plain + exponentLength (cs.drop plain)
      let long := (cs.drop length).head? = some 'L'
      (.number (String.ofList (cs.take length)) long, if long then length + 1 else length)

/-- The operators, longer ones first. -/
def operators : List String := [
  "!~~*",
  "||/", "->>", "<=>", "!~*", "!~~", "~~*", "#>>",
  "->", "|/", "||", "==", "=>", "!=", "!!", "!~", "<=", "<>", "<<", "<@", ">=", ">>", "::",
  ":=", "&&", "^@", "~*", "~~", "#-", "#>", "@>", "@?", "@@",
  "(", ")", ",", "+", "*", ";", "\\", "]", "\x7b", "\x7d", "%", "-", "/", "|", "=", "!",
  "<", ">", ":", "&", "^", "~", "#", "@"]

/-- The token of an operator. The two spellings of inequality are one operator. -/
def operatorToken (spelling : String) : Token :=
  match spelling with
  | "," => .mark .comma
  | ";" => .mark .semicolon
  | "(" => .mark .leftParen
  | ")" => .mark .rightParen
  | "*" => .mark .star
  | "-" => .mark .minus
  | "=" => .mark .equal
  | "==" => .mark .doubleEqual
  | "!=" => .operator "<>"
  | s => .operator s

/-- The longest operator in front. -/
def operator? (cs : List Char) : Option String :=
  operators.find? fun spelling => spelling.toList.isPrefixOf cs

/-- A character that begins an unquoted word. -/
def isWordStart (c : Char) : Bool :=
  c.isAlpha || c = '_' || c = '$' || (0x7F ≤ c.toNat && c.toNat ≤ 0xFFFF)

/-- A character that continues an unquoted word. -/
def isWordPart (c : Char) : Bool :=
  isWordStart c || c.isDigit

/-- The quotes that a character opens. -/
def openingQuote? (c : Char) : Option Quote :=
  if c = Quote.double.opening then some .double
  else if c = Quote.backtick.opening then some .backtick
  else if c = Quote.bracket.opening then some .bracket
  else none

/-- The form of a text that a letter before a single quote announces. -/
def formOfLetter? (c : Char) : Option TextForm :=
  if c = 'n' ∨ c = 'N' then some .national
  else if c = 'x' ∨ c = 'X' then some .hex
  else if c = 'e' ∨ c = 'E' then some .escaped
  else none

/-- A fault at a number of characters after the start of the lexeme. -/
structure Fault where
  fault : LexFault
  after : Nat
deriving DecidableEq, Repr

/-- Reads a text in single quotes; `letter` characters stand before its first quote, and the
last argument is what follows that quote. -/
def singleQuoted (form : TextForm) (letter : Nat) (body : List Char) :
    Except Fault (Token × Nat) :=
  match form with
  | .escaped =>
    match escapedText body with
    | some (content, n) => .ok (.text .escaped (String.ofList content), letter + n)
    | none => .error ⟨.unclosedEscapedText, 0⟩
  | form =>
    match quotedText '\x27' body with
    | some (content, n) => .ok (.text form (String.ofList content), letter + n)
    | none => .error ⟨.unclosedText, letter⟩

/-- The lexeme that begins with `c` before `cs`: its token, and how many characters of `cs`
belong to it. -/
def lexeme (c : Char) (cs : List Char) : Except Fault (Option Token × Nat) :=
  if c = ' ' ∨ c = '\t' ∨ c = '\n' then .ok (none, 0)
  else if c = '\r' then .ok (none, if cs.head? = some '\n' then 1 else 0)
  else if c = '\x27' then (singleQuoted .plain 0 cs).map fun (t, n) => (some t, n)
  else
    match formOfLetter? c, cs with
    | some form, '\x27' :: body => (singleQuoted form 1 body).map fun (t, n) => (some t, n)
    | _, _ =>
      match openingQuote? c with
      | some q =>
        match quotedText q.closing cs with
        | some (value, n) => .ok (some (.word (String.ofList value) (some q)), n)
        | none => .error ⟨.unclosedWord q, 0⟩
      | none =>
        if c.isDigit ∨ c = '.' then
          let (t, length) := numeral (c :: cs)
          .ok (some t, length - 1)
        else if c = '-' ∧ cs.head? = some '-' then
          .ok (none, lineComment cs)
        else if c = '/' ∧ cs.head? = some '*' then
          match blockComment 0 ' ' cs.tail with
          | some n => .ok (none, n + 1)
          | none => .error ⟨.unclosedComment, cs.length + 1⟩
        else
          match operator? (c :: cs) with
          | some spelling => .ok (some (operatorToken spelling), spelling.length - 1)
          | none =>
            if c = '?' then
              let label := cs.takeWhile Text.isNumeric
              .ok (some (.placeholder (String.ofList label)), label.length)
            else if isWordStart c then
              let part := cs.takeWhile isWordPart
              .ok (some (.word (String.ofList (c :: part)) none), part.length)
            else if Text.isBlank c then .ok (none, 0)
            else .ok (some (.stray c), 0)

/-- The lexemes of the text that begins at a location. -/
def lexemes (here : Location) : List Char → Except LexError (List Lexeme)
  | [] => .ok []
  | c :: cs =>
    match lexeme c cs with
    | .error f => .error ⟨f.fault, here.advanceOver ((c :: cs).take f.after)⟩
    | .ok (token, n) =>
      let source := c :: cs.take n
      match lexemes (here.advanceOver source) (cs.drop n) with
      | .error e => .error e
      | .ok rest => .ok (⟨token, here, source⟩ :: rest)
termination_by cs => cs.length
decreasing_by simp only [List.length_drop, List.length_cons]; omega

/-- The sources of the lexemes, put together, are the text. -/
theorem lexemes_sources {here : Location} {cs : List Char} {ls : List Lexeme}
    (h : lexemes here cs = .ok ls) : ls.flatMap Lexeme.source = cs := by
  induction cs using WellFounded.induction (measure List.length).wf generalizing here ls with
  | _ cs ih =>
    cases cs with
    | nil =>
        rw [lexemes] at h
        cases h
        rfl
    | cons c cs =>
        rw [lexemes] at h
        split at h
        · cases h
        · next token n _ =>
            simp only at h
            split at h
            · cases h
            · next rest hrest =>
                cases h
                have hshort : (cs.drop n).length < (c :: cs).length := by
                  simp only [List.length_drop, List.length_cons]
                  omega
                have := ih (cs.drop n) hshort hrest
                simp [this]

/-- A lexeme stands at the location after the sources of the lexemes before it. -/
theorem location_of_lexemes {here : Location} {cs : List Char} {before after : List Lexeme}
    {l : Lexeme} (h : lexemes here cs = .ok (before ++ l :: after)) :
    l.location = here.advanceOver (before.flatMap Lexeme.source) := by
  induction before generalizing here cs with
  | nil =>
    cases cs with
    | nil =>
        rw [lexemes] at h
        cases h
    | cons c cs =>
        rw [lexemes] at h
        split at h
        · cases h
        · simp only at h
          split at h
          · cases h
          · cases h
            rfl
  | cons b before ih =>
    cases cs with
    | nil =>
        rw [lexemes] at h
        cases h
    | cons c cs =>
        rw [lexemes] at h
        split at h
        · cases h
        · simp only at h
          split at h
          · cases h
          · next rest hrest =>
              simp only [List.cons_append, Except.ok.injEq, List.cons.injEq] at h
              obtain ⟨rfl, rfl⟩ := h
              rw [ih hrest, List.flatMap_cons, Location.advanceOver_append]

end Lexer

/-- The tokens of a text. -/
def Token.scan (sql : String) : Except LexError (List Token) :=
  (Lexer.lexemes .start sql.toList).map fun ls => ls.filterMap Lexeme.token

/-- Byte offsets of the semicolons of a text that are tokens. Each semicolon token is found
again in the text by its location. -/
def Token.semicolonOffsets (sql : String) : Except LexError (List Nat) :=
  (Lexer.lexemes .start sql.toList).map fun ls =>
    (ls.filter (·.token = some (.mark .semicolon))).filterMap fun l =>
      match l.location.find? .start 0 sql.toList with
      | some (offset, ';') => some offset
      | _ => none

end MiniSql
