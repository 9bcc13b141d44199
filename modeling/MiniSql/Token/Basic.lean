import MiniSql.Text.Fold

/-!
# Tokens

The tokens of statement text. Blanks and comments are no tokens. Words, numbers, quoted
texts and placeholders carry their content; the marks that the grammar of statements looks
at are named, and every other operator is carried by its spelling.

**Results.** The predicates the grammar uses, and the normalised text of a token list.
-/

namespace MiniSql

/-- The three ways to quote a word. -/
inductive Quote where
  | double
  | backtick
  | bracket
deriving DecidableEq, Repr

namespace Quote

/-- The character that opens a quoted word. -/
def opening : Quote → Char
  | double => '\x22'
  | backtick => '\x60'
  | bracket => '['

/-- The character that closes a quoted word. -/
def closing : Quote → Char
  | double => '\x22'
  | backtick => '\x60'
  | bracket => ']'

end Quote

/-- The forms of a text in single quotes, told apart by the letter in front. -/
inductive TextForm where
  | plain
  | national
  | escaped
  | hex
deriving DecidableEq, Repr

/-- The letter in front of a text in single quotes. -/
def TextForm.letter : TextForm → String
  | plain => ""
  | national => "N"
  | escaped => "E"
  | hex => "X"

/-- The marks that the grammar of statements names. -/
inductive Mark where
  | comma
  | semicolon
  | period
  | leftParen
  | rightParen
  | star
  | minus
  | equal
  | doubleEqual
deriving DecidableEq, Repr

/-- The characters of a mark. -/
def Mark.spelling : Mark → String
  | comma => ","
  | semicolon => ";"
  | period => "."
  | leftParen => "("
  | rightParen => ")"
  | star => "*"
  | minus => "-"
  | equal => "="
  | doubleEqual => "=="

/-- A token of statement text. -/
inductive Token where
  /-- A word, with its quotes if it had any. -/
  | word (value : String) (quote : Option Quote)
  /-- A number literal; `long` when the letter `L` followed it. -/
  | number (digits : String) (long : Bool)
  /-- A text in single quotes. -/
  | text (form : TextForm) (content : String)
  /-- A question mark and the numeric characters after it. -/
  | placeholder (label : String)
  /-- A mark of the grammar. -/
  | mark (m : Mark)
  /-- Any other operator. -/
  | operator (spelling : String)
  /-- A character that begins no token of another kind. -/
  | stray (c : Char)
deriving DecidableEq, Repr

namespace Token

/-- The text of a token as it appears in messages and in normalised text. -/
def spelling : Token → String
  | word value none => value
  | word value (some q) => String.singleton q.opening ++ value ++ String.singleton q.closing
  | number digits long => if long then digits ++ "L" else digits
  | text form content => form.letter ++ "'" ++ content ++ "'"
  | placeholder label => "?" ++ label
  | mark m => m.spelling
  | operator s => s
  | stray c => String.singleton c

/-- An unquoted word that spells the keyword in any letter case. -/
def isKeyword (keyword : String) : Token → Bool
  | word value none => Text.sameFold value keyword
  | _ => false

/-- The name a token gives to a relation or column; only words name things. -/
def identifier? : Token → Option String
  | word value _ => some value
  | _ => none

/-- A positional parameter. -/
def isPlaceholder : Token → Bool
  | placeholder _ => true
  | _ => false

/-- One of the two spellings of equality. -/
def isEquality : Token → Bool
  | mark .equal | mark .doubleEqual => true
  | _ => false

/-- One of several keywords. -/
def isOneOf (keywords : List String) (t : Token) : Bool :=
  keywords.any t.isKeyword

/-- No blank stands between the two tokens in normalised text. -/
def glued (previous current : Token) : Bool :=
  match previous, current with
  | _, mark .comma | _, mark .rightParen | _, mark .period => true
  | mark .leftParen, _ | mark .period, _ => true
  | _, _ => false

/-- The normalised text of a token list: one blank between tokens, none before a comma,
closing parenthesis or point and none after an opening parenthesis or point. -/
def render : List Token → String
  | [] => ""
  | [t] => t.spelling
  | t :: u :: rest =>
    t.spelling ++ (if glued t u then "" else " ") ++ render (u :: rest)

/-- Number of positional parameters in a token list. -/
def placeholderCount (tokens : List Token) : Nat :=
  tokens.countP isPlaceholder

@[simp] theorem isKeyword_quoted (keyword value : String) (q : Quote) :
    (word value (some q)).isKeyword keyword = false := rfl

@[simp] theorem isKeyword_word (keyword value : String) :
    (word value none).isKeyword keyword = Text.sameFold value keyword := rfl

@[simp] theorem isKeyword_mark (keyword : String) (m : Mark) :
    (mark m).isKeyword keyword = false := rfl

@[simp] theorem isKeyword_placeholder (keyword label : String) :
    (placeholder label).isKeyword keyword = false := rfl

@[simp] theorem placeholderCount_nil : placeholderCount [] = 0 := rfl

/-- Parameters are counted piece by piece. -/
@[simp] theorem placeholderCount_append (ts us : List Token) :
    placeholderCount (ts ++ us) = placeholderCount ts + placeholderCount us := by
  simp [placeholderCount]

end Token

end MiniSql
