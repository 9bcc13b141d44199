import Mathlib.Data.List.Chain
import MiniSql.Token.Lexer

/-!
# Writing tokens

Tokens written one after the other with a blank between them, except around commas, points
and parentheses and after a minus. Texts and quoted words are written with their closing quote
doubled, so that nothing in them can end them.

**Results.**
* `lexeme_written`: a written token is one lexeme before anything that cannot extend it.
* `scan_layout`: scanning the written tokens gives them back.
-/

namespace MiniSql

/-! ## Written tokens -/

namespace Token

/-- Content between quotes: the closing quote in it is doubled. -/
def doubled (quote : Char) (cs : List Char) : List Char :=
  cs.flatMap fun c => if c = quote then [c, c] else [c]

/-- The characters of a token as text to be scanned. -/
def written : Token → List Char
  | word value none => value.toList
  | word value (some q) => q.opening :: (doubled q.closing value.toList ++ [q.closing])
  | number digits _ => digits.toList
  | text form content => form.letter.toList ++ '\x27' :: (doubled '\x27' content.toList ++ ['\x27'])
  | placeholder label => '?' :: label.toList
  | mark m => m.spelling.toList
  | operator s => s.toList
  | stray c => [c]

/-- No blank is written between the two tokens. -/
def adjoins (t u : Token) : Bool :=
  glued t u || t = mark .minus

/-- The characters of a token list. -/
def layout : List Token → List Char
  | [] => []
  | [t] => t.written
  | t :: u :: rest => t.written ++ (if adjoins t u then [] else [' ']) ++ layout (u :: rest)

/-- The text of an unquoted word. -/
def isBareWord (value : String) : Bool :=
  match value.toList with
  | [] => false
  | c :: cs => Lexer.isWordStart c && cs.all Lexer.isWordPart

/-- The token has a written form that stands for it: a bare or quoted word, a run of digits,
a text, a parameter or a mark. -/
def isWritable : Token → Bool
  | word value none => isBareWord value
  | word _ (some _) => true
  | number digits long => digits.toList ≠ [] && digits.toList.all Char.isDigit && !long
  | text form _ => form = .plain
  | placeholder label => label.toList.all Text.isNumeric
  | mark _ => true
  | operator _ => false
  | stray _ => false

theorem isBareWord_iff (value : String) : isBareWord value = true ↔
    ∃ c cs, value.toList = c :: cs ∧ Lexer.isWordStart c = true ∧
      ∀ d ∈ cs, Lexer.isWordPart d = true := by
  unfold isBareWord
  split <;> simp_all

theorem isWritable_number_iff (digits : String) (long : Bool) :
    (number digits long).isWritable = true ↔
      digits.toList ≠ [] ∧ (∀ c ∈ digits.toList, c.isDigit = true) ∧ long = false := by
  simp [isWritable, and_assoc]

/-- The first token keeps its meaning directly before the second one: no point touches a
number, and a minus stands before numbers only. -/
def mayPrecede : Token → Token → Bool
  | mark .minus, number _ _ => true
  | mark .minus, _ => false
  | mark .period, number _ _ => false
  | number _ _, mark .period => false
  | _, _ => true

/-- The characters that follow cannot extend a token. -/
def Ends (rest : List Char) : Token → Prop
  | word _ none => ∀ c ∈ rest.head?, Lexer.isWordPart c = false ∧ c ≠ '\x27'
  | word _ (some q) => rest.head? ≠ some q.closing
  | number _ _ => ∀ c ∈ rest.head?, c.isDigit = false ∧ c ∉ ['.', 'e', 'E', 'L', 'x']
  | text _ _ => rest.head? ≠ some '\x27'
  | placeholder _ => ∀ c ∈ rest.head?, Text.isNumeric c = false
  | mark .minus => ∀ c ∈ rest.head?, c ∉ ['-', '>']
  | mark .equal => ∀ c ∈ rest.head?, c ∉ ['=', '>']
  | mark .period => ∀ c ∈ rest.head?, c.isDigit = false
  | _ => True

end Token

/-! ## Single tokens -/

namespace Lexer

open Token (doubled written isBareWord isWritable Ends)

/-- Doubled content is read up to the closing quote, if no further quote follows. -/
theorem quotedText_doubled (quote : Char) (cs : List Char) {rest : List Char}
    (hrest : rest.head? ≠ some quote) :
    quotedText quote (doubled quote cs ++ quote :: rest) =
      some (cs, (doubled quote cs).length + 1) := by
  induction cs with
  | nil =>
      cases rest with
      | nil => simp [doubled, quotedText]
      | cons d rest =>
          have hd : d ≠ quote := by simpa using hrest
          simp [doubled, quotedText, hd]
  | cons c cs ih =>
      by_cases hc : c = quote
      · subst hc
        have hdoubled : doubled c (c :: cs) = c :: c :: doubled c cs := by simp [doubled]
        rw [hdoubled, List.cons_append, List.cons_append, quotedText, if_pos rfl, if_pos rfl, ih]
        simp
      · have hdoubled : doubled quote (c :: cs) = c :: doubled quote cs := by simp [doubled, hc]
        rw [hdoubled, List.cons_append]
        obtain ⟨d, tail, htail⟩ : ∃ d tail, doubled quote cs ++ quote :: rest = d :: tail :=
          List.exists_cons_of_ne_nil (by simp)
        rw [htail, quotedText, if_neg hc, ← htail, ih]
        simp

theorem takeWhile_eq_nil_of_ends {p : Char → Bool} {rest : List Char}
    (hrest : ∀ c ∈ rest.head?, p c = false) : rest.takeWhile p = [] := by
  cases rest with
  | nil => rfl
  | cons d rest => simp [hrest d rfl]

theorem takeWhile_append_of_ends {p : Char → Bool} {cs rest : List Char}
    (hcs : ∀ c ∈ cs, p c = true) (hrest : ∀ c ∈ rest.head?, p c = false) :
    (cs ++ rest).takeWhile p = cs := by
  rw [List.takeWhile_append_of_pos hcs, takeWhile_eq_nil_of_ends hrest, List.append_nil]

/-- A character of a class differs from every character outside of it. -/
theorem ne_of_class {p : Char → Bool} {c : Char} (hc : p c = true) {d : Char}
    (hd : p d = false) : c ≠ d := by
  rintro rfl
  simp [hd] at hc

theorem operator?_eq_none {c : Char} (hc : ∀ s ∈ operators, s.toList.head? ≠ some c)
    (cs : List Char) : operator? (c :: cs) = none := by
  rw [operator?, List.find?_eq_none]
  intro s hs hprefix
  have hfirst := hc s hs
  cases hchars : s.toList with
  | nil => exact absurd hs (by simp [operators, String.toList_eq_nil_iff.1 hchars])
  | cons d ds =>
      rw [hchars, List.isPrefixOf_cons_cons, Bool.and_eq_true] at hprefix
      rw [hchars] at hfirst
      exact hfirst (congrArg some (of_decide_eq_true hprefix.1))

/-- What is computed of every listed character. -/
theorem forall_mem_of_all {p : Char → Prop} [DecidablePred p] {cs : List Char}
    (h : cs.all (fun c => decide (p c)) = true) : ∀ c ∈ cs, p c :=
  fun c hc => of_decide_eq_true (List.all_eq_true.1 h c hc)

theorem digit_forall {p : Char → Prop} (h : ∀ n, n < 10 → p (Char.ofNat (48 + n))) (c : Char)
    (hc : c.isDigit = true) : p c := by
  simp only [Char.isDigit, Bool.and_eq_true, decide_eq_true_eq, ge_iff_le,
    UInt32.le_iff_toNat_le] at hc
  have hrange : 48 ≤ c.toNat ∧ c.toNat ≤ 57 := hc
  have hp := h (c.toNat - 48) (by omega)
  rwa [Nat.add_sub_cancel' hrange.1, Char.ofNat_toNat] at hp

theorem isDigit_of_isWordStart {c : Char} (hc : isWordStart c = true) : c.isDigit = false := by
  have hdigits : ∀ c : Char, c.isDigit = true → isWordStart c = false := digit_forall (by decide)
  cases hdigit : c.isDigit with
  | false => rfl
  | true =>
      rw [hdigits c hdigit] at hc
      cases hc

theorem lexeme_bareWord {c : Char} {cs rest : List Char} (hc : isWordStart c = true)
    (hcs : ∀ d ∈ cs, isWordPart d = true)
    (hrest : ∀ d ∈ rest.head?, isWordPart d = false ∧ d ≠ '\x27') :
    lexeme c (cs ++ rest) = .ok (some (.word (String.ofList (c :: cs)) none), cs.length) := by
  have hpart : (cs ++ rest).takeWhile isWordPart = cs :=
    takeWhile_append_of_ends hcs fun d hd => (hrest d hd).1
  -- Neither the word nor what follows has a quote second, so no letter announces a text.
  have hquote : ∀ body, cs ++ rest ≠ '\x27' :: body := by
    intro body hbody
    cases cs with
    | nil => exact (hrest '\x27' (by simp [show rest = _ from hbody])).2 rfl
    | cons d ds =>
        obtain rfl : d = '\x27' := by simpa using congrArg List.head? hbody
        exact absurd (hcs _ List.mem_cons_self) (by decide)
  have hne : ∀ d, isWordStart d = false → c ≠ d := fun d => ne_of_class hc
  have hdigit : c.isDigit = false := isDigit_of_isWordStart hc
  have hopening : openingQuote? c = none := by
    simp (disch := decide) [openingQuote?, Quote.opening, hne]
  have hoperator : operator? (c :: (cs ++ rest)) = none := by
    have hfirst : ∀ s ∈ operators, s.toList.head?.all (!isWordStart ·) = true := by decide
    refine operator?_eq_none (fun s hs hd => ?_) _
    have hstart := hfirst s hs
    rw [hd] at hstart
    simp [hc] at hstart
  unfold lexeme
  rw [if_neg (by simp (disch := decide) [hne]), if_neg (hne '\r' (by decide)),
    if_neg (hne '\x27' (by decide))]
  split
  · next form body hform hbody => exact absurd hbody (hquote body)
  · rw [hopening]
    simp (disch := decide) [hdigit, hne, hoperator, hc, hpart]

theorem lexeme_quotedWord (q : Quote) (value : String) {rest : List Char}
    (hrest : rest.head? ≠ some q.closing) :
    lexeme q.opening (doubled q.closing value.toList ++ q.closing :: rest) =
      .ok (some (.word value (some q)), (doubled q.closing value.toList).length + 1) := by
  have hread := quotedText_doubled q.closing value.toList hrest
  cases q <;>
    simp_all [lexeme, Quote.opening, Quote.closing, openingQuote?, formOfLetter?]

theorem lexeme_text (content : String) {rest : List Char} (hrest : rest.head? ≠ some '\x27') :
    lexeme '\x27' (doubled '\x27' content.toList ++ '\x27' :: rest) =
      .ok (some (.text .plain content), (doubled '\x27' content.toList).length + 1) := by
  have hread := quotedText_doubled '\x27' content.toList hrest
  simp [lexeme, singleQuoted, hread, Except.map]

theorem exponentLength_eq_zero {cs : List Char} (h : ∀ c ∈ cs.head?, c ≠ 'e' ∧ c ≠ 'E') :
    exponentLength cs = 0 := by
  cases cs with
  | nil => rfl
  | cons c cs =>
      have hc : c ≠ 'e' ∧ c ≠ 'E' := h c rfl
      simp [exponentLength, hc]

theorem numeral_digits {digits rest : List Char} (hne : digits ≠ [])
    (hdigits : ∀ c ∈ digits, c.isDigit = true)
    (hrest : ∀ c ∈ rest.head?, c.isDigit = false ∧ c ∉ ['.', 'e', 'E', 'L', 'x']) :
    numeral (digits ++ rest) = (.number (String.ofList digits) false, digits.length) := by
  have hwhole : (digits ++ rest).takeWhile Char.isDigit = digits :=
    takeWhile_append_of_ends hdigits fun c hc => (hrest c hc).1
  have hfraction : rest.takeWhile Char.isDigit = [] :=
    takeWhile_eq_nil_of_ends fun c hc => (hrest c hc).1
  have hhead : ∀ c ∈ ['.', 'e', 'E', 'L', 'x'], rest.head? ≠ some c :=
    fun c hc hhead => (hrest c hhead).2 hc
  have hexponent : exponentLength rest = 0 :=
    exponentLength_eq_zero fun c hc =>
      ⟨fun he => hhead 'e' (by simp) (he ▸ hc), fun he => hhead 'E' (by simp) (he ▸ hc)⟩
  simp [numeral, hwhole, hfraction, hexponent, hne, hhead]

theorem lexeme_number {c : Char} {cs rest : List Char}
    (hdigits : ∀ d ∈ c :: cs, d.isDigit = true)
    (hrest : ∀ d ∈ rest.head?, d.isDigit = false ∧ d ∉ ['.', 'e', 'E', 'L', 'x']) :
    lexeme c (cs ++ rest) = .ok (some (.number (String.ofList (c :: cs)) false), cs.length) := by
  have hc : c.isDigit = true := hdigits c List.mem_cons_self
  have hclass : ∀ c : Char, c.isDigit = true →
      openingQuote? c = none ∧ formOfLetter? c = none ∧ c ∉ [' ', '\t', '\n', '\r', '\x27'] :=
    digit_forall (by decide)
  obtain ⟨hopening, hletter, hother⟩ := hclass c hc
  have hnumeral := numeral_digits (by simp) hdigits hrest
  rw [List.cons_append] at hnumeral
  simp_all [lexeme]

theorem lexeme_placeholder {label rest : List Char}
    (hlabel : ∀ c ∈ label, Text.isNumeric c = true)
    (hrest : ∀ c ∈ rest.head?, Text.isNumeric c = false) :
    lexeme '?' (label ++ rest) =
      .ok (some (.placeholder (String.ofList label)), label.length) := by
  have htake := takeWhile_append_of_ends hlabel hrest
  have hoperator := operator?_eq_none (c := '?') (by decide) (label ++ rest)
  simp [lexeme, openingQuote?, formOfLetter?, Quote.opening, hoperator, htake]

theorem lexeme_period {rest : List Char} (hrest : ∀ c ∈ rest.head?, c.isDigit = false) :
    lexeme '.' rest = .ok (some (.mark .period), 0) := by
  have hfraction := takeWhile_eq_nil_of_ends hrest
  simp [lexeme, openingQuote?, formOfLetter?, Quote.opening, numeral, hfraction]

/-- No longer operator begins with a mark that ends where the mark does. -/
theorem operator?_mark {m : Mark} (hm : m ≠ .period) {rest : List Char}
    (hrest : (Token.mark m).Ends rest) :
    operator? (m.spelling.toList ++ rest) = some m.spelling := by
  have hfollows : ∀ d ds, (∀ c ∈ rest.head?, c ≠ d) → (d :: ds).isPrefixOf rest = false := by
    intro d ds hd
    cases rest with
    | nil => rfl
    | cons c rest => simp [List.isPrefixOf, (hd c rfl).symm]
  cases m with
  | period => exact absurd rfl hm
  | minus =>
      have hgreater := fun ds => hfollows '>' ds fun c hc => by simp_all [Ends]
      simp [operator?, operators, Mark.spelling, List.isPrefixOf, hgreater]
  | equal =>
      have hequal := fun ds => hfollows '=' ds fun c hc => by simp_all [Ends]
      have hgreater := fun ds => hfollows '>' ds fun c hc => by simp_all [Ends]
      simp [operator?, operators, Mark.spelling, List.isPrefixOf, hequal, hgreater]
  | comma | semicolon | leftParen | rightParen | star | doubleEqual =>
      simp [operator?, operators, Mark.spelling, List.isPrefixOf]

/-- A mark other than a point is read as an operator. -/
theorem lexeme_operator {c : Char} {cs : List Char} {spelling : String}
    (hc : c ∈ [',', ';', '(', ')', '*', '-', '=']) (hminus : c = '-' → cs.head? ≠ some '-')
    (hoperator : operator? (c :: cs) = some spelling) :
    lexeme c cs = .ok (some (operatorToken spelling), spelling.length - 1) := by
  have hclass : ∀ c ∈ [',', ';', '(', ')', '*', '-', '='],
      c ∉ [' ', '\t', '\n', '\r', '\x27', '.', '/'] ∧ formOfLetter? c = none ∧
        openingQuote? c = none ∧ c.isDigit = false :=
    forall_mem_of_all (by decide)
  obtain ⟨hother, hletter, hopening, hdigit⟩ := hclass c hc
  simp only [List.mem_cons, List.not_mem_nil, or_false, not_or] at hother
  have hcomment : ¬ (c = '-' ∧ cs.head? = some '-') := fun h => hminus h.1 h.2
  simp [lexeme, hother, hletter, hopening, hdigit, hcomment, hoperator]

theorem lexeme_mark (m : Mark) {rest : List Char} (hrest : (Token.mark m).Ends rest) :
    ∃ c cs, m.spelling.toList = c :: cs ∧
      lexeme c (cs ++ rest) = .ok (some (.mark m), cs.length) := by
  by_cases hm : m = .period
  · subst hm
    exact ⟨'.', [], rfl, lexeme_period hrest⟩
  · obtain ⟨c, cs, hchars, hc, hlength, htoken, hminus⟩ : ∃ c cs, m.spelling.toList = c :: cs ∧
        c ∈ [',', ';', '(', ')', '*', '-', '='] ∧ m.spelling.length - 1 = cs.length ∧
        operatorToken m.spelling = .mark m ∧ (c = '-' → m = .minus ∧ cs = []) := by
      cases m with
      | period => exact absurd rfl hm
      | comma | semicolon | leftParen | rightParen | star | minus | equal | doubleEqual =>
          exact ⟨_, _, rfl, by decide, by decide, rfl, by decide⟩
    have hoperator := operator?_mark hm hrest
    rw [hchars, List.cons_append] at hoperator
    refine ⟨c, cs, hchars, ?_⟩
    rw [lexeme_operator hc _ hoperator, htoken, hlength]
    intro hc hhead
    obtain ⟨rfl, rfl⟩ := hminus hc
    exact absurd (hrest '-' hhead) (by decide)

/-- A written token is one lexeme before anything that cannot extend it. -/
theorem lexeme_written {t : Token} (ht : t.isWritable = true) {rest : List Char}
    (hrest : t.Ends rest) :
    ∃ c cs, t.written = c :: cs ∧ lexeme c (cs ++ rest) = .ok (some t, cs.length) := by
  cases t with
  | word value quote =>
    cases quote with
    | none =>
        obtain ⟨c, cs, hvalue, hc, hcs⟩ := (Token.isBareWord_iff value).1 ht
        refine ⟨c, cs, hvalue, ?_⟩
        rw [lexeme_bareWord hc hcs hrest, ← hvalue, String.ofList_toList]
    | some q =>
        refine ⟨q.opening, doubled q.closing value.toList ++ [q.closing], rfl, ?_⟩
        simpa using lexeme_quotedWord q value hrest
  | number digits long =>
      obtain ⟨hne, hdigits, rfl⟩ := (Token.isWritable_number_iff digits long).1 ht
      obtain ⟨c, cs, hchars⟩ := List.exists_cons_of_ne_nil hne
      refine ⟨c, cs, hchars, ?_⟩
      rw [hchars] at hdigits
      rw [lexeme_number hdigits hrest, ← hchars, String.ofList_toList]
  | text form content =>
      obtain rfl : form = .plain := of_decide_eq_true ht
      refine ⟨'\x27', doubled '\x27' content.toList ++ ['\x27'], rfl, ?_⟩
      simpa using lexeme_text content hrest
  | placeholder label =>
      refine ⟨'?', label.toList, rfl, ?_⟩
      rw [lexeme_placeholder (List.all_eq_true.1 ht) hrest, String.ofList_toList]
  | mark m => exact lexeme_mark m hrest
  | operator s => cases ht
  | stray c => cases ht

/-- Wherever the text begins, its tokens are the given ones. -/
def Reads (cs : List Char) (tokens : List Token) : Prop :=
  ∀ here, ∃ ls, lexemes here cs = .ok ls ∧ ls.filterMap Lexeme.token = tokens

theorem reads_nil : Reads [] [] :=
  fun here => ⟨[], by rw [lexemes], rfl⟩

/-- A lexeme in front of a text that is read. -/
theorem Reads.lexeme {c : Char} {cs rest : List Char} {t : Option Token} {tokens : List Token}
    (ht : lexeme c (cs ++ rest) = .ok (t, cs.length)) (h : Reads rest tokens) :
    Reads (c :: cs ++ rest) (t.toList ++ tokens) := by
  intro here
  obtain ⟨ls, hls, htokens⟩ := h (here.advanceOver (c :: cs))
  refine ⟨⟨t, here, c :: cs⟩ :: ls, ?_, ?_⟩
  · rw [List.cons_append, lexemes, ht]
    simp [-Location.advanceOver_cons, hls]
  · cases t <;> simp [htokens]

theorem Reads.blank {cs : List Char} {tokens : List Token} (h : Reads cs tokens) :
    Reads (' ' :: cs) tokens :=
  @Reads.lexeme ' ' [] cs none tokens rfl h

theorem Reads.token {t : Token} {cs : List Char} {tokens : List Token} (ht : t.isWritable = true)
    (hends : t.Ends cs) (h : Reads cs tokens) : Reads (t.written ++ cs) (t :: tokens) := by
  obtain ⟨c, ds, hwritten, hlexeme⟩ := lexeme_written ht hends
  rw [hwritten]
  exact Reads.lexeme hlexeme h

end Lexer

/-! ## Token lists -/

namespace Token

theorem ends_nil (t : Token) : t.Ends [] := by
  cases t with
  | word value quote => cases quote <;> simp [Ends]
  | mark m => cases m <;> simp [Ends]
  | _ => simp [Ends]

/-- A blank ends every token, and so do a comma and a closing parenthesis. -/
theorem ends_of_mem {c : Char} (hc : c ∈ [' ', ',', ')']) (t : Token) (rest : List Char) :
    t.Ends (c :: rest) := by
  have hclass : ∀ c ∈ [' ', ',', ')'], Lexer.isWordPart c = false ∧ c.isDigit = false ∧
      Text.isNumeric c = false ∧
      c ∉ ['\x27', '\x22', '\x60', ']', '.', 'e', 'E', 'L', 'x', '-', '>', '='] :=
    Lexer.forall_mem_of_all (by decide +kernel)
  obtain ⟨hword, hdigit, hnumeric, hother⟩ := hclass c hc
  cases t with
  | word value quote =>
    cases quote with
    | none => simp_all [Ends]
    | some q => cases q <;> simp_all [Ends, Quote.closing]
  | mark m => cases m <;> simp_all [Ends]
  | _ => simp_all [Ends]

theorem adjoins_iff (t u : Token) : adjoins t u = true ↔
    u ∈ [mark .comma, mark .rightParen, mark .period] ∨
      t ∈ [mark .leftParen, mark .period, mark .minus] := by
  unfold adjoins glued
  split <;> simp_all

/-- Only a number is written with a digit first. -/
theorem isDigit_of_head_written {u : Token} (hu : u.isWritable = true)
    (hnumber : ∀ d l, u ≠ number d l) {rest : List Char} :
    ∀ c ∈ (u.written ++ rest).head?, c.isDigit = false := by
  cases u with
  | word value quote =>
    cases quote with
    | none =>
        obtain ⟨c, cs, hvalue, hc, -⟩ := (isBareWord_iff value).1 hu
        intro d hd
        obtain rfl : c = d := by simpa [written, hvalue] using hd
        exact Lexer.isDigit_of_isWordStart hc
    | some q => cases q <;> simp [written, Quote.opening]
  | number digits long => exact absurd rfl (hnumber digits long)
  | text form content =>
      obtain rfl : form = .plain := of_decide_eq_true hu
      simp [written, TextForm.letter]
  | placeholder label => simp [written]
  | mark m => cases m <;> simp [written, Mark.spelling]
  | operator s => cases hu
  | stray c => cases hu

theorem ends_period {t : Token} (hmay : mayPrecede t (mark .period) = true) (rest : List Char) :
    t.Ends ('.' :: rest) := by
  have hclass : Lexer.isWordPart '.' = false ∧ Text.isNumeric '.' = false := by decide +kernel
  cases t with
  | word value quote =>
    cases quote with
    | none => simp [Ends, hclass]
    | some q => cases q <;> simp [Ends, Quote.closing]
  | number digits long => cases hmay
  | mark m =>
    cases m with
    | minus => cases hmay
    | _ => simp [Ends]
  | _ => simp [Ends, hclass]

/-- A token written without a blank before the next one ends there. -/
theorem ends_written {t u : Token} (hu : u.isWritable = true) (hmay : mayPrecede t u = true)
    (hadjoins : adjoins t u = true) (rest : List Char) : t.Ends (u.written ++ rest) := by
  rcases (adjoins_iff t u).1 hadjoins with hsecond | hfirst
  · simp only [List.mem_cons, List.not_mem_nil, or_false] at hsecond
    rcases hsecond with rfl | rfl | rfl
    · exact ends_of_mem (by decide) t rest
    · exact ends_of_mem (by decide) t rest
    · exact ends_period hmay rest
  · simp only [List.mem_cons, List.not_mem_nil, or_false] at hfirst
    rcases hfirst with rfl | rfl | rfl
    · trivial
    · exact isDigit_of_head_written hu (by rintro d l rfl; cases hmay)
    · cases u with
      | number digits long =>
          obtain ⟨hne, hdigits, -⟩ := (isWritable_number_iff digits long).1 hu
          obtain ⟨c, cs, hchars⟩ := List.exists_cons_of_ne_nil hne
          have hc : ∀ c : Char, c.isDigit = true → c ∉ ['-', '>'] := Lexer.digit_forall (by decide)
          intro d hd
          obtain rfl : c = d := by simpa [written, hchars] using hd
          exact hc c (hdigits c (by simp [hchars]))
      | _ => cases hmay

theorem exists_layout_eq (t : Token) (rest : List Token) :
    ∃ tail, layout (t :: rest) = t.written ++ tail := by
  cases rest with
  | nil => exact ⟨[], by simp [layout]⟩
  | cons u rest =>
      refine ⟨(if adjoins t u then [] else [' ']) ++ layout (u :: rest), ?_⟩
      rw [layout, List.append_assoc]

/-- Written tokens are read one by one, before a text that cannot extend the last one. -/
theorem reads_layout_append {tokens : List Token} (hwritable : ∀ t ∈ tokens, t.isWritable = true)
    (hchain : tokens.IsChain fun t u => mayPrecede t u = true) {cs : List Char}
    {others : List Token} (hlast : ∀ t ∈ tokens.getLast?, t.Ends cs)
    (hothers : Lexer.Reads cs others) : Lexer.Reads (layout tokens ++ cs) (tokens ++ others) := by
  induction tokens with
  | nil => exact hothers
  | cons t rest ih =>
    have ht := hwritable t List.mem_cons_self
    cases rest with
    | nil => exact Lexer.Reads.token ht (hlast t rfl) hothers
    | cons u rest =>
        have hu := hwritable u (by simp)
        have hrest := ih (fun v hv => hwritable v (List.mem_cons_of_mem t hv)) hchain.tail
          fun v hv => hlast v (by rwa [List.getLast?_cons_cons])
        rw [layout]
        by_cases hadjoins : adjoins t u = true
        · obtain ⟨tail, htail⟩ := exists_layout_eq u rest
          have hends : t.Ends (layout (u :: rest) ++ cs) := by
            rw [htail, List.append_assoc]
            exact ends_written hu hchain.rel hadjoins (tail ++ cs)
          simpa [hadjoins] using Lexer.Reads.token ht hends hrest
        · simpa [hadjoins] using Lexer.Reads.token ht (ends_of_mem (by decide) t _) hrest.blank

/-- Written tokens are read one by one. -/
theorem reads_layout {tokens : List Token} (hwritable : ∀ t ∈ tokens, t.isWritable = true)
    (hchain : tokens.IsChain fun t u => mayPrecede t u = true) :
    Lexer.Reads (layout tokens) tokens := by
  simpa using reads_layout_append hwritable hchain (fun t _ => ends_nil t) Lexer.reads_nil

/-- Scanning the written tokens gives them back. -/
theorem scan_layout {tokens : List Token} (hwritable : ∀ t ∈ tokens, t.isWritable = true)
    (hchain : tokens.IsChain fun t u => mayPrecede t u = true) :
    scan (String.ofList (layout tokens)) = .ok tokens := by
  obtain ⟨ls, hls, htokens⟩ := reads_layout hwritable hchain .start
  rw [scan, String.toList_ofList, hls, ← htokens]
  rfl

theorem scan_of_eq_layout {sql : String} {tokens : List Token}
    (htext : sql = String.ofList (layout tokens)) (hwritable : ∀ t ∈ tokens, t.isWritable = true)
    (hchain : tokens.IsChain fun t u => mayPrecede t u = true) : scan sql = .ok tokens := by
  rw [htext, scan_layout hwritable hchain]

end Token

end MiniSql
