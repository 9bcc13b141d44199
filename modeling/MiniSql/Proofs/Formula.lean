import MiniSql.Execution
import MiniSql.Proofs.Pieces

/-!
# Conditions

The Boolean conditions that a clause can spell: tests of columns, other atoms and ranges of
atoms, with `NOT` binding tighter than `AND`, `AND` tighter than `OR`, and parentheses. What an
atom means is not known here, and a condition holds of a row under an assignment of truth to
the atoms. The tests of key columns mean what they say.

A conjunct is taken for a comparison by its tokens alone. A condition with a structure of its
own can have the tokens of a comparison, such as the `NOT` of an atom that begins with a point.

**Results.**
* `tokens_ne_nil`, `balanced_tokens`: the tokens of a condition as a whole.
* `faithful_tokens`: a condition that holds of a row, read as one conjunct, gives no test that
  the row does not pass.
-/

namespace MiniSql

open Token (placeholderCount stripParens unwrap? outside Flat)

/-! ## Comparisons -/

/-- A column compared with a parameter, the column perhaps after some token and a point. -/
structure Comparison where
  qualifier : Option Token
  column : String
  quote : Option Quote
  equality : Token
  isEquality : equality.isEquality = true
  label : String

namespace Comparison

def tokens (c : Comparison) : List Token :=
  match c.qualifier with
  | none => [.word c.column c.quote, c.equality, .placeholder c.label]
  | some q => [q, .mark .period, .word c.column c.quote, c.equality, .placeholder c.label]

/-- The column, if its comparison selects rows. -/
def key? (c : Comparison) : Option KeyColumn :=
  KeyColumn.ofName? c.column

/-- Only a word qualifies the column. -/
def IsTest (c : Comparison) : Prop :=
  ∀ q, c.qualifier = some q → q.identifier?.isSome = true

theorem not_paren_of_isEquality {t : Token} (h : t.isEquality = true) :
    t ≠ .mark .leftParen ∧ t ≠ .mark .rightParen := by
  constructor <;> rintro rfl <;> cases h

theorem IsTest.qualifier_eq {c : Comparison} (h : c.IsTest) {q : Token}
    (hq : c.qualifier = some q) : ∃ value quote, q = .word value quote := by
  obtain ⟨value, hvalue⟩ := Option.isSome_iff_exists.1 (h q hq)
  obtain ⟨quote, hquote⟩ := isWord_of_identifier? hvalue
  exact ⟨value, quote, hquote⟩

theorem IsTest.flat {c : Comparison} (h : c.IsTest) : Flat c.tokens := by
  have hequality := not_paren_of_isEquality c.isEquality
  unfold tokens
  split
  · simp [Flat, hequality]
  · next q hq =>
      obtain ⟨value, quote, rfl⟩ := h.qualifier_eq hq
      simp [Flat, hequality]

theorem IsTest.ne_semicolon {c : Comparison} (h : c.IsTest) :
    ∀ t ∈ c.tokens, t ≠ .mark .semicolon := by
  have hequality : c.equality ≠ .mark .semicolon := by
    intro heq
    have := c.isEquality
    rw [heq] at this
    cases this
  unfold tokens
  split
  · simp [hequality]
  · next q hq =>
      obtain ⟨value, quote, rfl⟩ := h.qualifier_eq hq
      simp [hequality]

theorem IsTest.not_placeholder {c : Comparison} (h : c.IsTest) :
    ∀ q, c.qualifier = some q → q.isPlaceholder = false := by
  intro q hq
  obtain ⟨value, quote, rfl⟩ := h.qualifier_eq hq
  rfl

/-- A comparison whose qualifier is no parameter has one parameter. -/
theorem count_tokens {c : Comparison}
    (h : ∀ q, c.qualifier = some q → q.isPlaceholder = false) :
    placeholderCount c.tokens = 1 := by
  have hcompared : placeholderCount [.word c.column c.quote, c.equality, .placeholder c.label] =
      1 := by
    rw [count_cons, count_cons c.equality, count_of_isEquality c.isEquality]
    rfl
  unfold tokens
  split
  · exact hcompared
  · next q hq =>
      rw [count_cons, count_cons (.mark .period), hcompared, count_single (h q hq)]
      rfl

theorem tokens_ne_nil (c : Comparison) : c.tokens ≠ [] := by
  unfold tokens
  split <;> simp

end Comparison

/-- What is taken for a comparison is one. -/
theorem exists_comparison {tokens : List Token} {column : String}
    (h : comparedColumn? tokens = some column) :
    ∃ c : Comparison, tokens = c.tokens ∧ c.column = column := by
  obtain ⟨name, equality, label, rfl, hequality, hname⟩ := comparedColumn?_eq_some h
  rcases columnName_eq_ok hname with ⟨quote, rfl⟩ | ⟨qualifier, quote, rfl⟩
  · exact ⟨⟨none, column, quote, equality, hequality, label⟩, rfl, rfl⟩
  · exact ⟨⟨some qualifier, column, quote, equality, hequality, label⟩, rfl, rfl⟩

theorem Comparison.comparedColumn?_tokens (c : Comparison) :
    comparedColumn? c.tokens = some c.column := by
  have hequality := c.isEquality
  unfold Comparison.tokens
  split <;> simp [comparedColumn?, hequality, Token.isPlaceholder, Token.identifier?]

/-! ## Conditions -/

/-- A keyword as it is written. -/
structure Keyword (name : String) where
  token : Token
  spells : token.isKeyword name = true

theorem Keyword.exists_word {name : String} (k : Keyword name) :
    ∃ value, k.token = .word value none ∧ Text.sameFold value name = true := by
  have hspells := k.spells
  cases hk : k.token with
  | word value quote =>
    rw [hk] at hspells
    cases quote with
    | none => exact ⟨value, rfl, hspells⟩
    | some q => cases hspells
  | _ => simp [hk, Token.isKeyword] at hspells

/-- The keywords that stand in no atom outside parentheses. -/
def reservedWords : List String :=
  ["AND", "OR", "NOT", "BETWEEN", "CASE", "WHERE"] ++ clauseEnds

/-- A part of a condition that has no Boolean structure and is no comparison. -/
structure Atom where
  tokens : List Token
  ne_nil : tokens ≠ []
  balanced : Token.balanced 0 tokens = true
  not_group : ∀ inner, Token.balanced 0 inner = true →
    tokens ≠ .mark .leftParen :: inner ++ [.mark .rightParen]
  plain : ∀ t ∈ outside 0 tokens, t ≠ .mark .semicolon ∧ t.isOneOf reservedWords = false
  not_comparison : ∀ c : Comparison, tokens ≠ c.tokens

/-- A condition, with its keywords as they are written. -/
inductive Formula where
  | test (c : Comparison) (isTest : c.IsTest)
  | atom (a : Atom)
  | range (a : Atom) (between : Keyword "BETWEEN") (low : Atom) (link : Keyword "AND")
      (high : Atom)
  | group (f : Formula)
  | negation (k : Keyword "NOT") (f : Formula)
  | conjunction (f : Formula) (k : Keyword "AND") (g : Formula)
  | disjunction (f : Formula) (k : Keyword "OR") (g : Formula)

namespace Formula

def tokens : Formula → List Token
  | test c _ => c.tokens
  | atom a => a.tokens
  | range a between low link high =>
    a.tokens ++ between.token :: (low.tokens ++ link.token :: high.tokens)
  | group f => .mark .leftParen :: f.tokens ++ [.mark .rightParen]
  | negation k f => k.token :: f.tokens
  | conjunction f k g => f.tokens ++ k.token :: g.tokens
  | disjunction f k g => f.tokens ++ k.token :: g.tokens

/-- How loosely the outermost connective binds. -/
def level : Formula → Nat
  | conjunction .. => 2
  | disjunction .. => 3
  | _ => 1

/-- No operand of a connective binds more loosely than the connective. -/
def Layered : Formula → Prop
  | group f => f.Layered
  | negation _ f => f.level ≤ 1 ∧ f.Layered
  | conjunction f _ g => (f.level ≤ 2 ∧ f.Layered) ∧ g.level ≤ 2 ∧ g.Layered
  | disjunction f _ g => f.Layered ∧ g.Layered
  | _ => True

/-- A condition holds of a row, standing after the tokens `before` of its clause. A test of a key
column holds when the row's field equals the parameter in the test's place, or both are missing;
every other test, atom or range holds when it is true in its place. -/
def holds (truth : Nat → Bool) (params : List Value) (row : Row) (before : List Token) :
    Formula → Bool
  | test c _ =>
    match c.key? with
    | some k => row.get? k.name == params[placeholderCount before]?
    | none => truth before.length
  | atom _ => truth before.length
  | range .. => truth before.length
  | group f => f.holds truth params row (before ++ [.mark .leftParen])
  | negation k f => !f.holds truth params row (before ++ [k.token])
  | conjunction f k g =>
    f.holds truth params row before &&
      g.holds truth params row (before ++ f.tokens ++ [k.token])
  | disjunction f k g =>
    f.holds truth params row before ||
      g.holds truth params row (before ++ f.tokens ++ [k.token])

/-- The tokens are no comparison of a key column, and none with a parameter before a point. -/
def Unmistaken (tokens : List Token) : Prop :=
  ∀ c : Comparison, tokens = c.tokens →
    c.key? = none ∧ ∀ q, c.qualifier = some q → q.isPlaceholder = false

/-- No part that has a connective can be mistaken for a comparison. -/
def Clear : Formula → Prop
  | group f => f.Clear
  | negation k f => Unmistaken (k.token :: f.tokens) ∧ f.Clear
  | conjunction f k g => Unmistaken (f.tokens ++ k.token :: g.tokens) ∧ f.Clear ∧ g.Clear
  | disjunction f k g => Unmistaken (f.tokens ++ k.token :: g.tokens) ∧ f.Clear ∧ g.Clear
  | _ => True

end Formula

/-! ## Tokens of a condition -/

theorem Keyword.not_paren {name : String} (k : Keyword name) :
    k.token ≠ .mark .leftParen ∧ k.token ≠ .mark .rightParen := by
  obtain ⟨value, hvalue, -⟩ := k.exists_word
  simp [hvalue]

theorem Keyword.balanced_cons {name : String} (k : Keyword name) (ts : List Token) :
    Token.balanced 0 (k.token :: ts) = Token.balanced 0 ts := by
  obtain ⟨value, hvalue, -⟩ := k.exists_word
  rw [hvalue]
  rfl

theorem Keyword.outside_cons {name : String} (k : Keyword name) (ts : List Token) :
    outside 0 (k.token :: ts) = k.token :: outside 0 ts := by
  rw [Token.outside_cons, Token.nest_of_isKeyword k.spells]
  rfl

theorem Keyword.mem_outside {name : String} (k : Keyword name) {ts us : List Token} {t : Token}
    (hts : Token.balanced 0 ts = true) (ht : t ∈ outside 0 (ts ++ k.token :: us)) :
    t ∈ outside 0 ts ∨ t = k.token ∨ t ∈ outside 0 us := by
  rwa [Token.outside_append_of_balanced hts, k.outside_cons, List.mem_append, List.mem_cons] at ht

theorem Keyword.ne_semicolon {name : String} (k : Keyword name) : k.token ≠ .mark .semicolon := by
  obtain ⟨value, hvalue, -⟩ := k.exists_word
  simp [hvalue]

theorem Atom.unwrap?_tokens (a : Atom) : unwrap? a.tokens = none := by
  cases h : unwrap? a.tokens with
  | none => rfl
  | some inner =>
      obtain ⟨htokens, hinner⟩ := Token.unwrap?_eq_some h
      exact absurd htokens (a.not_group inner hinner)

theorem Atom.comparedColumn?_tokens (a : Atom) : comparedColumn? a.tokens = none := by
  cases h : comparedColumn? a.tokens with
  | none => rfl
  | some column =>
      obtain ⟨c, hc, -⟩ := exists_comparison h
      exact absurd hc (a.not_comparison c)

/-- The token list is an atom. -/
def Atom.check (tokens : List Token) : Bool :=
  !tokens.isEmpty && Token.balanced 0 tokens && (unwrap? tokens).isNone &&
    (outside 0 tokens).all (fun t => t ≠ .mark .semicolon && !t.isOneOf reservedWords) &&
    (comparedColumn? tokens).isNone

/-- The atom that a token list spells. -/
def Atom.ofTokens (tokens : List Token) (h : Atom.check tokens = true) : Atom where
  tokens := tokens
  ne_nil := by
    rintro rfl
    cases h
  balanced := by
    simp only [check, Bool.and_eq_true] at h
    exact h.1.1.1.2
  not_group := by
    rintro inner hinner rfl
    simp [check, unwrap?, hinner] at h
  plain := by
    simp only [check, Bool.and_eq_true, List.all_eq_true] at h
    simpa using h.1.2
  not_comparison := by
    rintro c rfl
    simp [check, c.comparedColumn?_tokens] at h

namespace Formula

/-- Tokens that are not taken for a comparison are not mistaken for one. -/
theorem unmistaken_of_comparedColumn? {tokens : List Token} (h : comparedColumn? tokens = none) :
    Unmistaken tokens := by
  rintro c rfl
  rw [c.comparedColumn?_tokens] at h
  cases h

theorem tokens_ne_nil (f : Formula) : f.tokens ≠ [] := by
  cases f with
  | test c _ => exact c.tokens_ne_nil
  | atom a => exact a.ne_nil
  | _ => simp [tokens]

theorem balanced_tokens (f : Formula) : Token.balanced 0 f.tokens = true := by
  induction f with
  | test c isTest => exact isTest.flat.balanced
  | atom a => exact a.balanced
  | range a between low link high =>
      rw [tokens, Token.balanced_append a.balanced, between.balanced_cons,
        Token.balanced_append low.balanced, link.balanced_cons]
      exact high.balanced
  | group f ih => exact Token.balanced_group ih
  | negation k f ih => rw [tokens, k.balanced_cons, ih]
  | conjunction f k g ihf ihg => rw [tokens, Token.balanced_append ihf, k.balanced_cons, ihg]
  | disjunction f k g ihf ihg => rw [tokens, Token.balanced_append ihf, k.balanced_cons, ihg]

/-- A condition does not end its statement. -/
theorem ne_semicolon_of_mem_outside {f : Formula} {t : Token} (ht : t ∈ outside 0 f.tokens) :
    t ≠ .mark .semicolon := by
  induction f with
  | test c isTest =>
      rw [tokens, isTest.flat.outside_eq] at ht
      exact isTest.ne_semicolon t ht
  | atom a => exact (a.plain t ht).1
  | range a between low link high =>
      rcases between.mem_outside a.balanced ht with ht | rfl | ht
      · exact (a.plain t ht).1
      · exact between.ne_semicolon
      · rcases link.mem_outside low.balanced ht with ht | rfl | ht
        · exact (low.plain t ht).1
        · exact link.ne_semicolon
        · exact (high.plain t ht).1
  | group f _ =>
      rw [tokens, Token.outside_group f.balanced_tokens, List.mem_singleton] at ht
      simp [ht]
  | negation k f ih =>
      rw [tokens, k.outside_cons, List.mem_cons] at ht
      rcases ht with rfl | ht
      · exact k.ne_semicolon
      · exact ih ht
  | conjunction f k g ihf ihg =>
      rcases k.mem_outside f.balanced_tokens ht with ht | rfl | ht
      · exact ihf ht
      · exact k.ne_semicolon
      · exact ihg ht
  | disjunction f k g ihf ihg =>
      rcases k.mem_outside f.balanced_tokens ht with ht | rfl | ht
      · exact ihf ht
      · exact k.ne_semicolon
      · exact ihg ht

end Formula

/-! ## Conditions as conjuncts -/

/-- Tokens that stand after others of their clause, read as one conjunct, mislead about no row: if
they are taken for a comparison, they hold one parameter, and the row passes the test of a key
column. -/
def Faithful (params : List Value) (row : Row) (read item : List Token) : Prop :=
  ∀ column, comparedColumn? (stripParens item) = some column →
    placeholderCount item = 1 ∧ ∀ k, KeyColumn.ofName? column = some k →
      passes params row (k, placeholderCount read) = true

section

variable {params : List Value} {row : Row} {read item : List Token}

theorem faithful_of_none (h : comparedColumn? (stripParens item) = none) :
    Faithful params row read item := by
  intro column hcolumn
  rw [h] at hcolumn
  cases hcolumn

/-- Tokens without a parameter are no comparison. -/
theorem comparedColumn?_of_count (h : placeholderCount item = 0) :
    comparedColumn? (stripParens item) = none := by
  cases hcolumn : comparedColumn? (stripParens item) with
  | none => rfl
  | some column =>
      obtain ⟨name, equality, label, hstrip, -, -⟩ := comparedColumn?_eq_some hcolumn
      rw [← count_stripParens, hstrip, Token.placeholderCount_append, count_cons] at h
      have hone : placeholderCount [.placeholder label] = 1 := rfl
      omega

theorem Formula.Unmistaken.faithful (h : Formula.Unmistaken item)
    (hwhole : unwrap? item = none) : Faithful params row read item := by
  intro column hcolumn
  rw [Token.stripParens_of_unwrap? hwhole] at hcolumn
  obtain ⟨c, rfl, rfl⟩ := exists_comparison hcolumn
  obtain ⟨hkey, hqualifier⟩ := h c rfl
  refine ⟨c.count_tokens hqualifier, ?_⟩
  intro k hk
  rw [Comparison.key?, hk] at hkey
  cases hkey

end

/-- A keyword within a comparison is the compared column, after a qualifier and a point. -/
theorem Comparison.qualified_of_keyword {c : Comparison} {name : String} (k : Keyword name)
    {ts us : List Token} (hne : ts ≠ []) (h : c.tokens = ts ++ k.token :: us) :
    ∃ q, c.qualifier = some q ∧ ts = [q, .mark .period] ∧ .word c.column c.quote = k.token ∧
      us = [c.equality, .placeholder c.label] := by
  obtain ⟨value, hvalue, -⟩ := k.exists_word
  have hequality : c.equality ≠ .word value none := by
    intro heq
    have := c.isEquality
    rw [heq] at this
    cases this
  rw [hvalue] at h ⊢
  unfold tokens at h
  split at h
  · rcases ts with _ | ⟨x, _ | ⟨y, _ | ⟨z, ts⟩⟩⟩ <;> simp_all
  · rcases ts with _ | ⟨x, _ | ⟨y, _ | ⟨z, _ | ⟨u, _ | ⟨v, ts⟩⟩⟩⟩⟩ <;> simp_all

namespace Formula

/-- A condition that holds of a row is read faithfully as one conjunct. -/
theorem faithful_tokens {truth : Nat → Bool} {params : List Value} {row : Row}
    {before : List Token} {f : Formula} (hclear : f.Clear)
    (hholds : f.holds truth params row before = true) :
    Faithful params row before f.tokens := by
  induction f generalizing before with
  | test c isTest =>
      intro column hcolumn
      rw [tokens, isTest.flat.stripParens_eq, c.comparedColumn?_tokens] at hcolumn
      obtain rfl := Option.some.inj hcolumn
      refine ⟨c.count_tokens isTest.not_placeholder, ?_⟩
      intro k hk
      simpa [holds, passes, Comparison.key?, hk] using hholds
  | atom a =>
      refine faithful_of_none ?_
      rw [tokens, Token.stripParens_of_unwrap? a.unwrap?_tokens]
      exact a.comparedColumn?_tokens
  | range a between low link high =>
      have hwhole : unwrap? (range a between low link high).tokens = none :=
        Token.unwrap?_append a.ne_nil a.balanced (List.cons_ne_nil _ _)
      intro column hcolumn
      rw [Token.stripParens_of_unwrap? hwhole] at hcolumn
      obtain ⟨c, hc, -⟩ := exists_comparison hcolumn
      obtain ⟨q, -, -, -, hrest⟩ := c.qualified_of_keyword between a.ne_nil hc.symm
      -- After its `BETWEEN` a range has too many tokens for a comparison.
      have hlow := List.length_pos_iff.2 low.ne_nil
      have hhigh := List.length_pos_iff.2 high.ne_nil
      have hlength := congrArg List.length hrest
      simp only [List.length_append, List.length_cons, List.length_nil] at hlength
      omega
  | group f ih =>
      have hinner := ih hclear hholds
      intro column hcolumn
      rw [tokens, Token.stripParens_group f.balanced_tokens] at hcolumn
      obtain ⟨hcount, hpasses⟩ := hinner column hcolumn
      rw [Token.placeholderCount_append, count_single rfl, Nat.add_zero] at hpasses
      refine ⟨?_, hpasses⟩
      rw [tokens, Token.placeholderCount_append, count_cons, count_single rfl, hcount]
      rfl
  | negation k f _ =>
      exact hclear.1.faithful (Token.unwrap?_of_head_ne k.not_paren.1 f.tokens)
  | conjunction f k g _ _ =>
      exact hclear.1.faithful
        (Token.unwrap?_append f.tokens_ne_nil f.balanced_tokens (List.cons_ne_nil _ _))
  | disjunction f k g _ _ =>
      exact hclear.1.faithful
        (Token.unwrap?_append f.tokens_ne_nil f.balanced_tokens (List.cons_ne_nil _ _))

end Formula

end MiniSql
