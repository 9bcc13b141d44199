import Mathlib.Data.List.Basic
import MiniSql.Proofs.Formula
import MiniSql.Proofs.Slots

/-!
# Conditions and the rows they select

A clause is cut at its tokens, without a look at the structure of the condition it spells. A
piece between two cuts is then a part of the condition, except where a word of a test is
itself spelled like a keyword; such pieces give no test. So every test that is read is one
that the condition demands.

**Results.**
* `Formula.faithful_place`: what stands between the cuts of a condition that holds of a row.
* `fetchMany_keeps_rows`: a fetch of all rows loses none of which the condition holds.
* `fetchMany_loses_rows`: conditions that are taken for something else, and lose a row.
-/

namespace MiniSql

open Token (placeholderCount stripParens unwrap? outside Listed Uncut CutsClause ClauseMode
  depthFrom nest)

/-! ## Conditions that are not cut -/

theorem Keyword.isKeyword_eq_false {name other : String} (k : Keyword name)
    (h : Text.sameFold name other = false) : k.token.isKeyword other = false :=
  Token.isKeyword_ne k.spells h

/-- A reserved word stands in no atom outside parentheses. -/
theorem Atom.isKeyword_eq_false {a : Atom} {t : Token} (ht : t ∈ outside 0 a.tokens)
    {name : String} (hname : name ∈ reservedWords) : t.isKeyword name = false := by
  have hplain := (a.plain t ht).2
  rw [Token.isOneOf, List.any_eq_false] at hplain
  simpa using hplain name hname

theorem Atom.uncut (a : Atom) {read : List Token} (hread : depthFrom 0 read = 0) :
    Uncut CutsClause read a.tokens :=
  Token.uncut_of_outside hread fun _ ht => a.isKeyword_eq_false ht (by decide)

theorem Atom.after_tokens (a : Atom) {m : ClauseMode} (hm : m.depth = 0) :
    m.after a.tokens = m := by
  have hafter : m.after a.tokens = ⟨depthFrom m.depth a.tokens, m.inBetween⟩ := by
    apply ClauseMode.after_of_outside
    intro t ht
    rw [hm] at ht
    exact ⟨a.isKeyword_eq_false ht (by decide), a.isKeyword_eq_false ht (by decide)⟩
  rw [hafter, hm, Token.depthFrom_of_balanced a.balanced, ← hm]

namespace Formula

theorem uncut_range (a : Atom) (between : Keyword "BETWEEN") (low : Atom) (link : Keyword "AND")
    (high : Atom) : Uncut CutsClause [] (range a between low link high).tokens := by
  have hbetween : ClauseMode.start.after (a.tokens ++ [between.token]) = ⟨0, true⟩ := by
    rw [ClauseMode.after_append, a.after_tokens rfl]
    exact ClauseMode.next_of_between rfl between.spells
  have hlow : ClauseMode.start.after (a.tokens ++ [between.token] ++ low.tokens) = ⟨0, true⟩ := by
    rw [ClauseMode.after_append, hbetween, low.after_tokens rfl]
  have hlink : ClauseMode.start.after (a.tokens ++ [between.token] ++ low.tokens ++ [link.token]) =
      .start := by
    rw [ClauseMode.after_append, hlow]
    exact ClauseMode.next_of_and rfl link.spells
  refine (a.uncut rfl).append ?_ (Uncut.append (low.uncut ?_) ?_ (high.uncut ?_))
  · rintro ⟨-, hand⟩
    rw [between.isKeyword_eq_false (by decide)] at hand
    cases hand
  · exact Token.depthFrom_of_after hbetween
  · rintro ⟨hmode, -⟩
    rw [List.nil_append, hlow] at hmode
    cases hmode
  · exact Token.depthFrom_of_after hlink

theorem uncut_group (f : Formula) : Uncut CutsClause [] (group f).tokens := by
  apply Token.uncut_of_outside rfl
  intro t ht
  rw [tokens, Token.outside_group f.balanced_tokens] at ht
  obtain rfl := List.mem_singleton.1 ht
  rfl

end Formula

/-! ## Pieces of a condition -/

theorem Comparison.length_tokens (c : Comparison) :
    c.tokens.length = 3 ∨ c.tokens.length = 5 := by
  unfold tokens
  split
  · exact Or.inl rfl
  · exact Or.inr rfl

/-- No part of a test that begins after a keyword is a comparison. -/
theorem Comparison.not_after_keyword {c d : Comparison} {name : String} (k : Keyword name)
    (ts : List Token) : c.tokens ≠ ts ++ k.token :: d.tokens := by
  intro h
  by_cases hts : ts = []
  · have hlength := congrArg List.length h
    rw [hts, List.nil_append, List.length_cons] at hlength
    have hc := c.length_tokens
    have hd := d.length_tokens
    omega
  · obtain ⟨q, -, -, -, hrest⟩ := c.qualified_of_keyword k hts h
    have hlength := congrArg List.length hrest
    have hd := d.length_tokens
    simp only [List.length_cons, List.length_nil] at hlength
    omega

/-- The parameter of a test is its last token. -/
theorem Comparison.exists_tokens_eq (c : Comparison) :
    ∃ init, c.tokens = init ++ [.placeholder c.label] := by
  unfold tokens
  split
  · exact ⟨[.word c.column c.quote, c.equality], rfl⟩
  · next q _ => exact ⟨[q, .mark .period, .word c.column c.quote, c.equality], rfl⟩

namespace Formula

/-- Where a word of a test cuts it, the pieces are no comparisons. -/
theorem test_pieces {c : Comparison} (isTest : c.IsTest) {before item after : List Token}
    (h : Token.Place CutsClause [] c.tokens before item after) :
    (after ≠ [] → placeholderCount item = 0) ∧
      (before ≠ [] → comparedColumn? (stripParens item) = none) := by
  have hcount := c.count_tokens isTest.not_placeholder
  rw [h.eq, Token.placeholderCount_append, Token.placeholderCount_append] at hcount
  -- The only parameter is the last token, which another piece then holds.
  have hafter : after ≠ [] → placeholderCount item = 0 := by
    intro hne
    obtain ⟨init, hinit⟩ := c.exists_tokens_eq
    rcases List.eq_nil_or_concat after with hnil | ⟨ts, t, rfl⟩
    · exact absurd hnil hne
    · rw [h.eq, List.concat_eq_append, ← List.append_assoc] at hinit
      obtain ⟨-, hlast⟩ := List.append_inj' hinit rfl
      rw [List.concat_eq_append, hlast, Token.placeholderCount_append] at hcount
      have hone : placeholderCount [.placeholder c.label] = 1 := rfl
      omega
  refine ⟨hafter, ?_⟩
  intro hne
  by_cases hnil : after = []
  · cases hcolumn : comparedColumn? (stripParens item) with
    | none => rfl
    | some column =>
        have hflat : Token.Flat item := by
          intro t ht
          exact isTest.flat t (by simp [h.eq, ht])
        rw [hflat.stripParens_eq] at hcolumn
        obtain ⟨d, hd, -⟩ := exists_comparison hcolumn
        rcases h.starts with hbefore | ⟨ts, t, hbefore, -, hand⟩
        · exact absurd hbefore hne
        · have htokens := h.eq
          rw [hbefore, hnil, hd, List.append_nil, List.append_assoc] at htokens
          exact absurd htokens (c.not_after_keyword ⟨t, hand⟩ ts)
  · exact comparedColumn?_of_count (hafter hnil)

/-- A condition without an outer `AND` or `OR` is cut only within its tests. -/
theorem level_one_pieces {f : Formula} (hlevel : f.level ≤ 1) (hlayered : f.Layered)
    {before item after : List Token} (h : Token.Place CutsClause [] f.tokens before item after) :
    (after ≠ [] → placeholderCount item = 0) ∧
      (before ≠ [] → comparedColumn? (stripParens item) = none) := by
  induction f generalizing before item with
  | test c isTest => exact test_pieces isTest h
  | atom a =>
      obtain ⟨rfl, rfl⟩ := h.eq_nil_of_uncut (a.uncut rfl)
      exact ⟨fun hne => absurd rfl hne, fun hne => absurd rfl hne⟩
  | range a between low link high =>
      obtain ⟨rfl, rfl⟩ := h.eq_nil_of_uncut (uncut_range a between low link high)
      exact ⟨fun hne => absurd rfl hne, fun hne => absurd rfl hne⟩
  | group f _ =>
      obtain ⟨rfl, rfl⟩ := h.eq_nil_of_uncut (uncut_group f)
      exact ⟨fun hne => absurd rfl hne, fun hne => absurd rfl hne⟩
  | negation k f ih =>
      have hand : k.token.isKeyword "AND" = false := k.isKeyword_eq_false (by decide)
      have hmode : ClauseMode.start.after [k.token] = .start := by
        rw [ClauseMode.after_cons, ClauseMode.next_of_plain fun _ =>
          ⟨k.isKeyword_eq_false (by decide), hand⟩, Token.nest_of_isKeyword k.spells]
        rfl
      rcases h.of_cons hmode hand with ⟨rfl, rfl⟩ | ⟨rfl, rest, rfl, hplace⟩ |
        ⟨rest, hne, rfl, hplace⟩
      · exact ⟨fun _ => rfl, fun hne => absurd rfl hne⟩
      · refine ⟨fun hne => ?_, fun hne => absurd rfl hne⟩
        rw [count_cons, count_single (not_placeholder_of_isKeyword k.spells),
          (ih hlayered.1 hlayered.2 hplace).1 hne]
      · obtain ⟨hafter, hbefore⟩ := ih hlayered.1 hlayered.2 hplace
        exact ⟨hafter, fun _ => hbefore hne⟩
  | conjunction f k g _ _ => simp [level] at hlevel
  | disjunction f k g _ _ => simp [level] at hlevel

end Formula

namespace Formula

section

variable {truth : Nat → Bool} {params : List Value} {row : Row} {read : List Token}

theorem faithful_of_level_one {f : Formula} (hlevel : f.level ≤ 1) (hlayered : f.Layered)
    (hclear : f.Clear) (hholds : f.holds truth params row read = true)
    {before item after : List Token} (h : Token.Place CutsClause [] f.tokens before item after) :
    Faithful params row (read ++ before) item := by
  obtain ⟨hafter, hbefore⟩ := level_one_pieces hlevel hlayered h
  by_cases hfirst : before = []
  · by_cases hlast : after = []
    · have hwhole := faithful_tokens hclear hholds
      rw [h.eq, hfirst, hlast] at hwhole
      simpa [hfirst] using hwhole
    · exact faithful_of_none (comparedColumn?_of_count (hafter hlast))
  · exact faithful_of_none (hbefore hfirst)

/-- A piece with the outer `AND` of a condition in it begins with an open `BETWEEN`. It is no test
of a key column, and has no parameter before its point. -/
theorem faithful_of_spanning {f : Formula} {k : Keyword "AND"}
    {before front back tokens after : List Token}
    (h : Token.Place CutsClause [] tokens before (front ++ k.token :: back) after)
    (huncut : Uncut CutsClause before (front ++ k.token :: back))
    (hf : f.tokens = before ++ front) :
    Faithful params row read (front ++ k.token :: back) := by
  have hstart := h.after_before
  -- The `AND` does not cut, and parentheses have paired up before it.
  have hopen : ClauseMode.start.after front ≠ .start := by
    intro hfront
    refine huncut front k.token back rfl ⟨?_, k.spells⟩
    rw [ClauseMode.after_append, hstart, hfront]
  have hne : front ≠ [] := by
    rintro rfl
    exact hopen rfl
  have hbalanced : Token.balanced 0 front = true := by
    have htokens := f.balanced_tokens
    rw [hf] at htokens
    have hfront := Token.balanced_of_append htokens
    rwa [Token.depthFrom_of_after hstart] at hfront
  intro column hcolumn
  rw [Token.stripParens_of_unwrap?
    (Token.unwrap?_append hne hbalanced (List.cons_ne_nil _ _))] at hcolumn
  obtain ⟨c, hc, rfl⟩ := exists_comparison hcolumn
  obtain ⟨q, hq, hfront, hword, -⟩ := c.qualified_of_keyword k hne hc.symm
  constructor
  · rw [hc]
    apply c.count_tokens
    intro t ht
    obtain rfl : q = t := Option.some.inj (hq.symm.trans ht)
    -- A parameter would leave no `BETWEEN` open.
    cases q with
    | placeholder label =>
        rw [hfront] at hopen
        exact absurd rfl hopen
    | _ => rfl
  · intro key hkey
    obtain ⟨value, hvalue, hand⟩ := k.exists_word
    obtain ⟨hcolumn, -⟩ := Token.word.inj (hword.trans hvalue)
    rw [hcolumn, KeyColumn.ofName?_of_sameFold hand] at hkey
    cases hkey

/-- After the first part of a conjunction and its `AND` the next conjunct begins. -/
theorem after_conjunction (f : Formula) (k : Keyword "AND") :
    ClauseMode.start.after (f.tokens ++ [k.token]) = .start := by
  have hdepth : (ClauseMode.start.after f.tokens).depth = 0 := by
    rw [ClauseMode.depth_after]
    exact Token.depthFrom_of_balanced f.balanced_tokens
  rw [ClauseMode.after_append]
  exact ClauseMode.next_of_and hdepth k.spells

/-- What stands between the cuts of a condition without an outer `OR` that holds of a row. -/
theorem faithful_place {f : Formula} (hlevel : f.level ≤ 2) (hlayered : f.Layered)
    (hclear : f.Clear) (hholds : f.holds truth params row read = true)
    {before item after : List Token} (h : Token.Place CutsClause [] f.tokens before item after)
    (huncut : Uncut CutsClause before item) : Faithful params row (read ++ before) item := by
  induction f generalizing read before after with
  | conjunction f k g ihf ihg =>
      obtain ⟨⟨hlevelf, hlayeredf⟩, hlevelg, hlayeredg⟩ := hlayered
      obtain ⟨-, hclearf, hclearg⟩ := hclear
      rw [holds, Bool.and_eq_true] at hholds
      -- The piece lies before the outer `AND`, around it or after it.
      rcases Token.sides_of_append h.eq.symm with ⟨middle, hf, rfl⟩ |
        ⟨front, back, rfl, hf, -⟩ | ⟨middle, rfl, hg⟩
      · have hplace : Token.Place CutsClause [] f.tokens before item middle := hf ▸ h.left
        exact ihf hlevelf hlayeredf hclearf hholds.1 hplace huncut
      · exact faithful_of_spanning h huncut hf
      · have hsplit : f.tokens ++ k.token :: middle = f.tokens ++ [k.token] ++ middle := by simp
        have hmode := after_conjunction f k
        rw [hsplit] at huncut ⊢
        have hplace : Token.Place CutsClause [] g.tokens middle item after := by
          apply Token.Place.of_append hmode
          simpa [tokens] using h
        have hright := ihg hlevelg hlayeredg hclearg hholds.2 hplace (huncut.of_append hmode)
        simpa using hright
  | disjunction f k g _ _ => simp [level] at hlevel
  | _ => exact faithful_of_level_one (by simp [level]) hlayered hclear hholds h

end

end Formula

/-! ## Clauses -/

theorem Faithful.read {params : List Value} {row : Row} {read item : List Token}
    (h : Faithful params row read item) :
    (∀ test, (Conjunct.read (placeholderCount read) item).1.key? = some test →
      passes params row test = true) ∧
      (Conjunct.read (placeholderCount read) item).2 = placeholderCount (read ++ item) := by
  rw [Conjunct.read]
  cases hcolumn : comparedColumn? (stripParens item) with
  | none =>
      refine ⟨?_, by simp [count_stripParens]⟩
      intro test htest
      cases htest
  | some column =>
      obtain ⟨hcount, hpasses⟩ := h column hcolumn
      refine ⟨?_, by simp [hcount]⟩
      intro test htest
      obtain ⟨k, hk, rfl⟩ := Option.map_eq_some_iff.1 htest
      exact hpasses k hk

theorem passes_of_listed {params : List Value} {row : Row} {tokens : List Token}
    {pieces : List (List Token)}
    (h : Listed CutsClause (fun read item piece => piece = item ∧ Faithful params row read item) []
      tokens pieces) :
    ∀ c ∈ (Conjunct.readAll 0 pieces).1, ∀ test, c.key? = some test →
      passes params row test = true := by
  have hlisted : Listed CutsClause
      (fun _ _ c => ∀ test, c.key? = some test → passes params row test = true) [] tokens
      (Conjunct.readAll 0 pieces).1 := by
    refine listed_of_conjuncts [] h (fun _ _ ht => ⟨ht, ht.2⟩) ?_
    rintro read item piece - ⟨rfl, hfaithful⟩
    exact hfaithful.read
  intro c hc
  obtain ⟨_, _, _, -, hpasses⟩ := hlisted.exists_place hc
  exact hpasses

/-- A row of which a condition holds passes every test that is read from it. -/
theorem Formula.passes_tests {truth : Nat → Bool} {params : List Value} {row : Row} {f : Formula}
    (hlayered : f.Layered) (hclear : f.Clear) (hholds : f.holds truth params row [] = true) :
    ∀ test ∈ (Predicate.ofTokens 0 f.tokens).1.keys, passes params row test = true := by
  intro test htest
  obtain ⟨c, hc, hkey⟩ := List.mem_filterMap.1 htest
  refine @passes_of_listed params row f.tokens _ ?_ c hc test hkey
  split
  · -- A condition with alternatives is one conjunct.
    exact .last ⟨rfl, faithful_tokens hclear hholds⟩
  · next hone =>
      have hlevel : f.level ≤ 2 := by
        cases f with
        | disjunction f k g =>
            have htwo := Token.one_lt_length_split k.spells f.balanced_tokens g.tokens_ne_nil
            exact absurd htwo hone
        | _ => simp [level]
      refine (listed_splitConjuncts f.tokens).of_place ?_
      rintro before item after piece hplace ⟨rfl, huncut⟩
      rw [List.nil_append] at huncut ⊢
      exact ⟨rfl, faithful_place hlevel hlayered hclear hholds hplace huncut⟩

/-! ## Queries -/

/-- The text is a query of every column of a relation, under a condition. -/
def IsQuery (sql relation : String) (f : Formula) : Prop :=
  ∃ (select : Keyword "SELECT") (source : Keyword "FROM") (quote : Option Quote)
    (condition : Keyword "WHERE"),
    Token.scan sql = .ok (select.token :: .mark .star :: source.token :: .word relation quote ::
      condition.token :: f.tokens)

theorem Predicate.read_of_outside (k : Keyword "WHERE") {clause : List Token} (hne : clause ≠ [])
    (h : ∀ t ∈ outside 0 clause, t ≠ .mark .semicolon ∧ t.isOneOf clauseEnds = false) :
    Predicate.read 0 (k.token :: clause) = .ok (some (Predicate.ofTokens 0 clause).1, []) := by
  have htake : Token.takeUntil (Token.isOneOf clauseEnds) 0 clause = (clause, []) := by
    simpa [Token.takeUntil] using Token.takeUntil_of_outside h []
  rw [Predicate.read, if_pos k.spells, htake]
  simp [hne]

theorem Keyword.isOneOf_eq_false {name : String} (k : Keyword name) {names : List String}
    (h : ∀ other ∈ names, Text.sameFold name other = false) : k.token.isOneOf names = false := by
  rw [Token.isOneOf, List.any_eq_false]
  intro other hother
  simp [k.isKeyword_eq_false (h other hother)]

namespace Parser

theorem expect_keyword {name : String} (k : Keyword name) (rest : List Token) :
    expect name (k.token :: rest) = .ok rest := by
  rw [expect, if_pos k.spells]

/-- A clause is no alias of the relation before it. -/
theorem skipAlias_keyword (k : Keyword "WHERE") (rest : List Token) :
    skipAlias (k.token :: rest) = .ok (k.token :: rest) := by
  have has : startsWith "AS" (k.token :: rest) = false := k.isKeyword_eq_false (by decide)
  have hclause : startsWithAny ("WHERE" :: clauseEnds) (k.token :: rest) = true := by
    simp [startsWithAny, Token.isOneOf, k.spells]
  simp [skipAlias, has, hclause]

/-- Tokens that begin with none of some keywords begin with no one of a part of them. -/
theorem startsWithAny_of_subset (names : List String) {others : List String} {tokens : List Token}
    (hsubset : names ⊆ others) (h : startsWithAny others tokens = false) :
    startsWithAny names tokens = false := by
  cases tokens with
  | nil => rfl
  | cons t ts =>
      have hnone : t.isOneOf others = false := h
      show t.isOneOf names = false
      rw [Token.isOneOf, List.any_eq_false] at hnone ⊢
      exact fun name hname => hnone name (hsubset hname)

/-- A query of every column, with the clause that is read after the relation. -/
theorem select_of_read (k : Keyword "SELECT") (source : Keyword "FROM")
    (condition : Keyword "WHERE") (relation : String) (quote : Option Quote)
    {clause rest : List Token} {p : Option Predicate}
    (hread : Predicate.read 0 (condition.token :: clause) = .ok (p, rest))
    (hrest : startsWithAny ["GROUP", "HAVING", "ORDER", "LIMIT"] rest = false) :
    select (k.token :: .mark .star :: source.token :: .word relation quote ::
      condition.token :: clause) = .ok (⟨relation, .all, p⟩, rest) := by
  have htake : ∀ rest, Token.takeUntil (·.isKeyword "FROM") 0
      (.mark .star :: source.token :: rest) = ([.mark .star], source.token :: rest) := by
    intro rest
    simp [Token.takeUntil, nest, source.spells]
  have hfrom : ∀ rest, startsWith "FROM" (source.token :: rest) = true := fun _ => source.spells
  have hrelation : relationName (.word relation quote :: condition.token :: clause) =
      .ok (relation, condition.token :: clause) := by
    obtain ⟨value, hvalue, -⟩ := condition.exists_word
    rw [hvalue]
    rfl
  have hjoin : startsWithAny joinStarts (condition.token :: clause) = false :=
    condition.isOneOf_eq_false (by decide)
  have hcomma : condition.token ≠ .mark .comma := by
    obtain ⟨value, hvalue, -⟩ := condition.exists_word
    simp [hvalue]
  have hread : Predicate.read (placeholderCount [.mark .star]) (condition.token :: clause) =
      .ok (p, rest) := hread
  have hgroup := startsWithAny_of_subset ["GROUP", "HAVING"] (by decide) hrest
  have horder := startsWithAny_of_subset ["ORDER", "LIMIT"] (by decide) hrest
  rw [select]
  simp only [expect_keyword, htake, hfrom, List.tail_cons, hrelation, skipAlias_keyword, hjoin,
    hread, hgroup, horder, bind, Except.bind]
  simp [hcomma, Projection.read]

end Parser

/-- The text is a query of every column of a relation, with a clause that begins at its
`WHERE`. -/
def IsQueryUnder (sql relation : String) (clause : List Token) : Prop :=
  ∃ (select : Keyword "SELECT") (source : Keyword "FROM") (quote : Option Quote),
    Token.scan sql = .ok (select.token :: .mark .star :: source.token :: .word relation quote ::
      clause)

/-- A query is read with the predicate of its clause, if only semicolons follow the clause. -/
theorem IsQueryUnder.parse_eq_ok {sql relation : String} {condition : Keyword "WHERE"}
    {clause rest : List Token} {p : Option Predicate}
    (h : IsQueryUnder sql relation (condition.token :: clause))
    (hread : Predicate.read 0 (condition.token :: clause) = .ok (p, rest))
    (hends : Parser.finish rest = .ok ()) :
    Statement.parse sql = .ok (.select ⟨relation, .all, p⟩) := by
  obtain ⟨k, source, quote, hscan⟩ := h
  have hrest : Parser.startsWithAny ["GROUP", "HAVING", "ORDER", "LIMIT"] rest = false := by
    cases rest with
    | nil => rfl
    | cons t ts =>
        -- Any other token than a semicolon would be left over.
        by_cases ht : t = .mark .semicolon
        · subst ht
          rfl
        · simp [Parser.finish, ht] at hends
  have hselect := Parser.select_of_read k source condition relation quote hread hrest
  have hkind : ∀ rest, StatementKind.ofTokens (k.token :: rest) = .select := by
    intro rest
    have hother : ∀ name, Text.sameFold "SELECT" name = false → k.token.isKeyword name = false :=
      fun _ => k.isKeyword_eq_false
    rw [StatementKind.ofTokens, hother "CREATE" (by decide), hother "INSERT" (by decide),
      hother "UPDATE" (by decide), hother "DELETE" (by decide), k.spells]
    rfl
  rw [Statement.parse, hscan]
  simp only [Statement.ofTokens, hkind, Parser.statement, hselect]
  simp [k.ne_semicolon, Except.map, hends, bind, Except.bind]

theorem IsQuery.parse_eq_ok {sql relation : String} {f : Formula} (h : IsQuery sql relation f)
    (hends : ∀ t ∈ outside 0 f.tokens, t.isOneOf clauseEnds = false) :
    Statement.parse sql =
      .ok (.select ⟨relation, .all, some (Predicate.ofTokens 0 f.tokens).1⟩) := by
  obtain ⟨k, source, quote, condition, hscan⟩ := h
  have hread := Predicate.read_of_outside condition f.tokens_ne_nil
    fun t ht => ⟨f.ne_semicolon_of_mem_outside ht, hends t ht⟩
  have hquery : IsQueryUnder sql relation (condition.token :: f.tokens) :=
    ⟨k, source, quote, hscan⟩
  exact hquery.parse_eq_ok hread rfl

/-- A row that passes every test of a clause is fetched. -/
theorem Registry.mem_fetchMany {r : Registry} {relation : String} {p : Predicate}
    {params : List Value} {row : Row} (hrow : row ∈ r.rowsOf relation)
    (hpasses : ∀ test ∈ p.keys, passes params row test = true) :
    ∃ rows filter, r.fetchMany ⟨relation, .all, some p⟩ params = .rows rows filter ∧
      row ∈ rows := by
  have hselects : selects params (some p) row = true := List.all_eq_true.2 hpasses
  refine ⟨_, _, rfl, ?_⟩
  refine List.mem_map.2 ⟨row, ?_, rfl⟩
  split
  · exact List.mem_filter.2 ⟨hrow, hselects⟩
  · exact hrow

/-- A fetch of all rows loses no row of which the condition holds, whatever is true of its atoms,
when no connective can be mistaken for a comparison and no keyword that ends a clause stands in
the condition outside parentheses. -/
theorem fetchMany_keeps_rows (sql relation : String) (f : Formula) (r : Registry)
    (options : ExecOptions) (params : List Value) (t : Relation) (row : Row) (truth : Nat → Bool)
    (hquery : IsQuery sql relation f) (hlayered : f.Layered) (hclear : f.Clear)
    (hends : ∀ u ∈ outside 0 f.tokens, u.isOneOf clauseEnds = false)
    (hrelation : r.find? relation = some t) (hrow : row ∈ t.rows)
    (hholds : f.holds truth params row [] = true) :
    ∃ s rows filter, Statement.parse sql = .ok s ∧
      r.execute options s .fetchMany params = .ok (.rows rows filter, r) ∧ row ∈ rows := by
  have hpasses := f.passes_tests hlayered hclear hholds
  have hrows : row ∈ r.rowsOf relation := by
    rwa [Registry.rowsOf, hrelation]
  obtain ⟨rows, filter, hfetch, hmem⟩ := Registry.mem_fetchMany hrows hpasses
  refine ⟨_, rows, filter, hquery.parse_eq_ok hends, ?_, hmem⟩
  rw [Registry.execute, hfetch]

/-- A negated group, a range and a test, for a row that each of them lets pass. -/
theorem fetchMany_keeps_matching_row :
    let sql := "SELECT * FROM t WHERE NOT (x OR email = ?) AND x BETWEEN 0 AND 5 AND t.id = ?"
    let row : Row := ⟨[("id", .integer 1), ("email", .text "a")]⟩
    let t : Relation := ⟨"t", [row], 2, []⟩
    let r : Registry := ⟨[("t", t)]⟩
    ∃ s rows filter, Statement.parse sql = .ok s ∧
      r.execute ⟨.matched, false⟩ s .fetchMany [.text "b", .integer 1] =
        .ok (.rows rows filter, r) ∧ row ∈ rows := by
  intro sql row t r
  let x : Atom := .ofTokens [.word "x" none] (by decide)
  let f : Formula := .conjunction (.conjunction
    (.negation ⟨.word "NOT" none, by decide⟩ (.group (.disjunction (.atom x)
      ⟨.word "OR" none, by decide⟩
      (.test ⟨none, "email", none, .mark .equal, rfl, ""⟩ (by simp [Comparison.IsTest])))))
    ⟨.word "AND" none, by decide⟩
    (.range x ⟨.word "BETWEEN" none, by decide⟩ (.ofTokens [.number "0" false] (by decide))
      ⟨.word "AND" none, by decide⟩ (.ofTokens [.number "5" false] (by decide))))
    ⟨.word "AND" none, by decide⟩
    (.test ⟨some (.word "t" none), "id", none, .mark .equal, rfl, ""⟩
      (by simp [Comparison.IsTest, Token.identifier?]))
  have hquery : IsQuery sql "t" f := ⟨⟨.word "SELECT" none, by decide⟩,
    ⟨.word "FROM" none, by decide⟩, none, ⟨.word "WHERE" none, by decide⟩,
    Token.scan_of_eq_layout (by decide) (by decide) (by decide)⟩
  have hlayered : f.Layered := by simp [f, Formula.Layered, Formula.level]
  have hclear : f.Clear := by
    have hnot : ∀ tokens, comparedColumn? tokens = none → Formula.Unmistaken tokens :=
      fun _ => Formula.unmistaken_of_comparedColumn?
    exact ⟨hnot _ (by decide), ⟨hnot _ (by decide), ⟨hnot _ (by decide), hnot _ (by decide),
      trivial, trivial⟩, trivial⟩, trivial⟩
  exact fetchMany_keeps_rows sql "t" f r ⟨.matched, false⟩ [.text "b", .integer 1] t row (· = 9)
    hquery hlayered hclear (by decide) (by decide) List.mem_cons_self (by decide)

/-- Four conditions that hold of a row and lose it: a negated atom that begins with a point is taken
for a test of `id`; the parameter before a point is not counted where an `OR` or an `AND` stands
for a column; and an unquoted `limit` ends the clause in the middle of it. -/
theorem fetchMany_loses_rows :
    let row : Row := ⟨[("id", .integer 1), ("email", .text "a")]⟩
    let r : Registry := ⟨[("t", ⟨"t", [row], 2, []⟩)]⟩
    let loses (sql : String) (params : List Value) : Prop :=
      ∃ f truth s, IsQuery sql "t" f ∧ f.Layered ∧ f.holds truth params row [] = true ∧
        Statement.parse sql = .ok s ∧
        r.execute ⟨.matched, false⟩ s .fetchMany params = .ok (.rows [] .recognized, r)
    loses "SELECT * FROM t WHERE NOT.id = ?" [.integer 2] ∧
      loses "SELECT * FROM t WHERE (?.OR = ?) AND id = ?" [.integer 8, .integer 9, .integer 1] ∧
      loses "SELECT * FROM t WHERE (?.AND = ?) AND id = ?" [.integer 8, .integer 9, .integer 1] ∧
      loses "SELECT * FROM t WHERE id = ? AND limit = ? OR email = ?"
        [.integer 2, .integer 0, .text "a"] := by
  intro row r loses
  let query (f : Formula) : List Token := .word "SELECT" none :: .mark .star ::
    .word "FROM" none :: .word "t" none :: .word "WHERE" none :: f.tokens
  have hloses : ∀ sql params f truth p, Token.scan sql = .ok (query f) → f.Layered →
      f.holds truth params row [] = true →
      Statement.ofTokens (query f) = .ok (.select ⟨"t", .all, some p⟩) →
      r.fetchMany ⟨"t", .all, some p⟩ params = .rows [] .recognized → loses sql params := by
    intro sql params f truth p hscan hlayered hholds hread hfetch
    refine ⟨f, truth, .select ⟨"t", .all, some p⟩, ?_, hlayered, hholds, ?_, ?_⟩
    · exact ⟨⟨.word "SELECT" none, by decide⟩, ⟨.word "FROM" none, by decide⟩, none,
        ⟨.word "WHERE" none, by decide⟩, hscan⟩
    · rw [Statement.parse, hscan]
      exact hread
    · rw [Registry.execute, hfetch]
  let test (column : String) : Formula :=
    .test ⟨none, column, none, .mark .equal, rfl, ""⟩ (by simp [Comparison.IsTest])
  let conjunction : Keyword "AND" := ⟨.word "AND" none, by decide⟩
  let disjunction : Keyword "OR" := ⟨.word "OR" none, by decide⟩
  let front : Formula := .atom (.ofTokens [.placeholder "", .mark .period] (by decide))
  let back : Formula := .atom (.ofTokens [.mark .equal, .placeholder ""] (by decide))
  refine ⟨?_, ?_, ?_, ?_⟩
  · let f : Formula := .negation ⟨.word "NOT" none, by decide⟩ (.atom (.ofTokens [.mark .period,
      .word "id" none, .mark .equal, .placeholder ""] (by decide)))
    exact hloses _ _ f (fun _ => false) ⟨[.equals "id" 0]⟩
      (Token.scan_of_eq_layout (by decide) (by decide) (by decide)) (by simp [f, Formula.Layered,
        Formula.level]) (by decide) (by with_unfolding_all rfl) (by with_unfolding_all rfl)
  · let f : Formula :=
      .conjunction (.group (.disjunction front disjunction back)) conjunction (test "id")
    exact hloses _ _ f (fun _ => true) ⟨[.equals "OR" 0, .equals "id" 1]⟩
      (Token.scan_of_eq_layout (by decide) (by decide) (by decide)) (by simp [f, front, back, test,
        Formula.Layered, Formula.level]) (by decide) (by with_unfolding_all rfl)
        (by with_unfolding_all rfl)
  · let f : Formula :=
      .conjunction (.group (.conjunction front conjunction back)) conjunction (test "id")
    exact hloses _ _ f (fun _ => true) ⟨[.equals "AND" 0, .equals "id" 1]⟩
      (Token.scan_of_eq_layout (by decide) (by decide) (by decide)) (by simp [f, front, back, test,
        Formula.Layered, Formula.level]) (by decide) (by with_unfolding_all rfl)
        (by with_unfolding_all rfl)
  · let f : Formula :=
      .disjunction (.conjunction (test "id") conjunction (test "limit")) disjunction (test "email")
    exact hloses _ _ f (fun _ => true) ⟨[.equals "id" 0, .other ""]⟩
      (Token.scan_of_eq_layout (by decide) (by decide) (by decide)) (by simp [f, test,
        Formula.Layered, Formula.level]) (by decide) (by with_unfolding_all rfl)
        (by with_unfolding_all rfl)

end MiniSql
