import Mathlib.Data.List.Chain
import MiniSql.Proofs.Layout
import MiniSql.Proofs.Pieces
import MiniSql.Statement.Parser

/-!
# Slots are positions

A parameter is found by its slot, and the slot is the number of parameters that stand before
it in the statement, whatever stands between them: select lists, literals, parentheses,
conjuncts that are kept as text, alternatives and ranges. Every reader counts the parameters
of what it passes over, with one exception: a qualifier is dropped without a look at it. A
parameter in the place of a qualifier is not counted, and those after it take its slot.

**Results.**
* `Statement.SlotsStandIn`: where the values, assignments and conjuncts of a statement stand
  in its tokens, their slots counting the parameters before them.
* `slots_stand`: this is so for every statement that is parsed from tokens in which no
  parameter is a qualifier.
* `qualifier_not_counted`: a parameter that is a qualifier.
-/

namespace MiniSql

open Token (Listed placeholderCount)

/-! ## Places -/

/-- An item that stands after the tokens `read` spells the operand: a parameter has the number
of parameters before it as its slot, and a literal has no parameter in it. -/
def Operand.StandsAt (read item : List Token) : Operand → Prop
  | placeholder slot => (∃ label, item = [.placeholder label]) ∧ slot = placeholderCount read
  | literal _ => placeholderCount item = 0

/-- An item spells the assignment: a column, an equality sign and a value that stands after
them. -/
def Assignment.StandsAt (read item : List Token) (a : Assignment) : Prop :=
  ∃ column equality value, item = column ++ equality :: value ∧ equality.isEquality = true ∧
    columnName column = .ok a.column ∧ a.value.StandsAt (read ++ column ++ [equality]) value

/-- An item spells the conjunct: a column, an equality sign and a parameter with the number of
parameters before it as its slot, perhaps in parentheses, or the kept text. -/
def Conjunct.StandsAt (read item : List Token) : Conjunct → Prop
  | equals column slot => ∃ opening name equality label closing,
      item = opening ++ name ++ equality :: .placeholder label :: closing ∧
      (∀ t ∈ opening, t = .mark .leftParen) ∧ (∀ t ∈ closing, t = .mark .rightParen) ∧
      equality.isEquality = true ∧ columnName name = .ok column ∧
      slot = placeholderCount (read ++ opening ++ name ++ [equality])
  | other text => text = Token.render (Token.stripParens item)

/-- The conjuncts of a clause stand after a `WHERE`, an `AND` between each two. -/
def Predicate.StandsIn (tokens : List Token) : Option Predicate → Prop
  | none => True
  | some p => ∃ before keyword clause after, tokens = before ++ keyword :: clause ++ after ∧
      keyword.isKeyword "WHERE" = true ∧
      Listed (fun _ t => t.isKeyword "AND" = true) Conjunct.StandsAt (before ++ [keyword])
        clause p.conjuncts

/-- The values, assignments and conjuncts of a statement stand in its tokens one after the
other, with the slots of their places. -/
def Statement.SlotsStandIn (tokens : List Token) : Statement → Prop
  | insert s => ∃ before keyword list after,
      tokens = before ++ keyword :: .mark .leftParen :: list ++ .mark .rightParen :: after ∧
      keyword.isKeyword "VALUES" = true ∧
      Listed (fun _ t => t = .mark .comma) Operand.StandsAt
        (before ++ [keyword, .mark .leftParen]) list s.values
  | update s => (∃ before keyword list after, tokens = before ++ keyword :: list ++ after ∧
      keyword.isKeyword "SET" = true ∧
      Listed (fun _ t => t = .mark .comma) Assignment.StandsAt (before ++ [keyword]) list
        s.assignments) ∧ Predicate.StandsIn tokens s.predicate
  | delete s => Predicate.StandsIn tokens s.predicate
  | select s => Predicate.StandsIn tokens s.predicate
  | _ => True

/-- No parameter stands directly before a point. -/
def NoQualifier (tokens : List Token) : Prop :=
  tokens.IsChain fun t u => u = .mark .period → t.isPlaceholder = false

instance (tokens : List Token) : Decidable (NoQualifier tokens) :=
  inferInstanceAs (Decidable (List.IsChain _ tokens))

/-! ## Pieces -/

theorem NoQualifier.infix {before item after : List Token}
    (h : NoQualifier (before ++ item ++ after)) : NoQualifier item :=
  (List.isChain_append.1 (List.isChain_append.1 h).1).2.1

theorem NoQualifier.left {item after : List Token} (h : NoQualifier (item ++ after)) :
    NoQualifier item :=
  (List.isChain_append.1 h).1

theorem count_of_columnName {tokens : List Token} {column : String} (hq : NoQualifier tokens)
    (h : columnName tokens = .ok column) : placeholderCount tokens = 0 := by
  rcases columnName_eq_ok h with ⟨quote, rfl⟩ | ⟨qualifier, quote, rfl⟩
  · rfl
  · have hqualifier : qualifier.isPlaceholder = false := hq.rel rfl
    rw [placeholderCount, List.countP_cons_of_neg (by simp [hqualifier])]
    rfl

/-- What is read as a value is a parameter, or a literal that does not depend on the slot. -/
theorem Operand.read_eq_ok {item : List Token} {v : Operand} {slot next : Nat}
    (h : Operand.read slot item = .ok (v, next)) :
    (∃ label, item = [.placeholder label] ∧ v = .placeholder slot ∧ next = slot + 1) ∨
      ∃ l, v = .literal l ∧ next = slot ∧ placeholderCount item = 0 ∧
        ∀ slot, Operand.read slot item = .ok (.literal l, slot) := by
  unfold Operand.read at h
  split at h
  · cases h
    exact Or.inl ⟨_, rfl, rfl, rfl⟩
  · cases h
    exact Or.inr ⟨_, rfl, rfl, rfl, fun _ => rfl⟩
  · cases h
    exact Or.inr ⟨_, rfl, rfl, rfl, fun _ => rfl⟩
  · obtain ⟨l, hnumber, hpair⟩ := exists_of_map_ok h
    cases hpair
    refine Or.inr ⟨l, rfl, rfl, rfl, fun slot => ?_⟩
    rw [Operand.read, hnumber]
    rfl
  · obtain ⟨l, hnumber, hpair⟩ := exists_of_map_ok h
    cases hpair
    refine Or.inr ⟨l, rfl, rfl, rfl, fun slot => ?_⟩
    rw [Operand.read, hnumber]
    rfl
  · next t _ _ _ _ =>
      cases t with
      | word value quote =>
        cases quote with
        | some q => cases h
        | none =>
            have hread : ∀ slot, Operand.read slot [.word value none] =
                if (Token.word value none).isKeyword "NULL" then .ok (.literal .null, slot)
                else if (Token.word value none).isKeyword "TRUE" then
                  .ok (.literal (.integer 1), slot)
                else if (Token.word value none).isKeyword "FALSE" then
                  .ok (.literal (.integer 0), slot)
                else .error (.unsupported (.expression [.word value none])) := fun _ => rfl
            split at h
            · next hnull =>
                cases h
                exact Or.inr ⟨_, rfl, rfl, rfl, fun slot => by rw [hread, if_pos hnull]⟩
            · next hnull =>
                split at h
                · next htrue =>
                    cases h
                    refine Or.inr ⟨_, rfl, rfl, rfl, fun slot => ?_⟩
                    rw [hread, if_neg hnull, if_pos htrue]
                · next htrue =>
                    split at h
                    · next hfalse =>
                        cases h
                        refine Or.inr ⟨_, rfl, rfl, rfl, fun slot => ?_⟩
                        rw [hread, if_neg hnull, if_neg htrue, if_pos hfalse]
                    · cases h
      | _ => cases h
  · cases h

theorem Operand.stands_of_read {read item : List Token} {v : Operand} {slot : Nat}
    (h : Operand.read (placeholderCount read) item = .ok (v, slot)) :
    v.StandsAt read item ∧ slot = placeholderCount (read ++ item) := by
  rcases Operand.read_eq_ok h with ⟨label, rfl, rfl, rfl⟩ | ⟨l, rfl, rfl, hcount, -⟩
  · exact ⟨⟨⟨label, rfl⟩, rfl⟩, by simp [placeholderCount, Token.isPlaceholder]⟩
  · exact ⟨hcount, by simp [hcount]⟩

/-- What is read as an assignment is cut at its first equality sign. -/
theorem Parser.assignment_eq_ok {item : List Token} {a : Assignment} {slot next : Nat}
    (h : assignment slot item = .ok (a, next)) :
    ∃ column equality value, item = column ++ equality :: value ∧
      (∀ t ∈ column, t.isEquality = false) ∧ equality.isEquality = true ∧
      columnName column = .ok a.column ∧ Operand.read slot value = .ok (a.value, next) := by
  unfold assignment at h
  split at h
  · cases h
  · next equality value hdrop =>
      obtain ⟨column, hcolumn, h⟩ := exists_of_bind_ok h
      obtain ⟨⟨operand, after⟩, hoperand, h⟩ := exists_of_bind_ok h
      cases h
      refine ⟨_, equality, value, ?_, ?_, ?_, hcolumn, hoperand⟩
      · rw [← hdrop, List.takeWhile_append_dropWhile]
      · intro t ht
        simpa using List.all_eq_true.mp List.all_takeWhile t ht
      · have := List.head?_dropWhile_not (fun t : Token => !t.isEquality) item
        simpa [hdrop] using this

theorem Assignment.stands_of_read {read item : List Token} (hq : NoQualifier item)
    {a : Assignment} {slot : Nat}
    (h : Parser.assignment (placeholderCount read) item = .ok (a, slot)) :
    a.StandsAt read item ∧ slot = placeholderCount (read ++ item) := by
  obtain ⟨column, equality, value, rfl, -, hequality, hcolumn, hoperand⟩ :=
    Parser.assignment_eq_ok h
  have hcount := count_of_columnName hq.left hcolumn
  have hread : placeholderCount read = placeholderCount (read ++ column ++ [equality]) := by
    simp [hcount, count_of_isEquality hequality]
  rw [hread] at hoperand
  obtain ⟨hstands, hnext⟩ := Operand.stands_of_read hoperand
  refine ⟨⟨column, equality, value, rfl, hequality, hcolumn, hstands⟩, ?_⟩
  rw [hnext]
  simp

theorem Conjunct.stands_of_read {read item : List Token} (hq : NoQualifier item) :
    (Conjunct.read (placeholderCount read) item).1.StandsAt read item ∧
      (Conjunct.read (placeholderCount read) item).2 = placeholderCount (read ++ item) := by
  obtain ⟨opening, closing, hitem, hopening, hclosing⟩ := Token.exists_stripParens item
  have hopen := count_of_parens hopening
  have hcount := (count_stripParens item).symm
  rw [Conjunct.read]
  cases hcolumn : comparedColumn? (Token.stripParens item) with
  | none => exact ⟨rfl, by simp [hcount]⟩
  | some column =>
      obtain ⟨name, equality, label, hstrip, hequality, hname⟩ := comparedColumn?_eq_some hcolumn
      have hzero : placeholderCount name = 0 := by
        refine count_of_columnName ?_ hname
        rw [hitem, hstrip] at hq
        exact hq.infix.left
      have hone : placeholderCount (Token.stripParens item) = 1 := by
        rw [hstrip, Token.placeholderCount_append, hzero, count_cons, count_of_isEquality hequality]
        rfl
      refine ⟨⟨opening, name, equality, label, closing, ?_, hopening, hclosing, hequality,
        hname, ?_⟩, ?_⟩
      · conv_lhs => rw [hitem, hstrip]
        simp
      · simp [hopen, hzero, count_of_isEquality hequality]
      · simp [hcount, hone]

/-! ## Lists of items -/

theorem noQualifier_of_mem {cut : List Token → Token → Prop}
    {At : List Token → List Token → List Token → Prop} {read tokens : List Token}
    {pieces : List (List Token)} (h : Listed cut At read tokens pieces)
    (hitem : ∀ read item piece, At read item piece → piece = item) (hq : NoQualifier tokens) :
    ∀ piece ∈ pieces, NoQualifier piece := by
  intro piece hpiece
  obtain ⟨before, item, after, hplace, hat⟩ := h.exists_place hpiece
  rw [hitem _ _ _ hat]
  rw [hplace.eq] at hq
  exact hq.infix

theorem not_placeholder_of_comma {t : Token} (h : decide (t = .mark .comma) = true) :
    t = .mark .comma ∧ t.isPlaceholder = false := by
  obtain rfl : t = .mark .comma := by simpa using h
  exact ⟨rfl, rfl⟩

theorem stands_of_operands {read tokens : List Token} {values : List Operand} {slot : Nat}
    (h : Operand.readAll (placeholderCount read) (Token.splitAtCommas tokens) =
      .ok (values, slot)) :
    Listed (fun _ t => t = .mark .comma) Operand.StandsAt read tokens values ∧
      slot = placeholderCount (read ++ tokens) := by
  have hpieces := Token.listed_split (· = .mark .comma) read tokens
  refine listed_of_readAll [] (fun _ => rfl) (fun _ _ _ => rfl) hpieces ?_ ?_ h
  · exact fun _ _ => not_placeholder_of_comma
  · rintro read item piece v next - rfl hread
    exact Operand.stands_of_read hread

theorem stands_of_assignments {read tokens : List Token} (hq : NoQualifier tokens)
    {assignments : List Assignment} {slot : Nat}
    (h : Parser.assignments (placeholderCount read) (Token.splitAtCommas tokens) =
      .ok (assignments, slot)) :
    Listed (fun _ t => t = .mark .comma) Assignment.StandsAt read tokens assignments ∧
      slot = placeholderCount (read ++ tokens) := by
  have hpieces := Token.listed_split (· = .mark .comma) read tokens
  have hfree := noQualifier_of_mem hpieces (fun _ _ _ => id) hq
  refine listed_of_readAll [] (fun _ => rfl) (fun _ _ _ => rfl) hpieces ?_ ?_ h
  · exact fun _ _ => not_placeholder_of_comma
  · rintro read item piece v next hmem rfl hread
    exact Assignment.stands_of_read (hfree _ hmem) hread

theorem stands_of_conjuncts {cut : List Token → Token → Prop}
    {At : List Token → List Token → List Token → Prop} {read tokens : List Token}
    {pieces : List (List Token)} (hpieces : Listed cut At [] tokens pieces)
    (hitem : ∀ read item piece, At read item piece → piece = item)
    (hcut : ∀ read t, cut read t → t.isKeyword "AND" = true) (hq : NoQualifier tokens) :
    Listed (fun _ t => t.isKeyword "AND" = true) Conjunct.StandsAt read tokens
      (Conjunct.readAll (placeholderCount read) pieces).1 := by
  have hfree := noQualifier_of_mem hpieces hitem hq
  refine listed_of_conjuncts read hpieces ?_ ?_
  · exact fun before t ht => ⟨hcut before t ht, hcut before t ht⟩
  · intro before item piece hmem hat
    obtain rfl := hitem _ _ _ hat
    exact Conjunct.stands_of_read (hfree _ hmem)

theorem count_of_listed {α : Type} {cut : List Token → Token → Prop}
    {At : List Token → List Token → α → Prop} {read tokens : List Token} {xs : List α}
    (h : Listed cut At read tokens xs) (hcut : ∀ read t, cut read t → t.isPlaceholder = false)
    (hitem : ∀ x ∈ xs, ∀ read item, At read item x → placeholderCount item = 0) :
    placeholderCount tokens = 0 := by
  induction h with
  | none => rfl
  | last hat => exact hitem _ List.mem_cons_self _ _ hat
  | more hat ht _ ih =>
      have hfirst := hitem _ List.mem_cons_self _ _ hat
      have hrest := ih fun x hx => hitem x (List.mem_cons_of_mem _ hx)
      rw [Token.placeholderCount_append, count_cons, hfirst, hrest, count_single (hcut _ _ ht)]

/-- The columns of an insertion hold no parameter. -/
theorem count_of_columns {tokens : List Token} (hq : NoQualifier tokens) {columns : List String}
    (h : (Token.splitAtCommas tokens).mapM columnName = .ok columns) :
    placeholderCount tokens = 0 := by
  have hpieces := Token.listed_split (· = .mark .comma) [] tokens
  have hfree := noQualifier_of_mem hpieces (fun _ _ _ => id) hq
  refine count_of_listed hpieces (fun _ _ ht => (not_placeholder_of_comma ht).2) ?_
  rintro piece hpiece read item rfl
  obtain ⟨column, hcolumn⟩ := exists_of_mapM_ok h piece hpiece
  exact count_of_columnName (hfree piece hpiece) hcolumn

/-! ## Clauses and statements -/

theorem Predicate.stands_of_ofTokens {read clause : List Token} (hq : NoQualifier clause) :
    Listed (fun _ t => t.isKeyword "AND" = true) Conjunct.StandsAt read clause
      (Predicate.ofTokens (placeholderCount read) clause).1.conjuncts := by
  rw [Predicate.ofTokens]
  simp only
  split
  · -- Alternatives are kept as one conjunct.
    have hwhole : Listed Token.CutsClause (fun _ item piece => piece = item) [] clause [clause] :=
      .last rfl
    exact stands_of_conjuncts hwhole (fun _ _ _ => id) (fun _ _ ht => ht.2) hq
  · exact stands_of_conjuncts (listed_splitConjuncts clause) (fun _ _ _ hat => hat.1)
      (fun _ _ ht => ht.2) hq

theorem Predicate.stands_of_read {read tokens rest : List Token} {predicate : Option Predicate}
    (hq : NoQualifier (read ++ tokens))
    (h : Predicate.read (placeholderCount read) tokens = .ok (predicate, rest)) :
    Predicate.StandsIn (read ++ tokens) predicate := by
  unfold Predicate.read at h
  split at h
  · cases h
    trivial
  · next t ts =>
      split at h
      · next hwhere =>
          have happend := Token.takeUntil_append (Token.isOneOf clauseEnds) 0 ts
          cases htake : Token.takeUntil (Token.isOneOf clauseEnds) 0 ts with
          | mk clause after =>
          rw [htake] at h happend
          simp only at h happend
          split at h
          · cases h
          · cases h
            have hcount : placeholderCount read = placeholderCount (read ++ [t]) := by
              simp [count_single (not_placeholder_of_isKeyword hwhere)]
            rw [← happend] at hq ⊢
            refine ⟨read, t, clause, rest, by simp, hwhere, ?_⟩
            rw [hcount]
            have hq : NoQualifier (read ++ [t] ++ clause ++ rest) := by simpa using hq
            exact Predicate.stands_of_ofTokens hq.infix
      · cases h
        trivial

namespace Parser

/-- A keyword was expected and stands in front. -/
theorem expect_eq_ok {keyword : String} {tokens rest : List Token}
    (h : expect keyword tokens = .ok rest) :
    ∃ t, tokens = t :: rest ∧ t.isKeyword keyword = true := by
  unfold expect at h
  split at h
  · cases h
  · split at h
    · next t ts hkeyword =>
        cases h
        exact ⟨t, rfl, hkeyword⟩
    · cases h

theorem identifier_eq_ok {tokens rest : List Token} {name : String}
    (h : identifier tokens = .ok (name, rest)) : ∃ quote, tokens = .word name quote :: rest := by
  unfold identifier at h
  split at h
  · next hname =>
      cases h
      cases tokens with
      | nil => cases hname
      | cons t ts =>
          obtain ⟨quote, rfl⟩ := isWord_of_identifier? hname
          exact ⟨quote, rfl⟩
  · cases h

/-- The tokens that are passed over hold no parameter. -/
def Passes (tokens rest : List Token) : Prop :=
  ∃ passed, tokens = passed ++ rest ∧ placeholderCount passed = 0

theorem Passes.refl (tokens : List Token) : Passes tokens tokens :=
  ⟨[], rfl, rfl⟩

theorem Passes.trans {tokens middle rest : List Token} (h : Passes tokens middle)
    (h' : Passes middle rest) : Passes tokens rest := by
  obtain ⟨passed, rfl, hcount⟩ := h
  obtain ⟨further, rfl, hcount'⟩ := h'
  exact ⟨passed ++ further, by simp, by simp [hcount, hcount']⟩

theorem passes_expect {keyword : String} {tokens rest : List Token}
    (h : expect keyword tokens = .ok rest) : Passes tokens rest := by
  obtain ⟨t, rfl, hkeyword⟩ := expect_eq_ok h
  exact ⟨[t], rfl, count_single (not_placeholder_of_isKeyword hkeyword)⟩

theorem passes_identifier {tokens rest : List Token} {name : String}
    (h : identifier tokens = .ok (name, rest)) : Passes tokens rest := by
  obtain ⟨quote, rfl⟩ := identifier_eq_ok h
  exact ⟨[.word name quote], rfl, rfl⟩

theorem passes_relationName {tokens rest : List Token} {name : String}
    (h : relationName tokens = .ok (name, rest)) : Passes tokens rest := by
  obtain ⟨⟨first, after⟩, hfirst, h⟩ := exists_of_bind_ok h
  have hpasses := passes_identifier hfirst
  simp only at h
  split at h
  · next hpoint =>
      have : Passes (.mark .period :: _) rest :=
        Passes.trans ⟨[.mark .period], rfl, rfl⟩ (passes_identifier h)
      exact hpasses.trans this
  · cases h
    exact hpasses

theorem passes_skipAlias {tokens rest : List Token} (h : skipAlias tokens = .ok rest) :
    Passes tokens rest := by
  unfold skipAlias at h
  split at h
  · next has =>
      obtain ⟨⟨name, after⟩, hname, rfl⟩ := exists_of_map_ok h
      cases tokens with
      | nil => cases has
      | cons t ts =>
          have ht : t.isKeyword "AS" = true := has
          have hfirst : Passes (t :: ts) ts :=
            ⟨[t], rfl, count_single (not_placeholder_of_isKeyword ht)⟩
          exact hfirst.trans (passes_identifier hname)
  · split at h
    · next hword =>
        cases h
        cases tokens with
        | nil => cases hword
        | cons t ts =>
            rw [Bool.and_eq_true, Option.isSome_iff_exists] at hword
            obtain ⟨⟨name, hname⟩, -⟩ := hword
            obtain ⟨quote, rfl⟩ := isWord_of_identifier? hname
            exact ⟨[.word name quote], rfl, rfl⟩
    · cases h
      exact Passes.refl tokens

theorem group_eq_ok {tokens inner rest : List Token} (h : group tokens = .ok (inner, rest)) :
    tokens = .mark .leftParen :: inner ++ .mark .rightParen :: rest := by
  unfold group at h
  split at h
  · split at h
    · next hgroup =>
        cases h
        rw [List.cons_append, Token.closeGroup_append hgroup]
    · cases h
  · cases h

/-- An `if` that only rejects was passed. -/
theorem exists_of_guard {ε α : Type} {p : Prop} [Decidable p] {e : ε} {f : Unit → Except ε α}
    {a : α} (h : (if p then (Except.error e >>= f) else f ()) = .ok a) : ¬ p ∧ f () = .ok a := by
  by_cases hp : p
  · rw [if_pos hp] at h
    cases h
  · exact ⟨hp, by rwa [if_neg hp] at h⟩

theorem noQualifier_of_passes {tokens rest : List Token} (h : NoQualifier tokens)
    (hpasses : Passes tokens rest) : NoQualifier rest := by
  obtain ⟨passed, rfl, -⟩ := hpasses
  exact (List.isChain_append.1 h).2.1

theorem passes_columnList {tokens rest : List Token} {list : Option (List Token)}
    {columns : List String} (hq : NoQualifier tokens)
    (h : optionalGroup tokens = .ok (list, rest))
    (hcolumns : (Token.splitAtCommas (list.getD [])).mapM columnName = .ok columns) :
    Passes tokens rest := by
  unfold optionalGroup at h
  split at h
  · obtain ⟨⟨inner, after⟩, hgroup, hpair⟩ := exists_of_map_ok h
    cases hpair
    have htokens := group_eq_ok hgroup
    have hinner : NoQualifier inner := by
      rw [htokens, ← List.singleton_append (l := inner)] at hq
      exact hq.infix
    have hcount := count_of_columns hinner hcolumns
    refine ⟨.mark .leftParen :: inner ++ [.mark .rightParen], by simp [htokens], ?_⟩
    rw [Token.placeholderCount_append, count_cons, hcount]
    rfl
  · cases h
    exact Passes.refl tokens

/-- The steps in which an insertion is read. -/
theorem insert_eq_ok_iff {tokens rest : List Token} {s : Insert} :
    insert tokens = .ok (s, rest) ↔
      ∃ afterInsert afterInto afterName list afterColumns afterValues values slot,
        expect "INSERT" tokens = .ok afterInsert ∧
        ¬ startsWith "OR" afterInsert = true ∧
        expect "INTO" afterInsert = .ok afterInto ∧
        relationName afterInto = .ok (s.relation, afterName) ∧
        optionalGroup afterName = .ok (list, afterColumns) ∧
        (Token.splitAtCommas (list.getD [])).mapM columnName = .ok s.columns ∧
        ¬ startsWithAny ["SELECT", "DEFAULT"] afterColumns = true ∧
        expect "VALUES" afterColumns = .ok afterValues ∧
        group afterValues = .ok (values, rest) ∧
        Operand.readAll 0 (Token.splitAtCommas values) = .ok (s.values, slot) ∧
        ¬ rest.head? = some (.mark .comma) ∧
        ¬ (s.columns ≠ [] ∧ s.columns.length ≠ s.values.length) := by
  constructor
  · intro h
    unfold insert at h
    obtain ⟨afterInsert, hinsert, h⟩ := exists_of_bind_ok h
    obtain ⟨hor, h⟩ := exists_of_guard h
    obtain ⟨afterInto, hinto, h⟩ := exists_of_bind_ok h
    obtain ⟨⟨relation, afterName⟩, hrelation, h⟩ := exists_of_bind_ok h
    obtain ⟨⟨list, afterColumns⟩, hlist, h⟩ := exists_of_bind_ok h
    obtain ⟨columns, hcolumns, h⟩ := exists_of_bind_ok h
    obtain ⟨hsource, h⟩ := exists_of_guard h
    obtain ⟨afterValues, hvalues, h⟩ := exists_of_bind_ok h
    obtain ⟨⟨values, rest⟩, hgroup, h⟩ := exists_of_bind_ok h
    obtain ⟨⟨operands, slot⟩, hread, h⟩ := exists_of_bind_ok h
    obtain ⟨hcomma, h⟩ := exists_of_guard h
    obtain ⟨hcount, h⟩ := exists_of_guard h
    cases h
    exact ⟨_, _, _, _, _, _, _, _, hinsert, hor, hinto, hrelation, hlist, hcolumns, hsource,
      hvalues, hgroup, hread, hcomma, hcount⟩
  · rintro ⟨_, _, _, _, _, _, _, _, hinsert, hor, hinto, hrelation, hlist, hcolumns, hsource,
      hvalues, hgroup, hread, hcomma, hcount⟩
    simp only [insert, bind, Except.bind, hinsert, hor, hinto, hrelation, hlist, hcolumns, hsource,
      hvalues, hgroup, hread, hcomma, hcount, if_false, Bool.false_eq_true]

theorem insert_stands {tokens rest : List Token} {s : Insert} (hq : NoQualifier tokens)
    (h : insert tokens = .ok (s, rest)) : (Statement.insert s).SlotsStandIn tokens := by
  obtain ⟨afterInsert, afterInto, afterRelation, columnList, afterColumns, afterValues, list, slot,
    hinsert, -, hinto, hrelation, hgroup, hcolumns, -, hvalues, hlist, hread, -, -⟩ :=
    insert_eq_ok_iff.mp h
  have hhead : Passes tokens afterRelation :=
    ((passes_expect hinsert).trans (passes_expect hinto)).trans (passes_relationName hrelation)
  obtain ⟨passed, htokens, hcount⟩ :=
    hhead.trans (passes_columnList (noQualifier_of_passes hq hhead) hgroup hcolumns)
  obtain ⟨keyword, hkeyword, hisValues⟩ := expect_eq_ok hvalues
  have hstart : placeholderCount (passed ++ [keyword, .mark .leftParen]) = 0 := by
    rw [Token.placeholderCount_append, hcount, count_cons,
      count_single (not_placeholder_of_isKeyword hisValues)]
    rfl
  refine ⟨passed, keyword, list, rest, ?_, hisValues, ?_⟩
  · rw [htokens, hkeyword, group_eq_ok hlist]
    simp
  · exact (stands_of_operands (by rwa [hstart])).1

/-- The steps in which an update is read. -/
theorem update_eq_ok_iff {tokens rest : List Token} {s : Update} :
    update tokens = .ok (s, rest) ↔
      ∃ afterUpdate afterName afterSet slot,
        expect "UPDATE" tokens = .ok afterUpdate ∧
        ¬ startsWith "OR" afterUpdate = true ∧
        relationName afterUpdate = .ok (s.relation, afterName) ∧
        expect "SET" afterName = .ok afterSet ∧
        assignments 0 (Token.splitAtCommas (Token.takeUntil (·.isKeyword "WHERE") 0 afterSet).1) =
          .ok (s.assignments, slot) ∧
        ¬ s.assignments = [] ∧
        Predicate.read slot (Token.takeUntil (·.isKeyword "WHERE") 0 afterSet).2 =
          .ok (s.predicate, rest) := by
  constructor
  · intro h
    unfold update at h
    obtain ⟨afterUpdate, hupdate, h⟩ := exists_of_bind_ok h
    obtain ⟨hor, h⟩ := exists_of_guard h
    obtain ⟨⟨relation, afterName⟩, hrelation, h⟩ := exists_of_bind_ok h
    obtain ⟨afterSet, hset, h⟩ := exists_of_bind_ok h
    obtain ⟨⟨changes, slot⟩, hchanges, h⟩ := exists_of_bind_ok h
    obtain ⟨hne, h⟩ := exists_of_guard h
    obtain ⟨⟨predicate, rest⟩, hpredicate, h⟩ := exists_of_bind_ok h
    cases h
    exact ⟨_, _, _, _, hupdate, hor, hrelation, hset, hchanges, hne, hpredicate⟩
  · rintro ⟨_, _, _, _, hupdate, hor, hrelation, hset, hchanges, hne, hpredicate⟩
    simp only [update, bind, Except.bind, hupdate, hor, hrelation, hset, hchanges, hne, hpredicate,
      if_false, Bool.false_eq_true]

/-- The pieces of an update: no parameter stands before the assignments, and the clause begins
with the slot after theirs. -/
theorem update_eq_ok {tokens rest : List Token} {s : Update} (h : update tokens = .ok (s, rest)) :
    ∃ passed keyword list after slot, tokens = passed ++ keyword :: list ++ after ∧
      placeholderCount (passed ++ [keyword]) = 0 ∧ keyword.isKeyword "SET" = true ∧
      assignments 0 (Token.splitAtCommas list) = .ok (s.assignments, slot) ∧
      Predicate.read slot after = .ok (s.predicate, rest) := by
  obtain ⟨afterUpdate, afterRelation, afterSet, slot, hupdate, -, hrelation, hset, hassignments, -,
    hpredicate⟩ := update_eq_ok_iff.mp h
  have happend := Token.takeUntil_append (·.isKeyword "WHERE") 0 afterSet
  cases htake : Token.takeUntil (·.isKeyword "WHERE") 0 afterSet with
  | mk list afterList =>
  rw [htake] at happend hassignments hpredicate
  obtain ⟨passed, htokens, hcount⟩ :=
    (passes_expect hupdate).trans (passes_relationName hrelation)
  obtain ⟨keyword, hkeyword, hisSet⟩ := expect_eq_ok hset
  refine ⟨passed, keyword, list, afterList, slot, ?_, ?_, hisSet, hassignments, hpredicate⟩
  · rw [htokens, hkeyword, ← happend]
    simp
  · rw [Token.placeholderCount_append, hcount,
      count_single (not_placeholder_of_isKeyword hisSet)]

/-- The clause of an update begins with as many slots taken as parameters stand before it. -/
theorem slot_of_update {passed list after : List Token} {keyword : Token}
    {changes : List Assignment} {slot : Nat}
    (hq : NoQualifier (passed ++ keyword :: list ++ after))
    (hcount : placeholderCount (passed ++ [keyword]) = 0)
    (h : assignments 0 (Token.splitAtCommas list) = .ok (changes, slot)) :
    Listed (fun _ t => t = .mark .comma) Assignment.StandsAt (passed ++ [keyword]) list changes ∧
      slot = placeholderCount (passed ++ keyword :: list) := by
  have hwhole : passed ++ keyword :: list ++ after = passed ++ [keyword] ++ list ++ after := by
    simp
  rw [hwhole] at hq
  rw [← hcount] at h
  simpa using stands_of_assignments hq.infix h

theorem update_stands {tokens rest : List Token} {s : Update} (hq : NoQualifier tokens)
    (h : update tokens = .ok (s, rest)) : (Statement.update s).SlotsStandIn tokens := by
  obtain ⟨passed, keyword, list, after, slot, rfl, hcount, hisSet, hassignments, hpredicate⟩ :=
    update_eq_ok h
  obtain ⟨hlist, hslot⟩ := slot_of_update hq hcount hassignments
  refine ⟨⟨passed, keyword, list, after, rfl, hisSet, hlist⟩, ?_⟩
  rw [hslot] at hpredicate
  exact Predicate.stands_of_read hq hpredicate

/-- No parameter stands before the clause of a removal. -/
theorem delete_eq_ok {tokens rest : List Token} {s : Delete} (h : delete tokens = .ok (s, rest)) :
    ∃ passed after, tokens = passed ++ after ∧ placeholderCount passed = 0 ∧
      Predicate.read 0 after = .ok (s.predicate, rest) := by
  unfold delete at h
  obtain ⟨afterDelete, hdelete, h⟩ := exists_of_bind_ok h
  obtain ⟨afterFrom, hfrom, h⟩ := exists_of_bind_ok h
  obtain ⟨⟨relation, afterRelation⟩, hrelation, h⟩ := exists_of_bind_ok h
  obtain ⟨⟨predicate, afterClause⟩, hpredicate, h⟩ := exists_of_bind_ok h
  cases h
  obtain ⟨passed, htokens, hcount⟩ :=
    ((passes_expect hdelete).trans (passes_expect hfrom)).trans (passes_relationName hrelation)
  exact ⟨passed, afterRelation, htokens, hcount, hpredicate⟩

theorem delete_stands {tokens rest : List Token} {s : Delete} (hq : NoQualifier tokens)
    (h : delete tokens = .ok (s, rest)) : (Statement.delete s).SlotsStandIn tokens := by
  obtain ⟨passed, after, rfl, hcount, hpredicate⟩ := delete_eq_ok h
  rw [← hcount] at hpredicate
  exact Predicate.stands_of_read hq hpredicate

theorem select_stands {tokens rest : List Token} {s : Select} (hq : NoQualifier tokens)
    (h : select tokens = .ok (s, rest)) : (Statement.select s).SlotsStandIn tokens := by
  unfold select at h
  obtain ⟨afterSelect, hselect, h⟩ := exists_of_bind_ok h
  have happend := Token.takeUntil_append (·.isKeyword "FROM") 0 afterSelect
  cases htake : Token.takeUntil (·.isKeyword "FROM") 0 afterSelect with
  | mk list afterList =>
  rw [htake] at h happend
  obtain ⟨hfrom, h⟩ := exists_of_guard h
  obtain ⟨⟨relation, afterRelation⟩, hrelation, h⟩ := exists_of_bind_ok h
  obtain ⟨afterAlias, halias, h⟩ := exists_of_bind_ok h
  obtain ⟨-, h⟩ := exists_of_guard h
  obtain ⟨⟨predicate, afterClause⟩, hpredicate, h⟩ := exists_of_bind_ok h
  obtain ⟨-, h⟩ := exists_of_guard h
  cases h
  obtain ⟨first, hfirst, hisSelect⟩ := expect_eq_ok hselect
  obtain ⟨second, afterFrom, hsecond, hisFrom⟩ : ∃ t ts, afterList = t :: ts ∧
      t.isKeyword "FROM" = true := by
    cases afterList with
    | nil => simp [startsWith] at hfrom
    | cons t ts => exact ⟨t, ts, rfl, by simpa [startsWith] using hfrom⟩
  rw [hsecond, List.tail_cons] at hrelation
  obtain ⟨passed, hpassed, hcount⟩ :=
    (passes_relationName hrelation).trans (passes_skipAlias halias)
  have hwhole : tokens = first :: list ++ second :: passed ++ afterAlias := by
    rw [hfirst, ← happend, hsecond, hpassed]
    simp
  have hlist : placeholderCount list = placeholderCount (first :: list ++ second :: passed) := by
    rw [Token.placeholderCount_append, count_cons, count_cons second, hcount,
      count_single (not_placeholder_of_isKeyword hisSelect),
      count_single (not_placeholder_of_isKeyword hisFrom), Nat.zero_add, Nat.add_zero]
  rw [hwhole] at hq ⊢
  rw [hlist] at hpredicate
  exact Predicate.stands_of_read hq hpredicate

end Parser

/-- The reader of its kind gives the statement and the tokens after it. -/
def Statement.IsReadFrom (tokens rest : List Token) : Statement → Prop
  | createTable s => Parser.createTable tokens = .ok (s, rest)
  | insert s => Parser.insert tokens = .ok (s, rest)
  | update s => Parser.update tokens = .ok (s, rest)
  | delete s => Parser.delete tokens = .ok (s, rest)
  | select s => Parser.select tokens = .ok (s, rest)
  | rollback => Parser.rollback tokens = .ok rest
  | _ => True

namespace Parser

theorem isReadFrom_of_statement {kind : StatementKind} {tokens rest : List Token} {s : Statement}
    (h : statement kind tokens = .ok (s, rest)) : s.kind = kind ∧ s.IsReadFrom tokens rest := by
  cases kind with
  | createTable =>
      obtain ⟨p, hread, hpair⟩ := exists_of_map_ok h
      cases hpair
      exact ⟨rfl, hread⟩
  | insert =>
      obtain ⟨p, hread, hpair⟩ := exists_of_map_ok h
      cases hpair
      exact ⟨rfl, hread⟩
  | update =>
      obtain ⟨p, hread, hpair⟩ := exists_of_map_ok h
      cases hpair
      exact ⟨rfl, hread⟩
  | delete =>
      obtain ⟨p, hread, hpair⟩ := exists_of_map_ok h
      cases hpair
      exact ⟨rfl, hread⟩
  | select =>
      obtain ⟨p, hread, hpair⟩ := exists_of_map_ok h
      cases hpair
      exact ⟨rfl, hread⟩
  | begin =>
      cases h
      exact ⟨rfl, trivial⟩
  | commit =>
      cases h
      exact ⟨rfl, trivial⟩
  | rollback =>
      obtain ⟨after, hread, hpair⟩ := exists_of_map_ok h
      cases hpair
      exact ⟨rfl, hread⟩
  | pragma =>
      obtain ⟨after, -, hpair⟩ := exists_of_bind_ok h
      cases hpair
      exact ⟨rfl, trivial⟩
  | unknown => cases h

/-- Values, assignments and conjuncts stand in the tokens that the statement is read from. -/
theorem statement_stands {kind : StatementKind} {tokens rest : List Token} {s : Statement}
    (hq : NoQualifier tokens) (h : statement kind tokens = .ok (s, rest)) :
    s.SlotsStandIn tokens := by
  obtain ⟨-, hread⟩ := isReadFrom_of_statement h
  cases s with
  | insert s => exact insert_stands hq hread
  | update s => exact update_stands hq hread
  | delete s => exact delete_stands hq hread
  | select s => exact select_stands hq hread
  | _ => trivial

end Parser

namespace Statement

/-- In a statement that is read from tokens of which no parameter is a qualifier, every
parameter that is a value, is assigned or is compared with a column has the number of
parameters before it as its slot. -/
theorem slots_stand (sql : String) (tokens : List Token) (s : Statement)
    (hscan : Token.scan sql = .ok tokens) (hparse : parse sql = .ok s)
    (hq : NoQualifier tokens) : s.SlotsStandIn tokens := by
  rw [parse, hscan] at hparse
  unfold ofTokens at hparse
  simp only at hparse
  split at hparse
  · cases hparse
  · obtain ⟨⟨s', rest⟩, hstatement, hparse⟩ := exists_of_bind_ok hparse
    obtain ⟨-, -, hparse⟩ := exists_of_bind_ok hparse
    cases hparse
    exact Parser.statement_stands hq hstatement

/-- Slots after a select list, a text with a question mark, a list of parameters and a range. -/
theorem slots_stand_query :
    let sql := "SELECT ?, a FROM t " ++
      "WHERE b = '?' AND (c IN (?, ?)) AND d BETWEEN ? AND ? AND (t.id = ?)"
    let s : Statement := .select ⟨"t", .expressions "?, a", some ⟨[.other "b = '?'",
      .other "c IN (?, ?)", .other "d BETWEEN ? AND ?", .equals "id" 5]⟩⟩
    ∃ tokens, Token.scan sql = .ok tokens ∧ parse sql = .ok s ∧ NoQualifier tokens ∧
      s.SlotsStandIn tokens := by
  intro sql s
  have hscan : Token.scan sql = .ok [.word "SELECT" none, .placeholder "", .mark .comma,
      .word "a" none, .word "FROM" none, .word "t" none, .word "WHERE" none, .word "b" none,
      .mark .equal, .text .plain "?", .word "AND" none, .mark .leftParen, .word "c" none,
      .word "IN" none, .mark .leftParen, .placeholder "", .mark .comma, .placeholder "",
      .mark .rightParen, .mark .rightParen, .word "AND" none, .word "d" none,
      .word "BETWEEN" none, .placeholder "", .word "AND" none, .placeholder "",
      .word "AND" none, .mark .leftParen, .word "t" none, .mark .period, .word "id" none,
      .mark .equal, .placeholder "", .mark .rightParen] :=
    Token.scan_of_eq_layout (by decide) (by decide) (by decide)
  have hparse : parse sql = .ok s := by
    rw [parse, hscan]
    with_unfolding_all rfl
  exact ⟨_, hscan, hparse, by decide, slots_stand _ _ _ hscan hparse (by decide)⟩

/-- A parameter in the place of a qualifier is not counted: one parameter stands before the
last one of this query, whose slot is zero. -/
theorem qualifier_not_counted :
    let sql := "SELECT * FROM t WHERE ?.a = ?"
    ∃ before label, Token.scan sql = .ok (before ++ [.placeholder label]) ∧
      placeholderCount before = 1 ∧
      parse sql = .ok (.select ⟨"t", .all, some ⟨[.equals "a" 0]⟩⟩) := by
  intro sql
  have hscan : Token.scan sql = .ok ([.word "SELECT" none, .mark .star, .word "FROM" none,
      .word "t" none, .word "WHERE" none, .placeholder "", .mark .period, .word "a" none,
      .mark .equal] ++ [.placeholder ""]) :=
    Token.scan_of_eq_layout (by decide) (by decide) (by decide)
  refine ⟨_, _, hscan, rfl, ?_⟩
  rw [parse, hscan]
  with_unfolding_all rfl

end Statement

end MiniSql
