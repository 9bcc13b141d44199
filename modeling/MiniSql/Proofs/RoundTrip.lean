import MiniSql.Proofs.Pieces
import MiniSql.Proofs.Printing

/-!
# Parsing undoes printing

The parser gives back every canonical statement from its printed text. Names, texts and
numbers are single tokens, so the readers cut the token list exactly where printing joined
it, and the parameters are numbered as they come.

**Results.**
* `read_operand`, `read_clause`: the pieces of statements, read back with the next free slot.
* `parse_print`: a canonical statement is what its printed text is parsed to.
-/

namespace MiniSql

open Token (quoted bare joined listed Flat)

/-! ## Slots in a row -/

/-- The slots are numbered from the first one. -/
def Consecutive (slot : Nat) (slots : List Nat) : Prop :=
  slots = List.range' slot slots.length

theorem consecutive_nil (slot : Nat) : Consecutive slot [] := rfl

theorem consecutive_cons (slot k : Nat) (ks : List Nat) :
    Consecutive slot (k :: ks) ↔ k = slot ∧ Consecutive (slot + 1) ks := by
  simp [Consecutive, List.range'_succ]

theorem consecutive_append (slot : Nat) (ks ls : List Nat) :
    Consecutive slot (ks ++ ls) ↔ Consecutive slot ks ∧ Consecutive (slot + ks.length) ls := by
  induction ks generalizing slot with
  | nil => simp [consecutive_nil]
  | cons k ks ih =>
      rw [List.cons_append, consecutive_cons, consecutive_cons, ih, and_assoc,
        show slot + 1 + ks.length = slot + (k :: ks).length by simp; omega]

/-! ## Literals and operands -/

theorem splitSign_of_digits {cs : List Char} (h : ∀ c ∈ cs, c.isDigit = true) :
    splitSign cs = (false, cs) := by
  unfold splitSign
  split
  · exact absurd (h '-' List.mem_cons_self) (by decide)
  · exact absurd (h '+' List.mem_cons_self) (by decide)
  · rfl

theorem readInteger?_toDigits {n : Nat} (h : (n : Int) ≤ Int64.maxValue.toInt) :
    readInteger? (Nat.toDigits 10 n) = some (.ofInt n) := by
  have hsign : splitSign (Nat.toDigits 10 n) = (false, Nat.toDigits 10 n) :=
    splitSign_of_digits fun c hc => Nat.isDigit_of_mem_toDigits (by decide) (by decide) hc
  simp [readInteger?, hsign, h]

theorem natAbs_le_maxValue {i : Int64} (h : i ≠ Int64.minValue) :
    (i.toInt.natAbs : Int) ≤ Int64.maxValue.toInt := by
  have hmin : i.toInt ≠ Int64.minValue.toInt := fun heq => h (Int64.toInt_inj.1 heq)
  have hlow := Int64.le_toInt i
  have hhigh := Int64.toInt_lt i
  rw [Int64.toInt_minValue] at hmin
  rw [Int64.toInt_maxValue]
  omega

theorem read_literal {l : Literal} (h : l.isCanonical = true) (slot : Nat) :
    Operand.read slot l.tokens = .ok (.literal l, slot) := by
  cases l with
  | null => rfl
  | integer i =>
      have hmin : i ≠ Int64.minValue := by simpa [Literal.isCanonical] using h
      have hread := readInteger?_toDigits (natAbs_le_maxValue hmin)
      rw [Literal.tokens]
      split
      · next hneg =>
          have hi : -Int64.ofInt i.toInt.natAbs = i := by
            rw [← Int64.ofInt_neg, show -(i.toInt.natAbs : Int) = i.toInt by omega,
              Int64.ofInt_toInt]
          generalize Int64.ofInt i.toInt.natAbs = magnitude at hread hi
          simp [Operand.read, Literal.readNumber, hread, hi, Except.map]
      · next hnonneg =>
          have hi : Int64.ofInt i.toInt.natAbs = i := by
            rw [show (i.toInt.natAbs : Int) = i.toInt by omega, Int64.ofInt_toInt]
          generalize Int64.ofInt i.toInt.natAbs = magnitude at hread hi
          simp [Operand.read, Literal.readNumber, hread, hi, Except.map]
  | real x => cases h
  | text s => rfl

theorem read_operand {v : Operand} (h : v.isCanonical = true) {slot : Nat}
    (hslots : Consecutive slot v.slot?.toList) :
    Operand.read slot v.tokens = .ok (v, slot + v.slot?.toList.length) := by
  cases v with
  | placeholder k =>
      obtain ⟨rfl, -⟩ := (consecutive_cons slot k []).1 hslots
      rfl
  | literal l => exact read_literal h slot

/-! ## Lists -/

/-- A reader that gives back every single item from its tokens gives back a list of them. -/
theorem readAll_tokens {α : Type} {readItem : Nat → List Token → Except ParseError (α × Nat)}
    {readAll : Nat → List (List Token) → Except ParseError (List α × Nat)}
    (hnil : ∀ slot, readAll slot [] = .ok ([], slot))
    (hcons : ∀ slot p ps, readAll slot (p :: ps) = (do
      let (x, slot) ← readItem slot p
      let (xs, slot) ← readAll slot ps
      .ok (x :: xs, slot)))
    {tokens : α → List Token} {slot? : α → Option Nat} {isCanonical : α → Bool}
    (hitem : ∀ x slot, isCanonical x = true → Consecutive slot (slot? x).toList →
      readItem slot (tokens x) = .ok (x, slot + (slot? x).toList.length))
    {xs : List α} (hxs : xs.all isCanonical = true) {slot : Nat}
    (hslots : Consecutive slot (xs.filterMap slot?)) :
    readAll slot (xs.map tokens) = .ok (xs, slot + (xs.filterMap slot?).length) := by
  induction xs generalizing slot with
  | nil => exact hnil slot
  | cons x xs ih =>
      rw [List.all_cons, Bool.and_eq_true] at hxs
      have hsplit : (x :: xs).filterMap slot? = (slot? x).toList ++ xs.filterMap slot? := by
        cases hx : slot? x <;> simp [hx]
      rw [hsplit, consecutive_append] at hslots
      rw [List.map_cons, hcons, hitem x slot hxs.1 hslots.1]
      simp only [bind, Except.bind, ih hxs.2 hslots.2]
      rw [hsplit, List.length_append, Nat.add_assoc]

theorem read_assignment {a : Assignment} (h : a.value.isCanonical = true) {slot : Nat}
    (hslots : Consecutive slot a.value.slot?.toList) :
    Parser.assignment slot a.tokens = .ok (a, slot + a.value.slot?.toList.length) := by
  simp [Parser.assignment, Assignment.tokens, quoted, Token.isEquality, columnName,
    Token.identifier?, read_operand h hslots, bind, Except.bind]

theorem read_conjunct {c : Conjunct} (h : c.isCanonical = true) {slot : Nat}
    (hslots : Consecutive slot c.slot?.toList) :
    Conjunct.read slot c.tokens = (c, slot + c.slot?.toList.length) := by
  cases c with
  | other text => cases h
  | equals column k =>
      obtain ⟨rfl, -⟩ := (consecutive_cons slot k []).1 hslots
      have hstrip : Token.stripParens (Conjunct.equals column k).tokens =
          (Conjunct.equals column k).tokens :=
        Token.stripParens_of_unwrap? (Token.unwrap?_of_head_ne (by simp [quoted]) _)
      rw [Conjunct.read, hstrip]
      rfl

theorem readAll_operands {values : List Operand} (h : values.all Operand.isCanonical = true)
    {slot : Nat} (hslots : Consecutive slot (values.filterMap Operand.slot?)) :
    Operand.readAll slot (values.map Operand.tokens) =
      .ok (values, slot + (values.filterMap Operand.slot?).length) :=
  readAll_tokens (fun _ => rfl) (fun _ _ _ => rfl)
    (fun _ _ hv hslot => read_operand hv hslot) h hslots

theorem readAll_assignments {assignments : List Assignment}
    (h : assignments.all (·.value.isCanonical) = true) {slot : Nat}
    (hslots : Consecutive slot (assignments.filterMap (·.value.slot?))) :
    Parser.assignments slot (assignments.map Assignment.tokens) =
      .ok (assignments, slot + (assignments.filterMap (·.value.slot?)).length) :=
  readAll_tokens (fun _ => rfl) (fun _ _ _ => rfl)
    (fun _ _ ha hslot => read_assignment ha hslot) h hslots

theorem readAll_conjuncts {conjuncts : List Conjunct}
    (h : conjuncts.all Conjunct.isCanonical = true) {slot : Nat}
    (hslots : Consecutive slot (conjuncts.filterMap Conjunct.slot?)) :
    Conjunct.readAll slot (conjuncts.map Conjunct.tokens) =
      (conjuncts, slot + (conjuncts.filterMap Conjunct.slot?).length) := by
  have hread := @readAll_tokens Conjunct (fun slot p => .ok (Conjunct.read slot p))
    (fun slot ps => .ok (Conjunct.readAll slot ps)) (fun _ => rfl) (fun _ _ _ => rfl) _ _ _
    (fun c slot hc hslot => congrArg Except.ok (read_conjunct hc hslot)) _ h slot hslots
  exact Except.ok.inj hread

/-! ## Tokens at which nothing is cut -/

/-- The token is neither a parenthesis nor a semicolon, and no keyword at which a list of
tokens ends or a clause is cut into alternatives. -/
def Token.isInert (t : Token) : Bool :=
  t ∉ [mark .leftParen, mark .rightParen, mark .semicolon] &&
    !t.isOneOf ("WHERE" :: "FROM" :: "OR" :: clauseEnds)

theorem isInert_iff (t : Token) : t.isInert = true ↔
    (t ≠ .mark .leftParen ∧ t ≠ .mark .rightParen ∧ t ≠ .mark .semicolon) ∧
      t.isKeyword "WHERE" = false ∧ t.isKeyword "FROM" = false ∧ t.isKeyword "OR" = false ∧
        t.isOneOf clauseEnds = false := by
  simp [Token.isInert, Token.isOneOf, and_assoc]

theorem mem_joined {t separator : Token} {pieces : List (List Token)}
    (h : t ∈ joined separator pieces) : t = separator ∨ ∃ p ∈ pieces, t ∈ p := by
  induction pieces with
  | nil => simp [joined] at h
  | cons p rest ih =>
    cases rest with
    | nil => exact Or.inr ⟨p, List.mem_cons_self, by simpa [joined] using h⟩
    | cons q rest =>
        rw [joined, List.intercalate_cons_cons, List.mem_append, List.mem_append,
          List.mem_singleton] at h
        rcases h with (hp | hseparator) | hrest
        · exact Or.inr ⟨p, List.mem_cons_self, hp⟩
        · exact Or.inl hseparator
        · rcases ih hrest with hseparator | ⟨r, hr, ht⟩
          · exact Or.inl hseparator
          · exact Or.inr ⟨r, List.mem_cons_of_mem p hr, ht⟩

theorem inert_joined {separator : Token} (hseparator : separator.isInert = true)
    {pieces : List (List Token)} (hpieces : ∀ p ∈ pieces, ∀ t ∈ p, t.isInert = true) :
    ∀ t ∈ joined separator pieces, t.isInert = true := by
  intro t ht
  rcases mem_joined ht with rfl | ⟨p, hp, ht⟩
  · exact hseparator
  · exact hpieces p hp t ht

theorem flat_of_inert {tokens : List Token} (h : ∀ t ∈ tokens, t.isInert = true) : Flat tokens :=
  fun t ht => ⟨((isInert_iff t).1 (h t ht)).1.1, ((isInert_iff t).1 (h t ht)).1.2.1⟩

/-- Inert tokens are taken up to the token that stops. -/
theorem takeUntil_of_inert {stop : Token → Bool} (hstop : ∀ t, t.isInert = true → stop t = false)
    {tokens : List Token} (h : ∀ t ∈ tokens, t.isInert = true) {rest : List Token}
    (hrest : ∀ t ∈ rest.head?, stop t = true) :
    Token.takeUntil stop 0 (tokens ++ rest) = (tokens, rest) := by
  have hflat := flat_of_inert h
  have houtside : ∀ t ∈ Token.outside 0 tokens, t ≠ .mark .semicolon ∧ stop t = false := by
    intro t ht
    rw [hflat.outside_eq] at ht
    exact ⟨((isInert_iff t).1 (h t ht)).1.2.2, hstop t (h t ht)⟩
  have hend : Token.takeUntil stop 0 rest = ([], rest) := by
    cases rest with
    | nil => rfl
    | cons t ts => simp [Token.takeUntil, hrest t rfl]
  rw [Token.takeUntil_of_outside houtside, hflat.depthFrom_eq, hend, List.append_nil]

theorem inert_literal {l : Literal} (h : l.isCanonical = true) :
    ∀ t ∈ l.tokens, t.isInert = true ∧ t ≠ .mark .comma := by
  cases l with
  | null => decide
  | integer i =>
      intro t ht
      rw [Literal.tokens, List.mem_append] at ht
      rcases ht with ht | ht
      · split at ht
        · obtain rfl : t = .mark .minus := by simpa using ht
          decide
        · cases ht
      · obtain rfl : t = .number i.toInt.natAbs.repr false := by simpa using ht
        exact ⟨rfl, by simp⟩
  | real x => cases h
  | text s =>
      intro t ht
      obtain rfl : t = .text .plain s := by simpa [Literal.tokens] using ht
      exact ⟨rfl, by simp⟩

theorem inert_operand {v : Operand} (h : v.isCanonical = true) :
    ∀ t ∈ v.tokens, t.isInert = true ∧ t ≠ .mark .comma := by
  cases v with
  | placeholder slot =>
      intro t ht
      obtain rfl : t = .placeholder "" := by simpa [Operand.tokens] using ht
      exact ⟨rfl, by simp⟩
  | literal l => exact inert_literal h

theorem operand_tokens_ne_nil (v : Operand) : v.tokens ≠ [] := by
  cases v with
  | placeholder slot => simp [Operand.tokens]
  | literal l => cases l <;> simp [Operand.tokens, Literal.tokens]

theorem inert_assignment {a : Assignment} (h : a.value.isCanonical = true) :
    ∀ t ∈ a.tokens, t.isInert = true ∧ t ≠ .mark .comma := by
  intro t ht
  rw [Assignment.tokens, List.mem_cons, List.mem_cons] at ht
  rcases ht with rfl | rfl | ht
  · exact ⟨rfl, by simp [quoted]⟩
  · exact ⟨rfl, by simp⟩
  · exact inert_operand h t ht

theorem inert_conjunct {c : Conjunct} (h : c.isCanonical = true) :
    ∀ t ∈ c.tokens, t.isInert = true ∧
      t.isKeyword "BETWEEN" = false ∧ t.isKeyword "AND" = false := by
  cases c with
  | other text => cases h
  | equals column slot =>
      intro t ht
      simp only [Conjunct.tokens, List.mem_cons, List.not_mem_nil, or_false] at ht
      rcases ht with rfl | rfl | rfl <;> exact ⟨rfl, rfl, rfl⟩

/-! ## Cutting what was joined -/

theorem splitAtCommas_joined {pieces : List (List Token)}
    (h : ∀ p ∈ pieces, p ≠ [] ∧ Flat p ∧ .mark .comma ∉ p) :
    Token.splitAtCommas (joined (.mark .comma) pieces) = pieces := by
  refine split_joined (by simp) fun p hp => ?_
  obtain ⟨hne, hflat, hcomma⟩ := h p hp
  refine ⟨hne, hflat.depthFrom_eq 0, ?_⟩
  intro t ht
  rw [hflat.outside_eq] at ht
  simp only [decide_eq_false_iff_not]
  rintro rfl
  exact hcomma ht

theorem group_listed {items : List (List Token)} (h : ∀ p ∈ items, Flat p) (rest : List Token) :
    Parser.group (listed items ++ rest) = .ok (joined (.mark .comma) items, rest) := by
  have hflat : Flat (joined (.mark .comma) items) := by
    intro t ht
    rcases mem_joined ht with rfl | ⟨p, hp, ht⟩
    · decide
    · exact h p hp t ht
  have hclose := Token.closeGroup_of_balanced hflat.balanced rest
  simp [listed, Parser.group, hclose]

theorem joined_ne_nil {separator : Token} {pieces : List (List Token)} (hne : pieces ≠ [])
    (hpieces : ∀ p ∈ pieces, p ≠ []) : joined separator pieces ≠ [] := by
  obtain ⟨p, rest, rfl⟩ := List.exists_cons_of_ne_nil hne
  have hp := hpieces p List.mem_cons_self
  cases rest with
  | nil => simpa [joined] using hp
  | cons q rest =>
      rw [joined, List.intercalate_cons_cons]
      simp [hp]

/-! ## Clauses -/

theorem inert_predicate {p : Predicate} (h : p.conjuncts.all Conjunct.isCanonical = true) :
    ∀ t ∈ p.tokens, t.isInert = true := by
  refine inert_joined (by decide) fun piece hpiece t ht => ?_
  obtain ⟨c, hc, rfl⟩ := List.mem_map.1 hpiece
  exact (inert_conjunct (List.all_eq_true.1 h c hc) t ht).1

theorem predicate_tokens_ne_nil {p : Predicate} (h : p.conjuncts ≠ []) : p.tokens ≠ [] := by
  refine joined_ne_nil (by simpa using h) fun piece hpiece => ?_
  obtain ⟨c, -, rfl⟩ := List.mem_map.1 hpiece
  cases c <;> simp [Conjunct.tokens]

theorem ofTokens_predicate {p : Predicate} (hne : p.conjuncts ≠ [])
    (h : p.conjuncts.all Conjunct.isCanonical = true) {slot : Nat}
    (hslots : Consecutive slot (p.conjuncts.filterMap Conjunct.slot?)) :
    (Predicate.ofTokens slot p.tokens).1 = p := by
  have hinert := inert_predicate h
  have hflat := flat_of_inert hinert
  have hone : Token.split (·.isKeyword "OR") p.tokens = [p.tokens] := by
    have hpieces : ∀ q ∈ [p.tokens], q ≠ [] ∧ Token.depthFrom 0 q = 0 ∧
        ∀ t ∈ Token.outside 0 q, t.isKeyword "OR" = false := by
      simp only [List.mem_singleton, forall_eq]
      refine ⟨predicate_tokens_ne_nil hne, hflat.depthFrom_eq 0, fun t ht => ?_⟩
      rw [hflat.outside_eq] at ht
      exact ((isInert_iff t).1 (hinert t ht)).2.2.2.1
    have hor : (bare "OR").isKeyword "OR" = true := by decide
    simpa using split_joined hor hpieces
  have hsplit : splitConjuncts p.tokens = p.conjuncts.map Conjunct.tokens := by
    refine splitConjuncts_joined (by decide) (by simpa using hne) fun piece hpiece => ?_
    obtain ⟨c, hc, rfl⟩ := List.mem_map.1 hpiece
    have hpiece := inert_conjunct (List.all_eq_true.1 h c hc)
    exact ⟨flat_of_inert fun t ht => (hpiece t ht).1, fun t ht => (hpiece t ht).2⟩
  simp [Predicate.ofTokens, hone, hsplit, readAll_conjuncts h hslots]

/-- A clause is read back from the slot that its first parameter has. -/
theorem read_clause {predicate : Option Predicate} (h : Predicate.isCanonical predicate = true)
    {slot : Nat} (hslots : Consecutive slot (Predicate.slots predicate)) :
    Predicate.read slot (Predicate.clause predicate) = .ok (predicate, []) := by
  cases predicate with
  | none => rfl
  | some p =>
      simp only [Predicate.isCanonical, Bool.and_eq_true, decide_eq_true_eq] at h
      obtain ⟨hne, hall⟩ := h
      have htake : Token.takeUntil (Token.isOneOf clauseEnds) 0 p.tokens = (p.tokens, []) := by
        have hnil : ∀ t ∈ ([] : List Token).head?, t.isOneOf clauseEnds = true := by simp
        simpa using takeUntil_of_inert (fun t ht => ((isInert_iff t).1 ht).2.2.2.2)
          (inert_predicate hall) hnil
      rw [Predicate.clause, Predicate.read, if_pos (by decide), htake]
      simp [predicate_tokens_ne_nil hne, ofTokens_predicate hne hall hslots]

/-! ## Column definitions -/

theorem render_bare (words : List String) :
    (Token.render (words.map bare)).toList = [' '].intercalate (words.map String.toList) := by
  induction words with
  | nil => rfl
  | cons w rest ih =>
    cases rest with
    | nil => simp [Token.render, Token.spelling, bare]
    | cons v rest =>
        have hrender : Token.render ((w :: v :: rest).map bare) =
          w ++ " " ++ Token.render ((v :: rest).map bare) := rfl
        rw [hrender, String.toList_append, ih]
        simp [List.intercalate_cons_cons]

theorem render_typeWords (type : String) :
    Token.render ((Column.typeWords type).map bare) = type := by
  rw [← String.toList_inj, render_bare]
  by_cases htype : type = ""
  · simp [Column.typeWords, htype]
  · have hid : (String.toList ∘ String.ofList) = id := by
      funext cs
      simp
    rw [Column.typeWords, if_neg htype, List.map_map, hid, List.map_id, List.intercalate_splitOn]

/-- The constraints of a column are told apart by their keywords. -/
theorem constraints_read (c : Column) :
    (∀ t ∈ c.constraintTokens.head?, t.isOneOf columnConstraintStarts = true) ∧
      c.constraintTokens.any (·.isKeyword "PRIMARY") = c.primaryKey ∧
      c.constraintTokens.any (·.isKeyword "UNIQUE") = c.unique ∧
      saysNotNull c.constraintTokens = c.notNull := by
  obtain ⟨name, type, primaryKey, unique, notNull⟩ := c
  cases primaryKey <;> cases unique <;> cases notNull <;>
    simp only [Column.constraintTokens, if_true, if_false, Bool.false_eq_true] <;> decide

theorem define_tokens {c : Column} (h : c.isCanonical = true) :
    Column.define c.name ((Column.typeWords c.type).map bare ++ c.constraintTokens) = c := by
  obtain ⟨hhead, hprimary, hunique, hnotNull⟩ := constraints_read c
  have htype : ∀ t ∈ (Column.typeWords c.type).map bare,
      (!t.isOneOf columnConstraintStarts) = true := by
    intro t ht
    obtain ⟨w, hw, rfl⟩ := List.mem_map.1 ht
    simp only [Column.isCanonical, List.all_eq_true, Bool.and_eq_true] at h
    exact (h w hw).2
  have htake : c.constraintTokens.takeWhile (fun t => !t.isOneOf columnConstraintStarts) = [] := by
    cases hc : c.constraintTokens with
    | nil => rfl
    | cons t ts => simp [hhead t (by simp [hc])]
  have hdrop : c.constraintTokens.dropWhile (fun t => !t.isOneOf columnConstraintStarts) =
      c.constraintTokens := by
    cases hc : c.constraintTokens with
    | nil => rfl
    | cons t ts => simp [hhead t (by simp [hc])]
  rw [Column.define, List.takeWhile_append_of_pos htype, List.dropWhile_append_of_pos htype, htake,
    hdrop, hprimary, hunique, hnotNull, List.append_nil, render_typeWords]

theorem readAll_columns {columns : List Column} (h : columns.all Column.isCanonical = true)
    (before : List Column) :
    Column.readAll before (columns.map Column.tokens) = .ok (before ++ columns) := by
  induction columns generalizing before with
  | nil => simp [Column.readAll]
  | cons c cs ih =>
      rw [List.all_cons, Bool.and_eq_true] at h
      have hadd : Column.addDefinition before c.tokens = .ok (before ++ [c]) := by
        rw [Column.tokens, List.cons_append, Column.addDefinition, Token.isOneOf_quoted]
        simp [quoted, Token.identifier?, define_tokens h.1]
      rw [List.map_cons, Column.readAll, hadd]
      simpa [bind, Except.bind] using ih h.2 (before ++ [c])

/-! ## Statements -/

namespace Parser

theorem expect_bare (keyword : String) (ts : List Token) :
    expect keyword (bare keyword :: ts) = .ok ts := by
  simp [expect, bare]

theorem relationName_quoted (relation : String) {rest : List Token}
    (h : rest.head? ≠ some (.mark .period)) :
    relationName (quoted relation :: rest) = .ok (relation, rest) := by
  have hidentifier : identifier (quoted relation :: rest) = .ok (relation, rest) := rfl
  rw [relationName, hidentifier]
  simp only [bind, Except.bind]
  split
  · simp at h
  · rfl

theorem optionalGroup_listed {items : List (List Token)} (h : ∀ p ∈ items, Flat p)
    (rest : List Token) :
    optionalGroup (listed items ++ rest) = .ok (some (joined (.mark .comma) items), rest) := by
  have hhead : (listed items ++ rest).head? = some (.mark .leftParen) := rfl
  rw [optionalGroup, if_pos hhead, group_listed h]
  rfl

theorem mapM_columnName (columns : List String) :
    (columns.map fun c => [quoted c]).mapM columnName = .ok columns := by
  induction columns with
  | nil => rfl
  | cons c cs ih =>
      have hc : columnName [quoted c] = .ok c := rfl
      rw [List.map_cons, List.mapM_cons, hc, ih]
      rfl

theorem splitAtCommas_names (columns : List String) :
    Token.splitAtCommas (joined (.mark .comma) (columns.map fun c => [quoted c])) =
      columns.map fun c => [quoted c] := by
  refine splitAtCommas_joined fun p hp => ?_
  obtain ⟨c, -, rfl⟩ := List.mem_map.1 hp
  refine ⟨by simp, ?_, by simp [quoted]⟩
  intro t ht
  obtain rfl : t = quoted c := by simpa using ht
  simp [quoted]

theorem splitAtCommas_inert {α : Type} {tokens : α → List Token} {xs : List α}
    (h : ∀ x ∈ xs, tokens x ≠ [] ∧ ∀ t ∈ tokens x, t.isInert = true ∧ t ≠ .mark .comma) :
    Token.splitAtCommas (joined (.mark .comma) (xs.map tokens)) = xs.map tokens := by
  refine splitAtCommas_joined fun p hp => ?_
  obtain ⟨x, hx, rfl⟩ := List.mem_map.1 hp
  obtain ⟨hne, hinert⟩ := h x hx
  exact ⟨hne, flat_of_inert fun t ht => (hinert t ht).1, fun ht => (hinert _ ht).2 rfl⟩

theorem flat_map {α : Type} {tokens : α → List Token} {xs : List α}
    (h : ∀ x ∈ xs, Flat (tokens x)) : ∀ p ∈ xs.map tokens, Flat p := by
  intro p hp
  obtain ⟨x, hx, rfl⟩ := List.mem_map.1 hp
  exact h x hx

theorem flat_quoted (s : String) : Flat [quoted s] := by
  intro t ht
  obtain rfl : t = quoted s := by simpa using ht
  simp [quoted]

theorem insert_tokens {s : Insert} (hlength : s.columns.length = s.values.length)
    (hvalues : s.values.all Operand.isCanonical = true)
    (hslots : Consecutive 0 (s.values.filterMap Operand.slot?)) :
    insert (Statement.insert s).tokens = .ok (s, []) := by
  have hinert : ∀ v ∈ s.values, v.tokens ≠ [] ∧
      ∀ t ∈ v.tokens, t.isInert = true ∧ t ≠ .mark .comma :=
    fun v hv => ⟨operand_tokens_ne_nil v, inert_operand (List.all_eq_true.1 hvalues v hv)⟩
  have htokens : (Statement.insert s).tokens = bare "INSERT" :: bare "INTO" :: quoted s.relation ::
      (listed (s.columns.map fun c => [quoted c]) ++
        bare "VALUES" :: (listed (s.values.map Operand.tokens) ++ [])) := by
    simp [Statement.tokens]
  have hor : ∀ ts, startsWith "OR" (bare "INTO" :: ts) = false := fun _ => rfl
  have hrelation : ∀ ts,
      relationName (quoted s.relation :: (listed (s.columns.map fun c => [quoted c]) ++ ts)) =
        .ok (s.relation, listed (s.columns.map fun c => [quoted c]) ++ ts) :=
    fun ts => relationName_quoted _ (by simp [listed])
  have hcolumns := optionalGroup_listed (flat_map fun c (_ : c ∈ s.columns) => flat_quoted c)
  have hselect : ∀ ts, startsWithAny ["SELECT", "DEFAULT"] (bare "VALUES" :: ts) = false :=
    fun _ => rfl
  have hvalueGroup := group_listed (flat_map fun v hv =>
    flat_of_inert fun t ht => ((hinert v hv).2 t ht).1) []
  rw [htokens, insert]
  simp only [expect_bare, hor, hrelation, hcolumns, hselect, hvalueGroup, splitAtCommas_names,
    splitAtCommas_inert hinert, mapM_columnName, readAll_operands hvalues hslots, hlength, bind,
    Except.bind, Option.getD_some]
  simp

theorem head_clause (predicate : Option Predicate) :
    ∀ t ∈ (Predicate.clause predicate).head?, t = bare "WHERE" := by
  cases predicate with
  | none => simp [Predicate.clause]
  | some p => simp [Predicate.clause, eq_comm]

theorem relationName_clause (relation : String) (predicate : Option Predicate) :
    relationName (quoted relation :: Predicate.clause predicate) =
      .ok (relation, Predicate.clause predicate) := by
  refine relationName_quoted relation fun hhead => ?_
  cases head_clause predicate _ hhead

theorem update_tokens {s : Update} (hne : s.assignments ≠ [])
    (hassignments : s.assignments.all (·.value.isCanonical) = true)
    (hpredicate : Predicate.isCanonical s.predicate = true)
    (hslots : Consecutive 0 (Statement.update s).slots) :
    update (Statement.update s).tokens = .ok (s, []) := by
  rw [Statement.slots, consecutive_append] at hslots
  have hinert : ∀ a ∈ s.assignments, a.tokens ≠ [] ∧
      ∀ t ∈ a.tokens, t.isInert = true ∧ t ≠ .mark .comma :=
    fun a ha => ⟨by simp [Assignment.tokens],
      inert_assignment (List.all_eq_true.1 hassignments a ha)⟩
  have hor : ∀ ts, startsWith "OR" (quoted s.relation :: ts) = false := fun _ => rfl
  have hrelation : ∀ ts, relationName (quoted s.relation :: bare "SET" :: ts) =
      .ok (s.relation, bare "SET" :: ts) :=
    fun ts => relationName_quoted _ (by simp [bare])
  have htake : Token.takeUntil (·.isKeyword "WHERE") 0
      (joined (.mark .comma) (s.assignments.map Assignment.tokens) ++
        Predicate.clause s.predicate) =
      (joined (.mark .comma) (s.assignments.map Assignment.tokens),
        Predicate.clause s.predicate) := by
    refine takeUntil_of_inert (fun t ht => ((isInert_iff t).1 ht).2.1) ?_ ?_
    · refine inert_joined (by decide) fun piece hpiece t ht => ?_
      obtain ⟨a, ha, rfl⟩ := List.mem_map.1 hpiece
      exact ((hinert a ha).2 t ht).1
    · intro t ht
      rw [head_clause s.predicate t ht]
      decide
  have hread := read_clause hpredicate hslots.2
  rw [Nat.zero_add] at hread
  rw [Statement.tokens, List.cons_append, List.cons_append, List.cons_append, update]
  simp only [expect_bare, hor, hrelation, htake, splitAtCommas_inert hinert,
    readAll_assignments hassignments hslots.1, bind, Except.bind]
  simp [hne, hread]

theorem delete_tokens {s : Delete} (hpredicate : Predicate.isCanonical s.predicate = true)
    (hslots : Consecutive 0 (Predicate.slots s.predicate)) :
    delete (Statement.delete s).tokens = .ok (s, []) := by
  have hread := read_clause hpredicate hslots
  rw [Statement.tokens, delete]
  simp [expect_bare, relationName_clause, hread, bind, Except.bind]

theorem inert_projection {p : Projection} (h : p.isCanonical = true) :
    ∀ t ∈ p.tokens, t.isInert = true ∧ t.isPlaceholder = false := by
  cases p with
  | all => decide
  | columns names =>
      intro t ht
      rcases mem_joined ht with rfl | ⟨p, hp, ht⟩
      · decide
      · obtain ⟨n, -, rfl⟩ := List.mem_map.1 hp
        obtain rfl : t = quoted n := by simpa using ht
        exact ⟨rfl, rfl⟩
  | expressions text => cases h

theorem read_projection {p : Projection} (h : p.isCanonical = true) :
    Projection.read p.tokens = p := by
  cases p with
  | all => rfl
  | columns names =>
      have hstar : joined (.mark .comma) (names.map fun n => [quoted n]) ≠ [.mark .star] := by
        intro heq
        have hmem : .mark .star ∈ joined (.mark .comma) (names.map fun n => [quoted n]) := by
          simp [heq]
        rcases mem_joined hmem with hcomma | ⟨p, hp, ht⟩
        · cases hcomma
        · obtain ⟨n, -, rfl⟩ := List.mem_map.1 hp
          simp [quoted] at ht
      have hne : names ≠ [] := by simpa [Projection.isCanonical] using h
      obtain ⟨n, ns, rfl⟩ := List.exists_cons_of_ne_nil hne
      rw [Projection.tokens, Projection.read, if_neg hstar, splitAtCommas_names, mapM_columnName]
  | expressions text => cases h

/-- A clause is not mistaken for an alias or a second relation. -/
theorem skip_clause (predicate : Option Predicate) :
    skipAlias (Predicate.clause predicate) = .ok (Predicate.clause predicate) ∧
      (Predicate.clause predicate).head? ≠ some (.mark .comma) ∧
      startsWithAny joinStarts (Predicate.clause predicate) = false := by
  cases predicate with
  | none => exact ⟨rfl, by simp [Predicate.clause], rfl⟩
  | some p => exact ⟨rfl, by simp [Predicate.clause, bare], rfl⟩

theorem select_tokens {s : Select} (hprojection : s.projection.isCanonical = true)
    (hpredicate : Predicate.isCanonical s.predicate = true)
    (hslots : Consecutive 0 (Predicate.slots s.predicate)) :
    select (Statement.select s).tokens = .ok (s, []) := by
  have hinert := inert_projection hprojection
  have hcount : Token.placeholderCount s.projection.tokens = 0 := by
    rw [Token.placeholderCount, List.countP_eq_zero]
    intro t ht
    simp [(hinert t ht).2]
  have htake : Token.takeUntil (·.isKeyword "FROM") 0
      (s.projection.tokens ++ bare "FROM" :: quoted s.relation :: Predicate.clause s.predicate) =
      (s.projection.tokens, bare "FROM" :: quoted s.relation :: Predicate.clause s.predicate) := by
    refine takeUntil_of_inert (fun t ht => ((isInert_iff t).1 ht).2.2.1)
      (fun t ht => (hinert t ht).1) fun t ht => ?_
    obtain rfl : bare "FROM" = t := by simpa using ht
    decide
  have hfrom : ∀ ts, startsWith "FROM" (bare "FROM" :: ts) = true := fun _ => rfl
  have hread := read_clause hpredicate hslots
  obtain ⟨halias, hcomma, hjoin⟩ := skip_clause s.predicate
  rw [Statement.tokens, List.cons_append, select]
  simp only [expect_bare, htake, hfrom, List.tail_cons, relationName_clause, halias, hjoin, hcount,
    hread, read_projection hprojection, bind, Except.bind]
  simp [hcomma, startsWithAny]

/-- A column is spelled in words. -/
theorem exists_word_of_mem_column {c : Column} {t : Token} (h : t ∈ c.tokens) :
    ∃ value quote, t = .word value quote := by
  rw [Column.tokens, List.cons_append, List.mem_cons, List.mem_append] at h
  rcases h with rfl | h | h
  · exact ⟨c.name, some .double, rfl⟩
  · obtain ⟨w, -, rfl⟩ := List.mem_map.1 h
    exact ⟨w, none, rfl⟩
  · have hwords : c.constraintTokens ⊆
        ["PRIMARY", "KEY", "UNIQUE", "NOT", "NULL"].map bare := by
      unfold Column.constraintTokens
      refine List.append_subset.2 ⟨List.append_subset.2 ⟨?_, ?_⟩, ?_⟩ <;> split <;> simp
    obtain ⟨w, -, rfl⟩ := List.mem_map.1 (hwords h)
    exact ⟨w, none, rfl⟩

theorem createTable_tokens {s : CreateTable} (hcolumns : s.columns.all Column.isCanonical = true) :
    createTable (Statement.createTable s).tokens = .ok (s, []) := by
  have hflat : ∀ c ∈ s.columns, Flat c.tokens := by
    intro c _ t ht
    obtain ⟨value, quote, rfl⟩ := exists_word_of_mem_column ht
    simp
  have hsplit : Token.splitAtCommas (joined (.mark .comma) (s.columns.map Column.tokens)) =
      s.columns.map Column.tokens := by
    refine splitAtCommas_joined fun p hp => ?_
    obtain ⟨c, hc, rfl⟩ := List.mem_map.1 hp
    refine ⟨by simp [Column.tokens], hflat c hc, fun ht => ?_⟩
    obtain ⟨value, quote, heq⟩ := exists_word_of_mem_column ht
    cases heq
  have hgroup := optionalGroup_listed (flat_map hflat) []
  rw [List.append_nil] at hgroup
  have hrelation : relationName (quoted s.relation :: listed (s.columns.map Column.tokens)) =
      .ok (s.relation, listed (s.columns.map Column.tokens)) :=
    relationName_quoted _ (by simp [listed])
  have htemp : ∀ ts, startsWithAny ["TEMP", "TEMPORARY"] (bare "TABLE" :: ts) = false :=
    fun _ => rfl
  have hif : ∀ ts, startsWith "IF" (bare "IF" :: ts) = true := fun _ => rfl
  have hname : ∀ ts, startsWith "IF" (quoted s.relation :: ts) = false := fun _ => rfl
  have has : startsWith "AS" (listed (s.columns.map Column.tokens)) = false := rfl
  have hread := readAll_columns hcolumns []
  obtain ⟨relation, ifNotExists, columns⟩ := s
  rw [Statement.tokens, createTable]
  cases ifNotExists <;>
    simp [expect_bare, htemp, hif, hname, hrelation, has, hgroup, hsplit, hread, fromSemicolon,
      bind, Except.bind]

end Parser

namespace Statement

theorem ofTokens_of_statement {s : Statement} (hhead : ∃ w ts, s.tokens = bare w :: ts)
    (hkind : StatementKind.ofTokens s.tokens = s.kind)
    (h : Parser.statement s.kind s.tokens = .ok (s, [])) : ofTokens s.tokens = .ok s := by
  have hwords : s.tokens.all (· = .mark .semicolon) = false := by
    obtain ⟨w, ts, heq⟩ := hhead
    simp [heq, bare]
  rw [ofTokens, if_neg (by simp [hwords]), hkind, h]
  rfl

theorem ofTokens_tokens {s : Statement} (h : s.isCanonical = true) :
    ofTokens s.tokens = .ok s := by
  unfold isCanonical at h
  rw [Bool.and_eq_true, decide_eq_true_eq, List.range_eq_range'] at h
  obtain ⟨hslots, h⟩ := h
  cases s with
  | createTable s =>
      rw [Bool.and_eq_true] at h
      refine ofTokens_of_statement ⟨_, _, rfl⟩ rfl ?_
      rw [kind, Parser.statement, Parser.createTable_tokens h.2]
      rfl
  | insert s =>
      simp only [Bool.and_eq_true, decide_eq_true_eq] at h
      refine ofTokens_of_statement ⟨_, _, rfl⟩ rfl ?_
      rw [kind, Parser.statement, Parser.insert_tokens h.1.2 h.2 hslots]
      rfl
  | update s =>
      simp only [Bool.and_eq_true, decide_eq_true_eq] at h
      refine ofTokens_of_statement ⟨_, _, rfl⟩ rfl ?_
      rw [kind, Parser.statement, Parser.update_tokens h.1.1 h.1.2 h.2 hslots]
      rfl
  | delete s =>
      refine ofTokens_of_statement ⟨_, _, rfl⟩ rfl ?_
      rw [kind, Parser.statement, Parser.delete_tokens h hslots]
      rfl
  | select s =>
      rw [Bool.and_eq_true] at h
      refine ofTokens_of_statement ⟨_, _, rfl⟩ rfl ?_
      rw [kind, Parser.statement, Parser.select_tokens h.1 h.2 hslots]
      rfl
  | begin => rfl
  | commit => rfl
  | rollback => rfl
  | pragma text => cases h

/-- A canonical statement is what its printed text is parsed to. -/
theorem parse_print (s : Statement) (h : s.isCanonical = true) : parse s.print = .ok s := by
  rw [parse, scan_print h]
  exact ofTokens_tokens h

/-- An update with a quote, a semicolon and a comment mark in its names and texts. -/
theorem parse_print_update :
    let s : Statement := .update ⟨"a\x22; --", [⟨"x", .placeholder 0⟩,
      ⟨"y", .literal (.text "it\x27s; /* 'x' */ DROP\n")⟩, ⟨"z", .literal (.integer (-5))⟩],
      some ⟨[.equals "id" 1, .equals "" 2]⟩⟩
    s.isCanonical = true ∧ parse s.print = .ok s ∧
      s.print = "UPDATE \x22a\x22\x22; --\x22 SET \x22x\x22 = ?, " ++
        "\x22y\x22 = 'it''s; /* ''x'' */ DROP\n', \x22z\x22 = -5 " ++
        "WHERE \x22id\x22 = ? AND \x22\x22 = ?" := by
  exact ⟨by decide, parse_print _ (by decide), by decide⟩

end Statement

end MiniSql
