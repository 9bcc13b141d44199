import Mathlib.Data.List.DropRight
import MiniSql.Proofs.Pieces

/-!
# Clauses cut into conjuncts

A clause is cut by a scan that keeps a depth of nesting and one bit for a `BETWEEN` that waits for
its `AND`, and another scan takes the parentheses around a conjunct off. What the first one does can
be said without it: the bit is set when a `BETWEEN` was met since the last `AND`, and the `AND`s
that are taken out are those met when it is not set. The conjuncts and these `AND`s are the clause.

**Results.**
* `ClauseMode.after_eq`: what the scan knows of the tokens that were read.
* `exists_weaves`: a clause from its conjuncts and the `AND`s between them.
* `conjuncts_conserve`: a clause is conserved when it is cut, and when parentheses are taken off.
-/

namespace MiniSql

namespace Token

/-! ## Conjunctions -/

/-- The tokens outside parentheses that were read since the last `AND` there, or since the start. -/
def sinceAnd (read : List Token) : List Token :=
  (outside 0 read).rtakeWhile fun t => !t.isKeyword "AND"

/-- The token is an `AND` outside parentheses, and since the last such `AND`, or the start, no
`BETWEEN` was read outside parentheses. -/
def Conjoins (read : List Token) (t : Token) : Prop :=
  depthFrom 0 read = 0 ∧ t.isKeyword "AND" = true ∧
    ∀ u ∈ sinceAnd read, u.isKeyword "BETWEEN" = false

instance (read : List Token) (t : Token) : Decidable (Conjoins read t) :=
  inferInstanceAs (Decidable (_ ∧ _ ∧ _))

theorem sinceAnd_concat (read : List Token) (t : Token) :
    sinceAnd (read ++ [t]) =
      if depthFrom 0 read = 0 then if t.isKeyword "AND" then [] else sinceAnd read ++ [t]
      else sinceAnd read := by
  rw [sinceAnd, sinceAnd, outside_append, outside_cons, outside_nil, List.append_nil]
  split
  · rw [List.rtakeWhile_concat]
    cases t.isKeyword "AND" <;> rfl
  · rw [List.append_nil]

/-- The mode is the depth, and whether a `BETWEEN` was read since the last `AND`. -/
theorem ClauseMode.after_eq (read : List Token) :
    start.after read = ⟨depthFrom 0 read, (sinceAnd read).any (·.isKeyword "BETWEEN")⟩ := by
  induction read using List.reverseRecOn with
  | nil => rfl
  | append_singleton ts t ih =>
      have hdepth : depthFrom 0 (ts ++ [t]) = nest (depthFrom 0 ts) t := by simp
      rw [after_append, ih, after_cons, after_nil, hdepth, sinceAnd_concat]
      by_cases hzero : depthFrom 0 ts = 0
      · by_cases hand : t.isKeyword "AND" = true
        · rw [next_of_and hzero hand, nest_of_isKeyword hand, hzero, if_pos rfl, if_pos hand]
          rfl
        · rw [if_pos hzero, if_neg hand, List.any_append]
          by_cases hbetween : t.isKeyword "BETWEEN" = true
          · rw [next_of_between hzero hbetween, nest_of_isKeyword hbetween, hzero]
            simp [hbetween]
          · rw [Bool.not_eq_true] at hand hbetween
            rw [next_of_plain fun _ => ⟨hbetween, hand⟩]
            simp [hbetween]
      · rw [if_neg hzero, next_of_plain fun h => absurd h hzero]

theorem cutsClause_iff (read : List Token) (t : Token) : CutsClause read t ↔ Conjoins read t := by
  rw [CutsClause, Conjoins, ClauseMode.after_eq, ClauseMode.start, ClauseMode.mk.injEq,
    List.any_eq_false, and_right_comm, and_assoc]
  simp only [Bool.not_eq_true]

/-! ## Pieces and separators -/

/-- Pieces with separators between them. -/
def woven : List (List Token) → List Token → List Token
  | piece :: pieces, t :: ts => piece ++ t :: woven pieces ts
  | pieces, _ => pieces.flatten

/-- The token is a separator, and what stands before it are the pieces that precede it with the
separators between them. -/
def SeparatesAfter (pieces : List (List Token)) (separators before : List Token) (t : Token) :
    Prop :=
  ∃ n, separators[n]? = some t ∧ before = woven (pieces.take (n + 1)) (separators.take n)

theorem separatesAfter_cons {piece : List Token} {pieces : List (List Token)} {s : Token}
    {separators before : List Token} {t : Token} :
    SeparatesAfter (piece :: pieces) (s :: separators) before t ↔
      (before = piece ∧ t = s) ∨
        ∃ rest, before = piece ++ s :: rest ∧ SeparatesAfter pieces separators rest t := by
  constructor
  · rintro ⟨n, hn, rfl⟩
    cases n with
    | zero => exact Or.inl ⟨by simp [woven], by simpa using hn.symm⟩
    | succ n => exact Or.inr ⟨_, rfl, n, by simpa using hn, rfl⟩
  · rintro (⟨rfl, rfl⟩ | ⟨rest, rfl, n, hn, rfl⟩)
    · exact ⟨0, rfl, by simp [woven]⟩
    · exact ⟨n + 1, by simpa using hn, rfl⟩

/-- A list that stands after the tokens `read` consists of pieces and of separators between them,
and the separators are the tokens that cut it. -/
structure Weaves (cut : List Token → Token → Prop) (read tokens : List Token)
    (pieces : List (List Token)) (separators : List Token) : Prop where
  length : pieces.length = separators.length + 1
  eq : woven pieces separators = tokens
  cuts : ∀ before t after, tokens = before ++ t :: after →
    (cut (read ++ before) t ↔ SeparatesAfter pieces separators before t)

section

variable {cut : List Token → Token → Prop} {read item rest : List Token} {t : Token}

theorem Weaves.last (h : Uncut cut read item) : Weaves cut read item [item] [] where
  length := rfl
  eq := by simp [woven]
  cuts := by
    intro before u after hitem
    simpa [SeparatesAfter] using h before u after hitem

/-- A further piece in front. -/
theorem Weaves.more {pieces : List (List Token)} {separators : List Token}
    (hitem : Uncut cut read item) (ht : cut (read ++ item) t)
    (h : Weaves cut (read ++ item ++ [t]) rest pieces separators) :
    Weaves cut read (item ++ t :: rest) (item :: pieces) (t :: separators) where
  length := by simp [h.length]
  eq := by rw [woven, h.eq]
  cuts := by
    intro before u after hlist
    have hsides : item ++ [t] ++ rest = before ++ u :: after := by simpa using hlist
    rw [separatesAfter_cons]
    -- the token stands behind the separator, is the separator, or stands in the piece
    rcases sides_of_append hsides with ⟨middle, rfl, hrest⟩ | ⟨front, back, hfront, rfl, -⟩ |
      ⟨middle, rfl, -⟩
    · have hcut := h.cuts middle u after hrest
      simpa using hcut
    · obtain ⟨rfl, rfl⟩ : front = [] ∧ u = t := by
        cases front with
        | nil => exact ⟨rfl, by simpa using congrArg List.head? hfront.symm⟩
        | cons v front => simp at hfront
      simpa using ht
    · have huncut := hitem before u middle rfl
      simpa using huncut

end

/-- A clause is its conjuncts and the `AND`s between them. -/
theorem exists_weaves (tokens : List Token) :
    ∃ ands, Weaves CutsClause [] tokens (splitConjuncts tokens) ands ∧
      ∀ t ∈ ands, t.isKeyword "AND" = true := by
  refine splitConjuncts_induction
    (motive := fun read tokens pieces => ∃ ands, Weaves CutsClause read tokens pieces ands ∧
      ∀ t ∈ ands, t.isKeyword "AND" = true) ?_ ?_ tokens
  · intro read item hitem
    exact ⟨[], .last hitem, List.forall_mem_nil _⟩
  · rintro read item t rest pieces hitem ht ⟨ands, hrest, hands⟩
    exact ⟨t :: ands, hrest.more hitem ht, List.forall_mem_cons.mpr ⟨ht.2, hands⟩⟩

/-- The conjuncts of a clause have its parameters. -/
theorem filter_isPlaceholder_splitConjuncts (tokens : List Token) :
    (splitConjuncts tokens).flatten.filter isPlaceholder = tokens.filter isPlaceholder := by
  refine splitConjuncts_induction
    (motive := fun _ tokens pieces =>
      pieces.flatten.filter isPlaceholder = tokens.filter isPlaceholder) ?_ ?_ tokens
  · intro read item _
    simp
  · intro read item t rest pieces _ ht hrest
    have hcut : t.isPlaceholder = false := not_placeholder_of_isKeyword ht.2
    simp [hrest, hcut]

end Token

open Token

/-- A clause is conserved when it is cut into conjuncts and when the parentheses around a conjunct
are taken off. The conjuncts are the clause without some `AND`s, and with these between them they
are the clause again. An `AND` of the clause is one of these exactly if it stands outside
parentheses, and outside parentheses no `BETWEEN` stands between it and the `AND` before it, or the
start. The parentheses taken off are pairs around the whole list, each matched with the other, and
as many as there are. Neither step loses a parameter or adds one. -/
theorem conjuncts_conserve (tokens : List Token) :
    (∃ ands, (splitConjuncts tokens).length = ands.length + 1 ∧
      woven (splitConjuncts tokens) ands = tokens ∧
      (∀ t ∈ ands, t.isKeyword "AND" = true) ∧
      ∀ before t after, tokens = before ++ t :: after →
        (Conjoins before t ↔ SeparatesAfter (splitConjuncts tokens) ands before t)) ∧
    (∃ k, tokens = List.replicate k (mark .leftParen) ++ stripParens tokens ++
        List.replicate k (mark .rightParen) ∧
      Unwraps k tokens (stripParens tokens) ∧ ∀ n inner, Unwraps n tokens inner → n ≤ k) ∧
    (splitConjuncts tokens).flatten.filter isPlaceholder = tokens.filter isPlaceholder ∧
    (stripParens tokens).filter isPlaceholder = tokens.filter isPlaceholder := by
  obtain ⟨ands, hweaves, hands⟩ := exists_weaves tokens
  obtain ⟨k, hunwraps, hmost⟩ := exists_unwraps tokens
  refine ⟨⟨ands, hweaves.length, hweaves.eq, hands, fun before t after htokens => ?_⟩,
    ⟨k, hunwraps.eq, hunwraps, hmost⟩, filter_isPlaceholder_splitConjuncts tokens,
    filter_isPlaceholder_stripParens tokens⟩
  rw [← cutsClause_iff, ← hweaves.cuts before t after htokens, List.nil_append]

/-- An `AND` behind that of a `BETWEEN` and behind a closing parenthesis without a partner, and two
pairs of parentheses around what follows it. -/
theorem conjuncts_conserve_of_unmatched :
    let before := [.mark .rightParen, .word "a" none, .word "between" none, .number "1" false,
      .word "AND" none, .number "5" false]
    let t := .word "and" none
    let inner := [.word "b" none, .mark .equal, .placeholder ""]
    let after := [.mark .leftParen, .mark .leftParen] ++ inner ++
      [.mark .rightParen, .mark .rightParen]
    Conjoins before t ∧
      (∃ ands, SeparatesAfter (splitConjuncts (before ++ t :: after)) ands before t) ∧
      Unwraps 2 after inner ∧ ∃ k, 2 ≤ k ∧ Unwraps k after (stripParens after) := by
  intro before t inner after
  have hconjoins : Conjoins before t := by decide +kernel
  obtain ⟨⟨ands, -, -, -, hands⟩, -⟩ := conjuncts_conserve (before ++ t :: after)
  obtain ⟨-, ⟨k, -, hunwraps, hmost⟩, -⟩ := conjuncts_conserve after
  have hinner : unwrap? after = some ([.mark .leftParen] ++ inner ++ [.mark .rightParen]) := by
    decide
  have hinner' : unwrap? ([.mark .leftParen] ++ inner ++ [.mark .rightParen]) = some inner := by
    decide
  have htwo : Unwraps 2 after inner :=
    .more ((unwrap?_eq_some_iff _ _).mp hinner) (.more ((unwrap?_eq_some_iff _ _).mp hinner') .none)
  exact ⟨hconjoins, ⟨ands, (hands before t after rfl).mp hconjoins⟩, htwo, k, hmost 2 inner htwo,
    hunwraps⟩

end MiniSql
