import Mathlib.Data.List.TakeWhile
import MiniSql.Proofs.Pieces
import MiniSql.Proofs.Readings
import MiniSql.Statement.Parser

/-!
# Where a statement ends

A statement whose first semicolon stands outside parentheses ends there: the readers go up to
that semicolon and no further, so that the tokens before it are read as the same statement. The
tokens with the semicolon and the tokens without it are read side by side, and what is left of
the ones is always what is left of the others with the semicolon after it.

**Results.**
* `Followed.closeGroup`, `Followed.takeUntil`: cutting before the semicolon.
* `Followed.agrees_statement`: the reader of each kind of statement.
* `ofTokens_beforeSemicolon`: a statement is read from the tokens before its semicolon.
-/

namespace MiniSql

open Token (nest depthFrom)

namespace Parser

/-- The tokens are the body with its first semicolon and the tokens `after` behind it. The
parentheses of the body, and `depth` open ones before it, pair up. -/
inductive Followed (after : List Token) : Nat → List Token → List Token → Prop
  | stop : Followed after 0 (.mark .semicolon :: after) []
  | cons {depth : Nat} {t : Token} {ts us : List Token} :
      t ≠ .mark .semicolon → Followed after (nest depth t) ts us →
      Followed after depth (t :: ts) (t :: us)

namespace Followed

variable {after ts us : List Token} {depth : Nat}

theorem of_depthFrom {body : List Token} (hnone : .mark .semicolon ∉ body)
    (hdepth : depthFrom depth body = 0) :
    Followed after depth (body ++ .mark .semicolon :: after) body := by
  induction body generalizing depth with
  | nil =>
      obtain rfl : depth = 0 := hdepth
      exact .stop
  | cons t ts ih =>
      rw [List.mem_cons, not_or] at hnone
      exact .cons (Ne.symm hnone.1) (ih hnone.2 hdepth)

theorem not_mem (h : Followed after depth ts us) : .mark .semicolon ∉ us := by
  induction h with
  | stop => exact List.not_mem_nil
  | cons hne _ ih => exact List.not_mem_cons_of_ne_of_not_mem (Ne.symm hne) ih

/-! ## Looking at the next tokens -/

theorem any_head? (h : Followed after depth ts us) {p : Token → Bool}
    (hp : p (.mark .semicolon) = false) : ts.head?.any p = us.head?.any p := by
  cases h with
  | stop => exact hp
  | cons => rfl

theorem startsWith_eq (h : Followed after depth ts us) (keyword : String) :
    startsWith keyword ts = startsWith keyword us :=
  h.any_head? rfl

theorem startsWithAny_eq (h : Followed after depth ts us) (keywords : List String) :
    startsWithAny keywords ts = startsWithAny keywords us := by
  refine h.any_head? ?_
  rw [Token.isOneOf, List.any_eq_false]
  exact fun keyword _ => Bool.false_ne_true

theorem head?_eq_mark_iff (h : Followed after depth ts us) {m : Mark} (hm : m ≠ .semicolon) :
    ts.head? = some (.mark m) ↔ us.head? = some (.mark m) := by
  cases h with
  | stop => simpa using hm.symm
  | cons => exact Iff.rfl

theorem takeWhile_take (h : Followed after depth ts us) {p : Token → Bool}
    (hp : p (.mark .semicolon) = false) (n : Nat) :
    (ts.take n).takeWhile p = (us.take n).takeWhile p := by
  induction h generalizing n with
  | stop =>
      cases n with
      | zero => rfl
      | succ n => rw [List.take_succ_cons, List.takeWhile_cons_of_neg (by simp [hp])]; rfl
  | cons _ _ ih =>
      cases n with
      | zero => rfl
      | succ n => rw [List.take_succ_cons, List.take_succ_cons, List.takeWhile_cons,
          List.takeWhile_cons, ih]

/-- A keyword in front is passed over. -/
theorem tail_of_startsWithAny (h : Followed after 0 ts us) {keywords : List String}
    (hkeyword : startsWithAny keywords us = true) : Followed after 0 ts.tail us.tail := by
  cases h with
  | stop => cases hkeyword
  | @cons _ t ts us _ hrest =>
      obtain ⟨keyword, -, ht⟩ := List.any_eq_true.mp hkeyword
      rwa [Token.nest_of_isKeyword ht] at hrest

theorem tail_of_startsWith (h : Followed after 0 ts us) {keyword : String}
    (hkeyword : startsWith keyword us = true) : Followed after 0 ts.tail us.tail := by
  refine tail_of_startsWithAny h (?_ : startsWithAny [keyword] us = true)
  simpa [startsWithAny, startsWith, Token.isOneOf] using hkeyword

/-! ## Cutting before the semicolon -/

theorem closeGroup (h : Followed after (depth + 1) ts us) :
    ∃ inner rest rest', Token.closeGroup depth ts = some (inner, rest) ∧
      Token.closeGroup depth us = some (inner, rest') ∧ Followed after 0 rest rest' := by
  induction us generalizing depth ts with
  | nil => cases h
  | cons t us ih =>
      cases h with
      | @cons _ _ ts _ _ hrest =>
          rw [Token.closeGroup, Token.closeGroup]
          by_cases hclose : t = .mark .rightParen ∧ depth = 0
          · obtain ⟨rfl, rfl⟩ := hclose
            exact ⟨[], ts, us, rfl, rfl, hrest⟩
          · rw [Token.nest_add hclose] at hrest
            obtain ⟨inner, rest, rest', hts, hus, hafter⟩ := ih hrest
            rw [if_neg hclose, if_neg hclose, hts, hus]
            exact ⟨t :: inner, rest, rest', rfl, rfl, hafter⟩

theorem takeUntil (h : Followed after depth ts us) (stop : Token → Bool) :
    (Token.takeUntil stop depth ts).1 = (Token.takeUntil stop depth us).1 ∧
      Followed after 0 (Token.takeUntil stop depth ts).2 (Token.takeUntil stop depth us).2 := by
  induction h with
  | stop => exact ⟨rfl, .stop⟩
  | @cons depth t ts us hne hrest ih =>
      rw [Token.takeUntil, Token.takeUntil]
      split
      · next hstop =>
          rw [Bool.and_eq_true, decide_eq_true_eq] at hstop
          obtain ⟨rfl, -⟩ := hstop
          exact ⟨rfl, .cons hne hrest⟩
      · exact ⟨congrArg (t :: ·) ih.1, ih.2⟩

theorem beforeSemicolon_eq (h : Followed after depth ts us) :
    beforeSemicolon ts = beforeSemicolon us := by
  induction h with
  | stop => rfl
  | cons hne _ ih => simpa [beforeSemicolon, hne] using ih

theorem fromSemicolon (h : Followed after depth ts us) :
    Followed after 0 (fromSemicolon ts) (fromSemicolon us) := by
  induction h with
  | stop => exact .stop
  | cons hne _ ih => simpa [Parser.fromSemicolon, hne] using ih

/-! ## The readers -/

theorem agrees_expect (h : Followed after 0 ts us) (keyword : String) :
    Agrees (Followed after 0) (expect keyword ts) (expect keyword us) := by
  cases h with
  | stop => exact .error (.malformed _ _)
  | cons _ hrest =>
      rw [expect, expect]
      split
      · next hkeyword =>
          rw [Token.nest_of_isKeyword hkeyword] at hrest
          exact .ok hrest
      · exact .error (.malformed _ _)

theorem agrees_identifier (h : Followed after 0 ts us) :
    Agrees (Both Eq (Followed after 0)) (identifier ts) (identifier us) := by
  cases h with
  | stop => exact .error (.invalidIdentifier _ _)
  | @cons _ t ts us _ hrest =>
      simp only [identifier, List.head?_cons, Option.bind_some, List.tail_cons]
      cases hname : t.identifier? with
      | none => exact .error (.invalidIdentifier _ _)
      | some name =>
          obtain ⟨quote, rfl⟩ := isWord_of_identifier? hname
          exact .ok ⟨rfl, hrest⟩

theorem agrees_relationName (h : Followed after 0 ts us) :
    Agrees (Both Eq (Followed after 0)) (relationName ts) (relationName us) := by
  refine h.agrees_identifier.bind ?_
  rintro ⟨name, ts⟩ ⟨_, us⟩ ⟨rfl, h⟩
  cases h with
  | stop => exact .ok ⟨rfl, .stop⟩
  | @cons _ t ts us hne hrest =>
      by_cases hpoint : t = .mark .period
      · subst hpoint
        exact agrees_identifier hrest
      · have hboth : Both Eq (Followed after 0) (name, t :: ts) (name, t :: us) :=
          ⟨rfl, .cons hne hrest⟩
        simpa [hpoint] using Agrees.ok hboth

theorem agrees_group (h : Followed after 0 ts us) :
    Agrees (Both Eq (Followed after 0)) (group ts) (group us) := by
  cases h with
  | stop => exact .error (.malformed _ _)
  | @cons _ t ts us _ hrest =>
      by_cases hopen : t = .mark .leftParen
      · subst hopen
        obtain ⟨inner, rest, rest', hts, hus, hafter⟩ := closeGroup hrest
        simp only [group, hts, hus]
        exact .ok ⟨rfl, hafter⟩
      · have hnone : ∀ ts : List Token,
            group (t :: ts) = .error (.malformed (.expected "'('" (some t))) := by
          intro ts
          simp [group, hopen]
        rw [hnone, hnone]
        exact .error (.refl _)

theorem agrees_optionalGroup (h : Followed after 0 ts us) :
    Agrees (Both Eq (Followed after 0)) (optionalGroup ts) (optionalGroup us) := by
  simp only [optionalGroup, h.head?_eq_mark_iff (m := .leftParen) (by decide)]
  split
  · exact h.agrees_group.map fun _ _ hgroup => ⟨congrArg some hgroup.1, hgroup.2⟩
  · exact .ok ⟨rfl, h⟩

theorem agrees_predicate (h : Followed after 0 ts us) (slot : Nat) :
    Agrees (Both Eq (Followed after 0)) (Predicate.read slot ts) (Predicate.read slot us) := by
  cases h with
  | stop => exact .ok ⟨rfl, .stop⟩
  | cons hne hrest =>
      rw [Predicate.read, Predicate.read]
      split
      · next hwhere =>
          rw [Token.nest_of_isKeyword hwhere] at hrest
          obtain ⟨hclause, hafter⟩ := hrest.takeUntil (Token.isOneOf clauseEnds)
          simp only [hclause]
          split
          · exact .error (.malformed _ _)
          · exact .ok ⟨rfl, hafter⟩
      · exact .ok ⟨rfl, .cons hne hrest⟩

theorem agrees_skipAlias (h : Followed after 0 ts us) :
    Agrees (Followed after 0) (skipAlias ts) (skipAlias us) := by
  have hword : (ts.head?.bind Token.identifier?).isSome =
      (us.head?.bind Token.identifier?).isSome := by
    cases h with
    | stop => rfl
    | cons => rfl
  rw [skipAlias, skipAlias, h.startsWith_eq, hword, h.startsWithAny_eq]
  split
  · next has => exact (h.tail_of_startsWith has).agrees_identifier.map fun _ _ hname => hname.2
  · split
    · next hname =>
        rw [Bool.and_eq_true] at hname
        cases h with
        | stop => cases hname.1
        | cons _ hrest =>
            obtain ⟨name, hname⟩ := Option.isSome_iff_exists.mp hname.1
            obtain ⟨quote, rfl⟩ := isWord_of_identifier? hname
            exact .ok hrest
    · exact .ok h

/-! ## Statements -/

theorem agrees_createTable (h : Followed after 0 ts us) :
    Agrees (Both Eq (Followed after 0)) (createTable ts) (createTable us) := by
  refine (h.agrees_expect "CREATE").bind fun ts us h => ?_
  have htemporary : Followed after 0
      (if startsWithAny ["TEMP", "TEMPORARY"] ts then ts.tail else ts)
      (if startsWithAny ["TEMP", "TEMPORARY"] us then us.tail else us) := by
    rw [h.startsWithAny_eq]
    split
    · next hword => exact h.tail_of_startsWithAny hword
    · exact h
  refine (htemporary.agrees_expect "TABLE").bind fun ts us h => ?_
  have hexists : startsWith "IF" us = true → Agrees (Followed after 0)
      (expect "NOT" ts.tail >>= expect "EXISTS") (expect "NOT" us.tail >>= expect "EXISTS") :=
    fun hif => ((h.tail_of_startsWith hif).agrees_expect "NOT").bind fun _ _ h =>
      h.agrees_expect "EXISTS"
  simp only [h.startsWith_eq "IF"]
  refine Agrees.branch_of Iff.rfl hexists (.ok h) fun ts us h => ?_
  refine h.agrees_relationName.bind ?_
  rintro ⟨relation, ts⟩ ⟨_, us⟩ ⟨rfl, h⟩
  refine Agrees.guard (by rw [h.startsWith_eq]) (.refl _) ?_
  refine h.agrees_optionalGroup.bind ?_
  rintro ⟨body, ts⟩ ⟨_, us⟩ ⟨rfl, h⟩
  refine (Agrees.refl (R := Eq) (fun _ => rfl) _).bind fun columns _ hcolumns => ?_
  exact .ok ⟨by rw [hcolumns], h.fromSemicolon⟩

theorem agrees_insert (h : Followed after 0 ts us) :
    Agrees (Both Eq (Followed after 0)) (insert ts) (insert us) := by
  refine (h.agrees_expect "INSERT").bind fun ts us h => ?_
  refine Agrees.guard (by rw [h.startsWith_eq]) (.refl _) ?_
  refine (h.agrees_expect "INTO").bind fun ts us h => ?_
  refine h.agrees_relationName.bind ?_
  rintro ⟨relation, ts⟩ ⟨_, us⟩ ⟨rfl, h⟩
  refine h.agrees_optionalGroup.bind ?_
  rintro ⟨list, ts⟩ ⟨_, us⟩ ⟨rfl, h⟩
  refine (Agrees.refl (R := Eq) (fun _ => rfl) _).bind fun columns _ hcolumns => ?_
  subst hcolumns
  refine Agrees.guard (by rw [h.startsWithAny_eq]) (.refl _) ?_
  refine (h.agrees_expect "VALUES").bind fun ts us h => ?_
  refine h.agrees_group.bind ?_
  rintro ⟨list, ts⟩ ⟨_, us⟩ ⟨rfl, h⟩
  refine (Agrees.refl (R := Eq) (fun _ => rfl) _).bind ?_
  rintro ⟨values, slot⟩ _ rfl
  refine Agrees.guard (h.head?_eq_mark_iff (by decide)) (.refl _) ?_
  exact Agrees.guard Iff.rfl (.refl _) (.ok ⟨rfl, h⟩)

theorem agrees_update (h : Followed after 0 ts us) :
    Agrees (Both Eq (Followed after 0)) (update ts) (update us) := by
  refine (h.agrees_expect "UPDATE").bind fun ts us h => ?_
  refine Agrees.guard (by rw [h.startsWith_eq]) (.refl _) ?_
  refine h.agrees_relationName.bind ?_
  rintro ⟨relation, ts⟩ ⟨_, us⟩ ⟨rfl, h⟩
  refine (h.agrees_expect "SET").bind fun ts us h => ?_
  obtain ⟨hlist, hafter⟩ := h.takeUntil (·.isKeyword "WHERE")
  simp only [hlist]
  refine (Agrees.refl (R := Eq) (fun _ => rfl) _).bind ?_
  rintro ⟨changes, slot⟩ _ rfl
  refine Agrees.guard Iff.rfl (.refl _) ?_
  refine (hafter.agrees_predicate slot).bind ?_
  rintro ⟨predicate, ts⟩ ⟨_, us⟩ ⟨rfl, h⟩
  exact .ok ⟨rfl, h⟩

theorem agrees_delete (h : Followed after 0 ts us) :
    Agrees (Both Eq (Followed after 0)) (delete ts) (delete us) := by
  refine (h.agrees_expect "DELETE").bind fun ts us h => ?_
  refine (h.agrees_expect "FROM").bind fun ts us h => ?_
  refine h.agrees_relationName.bind ?_
  rintro ⟨relation, ts⟩ ⟨_, us⟩ ⟨rfl, h⟩
  refine (h.agrees_predicate 0).bind ?_
  rintro ⟨predicate, ts⟩ ⟨_, us⟩ ⟨rfl, h⟩
  exact .ok ⟨rfl, h⟩

theorem agrees_select (h : Followed after 0 ts us) :
    Agrees (Both Eq (Followed after 0)) (select ts) (select us) := by
  refine (h.agrees_expect "SELECT").bind fun ts us h => ?_
  obtain ⟨hlist, hafter⟩ := h.takeUntil (·.isKeyword "FROM")
  refine Agrees.guard_of_not (by rw [hafter.startsWith_eq]) (.refl _) fun hfrom => ?_
  rw [Bool.not_eq_true', Bool.not_eq_false] at hfrom
  refine (hafter.tail_of_startsWith hfrom).agrees_relationName.bind ?_
  rintro ⟨relation, ts⟩ ⟨_, us⟩ ⟨rfl, h⟩
  refine h.agrees_skipAlias.bind fun ts us h => ?_
  refine Agrees.guard ?_ (.refl _) ?_
  · rw [Bool.or_eq_true, Bool.or_eq_true, decide_eq_true_eq, decide_eq_true_eq,
      h.head?_eq_mark_iff (by decide), h.startsWithAny_eq]
  rw [hlist]
  refine (h.agrees_predicate _).bind ?_
  rintro ⟨predicate, ts⟩ ⟨_, us⟩ ⟨rfl, h⟩
  refine Agrees.guard (by rw [h.startsWithAny_eq]) (.refl _) ?_
  refine .ok ⟨rfl, ?_⟩
  rw [h.startsWithAny_eq]
  split
  · exact h.fromSemicolon
  · exact h

theorem agrees_rollback (h : Followed after 0 ts us) :
    Agrees (Followed after 0) (rollback ts) (rollback us) := by
  refine (h.agrees_expect "ROLLBACK").bind fun ts us h => ?_
  refine Agrees.guard (by rw [h.startsWith_eq]) (.refl _) ?_
  exact .ok h.fromSemicolon

/-- The reader of each kind of statement goes as far before the semicolon as without it. -/
theorem agrees_statement (h : Followed after 0 ts us) (kind : StatementKind) :
    Agrees (Both Eq (Followed after 0)) (statement kind ts) (statement kind us) := by
  cases kind with
  | createTable =>
      exact h.agrees_createTable.map fun _ _ hread =>
        ⟨congrArg Statement.createTable hread.1, hread.2⟩
  | insert =>
      exact h.agrees_insert.map fun _ _ hread => ⟨congrArg Statement.insert hread.1, hread.2⟩
  | update =>
      exact h.agrees_update.map fun _ _ hread => ⟨congrArg Statement.update hread.1, hread.2⟩
  | delete =>
      exact h.agrees_delete.map fun _ _ hread => ⟨congrArg Statement.delete hread.1, hread.2⟩
  | select =>
      exact h.agrees_select.map fun _ _ hread => ⟨congrArg Statement.select hread.1, hread.2⟩
  | begin => exact .ok ⟨rfl, h.fromSemicolon⟩
  | commit => exact .ok ⟨rfl, h.fromSemicolon⟩
  | rollback => exact h.agrees_rollback.map fun _ _ hrest => ⟨rfl, hrest⟩
  | pragma =>
      refine (h.agrees_expect "PRAGMA").bind fun ts us h => ?_
      exact .ok ⟨by rw [h.beforeSemicolon_eq], h.fromSemicolon⟩
  | unknown => exact .error (.unsupported _ _)

/-- The kind is announced before the semicolon. -/
theorem ofTokens_eq (h : Followed after depth ts us) :
    StatementKind.ofTokens ts = StatementKind.ofTokens us := by
  cases h with
  | stop => rfl
  | cons _ hrest =>
      have hwords := hrest.takeWhile_take
        (p := Token.isOneOf ["TEMP", "TEMPORARY", "TABLE"]) (by decide) 3
      have hsecond := hrest.any_head? (p := (·.isKeyword "TRANSACTION")) rfl
      rw [StatementKind.ofTokens, StatementKind.ofTokens, hwords, hsecond]

end Followed

end Parser

namespace Statement

/-- A statement leaves nothing but semicolons. -/
theorem exists_of_ofTokens {tokens : List Token} {s : Statement} (h : ofTokens tokens = .ok s) :
    ∃ rest, Parser.statement (.ofTokens tokens) tokens = .ok (s, rest) ∧
      ∀ t ∈ rest, t = .mark .semicolon := by
  rw [ofTokens] at h
  split at h
  · cases h
  · obtain ⟨⟨s', rest⟩, hstatement, h⟩ := exists_of_bind_ok h
    obtain ⟨u, hfinish, h⟩ := exists_of_bind_ok h
    cases h
    refine ⟨rest, hstatement, ?_⟩
    unfold Parser.finish at hfinish
    split at hfinish
    · next hrest => simpa using hrest
    · cases hfinish

/-- A statement with a semicolon outside parentheses behind it is the same without it, and only
semicolons follow. -/
theorem ofTokens_of_followed {after ts us : List Token} {s : Statement}
    (hfollowed : Parser.Followed after 0 ts us) (h : ofTokens ts = .ok s) :
    ofTokens us = .ok s ∧ ∀ t ∈ after, t = .mark .semicolon := by
  obtain ⟨rest, hstatement, hrest⟩ := exists_of_ofTokens h
  have hagrees := hfollowed.agrees_statement (.ofTokens ts)
  rw [hstatement] at hagrees
  generalize hread : Parser.statement (.ofTokens ts) us = read at hagrees
  cases hagrees with
  | @ok _ p hboth =>
      obtain ⟨s', rest'⟩ := p
      obtain ⟨rfl, hleft⟩ := hboth
      -- What is left of the body is a part of what is left, but no semicolon.
      cases hleft with
      | stop =>
          have hafter := fun t ht => hrest t (List.mem_cons_of_mem _ ht)
          cases us with
          | nil =>
              rw [hfollowed.ofTokens_eq] at hread
              cases hread
          | cons t us =>
              have ht : t ≠ .mark .semicolon := fun heq =>
                hfollowed.not_mem (heq ▸ List.mem_cons_self)
              rw [ofTokens, if_neg (by simp [ht]), ← hfollowed.ofTokens_eq, hread]
              exact ⟨rfl, hafter⟩
      | cons hne => exact absurd (hrest _ List.mem_cons_self) hne

/-- A statement whose first semicolon stands outside parentheses is read from the tokens before
it, and only semicolons follow. -/
theorem ofTokens_beforeSemicolon {tokens : List Token} {s : Statement}
    (h : ofTokens tokens = .ok s)
    (houtside : Token.mark .semicolon ∈ tokens →
      depthFrom 0 (Parser.beforeSemicolon tokens) = 0) :
    ofTokens (Parser.beforeSemicolon tokens) = .ok s ∧
      ∀ t ∈ Parser.fromSemicolon tokens, t = .mark .semicolon := by
  by_cases hmem : .mark .semicolon ∈ tokens
  · obtain ⟨body, after, rfl, hnone⟩ := List.eq_append_cons_of_mem hmem
    have hbody : ∀ t ∈ body, decide (t ≠ .mark .semicolon) = true := fun t ht =>
      decide_eq_true fun heq => hnone (heq ▸ ht)
    have hbefore : Parser.beforeSemicolon (body ++ .mark .semicolon :: after) = body := by
      rw [Parser.beforeSemicolon, List.takeWhile_append_of_pos hbody,
        List.takeWhile_cons_of_neg (by simp), List.append_nil]
    have hfrom : Parser.fromSemicolon (body ++ .mark .semicolon :: after) =
        .mark .semicolon :: after := by
      rw [Parser.fromSemicolon, List.dropWhile_append_of_pos hbody,
        List.dropWhile_cons_of_neg (by simp)]
    rw [hbefore] at houtside ⊢
    rw [hfrom]
    obtain ⟨hread, hafter⟩ := ofTokens_of_followed (.of_depthFrom hnone (houtside hmem)) h
    exact ⟨hread, by simpa using hafter⟩
  · have htokens : ∀ t ∈ tokens, decide (t ≠ .mark .semicolon) = true := fun t ht =>
      decide_eq_true fun heq => hmem (heq ▸ ht)
    have hbefore : Parser.beforeSemicolon tokens = tokens := List.takeWhile_eq_self_iff.mpr htokens
    have hfrom : Parser.fromSemicolon tokens = [] := List.dropWhile_eq_nil_iff.mpr htokens
    rw [hbefore, hfrom]
    exact ⟨h, by simp⟩

end Statement

end MiniSql
