import MiniSql.Proofs.Readings
import MiniSql.Statement.Parser

/-!
# Statements of tokens that are alike

Tokens that are alike have the same kind, and are read as statements that are alike or rejected
with errors of one variant: what is quoted is never taken for a part of the statement.

**Results.**
* `Parser.agrees_statement`: the reader of each kind of statement.
* `Statement.ofTokens_alike`: kinds and statements.
-/

namespace MiniSql

open List (Forall₂)

structure Assignment.Alike (a b : Assignment) : Prop where
  column : SameName a.column b.column
  value : a.value.Alike b.value

/-- The statements are of one kind, and their parts are alike. -/
inductive Statement.Alike : Statement → Statement → Prop
  | createTable {a b : CreateTable} :
      SameName a.relation b.relation → a.ifNotExists = b.ifNotExists →
      Forall₂ Column.Alike a.columns b.columns → Alike (.createTable a) (.createTable b)
  | insert {a b : Insert} :
      SameName a.relation b.relation → Forall₂ SameName a.columns b.columns →
      Forall₂ Operand.Alike a.values b.values → Alike (.insert a) (.insert b)
  | update {a b : Update} :
      SameName a.relation b.relation → Forall₂ Assignment.Alike a.assignments b.assignments →
      Option.Rel Predicate.Alike a.predicate b.predicate → Alike (.update a) (.update b)
  | delete {a b : Delete} :
      SameName a.relation b.relation → Option.Rel Predicate.Alike a.predicate b.predicate →
      Alike (.delete a) (.delete b)
  | select {a b : Select} :
      SameName a.relation b.relation → a.projection.Alike b.projection →
      Option.Rel Predicate.Alike a.predicate b.predicate → Alike (.select a) (.select b)
  | begin : Alike .begin .begin
  | commit : Alike .commit .commit
  | rollback : Alike .rollback .rollback
  | pragma (a b : String) : Alike (.pragma a) (.pragma b)

/-! ## Readers -/

namespace Parser

variable {ts us : List Token}

theorem startsWith_eq (h : Forall₂ Token.Alike ts us) (keyword : String) :
    startsWith keyword ts = startsWith keyword us :=
  any_of_rel (fun _ _ htu => htu.isKeyword_eq keyword) (rel_head? h)

theorem startsWithAny_eq (h : Forall₂ Token.Alike ts us) (keywords : List String) :
    startsWithAny keywords ts = startsWithAny keywords us :=
  any_of_rel (fun _ _ htu => htu.isOneOf_eq keywords) (rel_head? h)

theorem agrees_expect (h : Forall₂ Token.Alike ts us) (keyword : String) :
    Agrees (Forall₂ Token.Alike) (expect keyword ts) (expect keyword us) := by
  cases h with
  | nil => exact .error (.refl _)
  | cons htu hrest =>
      rw [expect, expect, htu.isKeyword_eq]
      split
      · exact .ok hrest
      · exact .error (.malformed _ _)

theorem agrees_identifier (h : Forall₂ Token.Alike ts us) :
    Agrees (Both SameName (Forall₂ Token.Alike)) (identifier ts) (identifier us) := by
  cases h with
  | nil => exact .error (.refl _)
  | @cons t u ts us htu hrest =>
      have hname := htu.rel_identifier?
      simp only [identifier, List.head?_cons, Option.bind_some, List.tail_cons]
      generalize t.identifier? = x at hname ⊢
      generalize u.identifier? = y at hname ⊢
      cases hname with
      | none => exact .error (.invalidIdentifier _ _)
      | some hname => exact .ok ⟨hname, hrest⟩

theorem agrees_relationName (h : Forall₂ Token.Alike ts us) :
    Agrees (Both SameName (Forall₂ Token.Alike)) (relationName ts) (relationName us) := by
  refine (agrees_identifier h).bind ?_
  rintro ⟨name, rest⟩ ⟨name', rest'⟩ ⟨hname, hrest⟩
  cases hrest with
  | nil => exact .ok ⟨hname, .nil⟩
  | @cons t u ts us htu hrest =>
      by_cases hpoint : t = .mark .period
      · obtain rfl := (htu.eq_mark_iff _).mp hpoint
        subst hpoint
        exact agrees_identifier hrest
      · have hpoint' := (htu.eq_mark_iff _).not.mp hpoint
        have hboth : Both SameName (Forall₂ Token.Alike) (name, t :: ts) (name', u :: us) :=
          ⟨hname, .cons htu hrest⟩
        simpa [hpoint, hpoint'] using Agrees.ok hboth

theorem agrees_group (h : Forall₂ Token.Alike ts us) :
    Agrees (Both (Forall₂ Token.Alike) (Forall₂ Token.Alike)) (group ts) (group us) := by
  cases h with
  | nil => exact .error (.refl _)
  | @cons t u ts us htu hrest =>
      by_cases hopen : t = .mark .leftParen
      · obtain rfl := (htu.eq_mark_iff _).mp hopen
        subst hopen
        have hgroup := Token.rel_closeGroup 0 hrest
        simp only [group]
        generalize Token.closeGroup 0 ts = x at hgroup ⊢
        generalize Token.closeGroup 0 us = y at hgroup ⊢
        cases hgroup with
        | none => exact .error (.refl _)
        | some hgroup => exact .ok hgroup
      · have hnone : ∀ {t : Token} {ts : List Token}, t ≠ .mark .leftParen →
            group (t :: ts) = .error (.malformed (.expected "'('" (some t))) := by
          intro t ts ht
          simp [group, ht]
        rw [hnone hopen, hnone ((htu.eq_mark_iff _).not.mp hopen)]
        exact .error (.malformed _ _)

theorem agrees_optionalGroup (h : Forall₂ Token.Alike ts us) :
    Agrees (Both (Option.Rel (Forall₂ Token.Alike)) (Forall₂ Token.Alike)) (optionalGroup ts)
      (optionalGroup us) := by
  simp only [optionalGroup, Token.head?_eq_mark_iff h]
  split
  · exact (agrees_group h).map fun _ _ hgroup => ⟨.some hgroup.1, hgroup.2⟩
  · exact .ok ⟨.none, h⟩

theorem forall₂_fromSemicolon (h : Forall₂ Token.Alike ts us) :
    Forall₂ Token.Alike (fromSemicolon ts) (fromSemicolon us) := by
  apply forall₂_dropWhile _ h
  intro t u htu
  simp only [ne_eq, htu.eq_mark_iff]

theorem agrees_finish (h : Forall₂ Token.Alike ts us) :
    Agrees Eq (finish ts) (finish us) := by
  have hrest := forall₂_dropWhile (p := fun t => decide (t = .mark .semicolon))
    (fun t u htu => by simp only [htu.eq_mark_iff]) h
  rw [finish, finish]
  generalize ts.dropWhile _ = xs at hrest ⊢
  generalize us.dropWhile _ = ys at hrest ⊢
  cases hrest with
  | nil => exact .ok rfl
  | cons => exact .error (.malformed _ _)

/-- The tokens of an optional group are none if there is no group. -/
theorem forall₂_getD {x y : Option (List Token)} (h : Option.Rel (Forall₂ Token.Alike) x y) :
    Forall₂ Token.Alike (x.getD []) (y.getD []) := by
  cases h with
  | some h => exact h
  | none => exact .nil

theorem agrees_createTable (h : Forall₂ Token.Alike ts us) :
    Agrees (Both (fun a b => (Statement.createTable a).Alike (.createTable b))
      (Forall₂ Token.Alike)) (createTable ts) (createTable us) := by
  refine (agrees_expect h "CREATE").bind fun ts us h => ?_
  have htemporary : Forall₂ Token.Alike
      (if startsWithAny ["TEMP", "TEMPORARY"] ts then ts.tail else ts)
      (if startsWithAny ["TEMP", "TEMPORARY"] us then us.tail else us) := by
    rw [startsWithAny_eq h]
    split
    · exact forall₂_tail h
    · exact h
  refine (agrees_expect htemporary "TABLE").bind fun ts us h => ?_
  have hflag := startsWith_eq h "IF"
  have hnot := (agrees_expect (forall₂_tail h) "NOT").bind fun _ _ h => agrees_expect h "EXISTS"
  refine Agrees.branch (by rw [hflag]) hnot (.ok h) fun ts us h => ?_
  refine (agrees_relationName h).bind ?_
  rintro ⟨relation, ts⟩ ⟨relation', us⟩ ⟨hrelation, h⟩
  refine Agrees.guard (by rw [startsWith_eq h]) (.refl _) ?_
  refine (agrees_optionalGroup h).bind ?_
  rintro ⟨body, ts⟩ ⟨body', us⟩ ⟨hbody, h⟩
  have hpieces := Token.forall₂_splitAtCommas (forall₂_getD hbody)
  refine (Column.agrees_readAll hpieces .nil).bind fun columns columns' hcolumns => ?_
  exact .ok ⟨.createTable hrelation hflag hcolumns, forall₂_fromSemicolon h⟩

theorem agrees_insert (h : Forall₂ Token.Alike ts us) :
    Agrees (Both (fun a b => (Statement.insert a).Alike (.insert b)) (Forall₂ Token.Alike))
      (insert ts) (insert us) := by
  refine (agrees_expect h "INSERT").bind fun ts us h => ?_
  refine Agrees.guard (by rw [startsWith_eq h]) (.refl _) ?_
  refine (agrees_expect h "INTO").bind fun ts us h => ?_
  refine (agrees_relationName h).bind ?_
  rintro ⟨relation, ts⟩ ⟨relation', us⟩ ⟨hrelation, h⟩
  refine (agrees_optionalGroup h).bind ?_
  rintro ⟨list, ts⟩ ⟨list', us⟩ ⟨hlist, h⟩
  have hpieces := Token.forall₂_splitAtCommas (forall₂_getD hlist)
  refine (agrees_columnNames hpieces).bind fun columns columns' hcolumns => ?_
  refine Agrees.guard (by rw [startsWithAny_eq h]) (.refl _) ?_
  refine (agrees_expect h "VALUES").bind fun ts us h => ?_
  refine (agrees_group h).bind ?_
  rintro ⟨list, ts⟩ ⟨list', us⟩ ⟨hlist, h⟩
  refine (Operand.agrees_readAll 0 (Token.forall₂_splitAtCommas hlist)).bind ?_
  rintro ⟨values, slot⟩ ⟨values', slot'⟩ ⟨hvalues, -⟩
  refine Agrees.guard (Token.head?_eq_mark_iff h _) (.refl _) ?_
  refine Agrees.guard ?_ (.malformed _ _) ?_
  · rw [ne_eq, eq_nil_iff_of_forall₂ hcolumns, hcolumns.length_eq, hvalues.length_eq]
  · exact .ok ⟨.insert hrelation hcolumns hvalues, h⟩

theorem agrees_assignment (slot : Nat) (h : Forall₂ Token.Alike ts us) :
    Agrees (Both Assignment.Alike Eq) (assignment slot ts) (assignment slot us) := by
  have hdifferent : ∀ t u : Token, t.Alike u → (!t.isEquality) = !u.isEquality := by
    intro t u htu
    rw [htu.isEquality_eq]
  have hcolumn := forall₂_takeWhile hdifferent h
  have hdrop := forall₂_dropWhile hdifferent h
  rw [assignment, assignment]
  generalize ts.dropWhile _ = xs at hdrop ⊢
  generalize us.dropWhile _ = ys at hdrop ⊢
  cases hdrop with
  | nil => exact .error (.malformed _ _)
  | cons _ hvalue =>
      refine (agrees_columnName hcolumn).bind fun column column' hcolumn => ?_
      refine (Operand.agrees_read slot hvalue).bind ?_
      rintro ⟨operand, slot⟩ ⟨operand', _⟩ ⟨hoperand, rfl⟩
      exact .ok ⟨⟨hcolumn, hoperand⟩, rfl⟩

theorem agrees_assignments (slot : Nat) {pieces pieces' : List (List Token)}
    (h : Forall₂ (Forall₂ Token.Alike) pieces pieces') :
    Agrees (Both (Forall₂ Assignment.Alike) Eq) (assignments slot pieces)
      (assignments slot pieces') := by
  induction h generalizing slot with
  | nil => exact .ok ⟨.nil, rfl⟩
  | cons hpiece _ ih => exact (agrees_assignment slot hpiece).cons ih

theorem agrees_update (h : Forall₂ Token.Alike ts us) :
    Agrees (Both (fun a b => (Statement.update a).Alike (.update b)) (Forall₂ Token.Alike))
      (update ts) (update us) := by
  refine (agrees_expect h "UPDATE").bind fun ts us h => ?_
  refine Agrees.guard (by rw [startsWith_eq h]) (.refl _) ?_
  refine (agrees_relationName h).bind ?_
  rintro ⟨relation, ts⟩ ⟨relation', us⟩ ⟨hrelation, h⟩
  refine (agrees_expect h "SET").bind fun ts us h => ?_
  obtain ⟨hlist, hafter⟩ := Token.forall₂_takeUntil (·.isKeyword "WHERE")
    (fun _ _ htu => htu.isKeyword_eq "WHERE") 0 h
  refine (agrees_assignments 0 (Token.forall₂_splitAtCommas hlist)).bind ?_
  rintro ⟨changes, slot⟩ ⟨changes', _⟩ ⟨hchanges, rfl⟩
  refine Agrees.guard (eq_nil_iff_of_forall₂ hchanges) (.refl _) ?_
  refine (Predicate.agrees_read slot hafter).bind ?_
  rintro ⟨predicate, ts⟩ ⟨predicate', us⟩ ⟨hpredicate, h⟩
  exact .ok ⟨.update hrelation hchanges hpredicate, h⟩

theorem agrees_delete (h : Forall₂ Token.Alike ts us) :
    Agrees (Both (fun a b => (Statement.delete a).Alike (.delete b)) (Forall₂ Token.Alike))
      (delete ts) (delete us) := by
  refine (agrees_expect h "DELETE").bind fun ts us h => ?_
  refine (agrees_expect h "FROM").bind fun ts us h => ?_
  refine (agrees_relationName h).bind ?_
  rintro ⟨relation, ts⟩ ⟨relation', us⟩ ⟨hrelation, h⟩
  refine (Predicate.agrees_read 0 h).bind ?_
  rintro ⟨predicate, ts⟩ ⟨predicate', us⟩ ⟨hpredicate, h⟩
  exact .ok ⟨.delete hrelation hpredicate, h⟩

theorem agrees_skipAlias (h : Forall₂ Token.Alike ts us) :
    Agrees (Forall₂ Token.Alike) (skipAlias ts) (skipAlias us) := by
  have hword : (ts.head?.bind Token.identifier?).isSome = (us.head?.bind Token.identifier?).isSome := by
    cases h with
    | nil => rfl
    | cons htu _ => exact isSome_of_rel htu.rel_identifier?
  rw [skipAlias, skipAlias, startsWith_eq h, hword, startsWithAny_eq h]
  split
  · exact (agrees_identifier (forall₂_tail h)).map fun _ _ hname => hname.2
  · split
    · exact .ok (forall₂_tail h)
    · exact .ok h

theorem agrees_select (h : Forall₂ Token.Alike ts us) :
    Agrees (Both (fun a b => (Statement.select a).Alike (.select b)) (Forall₂ Token.Alike))
      (select ts) (select us) := by
  refine (agrees_expect h "SELECT").bind fun ts us h => ?_
  obtain ⟨hlist, hafter⟩ := Token.forall₂_takeUntil (·.isKeyword "FROM")
    (fun _ _ htu => htu.isKeyword_eq "FROM") 0 h
  refine Agrees.guard (by rw [startsWith_eq hafter]) (.refl _) ?_
  refine (agrees_relationName (forall₂_tail hafter)).bind ?_
  rintro ⟨relation, ts⟩ ⟨relation', us⟩ ⟨hrelation, h⟩
  refine (agrees_skipAlias h).bind fun ts us h => ?_
  refine Agrees.guard ?_ (.refl _) ?_
  · rw [Bool.or_eq_true, Bool.or_eq_true, decide_eq_true_eq, decide_eq_true_eq,
      Token.head?_eq_mark_iff h, startsWithAny_eq h]
  rw [Token.placeholderCount_of_forall₂ hlist]
  refine (Predicate.agrees_read _ h).bind ?_
  rintro ⟨predicate, ts⟩ ⟨predicate', us⟩ ⟨hpredicate, h⟩
  refine Agrees.guard (by rw [startsWithAny_eq h]) (.refl _) ?_
  refine .ok ⟨.select hrelation (Projection.read_alike hlist) hpredicate, ?_⟩
  rw [startsWithAny_eq h]
  split
  · exact forall₂_fromSemicolon h
  · exact h

theorem agrees_rollback (h : Forall₂ Token.Alike ts us) :
    Agrees (Forall₂ Token.Alike) (rollback ts) (rollback us) := by
  refine (agrees_expect h "ROLLBACK").bind fun ts us h => ?_
  refine Agrees.guard (by rw [startsWith_eq h]) (.refl _) ?_
  exact .ok (forall₂_fromSemicolon h)

/-- A statement of any kind. -/
theorem agrees_statement (kind : StatementKind) (h : Forall₂ Token.Alike ts us) :
    Agrees (Both Statement.Alike (Forall₂ Token.Alike)) (statement kind ts) (statement kind us) := by
  cases kind with
  | createTable => exact (agrees_createTable h).map fun _ _ => id
  | insert => exact (agrees_insert h).map fun _ _ => id
  | update => exact (agrees_update h).map fun _ _ => id
  | delete => exact (agrees_delete h).map fun _ _ => id
  | select => exact (agrees_select h).map fun _ _ => id
  | begin => exact .ok ⟨.begin, forall₂_fromSemicolon h⟩
  | commit => exact .ok ⟨.commit, forall₂_fromSemicolon h⟩
  | rollback => exact (agrees_rollback h).map fun _ _ h => ⟨.rollback, h⟩
  | pragma =>
      refine (agrees_expect h "PRAGMA").bind fun ts us h => ?_
      exact .ok ⟨.pragma _ _, forall₂_fromSemicolon h⟩
  | unknown => exact .error (.unsupported _ _)

end Parser

theorem StatementKind.ofTokens_of_forall₂ {ts us : List Token} (h : Forall₂ Token.Alike ts us) :
    ofTokens ts = ofTokens us := by
  cases h with
  | nil => rfl
  | cons htu hrest =>
      have hwords := forall₂_takeWhile (p := Token.isOneOf ["TEMP", "TEMPORARY", "TABLE"])
        (fun _ _ h => h.isOneOf_eq _) (List.forall₂_take 3 hrest)
      have hsecond := any_of_rel (fun _ _ h => h.isKeyword_eq "TRANSACTION") (rel_head? hrest)
      simp only [ofTokens, htu.isKeyword_eq, any_isKeyword hwords, hsecond]

namespace Statement

theorem agrees_ofTokens {ts us : List Token} (h : Forall₂ Token.Alike ts us) :
    Agrees Alike (ofTokens ts) (ofTokens us) := by
  have hall : ts.all (· = .mark .semicolon) = us.all (· = .mark .semicolon) :=
    all_of_forall₂ (fun _ _ htu => by simp only [htu.eq_mark_iff]) h
  rw [ofTokens, ofTokens, hall, StatementKind.ofTokens_of_forall₂ h]
  split
  · exact .error .empty
  · refine (Parser.agrees_statement _ h).bind ?_
    rintro ⟨s, ts⟩ ⟨s', us⟩ ⟨hs, h⟩
    exact (Parser.agrees_finish h).bind fun _ _ _ => .ok hs

/-- Token lists that are alike have the same kind, and are read as statements that are alike or
rejected with errors of one variant. -/
theorem ofTokens_alike (ts us : List Token) (h : Forall₂ Token.Alike ts us) :
    StatementKind.ofTokens ts = StatementKind.ofTokens us ∧
      Agrees Alike (ofTokens ts) (ofTokens us) :=
  ⟨StatementKind.ofTokens_of_forall₂ h, agrees_ofTokens h⟩

/-- A query in two letter cases, with a text that is spelled like a part of the clause. -/
theorem ofTokens_alike_of_quoted :
    let ts : List Token := [.word "SELECT" none, .mark .star, .word "FROM" none, .word "t" none,
      .word "WHERE" none, .word "name" none, .mark .equal, .text .plain "x", .word "AND" none,
      .word "id" none, .mark .equal, .placeholder ""]
    let us : List Token := [.word "select" none, .mark .star, .word "From" none, .word "T" none,
      .word "where" none, .word "name" none, .mark .equal, .text .plain "x' OR id = ?",
      .word "And" none, .word "ID" none, .mark .equal, .placeholder ""]
    let s : Statement := .select ⟨"t", .all, some ⟨[.other "name = 'x'", .equals "id" 0]⟩⟩
    let s' : Statement :=
      .select ⟨"T", .all, some ⟨[.other "name = 'x' OR id = ?'", .equals "ID" 0]⟩⟩
    Forall₂ Token.Alike ts us ∧ StatementKind.ofTokens ts = StatementKind.ofTokens us ∧
      ofTokens ts = .ok s ∧ ofTokens us = .ok s' ∧ s.Alike s' := by
  intro ts us s s'
  have halike : Forall₂ Token.Alike ts us := by
    refine .cons (.word (by decide)) (.cons (.same _) (.cons (.word (by decide))
      (.cons (.word (by decide)) (.cons (.word (by decide)) (.cons (.same _) (.cons (.same _)
      (.cons (.text .plain _ _) (.cons (.word (by decide)) (.cons (.word (by decide))
      (.cons (.same _) (.cons (.same _) .nil)))))))))))
  have hs : ofTokens ts = .ok s := by with_unfolding_all rfl
  have hs' : ofTokens us = .ok s' := by with_unfolding_all rfl
  obtain ⟨hkind, hagrees⟩ := ofTokens_alike ts us halike
  rw [hs, hs'] at hagrees
  cases hagrees with
  | ok h => exact ⟨halike, hkind, hs, hs', h⟩

end Statement

end MiniSql
