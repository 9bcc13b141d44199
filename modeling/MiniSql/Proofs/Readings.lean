import MiniSql.Proofs.Likeness
import MiniSql.Statement.Definition

/-!
# Readings of tokens that are alike

The content of texts in single quotes and the letter case of words without quotes do not steer
the reading of the pieces of statements. From tokens that are alike in these respects a reader
gets errors of one variant, or pieces that are alike: they differ in the content of literals,
in the letter case of names, and in the texts that are carried only to be shown.

**Results.**
* `Agrees.bind`: readers that agree, one after the other.
* `Column.agrees_readAll`, `Operand.agrees_readAll`, `Projection.read_alike`,
  `Predicate.agrees_read`: definitions, values, select lists and clauses.
-/

namespace MiniSql

open List (Forall₂)
open Token (placeholderCount)

/-! ## Results that agree -/

/-- The errors are of one variant. -/
inductive ParseError.SameVariant : ParseError → ParseError → Prop
  | malformed (m n : Malformation) : SameVariant (.malformed m) (.malformed n)
  | unsupported (f g : Feature) : SameVariant (.unsupported f) (.unsupported g)
  | invalidIdentifier (a b : String) : SameVariant (.invalidIdentifier a) (.invalidIdentifier b)
  | invalidLiteral (a b : String) : SameVariant (.invalidLiteral a) (.invalidLiteral b)
  | empty : SameVariant .empty .empty

theorem ParseError.SameVariant.refl (e : ParseError) : SameVariant e e := by
  cases e with
  | malformed m => exact .malformed m m
  | unsupported f => exact .unsupported f f
  | invalidIdentifier a => exact .invalidIdentifier a a
  | invalidLiteral a => exact .invalidLiteral a a
  | empty => exact .empty

/-- Both readings fail with errors of one variant, or both succeed with related results. -/
inductive Agrees {α : Type} (R : α → α → Prop) :
    Except ParseError α → Except ParseError α → Prop
  | error {e f : ParseError} : e.SameVariant f → Agrees R (.error e) (.error f)
  | ok {a b : α} : R a b → Agrees R (.ok a) (.ok b)

namespace Agrees

variable {α β : Type} {R : α → α → Prop} {S : β → β → Prop} {x y : Except ParseError α}

theorem refl (hR : ∀ a, R a a) (x : Except ParseError α) : Agrees R x x := by
  cases x with
  | error e => exact .error (.refl e)
  | ok a => exact .ok (hR a)

theorem bind {f g : α → Except ParseError β} (h : Agrees R x y)
    (hfg : ∀ a b, R a b → Agrees S (f a) (g b)) : Agrees S (x >>= f) (y >>= g) := by
  cases h with
  | error he => exact .error he
  | ok hab => exact hfg _ _ hab

theorem map {f g : α → β} (h : Agrees R x y) (hfg : ∀ a b, R a b → S (f a) (g b)) :
    Agrees S (x.map f) (y.map g) := by
  cases h with
  | error he => exact .error he
  | ok hab => exact .ok (hfg _ _ hab)

/-- Both readings reject, or both go on, and then they are known to pass the test. -/
theorem guard_of_not {p q : Prop} [Decidable p] [Decidable q] {e f : ParseError}
    {next next' : Unit → Except ParseError α} (hpq : p ↔ q) (he : e.SameVariant f)
    (h : ¬ q → Agrees R (next ()) (next' ())) :
    Agrees R (if p then (Except.error e >>= next) else next ())
      (if q then (Except.error f >>= next') else next' ()) := by
  by_cases hp : p
  · rw [if_pos hp, if_pos (hpq.mp hp)]
    exact .error he
  · rw [if_neg hp, if_neg (hpq.not.mp hp)]
    exact h (hpq.not.mp hp)

/-- Both readings reject, or both go on. -/
theorem guard {p q : Prop} [Decidable p] [Decidable q] {e f : ParseError}
    {next next' : Unit → Except ParseError α} (hpq : p ↔ q) (he : e.SameVariant f)
    (h : Agrees R (next ()) (next' ())) :
    Agrees R (if p then (Except.error e >>= next) else next ())
      (if q then (Except.error f >>= next') else next' ()) :=
  guard_of_not hpq he fun _ => h

/-- Both readings go on after one of two parts, the first of which is known to pass the test, or
both after the other. -/
theorem branch_of {p q : Prop} [Decidable p] [Decidable q] {x' y' : Except ParseError α}
    {f g : α → Except ParseError β} (hpq : p ↔ q) (hthen : q → Agrees R x y)
    (helse : Agrees R x' y') (hfg : ∀ a b, R a b → Agrees S (f a) (g b)) :
    Agrees S (if p then x >>= f else x' >>= f) (if q then y >>= g else y' >>= g) := by
  by_cases hp : p
  · rw [if_pos hp, if_pos (hpq.mp hp)]
    exact (hthen (hpq.mp hp)).bind hfg
  · rw [if_neg hp, if_neg (hpq.not.mp hp)]
    exact helse.bind hfg

/-- Both readings go on after one of two parts, or both after the other. -/
theorem branch {p q : Prop} [Decidable p] [Decidable q] {x' y' : Except ParseError α}
    {f g : α → Except ParseError β} (hpq : p ↔ q) (hthen : Agrees R x y) (helse : Agrees R x' y')
    (hfg : ∀ a b, R a b → Agrees S (f a) (g b)) :
    Agrees S (if p then x >>= f else x' >>= f) (if q then y >>= g else y' >>= g) :=
  branch_of hpq (fun _ => hthen) helse hfg

/-- Readings of lists item by item. -/
theorem mapM {γ : Type} {T : γ → γ → Prop} {f : γ → Except ParseError α} {xs ys : List γ}
    (hf : ∀ a b, T a b → Agrees R (f a) (f b)) (h : Forall₂ T xs ys) :
    Agrees (Forall₂ R) (xs.mapM f) (ys.mapM f) := by
  induction h with
  | nil => exact .ok .nil
  | cons hab _ ih =>
      rw [List.mapM_cons, List.mapM_cons]
      refine (hf _ _ hab).bind fun _ _ hfirst => ?_
      exact ih.bind fun _ _ hrest => .ok (.cons hfirst hrest)

end Agrees

/-! ## Parts of statements that are alike -/

/-- The literals are the same but for the content of a text. -/
inductive Literal.Alike : Literal → Literal → Prop
  | same (l : Literal) : Alike l l
  | text (a b : String) : Alike (.text a) (.text b)

/-- The operands are the same parameter, or literals that are alike. -/
inductive Operand.Alike : Operand → Operand → Prop
  | placeholder (slot : Nat) : Alike (.placeholder slot) (.placeholder slot)
  | literal {a b : Literal} : a.Alike b → Alike (.literal a) (.literal b)

theorem Operand.Alike.refl (v : Operand) : v.Alike v := by
  cases v with
  | placeholder slot => exact .placeholder slot
  | literal l => exact .literal (.same l)

/-- The columns have the same flags and the same name but for its letter case. The declared
types are only carried. -/
structure Column.Alike (a b : Column) : Prop where
  name : SameName a.name b.name
  primaryKey : a.primaryKey = b.primaryKey
  unique : a.unique = b.unique
  notNull : a.notNull = b.notNull

/-- The conjuncts compare the same column with the same parameter, or both are only carried. -/
inductive Conjunct.Alike : Conjunct → Conjunct → Prop
  | equals {a b : String} (slot : Nat) : SameName a b → Alike (.equals a slot) (.equals b slot)
  | other (a b : String) : Alike (.other a) (.other b)

/-- The clauses have conjuncts that are alike, and the same tests. -/
structure Predicate.Alike (p q : Predicate) : Prop where
  conjuncts : Forall₂ Conjunct.Alike p.conjuncts q.conjuncts
  keys : p.keys = q.keys

/-- The select lists name the same columns, or both are only carried. -/
inductive Projection.Alike : Projection → Projection → Prop
  | all : Alike .all .all
  | columns {names names' : List String} :
      Forall₂ SameName names names' → Alike (.columns names) (.columns names')
  | expressions (a b : String) : Alike (.expressions a) (.expressions b)

/-! ## Column definitions -/

section Definitions

variable {ts us : List Token}

theorem any_isKeyword (h : Forall₂ Token.Alike ts us) (keyword : String) :
    ts.any (·.isKeyword keyword) = us.any (·.isKeyword keyword) :=
  any_of_forall₂ (fun _ _ htu => htu.isKeyword_eq keyword) h

theorem saysNotNull_of_forall₂ (h : Forall₂ Token.Alike ts us) : saysNotNull ts = saysNotNull us := by
  induction h with
  | nil => rfl
  | cons htu hrest ih =>
      cases hrest with
      | nil => rfl
      | cons huv _ => rw [saysNotNull, saysNotNull, htu.isKeyword_eq, huv.isKeyword_eq, ih]

theorem rel_listedNames (h : Forall₂ Token.Alike ts us) :
    Option.Rel (Forall₂ SameName) (listedNames ts) (listedNames us) := by
  have hopen := forall₂_dropWhile (p := fun t => decide (t ≠ .mark .leftParen))
    (fun t u htu => by simp only [ne_eq, htu.eq_mark_iff]) h
  rw [listedNames, listedNames]
  generalize ts.dropWhile _ = xs at hopen ⊢
  generalize us.dropWhile _ = ys at hopen ⊢
  cases hopen with
  | nil => exact .none
  | cons _ hinside =>
      have hnames := forall₂_takeWhile (p := fun t => decide (t ≠ .mark .rightParen))
        (fun t u htu => by simp only [ne_eq, htu.eq_mark_iff]) hinside
      exact .some (List.rel_filterMap (fun _ _ htu => htu.rel_identifier?) hnames)

theorem Column.flagFirst_alike {name name' : String} (hname : SameName name name')
    (primaryKey unique : Bool) {cs ds : List Column} (h : Forall₂ Column.Alike cs ds) :
    Forall₂ Column.Alike (flagFirst name primaryKey unique cs)
      (flagFirst name' primaryKey unique ds) := by
  induction h with
  | nil => exact .nil
  | @cons c d cs ds hcd hrest ih =>
      have hsame : Text.sameFold c.name name = Text.sameFold d.name name' := by
        rw [hcd.name.sameFold_eq, Text.sameFold_comm, hname.sameFold_eq, Text.sameFold_comm]
      rw [flagFirst, flagFirst, hsame]
      split
      · refine .cons ⟨hcd.name, ?_, ?_, hcd.notNull⟩ hrest
        · rw [hcd.primaryKey]
        · rw [hcd.unique]
      · exact .cons hcd ih

theorem Column.constrain_alike (h : Forall₂ Token.Alike ts us) {cs ds : List Column}
    (hcolumns : Forall₂ Column.Alike cs ds) :
    Forall₂ Column.Alike (constrain ts cs) (constrain us ds) := by
  simp only [constrain, any_isKeyword h]
  split
  · exact hcolumns
  · have hnames := rel_listedNames h
    generalize listedNames ts = x at hnames ⊢
    generalize listedNames us = y at hnames ⊢
    cases hnames with
    | none => exact hcolumns
    | some hlist =>
        -- Only a single name in the parentheses is looked at.
        rcases hlist with _ | ⟨hname, _ | _⟩
        · exact hcolumns
        · exact flagFirst_alike hname _ _ hcolumns
        · exact hcolumns

theorem Column.define_alike {name name' : String} (hname : SameName name name')
    (h : Forall₂ Token.Alike ts us) : (define name ts).Alike (define name' us) := by
  have hconstraints := forall₂_dropWhile (p := fun t => !t.isOneOf columnConstraintStarts)
    (fun t u htu => by rw [htu.isOneOf_eq]) h
  exact ⟨hname, any_isKeyword hconstraints _, any_isKeyword hconstraints _,
    saysNotNull_of_forall₂ hconstraints⟩

theorem Column.agrees_addDefinition (h : Forall₂ Token.Alike ts us) {cs ds : List Column}
    (hcolumns : Forall₂ Column.Alike cs ds) :
    Agrees (Forall₂ Column.Alike) (addDefinition cs ts) (addDefinition ds us) := by
  cases h with
  | nil => exact .error (.refl _)
  | @cons t u ts us htu hrest =>
      rw [addDefinition, addDefinition, htu.isOneOf_eq]
      split
      · exact .ok (constrain_alike (.cons htu hrest) hcolumns)
      · have hname := htu.rel_identifier?
        generalize t.identifier? = x at hname ⊢
        generalize u.identifier? = y at hname ⊢
        cases hname with
        | none => exact .error (.invalidIdentifier _ _)
        | some hname =>
            exact .ok (List.rel_append hcolumns (.cons (define_alike hname hrest) .nil))

theorem Column.agrees_readAll {pieces pieces' : List (List Token)}
    (h : Forall₂ (Forall₂ Token.Alike) pieces pieces') {cs ds : List Column}
    (hcolumns : Forall₂ Column.Alike cs ds) :
    Agrees (Forall₂ Column.Alike) (readAll cs pieces) (readAll ds pieces') := by
  induction h generalizing cs ds with
  | nil => exact .ok hcolumns
  | cons hpiece _ ih => exact (agrees_addDefinition hpiece hcolumns).bind fun _ _ => ih

end Definitions

/-! ## Names and values -/

section Pieces

variable {ts us : List Token}

/-- A single token gives its name; after a qualifier and a point the last token does. -/
theorem agrees_columnName (h : Forall₂ Token.Alike ts us) :
    Agrees SameName (columnName ts) (columnName us) := by
  have hqualified : ∀ {q q' p p' t u : Token}, p.Alike p' → t.Alike u →
      Agrees SameName (columnName [q, p, t]) (columnName [q', p', u]) := by
    intro q q' p p' t u hpoint htu
    by_cases hp : p = .mark .period
    · obtain rfl := (hpoint.eq_mark_iff _).mp hp
      subst hp
      cases htu with
      | same =>
          cases t with
          | word name quote => exact .ok (SameName.refl name)
          | _ => exact .error (.invalidIdentifier _ _)
      | word hname => exact .ok hname
      | text => exact .error (.invalidIdentifier _ _)
    · have hnone : ∀ {q p t : Token}, p ≠ .mark .period →
          columnName [q, p, t] = .error (.invalidIdentifier (Token.render [q, p, t])) := by
        intro q p t hp
        simp [columnName, hp]
      rw [hnone hp, hnone ((hpoint.eq_mark_iff _).not.mp hp)]
      exact .error (.invalidIdentifier _ _)
  rcases h with _ | ⟨htu, _ | ⟨hpoint, _ | ⟨hname, _ | ⟨hmore, hrest⟩⟩⟩⟩
  · exact .error (.invalidIdentifier _ _)
  · cases htu with
    | same => exact .refl SameName.refl _
    | word hname => exact .ok hname
    | text => exact .error (.invalidIdentifier _ _)
  · simp only [columnName]
    exact .error (.invalidIdentifier _ _)
  · exact hqualified hpoint hname
  · simp only [columnName]
    exact .error (.invalidIdentifier _ _)

theorem agrees_columnNames {pieces pieces' : List (List Token)}
    (h : Forall₂ (Forall₂ Token.Alike) pieces pieces') :
    Agrees (Forall₂ SameName) (pieces.mapM columnName) (pieces'.mapM columnName) :=
  Agrees.mapM (fun _ _ => agrees_columnName) h

theorem Operand.both_refl (x : Operand × Nat) : Both Operand.Alike Eq x x :=
  ⟨.refl x.1, rfl⟩

/-- A value of one token: only the content of a text may differ. -/
theorem Operand.agrees_read_single (slot : Nat) {t u : Token} (h : t.Alike u) :
    Agrees (Both Operand.Alike Eq) (read slot [t]) (read slot [u]) := by
  cases h with
  | same => exact .refl both_refl _
  | word hname =>
      have hkeyword := (Token.Alike.word hname).isKeyword_eq
      simp only [read, hkeyword]
      split
      · exact .ok (both_refl _)
      · split
        · exact .ok (both_refl _)
        · split
          · exact .ok (both_refl _)
          · exact .error (.unsupported _ _)
  | text form a b =>
      cases form with
      | plain => exact .ok ⟨.literal (.text a b), rfl⟩
      | _ => exact .error (.unsupported _ _)

/-- A value of two tokens is a numeral with a minus, or is not understood. -/
theorem Operand.agrees_read_pair (slot : Nat) {t t' u u' : Token} (ht : t.Alike t')
    (hu : u.Alike u') :
    Agrees (Both Operand.Alike Eq) (read slot [t, u]) (read slot [t', u']) := by
  by_cases hminus : t = .mark .minus
  · obtain rfl := (ht.eq_mark_iff _).mp hminus
    subst hminus
    cases hu with
    | same => exact .refl both_refl _
    | word => exact .error (.unsupported _ _)
    | text => exact .error (.unsupported _ _)
  · have hnone : ∀ {t u : Token}, t ≠ .mark .minus →
        read slot [t, u] = .error (.unsupported (.expression [t, u])) := by
      intro t u ht
      simp [read, ht]
    rw [hnone hminus, hnone ((ht.eq_mark_iff _).not.mp hminus)]
    exact .error (.unsupported _ _)

theorem Operand.agrees_read (slot : Nat) (h : Forall₂ Token.Alike ts us) :
    Agrees (Both Operand.Alike Eq) (read slot ts) (read slot us) := by
  rcases h with _ | ⟨ht, _ | ⟨hu, _ | ⟨hmore, hrest⟩⟩⟩
  · exact .error (.unsupported _ _)
  · exact agrees_read_single slot ht
  · exact agrees_read_pair slot ht hu
  · simp only [read]
    exact .error (.unsupported _ _)

/-- Readings of lists in which each item begins with the slot after the one before. -/
theorem Agrees.cons {α : Type} {R : α → α → Prop} {x y : Except ParseError (α × Nat)}
    {next next' : Nat → Except ParseError (List α × Nat)} (hfirst : Agrees (Both R Eq) x y)
    (hrest : ∀ slot, Agrees (Both (Forall₂ R) Eq) (next slot) (next' slot)) :
    Agrees (Both (Forall₂ R) Eq)
      (x >>= fun first => next first.2 >>= fun rest => .ok (first.1 :: rest.1, rest.2))
      (y >>= fun first => next' first.2 >>= fun rest => .ok (first.1 :: rest.1, rest.2)) := by
  refine hfirst.bind ?_
  rintro ⟨a, slot⟩ ⟨b, _⟩ ⟨hab, rfl⟩
  refine (hrest slot).bind ?_
  rintro ⟨as, slot⟩ ⟨bs, _⟩ ⟨hlist, rfl⟩
  exact .ok ⟨.cons hab hlist, rfl⟩

theorem Operand.agrees_readAll (slot : Nat) {pieces pieces' : List (List Token)}
    (h : Forall₂ (Forall₂ Token.Alike) pieces pieces') :
    Agrees (Both (Forall₂ Operand.Alike) Eq) (readAll slot pieces) (readAll slot pieces') := by
  induction h generalizing slot with
  | nil => exact .ok ⟨.nil, rfl⟩
  | cons hpiece _ ih => exact (agrees_read slot hpiece).cons ih

/-! ## Select lists and clauses -/

theorem Projection.read_alike (h : Forall₂ Token.Alike ts us) :
    (read ts).Alike (read us) := by
  have hnames := agrees_columnNames (Token.forall₂_splitAtCommas h)
  simp only [read, Token.eq_single_mark_iff h]
  split
  · exact .all
  · generalize (Token.splitAtCommas ts).mapM columnName = x at hnames ⊢
    generalize (Token.splitAtCommas us).mapM columnName = y at hnames ⊢
    cases hnames with
    | error => exact .expressions _ _
    | ok hlist =>
        cases hlist with
        | nil => exact .expressions _ _
        | cons hname hrest => exact .columns (.cons hname hrest)

theorem rel_comparedColumn? (h : Forall₂ Token.Alike ts us) :
    Option.Rel SameName (comparedColumn? ts) (comparedColumn? us) := by
  have hcompared : ∀ {c d e e' p p' : Token}, c.Alike d → e.Alike e' → p.Alike p' →
      Option.Rel SameName (if e.isEquality && p.isPlaceholder then c.identifier? else none)
        (if e'.isEquality && p'.isPlaceholder then d.identifier? else none) := by
    intro c d e e' p p' hcolumn hequality hparameter
    rw [hequality.isEquality_eq, hparameter.isPlaceholder_eq]
    split
    · exact hcolumn.rel_identifier?
    · exact .none
  have hqualified : ∀ {q q' p p' c d e e' v v' : Token}, p.Alike p' → c.Alike d → e.Alike e' →
      v.Alike v' →
      Option.Rel SameName (comparedColumn? [q, p, c, e, v]) (comparedColumn? [q', p', d, e', v']) := by
    intro q q' p p' c d e e' v v' hpoint hcolumn hequality hparameter
    by_cases hp : p = .mark .period
    · obtain rfl := (hpoint.eq_mark_iff _).mp hp
      subst hp
      exact hcompared hcolumn hequality hparameter
    · have hp' := (hpoint.eq_mark_iff _).not.mp hp
      simp [comparedColumn?, hp, hp']
  rcases h with _ | ⟨h₁, _ | ⟨h₂, _ | ⟨h₃, _ | ⟨h₄, _ | ⟨h₅, _ | hrest⟩⟩⟩⟩⟩
  · exact .none
  · exact .none
  · simp only [comparedColumn?]
    exact .none
  · exact hcompared h₁ h₂ h₃
  · simp only [comparedColumn?]
    exact .none
  · exact hqualified h₂ h₃ h₄ h₅
  · simp only [comparedColumn?]
    exact .none

theorem Conjunct.read_alike (slot : Nat) (h : Forall₂ Token.Alike ts us) :
    Both Conjunct.Alike Eq (read slot ts) (read slot us) := by
  have hinner := Token.forall₂_stripParens h
  have hcolumn := rel_comparedColumn? hinner
  rw [read, read, Token.placeholderCount_of_forall₂ hinner]
  generalize comparedColumn? (Token.stripParens ts) = x at hcolumn ⊢
  generalize comparedColumn? (Token.stripParens us) = y at hcolumn ⊢
  cases hcolumn with
  | some hname => exact ⟨.equals slot hname, rfl⟩
  | none => exact ⟨.other _ _, rfl⟩

theorem Conjunct.readAll_alike (slot : Nat) {pieces pieces' : List (List Token)}
    (h : Forall₂ (Forall₂ Token.Alike) pieces pieces') :
    Both (Forall₂ Conjunct.Alike) Eq (readAll slot pieces) (readAll slot pieces') := by
  induction h generalizing slot with
  | nil => exact ⟨.nil, rfl⟩
  | @cons piece piece' rest rest' hpiece _ ih =>
      obtain ⟨hfirst, hslot⟩ := read_alike slot hpiece
      obtain ⟨hrest, hlast⟩ := ih (read slot piece).2
      simp only [readAll, ← hslot]
      exact ⟨.cons hfirst hrest, hlast⟩

theorem Conjunct.Alike.key?_eq {c d : Conjunct} (h : c.Alike d) : c.key? = d.key? := by
  cases h with
  | equals slot hname => rw [Conjunct.key?, Conjunct.key?, KeyColumn.ofName?_of_sameFold hname]
  | other => rfl

/-- Conjuncts that are alike give the same tests. -/
theorem Predicate.Alike.of_conjuncts {cs ds : List Conjunct} (h : Forall₂ Conjunct.Alike cs ds) :
    Predicate.Alike ⟨cs⟩ ⟨ds⟩ := by
  refine ⟨h, ?_⟩
  rw [Predicate.keys, Predicate.keys]
  induction h with
  | nil => rfl
  | cons hcd _ ih =>
      simp only [List.filterMap_cons, hcd.key?_eq, ih]

theorem Predicate.alike_ofTokens (slot : Nat) (h : Forall₂ Token.Alike ts us) :
    (ofTokens slot ts).1.Alike (ofTokens slot us).1 := by
  have halternatives := Token.forall₂_split (·.isKeyword "OR")
    (fun _ _ htu => htu.isKeyword_eq "OR") h
  simp only [ofTokens, halternatives.length_eq]
  split
  · exact .of_conjuncts (Conjunct.readAll_alike slot (.cons h .nil)).1
  · exact .of_conjuncts (Conjunct.readAll_alike slot (forall₂_splitConjuncts h)).1

theorem Predicate.agrees_read (slot : Nat) (h : Forall₂ Token.Alike ts us) :
    Agrees (Both (Option.Rel Predicate.Alike) (Forall₂ Token.Alike)) (read slot ts)
      (read slot us) := by
  cases h with
  | nil => exact .ok ⟨.none, .nil⟩
  | @cons t u ts us htu hrest =>
      obtain ⟨hclause, hafter⟩ := Token.forall₂_takeUntil (Token.isOneOf clauseEnds)
        (fun _ _ h => h.isOneOf_eq clauseEnds) 0 hrest
      simp only [read, htu.isKeyword_eq, eq_nil_iff_of_forall₂ hclause]
      split
      · split
        · exact .error (.refl _)
        · exact .ok ⟨.some (alike_ofTokens slot hclause), hafter⟩
      · exact .ok ⟨.none, .cons htu hrest⟩

end Pieces

end MiniSql
