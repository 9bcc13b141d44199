import Mathlib.Data.List.Forall2
import MiniSql.Predicate.Clause
import MiniSql.Proofs.Nesting

/-!
# Tokens that are alike

Two tokens are alike if they are the same but for the content of a text in single quotes, or
for the letter case of a word without quotes. Everything that reading statements asks of a
token has the same answer for tokens that are alike, so that lists of such tokens are cut in
the same places.

**Results.**
* `Token.Alike.isKeyword_eq`, `Token.Alike.eq_mark_iff`: what is asked of a token.
* `forall₂_split`, `forall₂_takeUntil`, `rel_closeGroup`, `forall₂_stripParens`,
  `forall₂_splitConjuncts`: how lists are cut.
-/

namespace MiniSql

open List (Forall₂)

/-- The names differ in letter case at most. -/
def SameName (a b : String) : Prop :=
  Text.sameFold a b = true

instance (a b : String) : Decidable (SameName a b) :=
  inferInstanceAs (Decidable (Text.sameFold a b = true))

theorem SameName.refl (a : String) : SameName a a :=
  Text.sameFold_self a

/-- Names that differ in letter case agree with the same names. -/
theorem SameName.sameFold_eq {a b : String} (h : SameName a b) (c : String) :
    Text.sameFold a c = Text.sameFold b c := by
  rw [Bool.eq_iff_iff, Text.sameFold_iff, Text.sameFold_iff, (Text.sameFold_iff a b).mp h]

/-- Both parts of two pairs are related. -/
def Both {α β : Type} (R : α → α → Prop) (S : β → β → Prop) (x y : α × β) : Prop :=
  R x.1 y.1 ∧ S x.2 y.2

/-! ## Lists -/

section Lists

variable {α : Type} {R : α → α → Prop} {p : α → Bool} {xs ys : List α}

theorem eq_nil_iff_of_forall₂ (h : Forall₂ R xs ys) : xs = [] ↔ ys = [] := by
  cases h with
  | nil => rfl
  | cons => exact ⟨nofun, nofun⟩

theorem any_of_forall₂ (hp : ∀ a b, R a b → p a = p b) (h : Forall₂ R xs ys) :
    xs.any p = ys.any p := by
  induction h with
  | nil => rfl
  | cons hab _ ih => rw [List.any_cons, List.any_cons, hp _ _ hab, ih]

theorem all_of_forall₂ (hp : ∀ a b, R a b → p a = p b) (h : Forall₂ R xs ys) :
    xs.all p = ys.all p := by
  induction h with
  | nil => rfl
  | cons hab _ ih => rw [List.all_cons, List.all_cons, hp _ _ hab, ih]

theorem countP_of_forall₂ (hp : ∀ a b, R a b → p a = p b) (h : Forall₂ R xs ys) :
    xs.countP p = ys.countP p := by
  induction h with
  | nil => rfl
  | cons hab _ ih => rw [List.countP_cons, List.countP_cons, hp _ _ hab, ih]

theorem forall₂_takeWhile (hp : ∀ a b, R a b → p a = p b) (h : Forall₂ R xs ys) :
    Forall₂ R (xs.takeWhile p) (ys.takeWhile p) := by
  induction h with
  | nil => exact .nil
  | cons hab _ ih =>
      rw [List.takeWhile_cons, List.takeWhile_cons, hp _ _ hab]
      split
      · exact .cons hab ih
      · exact .nil

theorem forall₂_dropWhile (hp : ∀ a b, R a b → p a = p b) (h : Forall₂ R xs ys) :
    Forall₂ R (xs.dropWhile p) (ys.dropWhile p) := by
  induction h with
  | nil => exact .nil
  | cons hab hrest ih =>
      rw [List.dropWhile_cons, List.dropWhile_cons, hp _ _ hab]
      split
      · exact ih
      · exact .cons hab hrest

theorem forall₂_dropLast (h : Forall₂ R xs ys) : Forall₂ R xs.dropLast ys.dropLast := by
  rw [List.dropLast_eq_take, List.dropLast_eq_take, h.length_eq]
  exact List.forall₂_take _ h

theorem forall₂_tail (h : Forall₂ R xs ys) : Forall₂ R xs.tail ys.tail := by
  cases h with
  | nil => exact .nil
  | cons _ hrest => exact hrest

theorem rel_head? (h : Forall₂ R xs ys) : Option.Rel R xs.head? ys.head? := by
  cases h with
  | nil => exact .none
  | cons hab _ => exact .some hab

theorem rel_map {β : Type} {S : β → β → Prop} {f g : α → β} {x y : Option α}
    (hf : ∀ a b, R a b → S (f a) (g b)) (h : Option.Rel R x y) :
    Option.Rel S (x.map f) (y.map g) := by
  cases h with
  | some hab => exact .some (hf _ _ hab)
  | none => exact .none

theorem exists_of_rel_some {a : α} {y : Option α} (h : Option.Rel R (some a) y) :
    ∃ b, y = some b ∧ R a b := by
  cases h with
  | some hab => exact ⟨_, rfl, hab⟩

theorem eq_none_of_rel {y : Option α} (h : Option.Rel R none y) : y = none := by
  cases h
  rfl

theorem isSome_of_rel {x y : Option α} (h : Option.Rel R x y) : x.isSome = y.isSome := by
  cases h <;> rfl

theorem any_of_rel {x y : Option α} (hp : ∀ a b, R a b → p a = p b) (h : Option.Rel R x y) :
    x.any p = y.any p := by
  cases h with
  | some hab => exact hp _ _ hab
  | none => rfl

end Lists

namespace Token

/-! ## Single tokens -/

/-- The tokens are the same but for the content of a text or the letter case of a word. -/
inductive Alike : Token → Token → Prop
  | same (t : Token) :
      Alike t t
  | word {a b : String} :
      SameName a b →
      Alike (.word a none) (.word b none)
  | text (form : TextForm) (a b : String) :
      Alike (.text form a) (.text form b)

namespace Alike

variable {t u : Token}

theorem isKeyword_eq (h : Alike t u) (keyword : String) :
    t.isKeyword keyword = u.isKeyword keyword := by
  cases h with
  | same => rfl
  | word hname => exact hname.sameFold_eq keyword
  | text => rfl

theorem isOneOf_eq (h : Alike t u) (keywords : List String) :
    t.isOneOf keywords = u.isOneOf keywords := by
  rw [isOneOf, isOneOf]
  congr 1
  funext keyword
  exact h.isKeyword_eq keyword

theorem isPlaceholder_eq (h : Alike t u) : t.isPlaceholder = u.isPlaceholder := by
  cases h <;> rfl

theorem isEquality_eq (h : Alike t u) : t.isEquality = u.isEquality := by
  cases h <;> rfl

theorem eq_mark_iff (h : Alike t u) (m : Mark) : t = .mark m ↔ u = .mark m := by
  cases h with
  | same => rfl
  | word => exact ⟨nofun, nofun⟩
  | text => exact ⟨nofun, nofun⟩

theorem nest_eq (h : Alike t u) (depth : Nat) : nest depth t = nest depth u := by
  cases h <;> rfl

theorem rel_identifier? (h : Alike t u) : Option.Rel SameName t.identifier? u.identifier? := by
  cases h with
  | same t =>
      cases t with
      | word name quote => exact .some (SameName.refl name)
      | _ => exact .none
  | word hname => exact .some hname
  | text => exact .none

end Alike

/-! ## Cuts -/

variable {ts us : List Token}

theorem placeholderCount_of_forall₂ (h : Forall₂ Alike ts us) :
    placeholderCount ts = placeholderCount us :=
  countP_of_forall₂ (fun _ _ htu => htu.isPlaceholder_eq) h

theorem eq_single_mark_iff (h : Forall₂ Alike ts us) (m : Mark) :
    ts = [.mark m] ↔ us = [.mark m] := by
  rcases h with _ | ⟨htu, _ | _⟩
  · rfl
  · simpa using htu.eq_mark_iff m
  · simp

theorem head?_eq_mark_iff (h : Forall₂ Alike ts us) (m : Mark) :
    ts.head? = some (.mark m) ↔ us.head? = some (.mark m) := by
  cases h with
  | nil => rfl
  | cons htu _ => simpa using htu.eq_mark_iff m

theorem getLast?_eq_mark_iff (h : Forall₂ Alike ts us) (m : Mark) :
    ts.getLast? = some (.mark m) ↔ us.getLast? = some (.mark m) := by
  rw [← List.head?_reverse, ← List.head?_reverse]
  exact head?_eq_mark_iff (List.rel_reverse h) m

theorem forall₂_splitFrom {isSeparator : Token → Bool}
    (hseparator : ∀ t u, Alike t u → isSeparator t = isSeparator u) (depth : Nat)
    {current current' : List Token} (hcurrent : Forall₂ Alike current current')
    (h : Forall₂ Alike ts us) :
    Forall₂ (Forall₂ Alike) (splitFrom isSeparator depth current ts)
      (splitFrom isSeparator depth current' us) := by
  induction h generalizing depth current current' with
  | nil =>
      cases hcurrent with
      | nil => exact .nil
      | cons htu hrest => exact .cons (.cons htu hrest) .nil
  | cons htu _ ih =>
      rw [splitFrom, splitFrom, hseparator _ _ htu, htu.nest_eq]
      split
      · exact .cons hcurrent (ih 0 .nil)
      · exact ih _ (List.rel_append hcurrent (.cons htu .nil))

theorem forall₂_split (isSeparator : Token → Bool)
    (hseparator : ∀ t u, Alike t u → isSeparator t = isSeparator u) (h : Forall₂ Alike ts us) :
    Forall₂ (Forall₂ Alike) (split isSeparator ts) (split isSeparator us) :=
  forall₂_splitFrom hseparator 0 .nil h

theorem forall₂_splitAtCommas (h : Forall₂ Alike ts us) :
    Forall₂ (Forall₂ Alike) (splitAtCommas ts) (splitAtCommas us) := by
  apply forall₂_split _ _ h
  intro t u htu
  simp only [htu.eq_mark_iff]

theorem forall₂_takeUntil (stop : Token → Bool) (hstop : ∀ t u, Alike t u → stop t = stop u)
    (depth : Nat) (h : Forall₂ Alike ts us) :
    Both (Forall₂ Alike) (Forall₂ Alike) (takeUntil stop depth ts) (takeUntil stop depth us) := by
  induction h generalizing depth with
  | nil => exact ⟨.nil, .nil⟩
  | cons htu hrest ih =>
      simp only [takeUntil, hstop _ _ htu, htu.nest_eq, htu.eq_mark_iff]
      split
      · exact ⟨.nil, .cons htu hrest⟩
      · obtain ⟨htaken, hleft⟩ := ih _
        exact ⟨.cons htu htaken, hleft⟩

theorem rel_closeGroup (depth : Nat) (h : Forall₂ Alike ts us) :
    Option.Rel (Both (Forall₂ Alike) (Forall₂ Alike)) (closeGroup depth ts)
      (closeGroup depth us) := by
  induction h generalizing depth with
  | nil => exact .none
  | cons htu hrest ih =>
      simp only [closeGroup, htu.nest_eq, htu.eq_mark_iff]
      split
      · exact .some ⟨.nil, hrest⟩
      · exact rel_map (fun _ _ hgroup => ⟨.cons htu hgroup.1, hgroup.2⟩) (ih _)

theorem balanced_of_forall₂ (depth : Nat) (h : Forall₂ Alike ts us) :
    balanced depth ts = balanced depth us := by
  induction h generalizing depth with
  | nil => rfl
  | cons htu _ ih =>
      rw [Bool.eq_iff_iff, balanced_cons, balanced_cons, htu.nest_eq, htu.eq_mark_iff, ih]

theorem rel_unwrap? (h : Forall₂ Alike ts us) :
    Option.Rel (Forall₂ Alike) (unwrap? ts) (unwrap? us) := by
  cases h with
  | nil => exact .none
  | @cons t u ts us htu hrest =>
      by_cases hopen : t = .mark .leftParen
      · obtain rfl := (htu.eq_mark_iff _).mp hopen
        subst hopen
        have hinner := forall₂_dropLast hrest
        simp only [unwrap?, getLast?_eq_mark_iff hrest, balanced_of_forall₂ 0 hinner]
        split
        · exact .some hinner
        · exact .none
      · rw [unwrap?_of_head_ne hopen, unwrap?_of_head_ne ((htu.eq_mark_iff _).not.mp hopen)]
        exact .none

theorem forall₂_stripParens (h : Forall₂ Alike ts us) :
    Forall₂ Alike (stripParens ts) (stripParens us) := by
  induction ts using stripParens.induct generalizing us with
  | case1 ts hnone =>
      have hus := eq_none_of_rel (hnone ▸ rel_unwrap? h)
      rwa [stripParens_of_unwrap? hnone, stripParens_of_unwrap? hus]
  | case2 ts inner hsome ih =>
      obtain ⟨inner', hsome', hinner⟩ := exists_of_rel_some (hsome ▸ rel_unwrap? h)
      obtain ⟨hts, hbalanced⟩ := unwrap?_eq_some hsome
      obtain ⟨hus, hbalanced'⟩ := unwrap?_eq_some hsome'
      rw [hts, hus, stripParens_group hbalanced, stripParens_group hbalanced']
      exact ih hinner

end Token

open Token

/-- Clauses of tokens that are alike are cut at the same tokens. -/
theorem forall₂_conjunctsFrom (depth : Nat) (inBetween : Bool) {current current' ts us : List Token}
    (hcurrent : Forall₂ Alike current current') (h : Forall₂ Alike ts us) :
    Forall₂ (Forall₂ Alike) (conjunctsFrom depth inBetween current ts)
      (conjunctsFrom depth inBetween current' us) := by
  induction h generalizing depth inBetween current current' with
  | nil => exact .cons hcurrent .nil
  | cons htu _ ih =>
      have hlonger := List.rel_append hcurrent (.cons htu .nil)
      simp only [conjunctsFrom, htu.isKeyword_eq, htu.nest_eq]
      split
      · exact ih 0 true hlonger
      · split
        · split
          · exact ih 0 false hlonger
          · exact .cons hcurrent (ih 0 false .nil)
        · exact ih _ inBetween hlonger

theorem forall₂_splitConjuncts {ts us : List Token} (h : Forall₂ Alike ts us) :
    Forall₂ (Forall₂ Alike) (splitConjuncts ts) (splitConjuncts us) :=
  forall₂_conjunctsFrom 0 false .nil h

end MiniSql
