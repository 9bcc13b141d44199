import MiniSql.Proofs.Filling
import MiniSql.Proofs.RoundTrip

/-!
# Literals among tokens

The parameters of a token list that are no qualifiers are numbered from left to right, and some
of them are replaced by the tokens of literals. A literal has no comma, parenthesis, semicolon or
keyword, so that a list with literals is cut, grouped and ended where it was without them.

**Results.**
* `Numbered.cut`: the parts of a list are numbered one after the other.
* `Filling.exists_splitAtCommas`, `Filling.exists_closeGroup`, `Filling.exists_takeUntil`: a list
  with literals is cut in its old places.
-/

namespace MiniSql

open Token (splitFrom splitAtCommas closeGroup takeUntil depthFrom nest Flat)

/-! ## Tokens with slots -/

/-- The items with literals in the place of those whose slots have one. -/
def Filling.fill {α β : Type} (f : Filling) (kept : α → List β) (written : Literal → List β)
    (items : List (α × Option Nat)) : List β :=
  items.flatMap fun x => ((x.2.bind f).map written).getD (kept x.1)

/-- The tokens with those of literals in the place of parameters. -/
def Filling.tokens (f : Filling) (xs : List (Token × Option Nat)) : List Token :=
  f.fill (fun t => [t]) Literal.tokens xs

/-- The tokens that follow begin with a point. -/
def Token.beforePeriod (xs : List (Token × Option Nat)) : Bool :=
  (xs.map Prod.fst).head? = some (.mark .period)

/-- The parameters of a list that are no qualifiers have the slots from the given one on. -/
def Numbered : Nat → List (Token × Option Nat) → Prop
  | _, [] => True
  | slot, x :: xs =>
    if x.1.isPlaceholder ∧ ¬ Token.beforePeriod xs then x.2 = some slot ∧ Numbered (slot + 1) xs
    else x.2 = none ∧ Numbered slot xs

/-- Number of slots that a list takes. -/
def taken (xs : List (Token × Option Nat)) : Nat :=
  (xs.filterMap Prod.snd).length

section Numbered

variable {slot : Nat} {x : Token × Option Nat} {xs ys : List (Token × Option Nat)}

@[simp] theorem taken_nil : taken [] = 0 := rfl

@[simp] theorem taken_append (xs ys : List (Token × Option Nat)) :
    taken (xs ++ ys) = taken xs + taken ys := by
  simp [taken]

theorem taken_eq_zero (h : ∀ x ∈ xs, x.2 = none) : taken xs = 0 := by
  rw [taken, List.length_eq_zero_iff, List.filterMap_eq_nil_iff]
  exact h

theorem Numbered.cons_cases (h : Numbered slot (x :: xs)) :
    (x.1.isPlaceholder = true ∧ Token.beforePeriod xs = false ∧ x.2 = some slot ∧
      Numbered (slot + 1) xs) ∨
    (x.2 = none ∧ (x.1.isPlaceholder = true → Token.beforePeriod xs = true) ∧
      Numbered slot xs) := by
  rw [Numbered] at h
  split at h
  · next hvalue => exact Or.inl ⟨hvalue.1, Bool.eq_false_iff.mpr hvalue.2, h.1, h.2⟩
  · next hother =>
      refine Or.inr ⟨h.1, fun hparameter => ?_, h.2⟩
      by_contra hperiod
      exact hother ⟨hparameter, hperiod⟩

theorem Numbered.right (h : Numbered slot (xs ++ ys)) : Numbered (slot + taken xs) ys := by
  induction xs generalizing slot with
  | nil => exact h
  | cons x xs ih =>
      rcases h.cons_cases with ⟨-, -, hslot, hrest⟩ | ⟨hslot, -, hrest⟩
      · have hnext := ih hrest
        rwa [Nat.add_assoc, Nat.add_comm 1, ← show taken (x :: xs) = taken xs + 1 by
          simp [taken, hslot]] at hnext
      · have hnext := ih hrest
        rwa [← show taken (x :: xs) = taken xs by simp [taken, hslot]] at hnext

theorem Numbered.none_of_head (h : Numbered slot (x :: xs)) (hx : x.1.isPlaceholder = false) :
    x.2 = none := by
  rcases h.cons_cases with ⟨hparameter, -⟩ | ⟨hnone, -⟩
  · rw [hx] at hparameter
    cases hparameter
  · exact hnone

/-- What stands before something that is no point is numbered by itself. -/
theorem Numbered.left (h : Numbered slot (xs ++ ys)) (hys : Token.beforePeriod ys = false) :
    Numbered slot xs := by
  induction xs generalizing slot with
  | nil => trivial
  | cons x xs ih =>
      have hnext : Token.beforePeriod (xs ++ ys) = Token.beforePeriod xs := by
        cases xs with
        | nil => exact hys
        | cons y xs => rfl
      rw [List.cons_append, Numbered, hnext] at h
      rw [Numbered]
      split at h
      · next hvalue =>
          rw [if_pos hvalue]
          exact ⟨h.1, ih h.2⟩
      · next hother =>
          rw [if_neg hother]
          exact ⟨h.1, ih h.2⟩

/-- Only parameters have slots, which are those that the list takes. -/
theorem Numbered.of_mem (h : Numbered slot xs) {k : Nat} (hx : x ∈ xs) (hk : x.2 = some k) :
    x.1.isPlaceholder = true ∧ slot ≤ k ∧ k < slot + taken xs := by
  induction xs generalizing slot with
  | nil => cases hx
  | cons y xs ih =>
      rcases h.cons_cases with ⟨hparameter, -, hslot, hrest⟩ | ⟨hslot, -, hrest⟩
      · have hcount : taken (y :: xs) = taken xs + 1 := by simp [taken, hslot]
        rcases List.mem_cons.mp hx with rfl | hx
        · obtain rfl : k = slot := Option.some.inj (hk.symm.trans hslot)
          exact ⟨hparameter, Nat.le_refl k, by omega⟩
        · obtain ⟨hparameter, hlow, hhigh⟩ := ih hrest hx
          exact ⟨hparameter, by omega, by omega⟩
      · have hcount : taken (y :: xs) = taken xs := by simp [taken, hslot]
        rcases List.mem_cons.mp hx with rfl | hx
        · rw [hslot] at hk
          cases hk
        · rw [hcount]
          exact ih hrest hx

end Numbered

/-! ## Tokens with literals -/

namespace Filling

variable {f : Filling} {x : Token × Option Nat} {xs ys : List (Token × Option Nat)}

section Fill

variable {α β : Type} {kept : α → List β} {written : Literal → List β}

@[simp] theorem fill_nil : f.fill kept written [] = [] := rfl

@[simp] theorem fill_append (items others : List (α × Option Nat)) :
    f.fill kept written (items ++ others) =
      f.fill kept written items ++ f.fill kept written others :=
  List.flatMap_append

theorem fill_cons_of_some {item : α × Option Nat} {l : Literal} (h : item.2.bind f = some l)
    (items : List (α × Option Nat)) :
    f.fill kept written (item :: items) = written l ++ f.fill kept written items := by
  rw [fill, List.flatMap_cons, h]
  rfl

theorem fill_cons_of_none {item : α × Option Nat} (h : item.2.bind f = none)
    (items : List (α × Option Nat)) :
    f.fill kept written (item :: items) = kept item.1 ++ f.fill kept written items := by
  rw [fill, List.flatMap_cons, h]
  rfl

end Fill

@[simp] theorem tokens_nil : f.tokens [] = [] := rfl

@[simp] theorem tokens_append (xs ys : List (Token × Option Nat)) :
    f.tokens (xs ++ ys) = f.tokens xs ++ f.tokens ys :=
  fill_append xs ys

theorem tokens_cons_of_some {l : Literal} (h : x.2.bind f = some l)
    (xs : List (Token × Option Nat)) : f.tokens (x :: xs) = l.tokens ++ f.tokens xs :=
  fill_cons_of_some h xs

theorem tokens_cons_of_none (h : x.2.bind f = none) (xs : List (Token × Option Nat)) :
    f.tokens (x :: xs) = x.1 :: f.tokens xs :=
  fill_cons_of_none h xs

/-- No literal is written into the list. -/
def Spares (f : Filling) (xs : List (Token × Option Nat)) : Prop :=
  ∀ x ∈ xs, x.2.bind f = none

theorem Spares.tokens_eq (h : f.Spares xs) : f.tokens xs = xs.map Prod.fst := by
  induction xs with
  | nil => rfl
  | cons x xs ih =>
      rw [tokens_cons_of_none (h x List.mem_cons_self),
        ih fun y hy => h y (List.mem_cons_of_mem x hy)]
      rfl

theorem spares_of_none (h : ∀ x ∈ xs, x.2 = none) : f.Spares xs := by
  intro x hx
  rw [h x hx]
  rfl

theorem Spares.cons (hx : x.2 = none) (h : f.Spares xs) : f.Spares (x :: xs) := by
  intro y hy
  rcases List.mem_cons.mp hy with rfl | hy
  · rw [hx]
    rfl
  · exact h y hy

/-- Literals with a spelling are written in the place of parameters. -/
def Suits (f : Filling) (xs : List (Token × Option Nat)) : Prop :=
  ∀ x ∈ xs, ∀ l, x.2.bind f = some l → x.1.isPlaceholder = true ∧ l.isCanonical = true

theorem suits_of_numbered {slot : Nat} (h : Numbered slot xs)
    (hf : ∀ k l, f k = some l → l.isCanonical = true) : f.Suits xs := by
  intro x hx l hl
  obtain ⟨k, hk, hfk⟩ := Option.bind_eq_some_iff.mp hl
  exact ⟨(h.of_mem hx hk).1, hf k l hfk⟩

theorem Suits.head (h : f.Suits (x :: xs)) {l : Literal} (hl : x.2.bind f = some l) :
    x.1.isPlaceholder = true ∧ l.isCanonical = true :=
  h x List.mem_cons_self l hl

theorem Suits.tail (h : f.Suits (x :: xs)) : f.Suits xs :=
  fun y hy => h y (List.mem_cons_of_mem x hy)

theorem Suits.right (h : f.Suits (xs ++ ys)) : f.Suits ys :=
  fun y hy => h y (List.mem_append_right xs hy)

theorem Suits.left (h : f.Suits (xs ++ ys)) : f.Suits xs :=
  fun y hy => h y (List.mem_append_left ys hy)

/-- A token that is no parameter stays. -/
theorem Suits.bind_eq_none (h : f.Suits (x :: xs)) (hx : x.1.isPlaceholder = false) :
    x.2.bind f = none := by
  cases hl : x.2.bind f with
  | none => rfl
  | some l => exact absurd (h.head hl).1 (by simp [hx])

end Filling

theorem Literal.tokens_ne_nil (l : Literal) : l.tokens ≠ [] :=
  operand_tokens_ne_nil (.literal l)

theorem Literal.flat_tokens {l : Literal} (h : l.isCanonical = true) : Flat l.tokens :=
  flat_of_inert fun t ht => (inert_literal h t ht).1

theorem Token.nest_of_isPlaceholder {t : Token} (h : t.isPlaceholder = true) (depth : Nat) :
    nest depth t = depth := by
  cases t with
  | placeholder label => rfl
  | _ => cases h

theorem Token.not_isKeyword_of_isPlaceholder {t : Token} (h : t.isPlaceholder = true)
    (keyword : String) : t.isKeyword keyword = false := by
  cases t with
  | placeholder label => rfl
  | _ => cases h

theorem Token.ne_mark_of_isPlaceholder {t : Token} (h : t.isPlaceholder = true) (m : Mark) :
    t ≠ .mark m := by
  rintro rfl
  cases h

/-! ## Cutting -/

/-- A list with commas between its items. -/
inductive Listing : List (Token × Option Nat) → List (List (Token × Option Nat)) → Prop where
  | nil : Listing [] []
  | last (xs : List (Token × Option Nat)) : Listing xs [xs]
  | more {x : Token × Option Nat} {xs ys : List (Token × Option Nat)}
    {items : List (List (Token × Option Nat))} :
    x.1 = .mark .comma → Listing ys items → Listing (xs ++ x :: ys) (xs :: items)

theorem Listing.head_none {xs : List (Token × Option Nat)}
    {items : List (List (Token × Option Nat))} (h : Listing xs items)
    (hitems : ∀ item ∈ items, ∃ x rest, item = x :: rest ∧ x.2 = none) :
    ∀ x ∈ xs.head?, x.2 = none := by
  cases h with
  | nil => simp
  | last =>
      obtain ⟨x, rest, rfl, hx⟩ := hitems xs List.mem_cons_self
      rintro _ ⟨⟩
      exact hx
  | @more comma item rest items _ _ =>
      obtain ⟨x, rest, rfl, hx⟩ := hitems item List.mem_cons_self
      rintro _ ⟨⟩
      exact hx

namespace Filling

variable {f : Filling} {x : Token × Option Nat} {xs ys : List (Token × Option Nat)}

theorem tokens_cons_ne_nil (x : Token × Option Nat) (xs : List (Token × Option Nat)) :
    f.tokens (x :: xs) ≠ [] := by
  cases hl : x.2.bind f with
  | none =>
      rw [tokens_cons_of_none hl]
      exact List.cons_ne_nil _ _
  | some l =>
      rw [tokens_cons_of_some hl]
      exact List.append_ne_nil_of_left_ne_nil l.tokens_ne_nil _

/-- A list with literals is cut at the commas at which it was cut without them. -/
theorem exists_splitFrom (h : f.Suits xs) (depth : Nat) (current : List (Token × Option Nat)) :
    ∃ items, splitFrom (· = .mark .comma) depth (current.map Prod.fst) (xs.map Prod.fst) =
        items.map (List.map Prod.fst) ∧
      splitFrom (· = .mark .comma) depth (f.tokens current) (f.tokens xs) =
        items.map f.tokens ∧
      Listing (current ++ xs) items := by
  induction xs generalizing depth current with
  | nil =>
      cases current with
      | nil => exact ⟨[], rfl, rfl, .nil⟩
      | cons y ys =>
          refine ⟨[y :: ys], rfl, ?_, by simpa using Listing.last (y :: ys)⟩
          rw [tokens_nil, splitFrom, if_neg (tokens_cons_ne_nil y ys)]
          rfl
  | cons x xs ih =>
      have hnext := ih h.tail
      cases hl : x.2.bind f with
      | some l =>
          obtain ⟨hparameter, hcanonical⟩ := h.head hl
          have hcomma := Token.ne_mark_of_isPlaceholder hparameter .comma
          obtain ⟨items, hold, hnew, hlisting⟩ := hnext depth (current ++ [x])
          refine ⟨items, ?_, ?_, by simpa using hlisting⟩
          · rw [List.map_append] at hold
            rw [List.map_cons, splitFrom, if_neg (by simp [hcomma]),
              Token.nest_of_isPlaceholder hparameter]
            exact hold
          · have hliteral : ∀ t ∈ Token.outside depth l.tokens,
                decide (t = Token.mark .comma) = false := by
              intro t ht
              exact decide_eq_false (inert_literal hcanonical t (Token.mem_of_outside ht)).2
            rw [tokens_append, tokens_cons_of_some hl, tokens_nil, List.append_nil] at hnew
            rw [tokens_cons_of_some hl, Token.splitFrom_append hliteral,
              (Literal.flat_tokens hcanonical).depthFrom_eq]
            exact hnew
      | none =>
          rw [tokens_cons_of_none hl, List.map_cons, splitFrom, splitFrom]
          split
          · next hcut =>
              rw [Bool.and_eq_true, decide_eq_true_eq, decide_eq_true_eq] at hcut
              obtain ⟨items, hold, hnew, hlisting⟩ := hnext 0 []
              refine ⟨current :: items, ?_, ?_, .more hcut.2 hlisting⟩
              · rw [List.map_cons, ← hold]
                rfl
              · rw [List.map_cons, ← hnew]
                rfl
          · obtain ⟨items, hold, hnew, hlisting⟩ := hnext (nest depth x.1) (current ++ [x])
            rw [List.map_append] at hold
            rw [tokens_append, tokens_cons_of_none hl] at hnew
            exact ⟨items, hold, hnew, by simpa using hlisting⟩

theorem exists_splitAtCommas (h : f.Suits xs) :
    ∃ items, splitAtCommas (xs.map Prod.fst) = items.map (List.map Prod.fst) ∧
      splitAtCommas (f.tokens xs) = items.map f.tokens ∧ Listing xs items :=
  exists_splitFrom h 0 []

/-- A group with literals ends where it ended without them. -/
theorem exists_closeGroup {depth : Nat} {inner rest : List Token} (h : f.Suits xs)
    (hclose : closeGroup depth (xs.map Prod.fst) = some (inner, rest)) :
    ∃ ys z zs, xs = ys ++ z :: zs ∧ inner = ys.map Prod.fst ∧ z.1 = .mark .rightParen ∧
      rest = zs.map Prod.fst ∧
      closeGroup depth (f.tokens xs) = some (f.tokens ys, f.tokens zs) := by
  induction xs generalizing depth inner with
  | nil => cases hclose
  | cons x xs ih =>
      rw [List.map_cons, closeGroup] at hclose
      split at hclose
      · next hend =>
          cases hclose
          have hstays : x.2.bind f = none := h.bind_eq_none (by rw [hend.1]; rfl)
          refine ⟨[], x, xs, rfl, rfl, hend.1, rfl, ?_⟩
          rw [tokens_cons_of_none hstays, closeGroup, if_pos hend, tokens_nil]
      · next hgoes =>
          obtain ⟨⟨front, back⟩, hfront, hpair⟩ := Option.map_eq_some_iff.mp hclose
          cases hpair
          obtain ⟨ys, z, zs, rfl, rfl, hz, rfl, hnew⟩ := ih h.tail hfront
          refine ⟨x :: ys, z, zs, rfl, rfl, hz, rfl, ?_⟩
          cases hl : x.2.bind f with
          | none =>
              rw [tokens_cons_of_none hl, tokens_cons_of_none hl, closeGroup, if_neg hgoes, hnew]
              rfl
          | some l =>
              obtain ⟨hparameter, hcanonical⟩ := h.head hl
              rw [Token.nest_of_isPlaceholder hparameter] at hnew
              rw [tokens_cons_of_some hl, tokens_cons_of_some hl,
                (Literal.flat_tokens hcanonical).closeGroup_append, hnew]
              rfl

/-- What is taken up to a stopping token is taken with its literals. -/
theorem exists_takeUntil {stop : Token → Bool} (hstop : ∀ t, t.isInert = true → stop t = false)
    (hparameter : ∀ t, t.isPlaceholder = true → stop t = false) (h : f.Suits xs) (depth : Nat) :
    ∃ ys zs, xs = ys ++ zs ∧
      takeUntil stop depth (xs.map Prod.fst) = (ys.map Prod.fst, zs.map Prod.fst) ∧
      takeUntil stop depth (f.tokens xs) = (f.tokens ys, f.tokens zs) ∧
      ∀ z ∈ zs.head?, z.1 = .mark .semicolon ∨ stop z.1 = true := by
  induction xs generalizing depth with
  | nil => exact ⟨[], [], rfl, rfl, rfl, by simp⟩
  | cons x xs ih =>
      have hnext := ih h.tail
      cases hl : x.2.bind f with
      | some l =>
          obtain ⟨hplaceholder, hcanonical⟩ := h.head hl
          have hgoes : ¬ (depth = 0 && (x.1 = .mark .semicolon || stop x.1)) = true := by
            simp [Token.ne_mark_of_isPlaceholder hplaceholder, hparameter x.1 hplaceholder]
          have hliteral : ∀ t ∈ Token.outside depth l.tokens,
              t ≠ .mark .semicolon ∧ stop t = false := by
            intro t ht
            have hinert := (inert_literal hcanonical t (Token.mem_of_outside ht)).1
            exact ⟨((isInert_iff t).mp hinert).1.2.2, hstop t hinert⟩
          obtain ⟨ys, zs, rfl, hold, hnew, hends⟩ := hnext depth
          refine ⟨x :: ys, zs, rfl, ?_, ?_, hends⟩
          · rw [List.map_cons, takeUntil, if_neg hgoes, Token.nest_of_isPlaceholder hplaceholder,
              hold]
            rfl
          · rw [tokens_cons_of_some hl, tokens_cons_of_some hl,
              Token.takeUntil_of_outside hliteral, (Literal.flat_tokens hcanonical).depthFrom_eq,
              hnew]
      | none =>
          rw [tokens_cons_of_none hl, List.map_cons, takeUntil, takeUntil]
          split
          · next hcut =>
              rw [Bool.and_eq_true, Bool.or_eq_true, decide_eq_true_eq, decide_eq_true_eq] at hcut
              refine ⟨[], x :: xs, rfl, rfl, by rw [tokens_nil, tokens_cons_of_none hl], ?_⟩
              rintro z ⟨⟩
              exact hcut.2
          · obtain ⟨ys, zs, rfl, hold, hnew, hends⟩ := hnext (nest depth x.1)
            refine ⟨x :: ys, zs, rfl, by rw [hold]; rfl, ?_, hends⟩
            rw [tokens_cons_of_none hl, hnew]

end Filling

end MiniSql
