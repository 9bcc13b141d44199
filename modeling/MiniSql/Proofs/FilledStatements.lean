import MiniSql.Proofs.FilledTokens
import MiniSql.Proofs.Writes

/-!
# Statements with literals among their tokens

A value that is one parameter is read as its literal, every other value as before, and from one
value to the next the slot goes on by one unless a literal is written. All literals stand before
the clause, whose tests keep their order. In a statement that is read a literal stands between a
parenthesis, a comma or an equality sign and a comma, a parenthesis, a semicolon, `WHERE` or the
end.

**Results.**
* `Operand.rereads`, `Assignment.rereads`: one value with or without its literal.
* `Listing.rereads`: a list of them.
* `Statement.ofTokens_filled`: an insertion or update with literals among its values.
-/

namespace MiniSql

open Token (splitAtCommas)

/-! ## Values -/

section Read

variable {f : Filling} {slot : Nat} {xs ys : List (Token × Option Nat)}

theorem Numbered.none_of_count (h : Numbered slot xs)
    (hcount : Token.placeholderCount (xs.map Prod.fst) = 0) : ∀ x ∈ xs, x.2 = none := by
  intro x hx
  rw [Token.placeholderCount, List.countP_eq_zero] at hcount
  cases hk : x.2 with
  | none => rfl
  | some k => exact absurd (h.of_mem hx hk).1 (hcount x.1 (List.mem_map_of_mem hx))

/-- A column takes no slot, not even with a parameter as its qualifier. -/
theorem Numbered.none_of_columnName {column : String} (h : Numbered slot xs)
    (hcolumn : columnName (xs.map Prod.fst) = .ok column) : ∀ x ∈ xs, x.2 = none := by
  rcases columnName_eq_ok hcolumn with ⟨quote, hname⟩ | ⟨qualifier, quote, hname⟩
  · exact h.none_of_count (by rw [hname]; rfl)
  · obtain ⟨x, rest, rfl, rfl, hrest⟩ := List.map_eq_cons_iff.mp hname
    have hpoint : Token.beforePeriod rest = true := by
      rw [Token.beforePeriod, hrest]
      rfl
    rcases h.cons_cases with ⟨-, hperiod, -⟩ | ⟨hx, -, h⟩
    · rw [hpoint] at hperiod
      cases hperiod
    · exact List.forall_mem_cons.mpr ⟨hx, h.none_of_count (by rw [hrest]; rfl)⟩

/-- A token that is neither a parameter nor a point takes no slot, and what is before it and
what is after it are numbered by themselves. -/
theorem Numbered.cut {x : Token × Option Nat} (h : Numbered slot (xs ++ x :: ys))
    (hx : x.1.isPlaceholder = false) (hperiod : x.1 ≠ .mark .period) :
    Numbered slot xs ∧ x.2 = none ∧ Numbered (slot + taken xs) ys ∧
      taken (xs ++ x :: ys) = taken xs + taken ys := by
  have hafter : Token.beforePeriod (x :: ys) = false := by simp [Token.beforePeriod, hperiod]
  rcases h.right.cons_cases with ⟨hparameter, -⟩ | ⟨hslot, -, hys⟩
  · rw [hx] at hparameter
    cases hparameter
  · exact ⟨h.left hafter, hslot, hys, by simp [taken, hslot]⟩

/-- What a filling makes of an item that is read as `x`, if the slots from `slot` to `next` are
those of the item: the item with its literals is read as `x` with them. -/
structure Filling.Rereads {α : Type} (f : Filling)
    (readItem : Nat → List Token → Except ParseError (α × Nat)) (fill : α → α)
    (slots : α → List Nat) (slot : Nat) (item : List (Token × Option Nat)) (x : α) (next : Nat) :
    Prop where
  read : readItem (f.slot slot) (f.tokens item) = .ok (fill x, f.slot next)
  next_eq : next = slot + taken item
  lt_next : ∀ k ∈ slots x, k < next

/-- A literal stands alone in its item or behind an equality sign. -/
def Filling.Places (f : Filling) (item : List (Token × Option Nat)) : Prop :=
  ∃ front value, item = front ++ value ∧ f.Spares front ∧
    (∀ x ∈ front.getLast?, x.1.isEquality = true) ∧ (f.Spares value ∨ ∃ x, value = [x])

theorem Operand.rereads (hf : ∀ k l, f k = some l → l.isCanonical = true)
    (hnumbered : Numbered slot xs) {v : Operand} {next : Nat}
    (h : Operand.read slot (xs.map Prod.fst) = .ok (v, next)) :
    f.Rereads Operand.read (Operand.fill f) (fun v => v.slot?.toList) slot xs v next ∧
      (f.Spares xs ∨ ∃ x, xs = [x]) := by
  rcases Operand.read_eq_ok h with ⟨label, hitem, rfl, rfl⟩ | ⟨l, rfl, rfl, hcount, hread⟩
  · obtain ⟨x, rest, rfl, hx, hrest⟩ := List.map_eq_cons_iff.mp hitem
    obtain rfl : rest = [] := List.map_eq_nil_iff.mp hrest
    have hk : x.2 = some slot := by
      rcases hnumbered.cons_cases with ⟨-, -, hk, -⟩ | ⟨-, hperiod, -⟩
      · exact hk
      · cases hperiod (by rw [hx]; rfl)
    refine ⟨⟨?_, by simp [taken, hk], by simp [Operand.slot?]⟩, Or.inr ⟨x, rfl⟩⟩
    rw [Operand.fill]
    cases hl : f slot with
    | none =>
        have hstays : x.2.bind f = none := by rw [hk]; exact hl
        rw [Filling.tokens_cons_of_none hstays, hx, Filling.slot_succ_of_none hl]
        rfl
    | some l =>
        have hfilled : x.2.bind f = some l := by rw [hk]; exact hl
        rw [Filling.tokens_cons_of_some hfilled, Filling.slot_succ_of_some hl, Filling.tokens_nil,
          List.append_nil, read_literal (hf slot l hl)]
        rfl
  · have hnone := hnumbered.none_of_count hcount
    have hspares : f.Spares xs := Filling.spares_of_none hnone
    refine ⟨⟨?_, by rw [taken_eq_zero hnone]; rfl, by simp [Operand.slot?]⟩, Or.inl hspares⟩
    rw [hspares.tokens_eq, hread]
    rfl

theorem Parser.assignment_cut {column value : List Token} {equality : Token} {name : String}
    {v : Operand} {next : Nat} (hfree : ∀ t ∈ column, t.isEquality = false)
    (hequality : equality.isEquality = true) (hcolumn : columnName column = .ok name)
    (hvalue : Operand.read slot value = .ok (v, next)) :
    assignment slot (column ++ equality :: value) = .ok (⟨name, v⟩, next) := by
  have hfree : ∀ t ∈ column, (!t.isEquality) = true := fun t ht => by rw [hfree t ht]; rfl
  have htake : (column ++ equality :: value).takeWhile (fun t => !t.isEquality) = column := by
    simp [List.takeWhile_append_of_pos hfree, hequality]
  have hdrop : (column ++ equality :: value).dropWhile (fun t => !t.isEquality) =
      equality :: value := by
    simp [List.dropWhile_append_of_pos hfree, hequality]
  rw [assignment, htake, hdrop, hcolumn]
  simp only [bind, Except.bind, hvalue]

theorem Assignment.rereads (hf : ∀ k l, f k = some l → l.isCanonical = true)
    (hnumbered : Numbered slot xs) {a : Assignment} {next : Nat}
    (h : Parser.assignment slot (xs.map Prod.fst) = .ok (a, next)) :
    f.Rereads Parser.assignment (Assignment.fill f) (fun a => a.value.slot?.toList) slot xs a
        next ∧
      f.Places xs ∧ ∃ x rest, xs = x :: rest ∧ x.2 = none := by
  obtain ⟨column, equality, value, hitem, hfree, hequality, hcolumn, hvalue⟩ :=
    Parser.assignment_eq_ok h
  obtain ⟨front, back, rfl, rfl, hback⟩ := List.map_eq_append_iff.mp hitem
  obtain ⟨sign, after, rfl, rfl, rfl⟩ := List.map_eq_cons_iff.mp hback
  have hsign : sign.1.isPlaceholder = false := by
    cases hsign : sign.1 with
    | placeholder label => rw [hsign] at hequality; cases hequality
    | _ => rfl
  have hperiod : sign.1 ≠ .mark .period := by
    intro hperiod
    rw [hperiod] at hequality
    cases hequality
  obtain ⟨hfront, hnone, hafter, htaken⟩ := hnumbered.cut hsign hperiod
  have hcolumnNone := hfront.none_of_columnName hcolumn
  have hzero := taken_eq_zero hcolumnNone
  rw [hzero, Nat.add_zero] at hafter
  obtain ⟨hreads, hplaces⟩ := Operand.rereads hf hafter hvalue
  have hsignStays : sign.2.bind f = none := by rw [hnone]; rfl
  refine ⟨⟨?_, ?_, hreads.lt_next⟩, ⟨front ++ [sign], after, by simp, ?_, ?_, hplaces⟩, ?_⟩
  · rw [Filling.tokens_append, (Filling.spares_of_none hcolumnNone).tokens_eq,
      Filling.tokens_cons_of_none hsignStays]
    exact Parser.assignment_cut hfree hequality hcolumn hreads.read
  · rw [hreads.next_eq, htaken, hzero, Nat.zero_add]
  · intro x hx
    rcases List.mem_append.mp hx with hx | hx
    · exact Filling.spares_of_none hcolumnNone x hx
    · rw [List.mem_singleton.mp hx, hsignStays]
  · simpa using hequality
  · cases front with
    | nil => cases hcolumn
    | cons x rest => exact ⟨x, rest ++ sign :: after, rfl, hcolumnNone x List.mem_cons_self⟩

/-- A list whose items are read with their literals is read with them. -/
theorem Listing.rereads {α : Type} {readItem : Nat → List Token → Except ParseError (α × Nat)}
    {readAll : Nat → List (List Token) → Except ParseError (List α × Nat)}
    (hnil : ∀ slot, readAll slot [] = .ok ([], slot))
    (hcons : ∀ slot p ps, readAll slot (p :: ps) = (do
      let (x, slot) ← readItem slot p
      let (xs, slot) ← readAll slot ps
      .ok (x :: xs, slot)))
    {fill : α → α} {slots : α → List Nat} {At : List (Token × Option Nat) → Prop}
    (hitem : ∀ slot item x next, Numbered slot item →
      readItem slot (item.map Prod.fst) = .ok (x, next) →
        f.Rereads readItem fill slots slot item x next ∧ At item)
    {items : List (List (Token × Option Nat))} (hlisting : Listing xs items)
    (hnumbered : Numbered slot xs) {vs : List α} {next : Nat}
    (h : readAll slot (items.map (List.map Prod.fst)) = .ok (vs, next)) :
    readAll (f.slot slot) (items.map f.tokens) = .ok (vs.map fill, f.slot next) ∧
      next = slot + taken xs ∧ (∀ v ∈ vs, ∀ k ∈ slots v, k < next) ∧
      ∀ item ∈ items, At item := by
  have hstep : ∀ {slot item x next}, f.Rereads readItem fill slots slot item x next →
      ∀ ps, readAll (f.slot slot) (f.tokens item :: ps) =
        (readAll (f.slot next) ps).map fun (xs, slot) => (fill x :: xs, slot) := by
    intro slot item x next hreads ps
    rw [hcons, hreads.read]
    simp only [bind, Except.bind]
    cases readAll (f.slot next) ps <;> rfl
  induction hlisting generalizing slot vs next with
  | nil =>
      rw [List.map_nil, hnil] at h
      cases h
      exact ⟨hnil _, rfl, by simp, by simp⟩
  | last item =>
      rw [List.map_cons, List.map_nil, hcons] at h
      obtain ⟨⟨x, after⟩, hx, h⟩ := exists_of_bind_ok h
      obtain ⟨⟨ys, last⟩, hys, h⟩ := exists_of_bind_ok h
      rw [hnil] at hys
      cases hys
      cases h
      obtain ⟨hreads, hat⟩ := hitem slot item x _ hnumbered hx
      refine ⟨?_, hreads.next_eq, by simpa using hreads.lt_next, by simpa using hat⟩
      rw [List.map_cons, hstep hreads, List.map_nil, hnil]
      rfl
  | @more comma item rest items hcomma _ ih =>
      rw [List.map_cons, hcons] at h
      obtain ⟨⟨x, after⟩, hx, h⟩ := exists_of_bind_ok h
      obtain ⟨⟨ys, last⟩, hys, h⟩ := exists_of_bind_ok h
      cases h
      obtain ⟨hfront, -, hrest, htaken⟩ :=
        hnumbered.cut (by rw [hcomma]; rfl) (by rw [hcomma]; simp)
      obtain ⟨hreads, hat⟩ := hitem slot item x after hfront hx
      rw [← hreads.next_eq] at hrest
      obtain ⟨hothers, hlast, hslots, hats⟩ := ih hrest hys
      refine ⟨?_, ?_, ?_, List.forall_mem_cons.mpr ⟨hat, hats⟩⟩
      · rw [List.map_cons, hstep hreads, hothers]
        rfl
      · rw [hlast, hreads.next_eq, htaken, Nat.add_assoc]
      · refine List.forall_mem_cons.mpr ⟨fun k hk => ?_, hslots⟩
        have := hreads.lt_next k hk
        omega

theorem Operand.readAll_filled (hf : ∀ k l, f k = some l → l.isCanonical = true)
    {items : List (List (Token × Option Nat))} (hlisting : Listing xs items)
    (hnumbered : Numbered slot xs) {vs : List Operand} {next : Nat}
    (h : Operand.readAll slot (items.map (List.map Prod.fst)) = .ok (vs, next)) :
    Operand.readAll (f.slot slot) (items.map f.tokens) =
        .ok (vs.map (Operand.fill f), f.slot next) ∧
      next = slot + taken xs ∧ (∀ v ∈ vs, ∀ k ∈ v.slot?.toList, k < next) ∧
      ∀ item ∈ items, f.Spares item ∨ ∃ x, item = [x] :=
  hlisting.rereads (fun _ => rfl) (fun _ _ _ => rfl)
    (fun _ _ _ _ hitem hread => Operand.rereads hf hitem hread) hnumbered h

theorem Parser.assignments_filled (hf : ∀ k l, f k = some l → l.isCanonical = true)
    {items : List (List (Token × Option Nat))} (hlisting : Listing xs items)
    (hnumbered : Numbered slot xs) {changes : List Assignment} {next : Nat}
    (h : assignments slot (items.map (List.map Prod.fst)) = .ok (changes, next)) :
    assignments (f.slot slot) (items.map f.tokens) =
        .ok (changes.map (Assignment.fill f), f.slot next) ∧
      next = slot + taken xs ∧ (∀ a ∈ changes, ∀ k ∈ a.value.slot?.toList, k < next) ∧
      ∀ item ∈ items, f.Places item ∧ ∃ x rest, item = x :: rest ∧ x.2 = none :=
  hlisting.rereads (fun _ => rfl) (fun _ _ _ => rfl)
    (fun _ _ _ _ hitem hread => Assignment.rereads hf hitem hread) hnumbered h

end Read

/-! ## Clauses -/

theorem Conjunct.fill_shift {f : Filling} {slot : Nat} (hf : ∀ k, slot ≤ k → f k = none)
    (c : Conjunct) : (c.shift slot).fill f = c.shift (f.slot slot) := by
  cases c with
  | other text => rfl
  | equals column k => rw [shift, shift, fill, Filling.slot_add hf]

theorem Predicate.ofTokens_filled {f : Filling} {slot : Nat} (hf : ∀ k, slot ≤ k → f k = none)
    (clause : List Token) :
    (ofTokens (f.slot slot) clause).1 = (ofTokens slot clause).1.fill f := by
  rw [ofTokens_shift, ofTokens_shift slot, fill, shift, shift, List.map_map]
  exact congrArg Predicate.mk (List.map_congr_left fun c _ => (c.fill_shift hf).symm)

/-- A clause behind the literals is read with the slots that are left. -/
theorem Predicate.read_filled {f : Filling} {slot : Nat} (hf : ∀ k, slot ≤ k → f k = none)
    {clause rest : List Token} {predicate : Option Predicate}
    (h : read slot clause = .ok (predicate, rest)) :
    read (f.slot slot) clause = .ok (predicate.map (fill f), rest) := by
  unfold read at h ⊢
  split at h
  · cases h
    rfl
  · split at h
    · next hwhere =>
        simp only at h
        split at h
        · cases h
        · next hne =>
            cases h
            simp only [if_pos hwhere, if_neg hne, ofTokens_filled hf, Option.map_some]
    · next hwhere =>
        cases h
        rw [if_neg hwhere]
        rfl

/-- The tests of a clause have the slots behind those before it. -/
theorem Predicate.le_slots {slot k : Nat} {clause rest : List Token}
    {predicate : Option Predicate} (h : read slot clause = .ok (predicate, rest))
    (hk : k ∈ slots predicate) : slot ≤ k := by
  cases predicate with
  | none => cases hk
  | some p =>
      obtain ⟨_, _, q, -, -, rfl⟩ := read_shifted h
      obtain ⟨c, hc, hslot⟩ := List.mem_filterMap.mp hk
      obtain ⟨c, -, rfl⟩ := List.mem_map.mp hc
      cases c with
      | other text => cases hslot
      | equals column j =>
          obtain rfl : slot + j = k := Option.some.inj hslot
          exact Nat.le_add_right slot j

/-! ## Literals and their neighbours -/

/-- A value may stand directly behind the token. -/
def Token.opensValue (t : Token) : Bool :=
  t = .mark .leftParen || t = .mark .comma || t.isEquality

/-- A value may stand directly before the token. -/
def Token.closesValue (t : Token) : Bool :=
  t ∈ [.mark .comma, .mark .rightParen, .mark .semicolon] || t.isKeyword "WHERE"

/-- Of two tokens in a row, a literal in the place of the one is framed by the other. -/
structure Filling.Framed (f : Filling) (x y : Token × Option Nat) : Prop where
  opens : (y.2.bind f).isSome = true → x.1.opensValue = true
  closes : (x.2.bind f).isSome = true → y.1.closesValue = true

theorem Token.not_beforePeriod_of_closesValue {xs : List (Token × Option Nat)}
    (h : ∀ x ∈ xs.head?, x.1.closesValue = true) : beforePeriod xs = false := by
  cases xs with
  | nil => rfl
  | cons x xs =>
      refine decide_eq_false fun hperiod => ?_
      have hx : x.1 = .mark .period := Option.some.inj hperiod
      have hcloses := h x rfl
      rw [hx] at hcloses
      cases hcloses

namespace Filling

variable {f : Filling} {x y : Token × Option Nat} {xs ys : List (Token × Option Nat)}

theorem framed_of_none (hx : x.2.bind f = none) (hy : y.2.bind f = none) : f.Framed x y :=
  ⟨fun h => by simp [hy] at h, fun h => by simp [hx] at h⟩

theorem Spares.isChain (h : f.Spares xs) : xs.IsChain f.Framed :=
  (List.pairwise_iff_forall_sublist.mpr fun {x y} hxy => by
    have hsubset := hxy.subset
    exact framed_of_none (h x (hsubset (by simp))) (h y (hsubset (by simp)))).isChain

theorem Spares.append_isChain (h : f.Spares xs) (hchain : ys.IsChain f.Framed)
    (hys : ∀ y ∈ ys.head?, y.2.bind f = none) : (xs ++ ys).IsChain f.Framed := by
  refine List.isChain_append.mpr ⟨h.isChain, hchain, fun x hx y hy => ?_⟩
  exact framed_of_none (h x (List.mem_of_getLast? hx)) (hys y hy)

/-- What stands behind an item that ends with a value. -/
def Closes (f : Filling) (ys : List (Token × Option Nat)) : Prop :=
  ys.IsChain f.Framed ∧ ∀ y ∈ ys.head?, y.2.bind f = none ∧ y.1.closesValue = true

theorem Places.append_isChain (h : f.Places xs) (hys : f.Closes ys) :
    (xs ++ ys).IsChain f.Framed := by
  obtain ⟨front, value, rfl, hfront, hlast, hvalue⟩ := h
  obtain ⟨hchain, hhead⟩ := hys
  rcases hvalue with hvalue | ⟨x, rfl⟩
  · have hall : f.Spares (front ++ value) := by
      intro x hx
      exact (List.mem_append.mp hx).elim (hfront x) (hvalue x)
    exact hall.append_isChain hchain fun y hy => (hhead y hy).1
  · have hx : (x :: ys).IsChain f.Framed := by
      refine List.isChain_cons.mpr ⟨fun y hy => ?_, hchain⟩
      exact ⟨fun hfilled => by simp [(hhead y hy).1] at hfilled, fun _ => (hhead y hy).2⟩
    rw [List.append_assoc]
    refine List.isChain_append.mpr ⟨hfront.isChain, hx, ?_⟩
    rintro y hy z ⟨⟩
    refine ⟨fun _ => ?_, fun hfilled => ?_⟩
    · simp [Token.opensValue, hlast y hy]
    · rw [hfront y (List.mem_of_getLast? hy)] at hfilled
      cases hfilled

/-- Every literal of a list stands between two tokens that frame it. -/
theorem isChain_of_listing {slot : Nat} {items : List (List (Token × Option Nat))}
    (hlisting : Listing xs items) (hnumbered : Numbered slot xs)
    (hplaces : ∀ item ∈ items, f.Places item) (hys : f.Closes ys) :
    (xs ++ ys).IsChain f.Framed := by
  induction hlisting generalizing slot with
  | nil => exact hys.1
  | last item => exact (hplaces item List.mem_cons_self).append_isChain hys
  | @more comma item rest items hcomma _ ih =>
      obtain ⟨-, hnone, hrest, -⟩ :=
        hnumbered.cut (by rw [hcomma]; rfl) (by rw [hcomma]; simp)
      have hstays : comma.2.bind f = none := by rw [hnone]; rfl
      have hchain := ih hrest fun item hitem => hplaces item (List.mem_cons_of_mem _ hitem)
      rw [List.append_assoc, List.cons_append]
      refine (hplaces item List.mem_cons_self).append_isChain ⟨?_, ?_⟩
      · refine List.isChain_cons.mpr ⟨fun y _ => ⟨fun _ => ?_, fun hfilled => ?_⟩, hchain⟩
        · rw [hcomma]
          rfl
        · rw [hstays] at hfilled
          cases hfilled
      · rintro y ⟨⟩
        exact ⟨hstays, by rw [hcomma]; rfl⟩

end Filling

/-! ## Readers of statements -/

section Skips

variable {f : Filling} {slot : Nat} {xs ys zs : List (Token × Option Nat)}

/-- A list goes on as another one, with no slot taken in between. -/
def Skips (xs ys : List (Token × Option Nat)) : Prop :=
  ∃ passed, xs = passed ++ ys ∧ ∀ x ∈ passed, x.2 = none

theorem Skips.refl (xs : List (Token × Option Nat)) : Skips xs xs :=
  ⟨[], rfl, by simp⟩

theorem Skips.trans (h : Skips xs ys) (h' : Skips ys zs) : Skips xs zs := by
  obtain ⟨passed, rfl, hnone⟩ := h
  obtain ⟨further, rfl, hnone'⟩ := h'
  refine ⟨passed ++ further, by simp, fun x hx => ?_⟩
  exact (List.mem_append.mp hx).elim (hnone x) (hnone' x)

theorem Skips.numbered (h : Skips xs ys) (hxs : Numbered slot xs) : Numbered slot ys := by
  obtain ⟨passed, rfl, hnone⟩ := h
  have hys := hxs.right
  rwa [taken_eq_zero hnone] at hys

theorem Skips.suits (h : Skips xs ys) (hxs : f.Suits xs) : f.Suits ys := by
  obtain ⟨passed, rfl, -⟩ := h
  exact hxs.right

end Skips

namespace Parser

variable {f : Filling} {slot : Nat} {xs : List (Token × Option Nat)} {rest : List Token}

/-- The tokens of literals. -/
theorem token_of_literal {l : Literal} (h : l.isCanonical = true) {t : Token}
    (ht : t ∈ l.tokens) :
    t = Token.bare "NULL" ∨ t = .mark .minus ∨ (∃ digits, t = .number digits false) ∨
      ∃ s, t = .text .plain s := by
  cases l with
  | null => exact Or.inl (List.mem_singleton.mp ht)
  | real x => cases h
  | text s => exact Or.inr (Or.inr (Or.inr ⟨s, List.mem_singleton.mp ht⟩))
  | integer i =>
      rw [Literal.tokens, List.mem_append] at ht
      rcases ht with ht | ht
      · split at ht
        · exact Or.inr (Or.inl (List.mem_singleton.mp ht))
        · cases ht
      · exact Or.inr (Or.inr (Or.inl ⟨_, List.mem_singleton.mp ht⟩))

/-- Marks but the minus begin a list with literals exactly if they began it without them. -/
theorem head?_tokens_iff (h : f.Suits xs) {m : Mark} (hm : m ≠ .minus) :
    (f.tokens xs).head? = some (.mark m) ↔ (xs.map Prod.fst).head? = some (.mark m) := by
  cases xs with
  | nil => rfl
  | cons x xs =>
      cases hl : x.2.bind f with
      | none => rw [Filling.tokens_cons_of_none hl]; rfl
      | some l =>
          obtain ⟨hparameter, hcanonical⟩ := h.head hl
          have hold : x.1 ≠ .mark m := Token.ne_mark_of_isPlaceholder hparameter m
          obtain ⟨t, ts, htokens⟩ := List.exists_cons_of_ne_nil l.tokens_ne_nil
          have hnew : t ≠ .mark m := by
            have ht : t ∈ l.tokens := by simp [htokens]
            rcases token_of_literal hcanonical ht with rfl | rfl | ⟨_, rfl⟩ | ⟨_, rfl⟩
            · simp [Token.bare]
            · simpa using hm.symm
            · simp
            · simp
          rw [Filling.tokens_cons_of_some hl, htokens]
          simp [hold, hnew]

theorem expect_skips {keyword : String} (hnumbered : Numbered slot xs)
    (h : expect keyword (xs.map Prod.fst) = .ok rest) :
    ∃ x ys, xs = x :: ys ∧ x.1.isKeyword keyword = true ∧ x.2 = none ∧ rest = ys.map Prod.fst ∧
      expect keyword (f.tokens xs) = .ok (f.tokens ys) := by
  obtain ⟨t, htokens, hkeyword⟩ := expect_eq_ok h
  obtain ⟨x, ys, rfl, rfl, rfl⟩ := List.map_eq_cons_iff.mp htokens
  have hnone := hnumbered.none_of_head (not_placeholder_of_isKeyword hkeyword)
  refine ⟨x, ys, rfl, hkeyword, hnone, rfl, ?_⟩
  rw [Filling.tokens_cons_of_none (by rw [hnone]; rfl), expect, if_pos hkeyword]

theorem identifier_skips {name : String} (hnumbered : Numbered slot xs)
    (h : identifier (xs.map Prod.fst) = .ok (name, rest)) :
    ∃ x ys, xs = x :: ys ∧ x.2 = none ∧ rest = ys.map Prod.fst ∧
      identifier (f.tokens xs) = .ok (name, f.tokens ys) := by
  obtain ⟨quote, htokens⟩ := identifier_eq_ok h
  obtain ⟨x, ys, rfl, hx, rfl⟩ := List.map_eq_cons_iff.mp htokens
  have hnone := hnumbered.none_of_head (by rw [hx]; rfl)
  refine ⟨x, ys, rfl, hnone, rfl, ?_⟩
  rw [Filling.tokens_cons_of_none (by rw [hnone]; rfl), hx]
  rfl

/-- A relation name is one word, or two with a point between them. -/
theorem relationName_of_identifier {name : String} {tokens after : List Token}
    (h : identifier tokens = .ok (name, after)) :
    relationName tokens =
      if after.head? = some (.mark .period) then identifier after.tail else .ok (name, after) := by
  rw [relationName, h]
  simp only [bind, Except.bind]
  split
  · rfl
  · next hnot =>
      rw [if_neg]
      intro hhead
      obtain ⟨ts, rfl⟩ := List.head?_eq_some_iff.mp hhead
      exact hnot ts rfl

theorem relationName_skips {name : String} (hnumbered : Numbered slot xs) (hsuits : f.Suits xs)
    (h : relationName (xs.map Prod.fst) = .ok (name, rest)) :
    ∃ ys, Skips xs ys ∧ (f.tokens xs).head? = (xs.map Prod.fst).head? ∧ rest = ys.map Prod.fst ∧
      relationName (f.tokens xs) = .ok (name, f.tokens ys) := by
  obtain ⟨⟨first, after⟩, hfirst, -⟩ := exists_of_bind_ok h
  obtain ⟨x, ys, rfl, hx, rfl, hnew⟩ := identifier_skips (f := f) hnumbered hfirst
  have hhead : (f.tokens (x :: ys)).head? = ((x :: ys).map Prod.fst).head? := by
    rw [Filling.tokens_cons_of_none (by rw [hx]; rfl)]
    rfl
  have hskips : Skips (x :: ys) ys := ⟨[x], rfl, by simpa using hx⟩
  have hys := hskips.suits hsuits
  rw [relationName_of_identifier hfirst] at h
  rw [relationName_of_identifier hnew]
  simp only [head?_tokens_iff hys (m := .period) (by decide)]
  split at h
  · next hperiod =>
      obtain ⟨ts, htokens⟩ := List.head?_eq_some_iff.mp hperiod
      obtain ⟨y, zs, rfl, hy, rfl⟩ := List.map_eq_cons_iff.mp htokens
      have hnone := (hskips.numbered hnumbered).none_of_head (by rw [hy]; rfl)
      have hpoint : Skips (y :: zs) zs := ⟨[y], rfl, by simpa using hnone⟩
      obtain ⟨z, after, rfl, hz, rfl, hlast⟩ :=
        identifier_skips (f := f) ((hskips.trans hpoint).numbered hnumbered) h
      have htail : (f.tokens (y :: z :: after)).tail = f.tokens (z :: after) := by
        rw [Filling.tokens_cons_of_none (by rw [hnone]; rfl)]
        rfl
      rw [if_pos hperiod, htail]
      exact ⟨after, (hskips.trans hpoint).trans ⟨[z], rfl, by simpa using hz⟩, hhead, rfl,
        hlast⟩
  · next hperiod =>
      cases h
      rw [if_neg hperiod]
      exact ⟨ys, hskips, hhead, rfl, rfl⟩

theorem group_skips {inner : List Token} (hnumbered : Numbered slot xs) (hsuits : f.Suits xs)
    (h : group (xs.map Prod.fst) = .ok (inner, rest)) :
    ∃ x ys z zs, xs = x :: ys ++ z :: zs ∧ x.1 = .mark .leftParen ∧ x.2 = none ∧
      z.1 = .mark .rightParen ∧ inner = ys.map Prod.fst ∧ rest = zs.map Prod.fst ∧
      group (f.tokens xs) = .ok (f.tokens ys, f.tokens zs) := by
  unfold group at h
  split at h
  · next tokens hopen =>
      obtain ⟨x, after, rfl, hx, rfl⟩ := List.map_eq_cons_iff.mp hopen
      split at h
      · next hclose =>
          cases h
          obtain ⟨ys, z, zs, rfl, rfl, hz, rfl, hnew⟩ :=
            Filling.exists_closeGroup hsuits.tail hclose
          have hnone := hnumbered.none_of_head (by rw [hx]; rfl)
          refine ⟨x, ys, z, zs, rfl, hx, hnone, hz, rfl, rfl, ?_⟩
          rw [Filling.tokens_cons_of_none (by rw [hnone]; rfl), hx, group, hnew]
      · cases h
  · cases h

/-- The columns of an insertion take no slots. -/
theorem none_of_columns {columns : List String} {items : List (List (Token × Option Nat))}
    (hlisting : Listing xs items) (hnumbered : Numbered slot xs)
    (h : (items.map (List.map Prod.fst)).mapM columnName = .ok columns) :
    (∀ x ∈ xs, x.2 = none) ∧ ∀ item ∈ items, ∀ x ∈ item, x.2 = none := by
  induction hlisting generalizing slot columns with
  | nil => simp
  | last item =>
      rw [List.map_cons, List.mapM_cons] at h
      obtain ⟨column, hcolumn, -⟩ := exists_of_bind_ok h
      have hnone := hnumbered.none_of_columnName hcolumn
      exact ⟨hnone, by simpa using hnone⟩
  | @more comma item rest items hcomma _ ih =>
      rw [List.map_cons, List.mapM_cons] at h
      obtain ⟨column, hcolumn, h⟩ := exists_of_bind_ok h
      obtain ⟨others, hothers, -⟩ := exists_of_bind_ok h
      obtain ⟨hitem, hnone, hrest, -⟩ :=
        hnumbered.cut (by rw [hcomma]; rfl) (by rw [hcomma]; simp)
      have hitem := hitem.none_of_columnName hcolumn
      obtain ⟨hxs, hitems⟩ := ih hrest hothers
      refine ⟨fun x hx => ?_, List.forall_mem_cons.mpr ⟨hitem, hitems⟩⟩
      rcases List.mem_append.mp hx with hx | hx
      · exact hitem x hx
      · rcases List.mem_cons.mp hx with rfl | hx
        · exact hnone
        · exact hxs x hx

theorem columnList_skips {list : Option (List Token)} {columns : List String}
    (hnumbered : Numbered slot xs) (hsuits : f.Suits xs)
    (h : optionalGroup (xs.map Prod.fst) = .ok (list, rest))
    (hcolumns : (splitAtCommas (list.getD [])).mapM columnName = .ok columns) :
    ∃ ys list', Skips xs ys ∧ rest = ys.map Prod.fst ∧
      optionalGroup (f.tokens xs) = .ok (list', f.tokens ys) ∧
      (splitAtCommas (list'.getD [])).mapM columnName = .ok columns := by
  unfold optionalGroup at h ⊢
  simp only [head?_tokens_iff hsuits (m := .leftParen) (by decide)]
  split at h
  · next hopen =>
      obtain ⟨⟨inner, after⟩, hgroup, hpair⟩ := exists_of_map_ok h
      cases hpair
      obtain ⟨x, ys, z, zs, rfl, -, hx, hz, rfl, rfl, hnew⟩ :=
        group_skips hnumbered hsuits hgroup
      have hopening : Skips (x :: ys ++ z :: zs) (ys ++ z :: zs) := ⟨[x], rfl, by simpa using hx⟩
      obtain ⟨hinside, hclosing, -⟩ :=
        (hopening.numbered hnumbered).cut (by rw [hz]; rfl) (by rw [hz]; simp)
      obtain ⟨items, hold, hsplit, hlisting⟩ := Filling.exists_splitAtCommas hsuits.left.tail
      rw [Option.getD_some, hold] at hcolumns
      obtain ⟨hnone, hitems⟩ := none_of_columns hlisting hinside hcolumns
      have hsame : items.map f.tokens = items.map (List.map Prod.fst) :=
        List.map_congr_left fun item hitem =>
          (Filling.spares_of_none (hitems item hitem)).tokens_eq
      refine ⟨zs, some (f.tokens ys), ⟨x :: ys ++ [z], by simp, ?_⟩, rfl, ?_, ?_⟩
      · intro y hy
        rcases List.mem_append.mp hy with hy | hy
        · rcases List.mem_cons.mp hy with rfl | hy
          · exact hx
          · exact hnone y hy
        · rw [List.mem_singleton.mp hy, hclosing]
      · rw [if_pos hopen, hnew]
        rfl
      · rw [Option.getD_some, hsplit, hsame, hcolumns]
  · next hopen =>
      cases h
      rw [if_neg hopen]
      exact ⟨xs, none, .refl xs, rfl, rfl, hcolumns⟩

/-- Behind the values no literal is written. -/
theorem spares_of_numbered {next : Nat} (hnumbered : Numbered next xs)
    (hnext : ∀ k, next ≤ k → f k = none) : f.Spares xs := by
  intro x hx
  cases hk : x.2 with
  | none => rfl
  | some k => exact hnext k (hnumbered.of_mem hx hk).2.1

theorem eq_none_of_slots {α : Type} {slot? : α → Option Nat} {vs : List α} {next : Nat}
    (hf : ∀ k l, f k = some l → k ∈ vs.filterMap slot?)
    (hnext : ∀ v ∈ vs, ∀ k ∈ (slot? v).toList, k < next) (k : Nat) (hk : next ≤ k) :
    f k = none := by
  cases hl : f k with
  | none => rfl
  | some l =>
      obtain ⟨v, hv, hslot⟩ := List.mem_filterMap.mp (hf k l hl)
      have := hnext v hv k (by simp [hslot])
      omega

/-- An insertion with literals among its values is read with them. -/
theorem insert_filled {s : Insert} (hnumbered : Numbered 0 xs)
    (hf : ∀ k l, f k = some l → l.isCanonical = true)
    (hslots : ∀ k l, f k = some l → k ∈ (Statement.insert s).valueSlots)
    (h : insert (xs.map Prod.fst) = .ok (s, rest)) :
    insert (f.tokens xs) =
        .ok (⟨s.relation, s.columns, s.values.map (Operand.fill f)⟩, rest) ∧
      xs.IsChain f.Framed := by
  have hsuits : f.Suits xs := Filling.suits_of_numbered hnumbered hf
  obtain ⟨_, _, _, _, _, _, _, next, hinsert, hor, hinto, hrelation, hlist, hcolumns, hsource,
    hvalues, hgroup, hread, hcomma, hcount⟩ := insert_eq_ok_iff.mp h
  -- Up to the list of values nothing has a slot.
  obtain ⟨x, xs, rfl, -, hx, rfl, hinsert'⟩ := expect_skips (f := f) hnumbered hinsert
  have hhead : Skips (x :: xs) xs := ⟨[x], rfl, by simpa using hx⟩
  obtain ⟨y, ys, rfl, -, hy, rfl, hinto'⟩ :=
    expect_skips (f := f) (hhead.numbered hnumbered) hinto
  have hhead := hhead.trans ⟨[y], rfl, by simpa using hy⟩
  obtain ⟨front, hpassed, -, rfl, hrelation'⟩ :=
    relationName_skips (hhead.numbered hnumbered) (hhead.suits hsuits) hrelation
  have hhead := hhead.trans hpassed
  obtain ⟨front, _, hpassed, rfl, hlist', hcolumns'⟩ :=
    columnList_skips (hhead.numbered hnumbered) (hhead.suits hsuits) hlist hcolumns
  have hhead := hhead.trans hpassed
  obtain ⟨z, zs, rfl, -, hz, rfl, hvalues'⟩ :=
    expect_skips (f := f) (hhead.numbered hnumbered) hvalues
  have hhead := hhead.trans ⟨[z], rfl, by simpa using hz⟩
  obtain ⟨opening, inner, closing, behind, rfl, hopening, hopeningNone, hclosing, rfl, rfl,
    hgroup'⟩ := group_skips (hhead.numbered hnumbered) (hhead.suits hsuits) hgroup
  have hhead' := hhead.trans ⟨[opening], rfl, by simpa using hopeningNone⟩
  obtain ⟨hinner, hclosingNone, hbehind, -⟩ :=
    (hhead'.numbered hnumbered).cut (by rw [hclosing]; rfl) (by rw [hclosing]; simp)
  -- Behind the values nothing is filled.
  obtain ⟨items, hold, hsplit, hlisting⟩ :=
    Filling.exists_splitAtCommas (hhead'.suits hsuits).left
  rw [hold] at hread
  obtain ⟨hread', hnext, hlast, hplaces⟩ := Operand.readAll_filled hf hlisting hinner hread
  rw [← hnext] at hbehind
  have hspares := spares_of_numbered hbehind (eq_none_of_slots hslots hlast)
  constructor
  · refine insert_eq_ok_iff.mpr ⟨_, _, _, _, _, _, _, f.slot next, hinsert', ?_, hinto', hrelation',
      hlist', hcolumns', ?_, hvalues', hspares.tokens_eq ▸ hgroup', hsplit ▸ hread', hcomma, ?_⟩
    · rwa [Filling.tokens_cons_of_none (by rw [hy]; rfl)]
    · rwa [Filling.tokens_cons_of_none (by rw [hz]; rfl)]
    · rwa [List.length_map]
  · obtain ⟨passed, heq, hpassed⟩ := hhead
    have hinside : (inner ++ closing :: behind).IsChain f.Framed := by
      refine Filling.isChain_of_listing hlisting hinner (fun item hitem => ?_) ⟨?_, ?_⟩
      · exact ⟨[], item, rfl, by simp [Filling.Spares], by simp, hplaces item hitem⟩
      · exact (Filling.Spares.cons hclosingNone hspares).isChain
      · rintro _ ⟨⟩
        exact ⟨by rw [hclosingNone]; rfl, by rw [hclosing]; rfl⟩
    rw [heq]
    refine (Filling.spares_of_none hpassed).append_isChain ?_ ?_
    · refine List.isChain_cons.mpr ⟨fun y _ => ⟨fun _ => ?_, fun hfilled => ?_⟩, hinside⟩
      · rw [hopening]
        rfl
      · rw [hopeningNone] at hfilled
        cases hfilled
    · rintro _ ⟨⟩
      rw [hopeningNone]
      rfl

/-- An update with literals among its values is read with them. -/
theorem update_filled {s : Update} (hnumbered : Numbered 0 xs)
    (hf : ∀ k l, f k = some l → l.isCanonical = true)
    (hslots : ∀ k l, f k = some l → k ∈ (Statement.update s).valueSlots)
    (h : update (xs.map Prod.fst) = .ok (s, rest)) :
    update (f.tokens xs) = .ok (⟨s.relation, s.assignments.map (Assignment.fill f),
        s.predicate.map (Predicate.fill f)⟩, rest) ∧
      (∀ k ∈ Predicate.slots s.predicate, f k = none) ∧ xs.IsChain f.Framed := by
  have hsuits : f.Suits xs := Filling.suits_of_numbered hnumbered hf
  obtain ⟨_, _, _, next, hupdate, hor, hrelation, hset, hchanges, hne, hpredicate⟩ :=
    update_eq_ok_iff.mp h
  -- Up to the assignments nothing has a slot.
  obtain ⟨x, xs, rfl, -, hx, rfl, hupdate'⟩ := expect_skips (f := f) hnumbered hupdate
  have hhead : Skips (x :: xs) xs := ⟨[x], rfl, by simpa using hx⟩
  obtain ⟨front, hpassed, hfirst, rfl, hrelation'⟩ :=
    relationName_skips (hhead.numbered hnumbered) (hhead.suits hsuits) hrelation
  have hhead := hhead.trans hpassed
  obtain ⟨z, zs, rfl, -, hz, rfl, hset'⟩ :=
    expect_skips (f := f) (hhead.numbered hnumbered) hset
  have hhead := hhead.trans ⟨[z], rfl, by simpa using hz⟩
  have hinert : ∀ t : Token, t.isInert = true → t.isKeyword "WHERE" = false :=
    fun t ht => ((isInert_iff t).mp ht).2.1
  have hword : ∀ t : Token, t.isPlaceholder = true → t.isKeyword "WHERE" = false :=
    fun t ht => Token.not_isKeyword_of_isPlaceholder ht "WHERE"
  obtain ⟨ys, clause, rfl, htake, htake', hends⟩ :=
    Filling.exists_takeUntil hinert hword (hhead.suits hsuits) 0
  have hcloses : ∀ y ∈ clause.head?, y.1.closesValue = true := by
    intro y hy
    rcases hends y hy with hsemicolon | hwhere
    · rw [hsemicolon]
      rfl
    · simp [Token.closesValue, hwhere]
  have hlist := (hhead.numbered hnumbered).left (Token.not_beforePeriod_of_closesValue hcloses)
  have hclause := (hhead.numbered hnumbered).right
  rw [htake] at hchanges hpredicate
  -- Behind the assignments nothing is filled.
  obtain ⟨items, hold, hsplit, hlisting⟩ :=
    Filling.exists_splitAtCommas (hhead.suits hsuits).left
  rw [hold] at hchanges
  obtain ⟨hchanges', hnext, hlast, hplaces⟩ := assignments_filled hf hlisting hlist hchanges
  rw [← hnext] at hclause
  have hbehind := eq_none_of_slots hslots hlast
  have hspares := spares_of_numbered hclause hbehind
  refine ⟨?_, fun k hk => hbehind k (Predicate.le_slots hpredicate hk), ?_⟩
  · refine update_eq_ok_iff.mpr ⟨_, _, _, f.slot next, hupdate', ?_, hrelation', hset', ?_, ?_, ?_⟩
    · rwa [startsWith, hfirst]
    · rw [htake', hsplit]
      exact hchanges'
    · simpa using hne
    · rw [htake', hspares.tokens_eq]
      exact Predicate.read_filled hbehind hpredicate
  · obtain ⟨passed, heq, hpassed⟩ := hhead
    rw [heq]
    refine (Filling.spares_of_none hpassed).append_isChain ?_ ?_
    · refine Filling.isChain_of_listing hlisting hlist (fun item hitem => (hplaces item hitem).1)
        ⟨hspares.isChain, fun y hy => ⟨?_, hcloses y hy⟩⟩
      exact hspares y (List.mem_of_head? hy)
    · intro y hy
      cases ys with
      | nil => exact hspares y (List.mem_of_head? hy)
      | cons z zs =>
          obtain rfl : z = y := Option.some.inj hy
          rw [hlisting.head_none (fun item hitem => (hplaces item hitem).2) z rfl]
          rfl

end Parser

namespace Statement

/-- What begins with a keyword is a statement of its kind. -/
theorem ofTokens_of_reads {tokens rest : List Token} {s : Statement}
    (hread : s.IsReadFrom tokens rest) (hkind : s.kind = .insert ∨ s.kind = .update)
    (hfinish : Parser.finish rest = .ok ()) : ofTokens tokens = .ok s := by
  have hother : ∀ {t : Token} {a b : String}, t.isKeyword a = true →
      Text.sameFold a b = false → t.isKeyword b = false := Token.isKeyword_ne
  have hmark : ∀ {t : Token} {keyword : String}, t.isKeyword keyword = true →
      ¬ t = .mark .semicolon := by
    rintro t keyword hword rfl
    cases hword
  cases s with
  | insert s =>
      obtain ⟨after, hafter, -⟩ := exists_of_bind_ok hread
      obtain ⟨t, rfl, hword⟩ := Parser.expect_eq_ok hafter
      have hcreate := hother hword (b := "CREATE") (by decide)
      have hkind : StatementKind.ofTokens (t :: after) = .insert := by
        simp [StatementKind.ofTokens, hcreate, hword]
      rw [ofTokens, if_neg (by simp [hmark hword]), hkind, Parser.statement,
        show Parser.insert (t :: after) = .ok (s, rest) from hread]
      simp only [Except.map, bind, Except.bind, hfinish]
  | update s =>
      obtain ⟨after, hafter, -⟩ := exists_of_bind_ok hread
      obtain ⟨t, rfl, hword⟩ := Parser.expect_eq_ok hafter
      have hcreate := hother hword (b := "CREATE") (by decide)
      have hinsert := hother hword (b := "INSERT") (by decide)
      have hkind : StatementKind.ofTokens (t :: after) = .update := by
        simp [StatementKind.ofTokens, hcreate, hinsert, hword]
      rw [ofTokens, if_neg (by simp [hmark hword]), hkind, Parser.statement,
        show Parser.update (t :: after) = .ok (s, rest) from hread]
      simp only [Except.map, bind, Except.bind, hfinish]
  | _ => rcases hkind with hkind | hkind <;> cases hkind

/-- A statement with literals among its values is read with them, and every literal stands
between two tokens that frame it. -/
theorem ofTokens_filled {f : Filling} {xs : List (Token × Option Nat)} {s : Statement}
    (hnumbered : Numbered 0 xs) (hf : ∀ k l, f k = some l → l.isCanonical = true)
    (hslots : ∀ k l, f k = some l → k ∈ s.valueSlots)
    (hkind : s.kind = .insert ∨ s.kind = .update) (h : ofTokens (xs.map Prod.fst) = .ok s) :
    ofTokens (f.tokens xs) = .ok (s.fill f) ∧ (∀ k ∈ s.testSlots, f k = none) ∧
      xs.IsChain f.Framed := by
  unfold ofTokens at h
  split at h
  · cases h
  · obtain ⟨⟨s', rest⟩, hstatement, h⟩ := exists_of_bind_ok h
    obtain ⟨⟨⟩, hfinish, h⟩ := exists_of_bind_ok h
    cases h
    obtain ⟨-, hread⟩ := Parser.isReadFrom_of_statement hstatement
    cases s with
    | insert s =>
        obtain ⟨hfilled, hchain⟩ := Parser.insert_filled hnumbered hf hslots hread
        refine ⟨ofTokens_of_reads (s := .insert _) hfilled (Or.inl rfl) hfinish, ?_, hchain⟩
        simp [testSlots]
    | update s =>
        obtain ⟨hfilled, htests, hchain⟩ := Parser.update_filled hnumbered hf hslots hread
        exact ⟨ofTokens_of_reads (s := .update _) hfilled (Or.inr rfl) hfinish, htests, hchain⟩
    | _ => rcases hkind with hkind | hkind <;> cases hkind

end Statement

end MiniSql
