import MiniSql.Token.Group

/-!
# Depth of nesting

Every reader that cuts a token list counts parentheses and looks only at the tokens it meets
at depth zero. A list without a cutting token at depth zero is passed as a whole, whatever
its parentheses hold; a list whose parentheses pair up is passed at unchanged depth.

**Results.**
* `splitFrom_append`, `takeUntil_of_outside`, `closeGroup_of_balanced`: a list that is passed
  as a whole.
* `unwrap?_append`: a list that goes on after its parentheses have paired up keeps them.
* `unwrap?_eq_some_iff`: parentheses are taken off if the last token matches the first one.
* `exists_unwraps`: they are taken off as often as possible.
-/

namespace MiniSql.Token

/-- Depth of nesting after a list of tokens. -/
def depthFrom (depth : Nat) (tokens : List Token) : Nat :=
  tokens.foldl nest depth

/-- The tokens of a list that are met at depth zero. -/
def outside (depth : Nat) : List Token → List Token
  | [] => []
  | t :: ts => (if depth = 0 then [t] else []) ++ outside (nest depth t) ts

@[simp] theorem depthFrom_nil (depth : Nat) : depthFrom depth [] = depth := rfl

@[simp] theorem depthFrom_cons (depth : Nat) (t : Token) (ts : List Token) :
    depthFrom depth (t :: ts) = depthFrom (nest depth t) ts := rfl

@[simp] theorem depthFrom_append (depth : Nat) (ts us : List Token) :
    depthFrom depth (ts ++ us) = depthFrom (depthFrom depth ts) us := by
  simp [depthFrom]

@[simp] theorem outside_nil (depth : Nat) : outside depth [] = [] := rfl

theorem outside_cons (depth : Nat) (t : Token) (ts : List Token) :
    outside depth (t :: ts) =
      (if depth = 0 then [t] else []) ++ outside (nest depth t) ts := rfl

@[simp] theorem outside_append (depth : Nat) (ts us : List Token) :
    outside depth (ts ++ us) = outside depth ts ++ outside (depthFrom depth ts) us := by
  induction ts generalizing depth with
  | nil => rfl
  | cons t ts ih => simp [outside_cons, ih]

theorem mem_of_outside {t : Token} {depth : Nat} {ts : List Token} (h : t ∈ outside depth ts) :
    t ∈ ts := by
  induction ts generalizing depth with
  | nil => exact h
  | cons u us ih =>
      rw [outside_cons, List.mem_append] at h
      rcases h with hfirst | hrest
      · split at hfirst
        · exact List.mem_cons.mpr (Or.inl (List.mem_singleton.mp hfirst))
        · cases hfirst
      · exact List.mem_cons_of_mem u (ih hrest)

theorem nest_of_isKeyword {t : Token} {name : String} (h : t.isKeyword name = true) (depth : Nat) :
    nest depth t = depth := by
  cases t with
  | word value quote => rfl
  | _ => cases h

/-! ## Lists passed as a whole -/

theorem splitFrom_append {isSeparator : Token → Bool} {depth : Nat} {ts : List Token}
    (h : ∀ t ∈ outside depth ts, isSeparator t = false) (current us : List Token) :
    splitFrom isSeparator depth current (ts ++ us) =
      splitFrom isSeparator (depthFrom depth ts) (current ++ ts) us := by
  induction ts generalizing depth current with
  | nil => simp
  | cons t ts ih =>
      simp only [outside_cons, List.mem_append] at h
      have hcut : ¬ ((depth = 0 && isSeparator t) = true) := by
        by_cases hdepth : depth = 0
        · simp [hdepth, h t (Or.inl (by simp [hdepth]))]
        · simp [hdepth]
      rw [List.cons_append, splitFrom, if_neg hcut, ih fun u hu => h u (Or.inr hu)]
      simp

theorem takeUntil_of_outside {stop : Token → Bool} {depth : Nat} {ts : List Token}
    (h : ∀ t ∈ outside depth ts, t ≠ mark .semicolon ∧ stop t = false) (us : List Token) :
    takeUntil stop depth (ts ++ us) =
      (ts ++ (takeUntil stop (depthFrom depth ts) us).1,
        (takeUntil stop (depthFrom depth ts) us).2) := by
  induction ts generalizing depth with
  | nil => rfl
  | cons t ts ih =>
      simp only [outside_cons, List.mem_append] at h
      have hcut : ¬ ((depth = 0 && (t = mark .semicolon || stop t)) = true) := by
        by_cases hdepth : depth = 0
        · simp [hdepth, h t (Or.inl (by simp [hdepth]))]
        · simp [hdepth]
      rw [List.cons_append, takeUntil, if_neg hcut, ih fun u hu => h u (Or.inr hu)]
      simp

/-! ## Parentheses that pair up -/

@[simp] theorem balanced_nil (depth : Nat) : balanced depth [] = true ↔ depth = 0 := by
  simp [balanced]

theorem balanced_cons (depth : Nat) (t : Token) (ts : List Token) :
    balanced depth (t :: ts) = true ↔
      ¬ (t = mark .rightParen ∧ depth = 0) ∧ balanced (nest depth t) ts = true := by
  cases t with
  | mark m =>
    cases m with
    | rightParen => cases depth <;> simp [balanced, nest]
    | _ => simp [balanced, nest]
  | _ => simp [balanced, nest]

/-- Parentheses that pair up lead back to depth zero. -/
theorem depthFrom_of_balanced {depth : Nat} {ts : List Token} (h : balanced depth ts = true) :
    depthFrom depth ts = 0 := by
  induction ts generalizing depth with
  | nil => simpa using h
  | cons t ts ih => exact ih ((balanced_cons depth t ts).1 h).2

theorem nest_add {depth : Nat} {t : Token} (h : ¬ (t = mark .rightParen ∧ depth = 0))
    (outer : Nat) : nest (depth + outer) t = nest depth t + outer := by
  by_cases ht : t = mark .rightParen
  · have hdepth : depth ≠ 0 := fun hdepth => h ⟨ht, hdepth⟩
    subst ht
    simp only [nest]
    omega
  · cases t with
    | mark m => cases m <;> simp_all [nest]; omega
    | _ => rfl

/-- Parentheses that pair up are passed at any depth. -/
theorem balanced_append_of_open {depth : Nat} {ts : List Token} (h : balanced depth ts = true)
    (outer : Nat) (us : List Token) :
    balanced (depth + outer) (ts ++ us) = balanced outer us := by
  induction ts generalizing depth with
  | nil =>
      obtain rfl : depth = 0 := by simpa using h
      rw [Nat.zero_add, List.nil_append]
  | cons t ts ih =>
      obtain ⟨hclose, hrest⟩ := (balanced_cons depth t ts).1 h
      rw [Bool.eq_iff_iff, List.cons_append, balanced_cons, nest_add hclose, ih hrest]
      refine and_iff_right ?_
      rintro ⟨ht, hdepth⟩
      exact hclose ⟨ht, by omega⟩

theorem balanced_append {depth : Nat} {ts : List Token} (h : balanced depth ts = true)
    (us : List Token) : balanced depth (ts ++ us) = balanced 0 us :=
  balanced_append_of_open h 0 us

theorem outside_append_of_balanced {ts : List Token} (h : balanced 0 ts = true)
    (us : List Token) : outside 0 (ts ++ us) = outside 0 ts ++ outside 0 us := by
  rw [outside_append, depthFrom_of_balanced h]

theorem balanced_group {inner : List Token} (h : balanced 0 inner = true) :
    balanced 0 (mark .leftParen :: inner ++ [mark .rightParen]) = true := by
  rw [List.cons_append, balanced_cons]
  exact ⟨by simp, balanced_append_of_open h 1 [mark .rightParen]⟩

/-- Inside a pair of parentheses nothing is met at depth zero. -/
theorem outside_of_open {depth : Nat} {ts : List Token} (h : balanced depth ts = true)
    (outer : Nat) (us : List Token) :
    outside (depth + (outer + 1)) (ts ++ us) = outside (outer + 1) us := by
  induction ts generalizing depth with
  | nil =>
      obtain rfl : depth = 0 := by simpa using h
      rw [Nat.zero_add, List.nil_append]
  | cons t ts ih =>
      obtain ⟨hclose, hrest⟩ := (balanced_cons depth t ts).1 h
      have hdepth : depth + (outer + 1) ≠ 0 := by omega
      rw [List.cons_append, outside_cons, if_neg hdepth, nest_add hclose, ih hrest]
      rfl

theorem outside_group {inner : List Token} (h : balanced 0 inner = true) :
    outside 0 (mark .leftParen :: inner ++ [mark .rightParen]) = [mark .leftParen] := by
  have hinner := outside_of_open h 0 [mark .rightParen]
  rw [Nat.zero_add] at hinner
  rw [List.cons_append, outside_cons]
  simp only [nest, hinner]
  rfl

/-- What follows within a list whose parentheses pair up. -/
theorem balanced_of_append {depth : Nat} {ts us : List Token}
    (h : balanced depth (ts ++ us) = true) : balanced (depthFrom depth ts) us = true := by
  induction ts generalizing depth with
  | nil => exact h
  | cons t ts ih =>
      rw [List.cons_append, balanced_cons] at h
      exact ih h.2

/-- Without its first opening parenthesis a list has a closing one too many. -/
theorem not_balanced_append {depth : Nat} {ts : List Token}
    (h : balanced (depth + 1) ts = true) (us : List Token) :
    balanced depth (ts ++ us) = false := by
  induction ts generalizing depth with
  | nil => simp at h
  | cons t ts ih =>
      rw [← Bool.not_eq_true, List.cons_append, balanced_cons]
      rintro ⟨hclose, hrest⟩
      obtain ⟨-, hts⟩ := (balanced_cons _ t ts).1 h
      rw [nest_add hclose] at hts
      rw [ih hts] at hrest
      cases hrest

theorem closeGroup_of_balanced {depth : Nat} {inner : List Token}
    (h : balanced depth inner = true) (rest : List Token) :
    closeGroup depth (inner ++ mark .rightParen :: rest) = some (inner, rest) := by
  induction inner generalizing depth with
  | nil =>
      obtain rfl : depth = 0 := by simpa using h
      rfl
  | cons t ts ih =>
      obtain ⟨hclose, hrest⟩ := (balanced_cons depth t ts).1 h
      rw [List.cons_append, closeGroup, if_neg hclose, ih hrest]
      rfl

/-! ## Lists without parentheses -/

/-- No parenthesis stands in the list. -/
def Flat (tokens : List Token) : Prop :=
  ∀ t ∈ tokens, t ≠ mark .leftParen ∧ t ≠ mark .rightParen

theorem nest_of_not_paren {t : Token} (h : t ≠ mark .leftParen ∧ t ≠ mark .rightParen)
    (depth : Nat) : nest depth t = depth := by
  cases t with
  | mark m => cases m <;> simp_all [nest]
  | _ => rfl

theorem Flat.depthFrom_eq {ts : List Token} (h : Flat ts) (depth : Nat) :
    depthFrom depth ts = depth := by
  induction ts generalizing depth with
  | nil => rfl
  | cons t ts ih =>
      rw [depthFrom_cons, nest_of_not_paren (h t List.mem_cons_self)]
      exact ih (fun u hu => h u (List.mem_cons_of_mem t hu)) depth

theorem Flat.outside_eq {ts : List Token} (h : Flat ts) : outside 0 ts = ts := by
  induction ts with
  | nil => rfl
  | cons t ts ih =>
      rw [outside_cons, nest_of_not_paren (h t List.mem_cons_self),
        ih fun u hu => h u (List.mem_cons_of_mem t hu)]
      rfl

theorem Flat.closeGroup_append {ts : List Token} (h : Flat ts) (depth : Nat) (us : List Token) :
    closeGroup depth (ts ++ us) =
      (closeGroup depth us).map fun (inner, rest) => (ts ++ inner, rest) := by
  induction ts with
  | nil => simp
  | cons t ts ih =>
      have ht := h t List.mem_cons_self
      rw [List.cons_append, closeGroup, if_neg fun hclose => ht.2 hclose.1, nest_of_not_paren ht,
        ih fun u hu => h u (List.mem_cons_of_mem t hu), Option.map_map]
      rfl

theorem Flat.balanced {ts : List Token} (h : Flat ts) : balanced 0 ts = true := by
  induction ts with
  | nil => rfl
  | cons t ts ih =>
      have ht := h t List.mem_cons_self
      rw [balanced_cons, nest_of_not_paren ht]
      exact ⟨fun hclose => ht.2 hclose.1, ih fun u hu => h u (List.mem_cons_of_mem t hu)⟩

/-! ## Parentheses around a list -/

/-- What is taken off is one pair of parentheses around the whole list. -/
theorem unwrap?_eq_some {tokens inner : List Token} (h : unwrap? tokens = some inner) :
    tokens = mark .leftParen :: inner ++ [mark .rightParen] ∧ balanced 0 inner = true := by
  unfold unwrap? at h
  split at h
  · next rest =>
      split at h
      · next hlast =>
          cases h
          obtain ⟨inner, rfl⟩ := List.getLast?_eq_some_iff.1 hlast.1
          exact ⟨by simp, by simpa using hlast.2⟩
      · cases h
  · cases h

theorem unwrap?_group {inner : List Token} (h : balanced 0 inner = true) :
    unwrap? (mark .leftParen :: inner ++ [mark .rightParen]) = some inner := by
  simp [unwrap?, h]

/-- The parentheses around a list are taken off. -/
theorem stripParens_of_unwrap?_eq_some {tokens inner : List Token}
    (h : unwrap? tokens = some inner) : stripParens tokens = stripParens inner := by
  rw [stripParens]
  split
  · next hnone => simp [h] at hnone
  · next inner' hsome => rw [Option.some.inj (h.symm.trans hsome)]

theorem stripParens_group {inner : List Token} (h : balanced 0 inner = true) :
    stripParens (mark .leftParen :: inner ++ [mark .rightParen]) = stripParens inner :=
  stripParens_of_unwrap?_eq_some (unwrap?_group h)

theorem stripParens_of_unwrap? {tokens : List Token} (h : unwrap? tokens = none) :
    stripParens tokens = tokens := by
  rw [stripParens]
  split
  · rfl
  · next hsome => simp [h] at hsome

theorem unwrap?_of_head_ne {t : Token} (ht : t ≠ mark .leftParen) (ts : List Token) :
    unwrap? (t :: ts) = none := by
  unfold unwrap?
  split
  · next heq => exact absurd (List.cons.inj heq).1 ht
  · rfl

theorem Flat.stripParens_eq {ts : List Token} (h : Flat ts) : stripParens ts = ts := by
  apply stripParens_of_unwrap?
  cases ts with
  | nil => rfl
  | cons t ts => exact unwrap?_of_head_ne (h t List.mem_cons_self).1 ts

/-- Parentheses that pair up before the end do not stand around the whole list. -/
theorem unwrap?_append {ts us : List Token} (hne : ts ≠ []) (hbalanced : balanced 0 ts = true)
    (hrest : us ≠ []) : unwrap? (ts ++ us) = none := by
  obtain ⟨t, ts, rfl⟩ := List.exists_cons_of_ne_nil hne
  by_cases ht : t = mark .leftParen
  · subst ht
    have hinner : balanced 0 (ts ++ us.dropLast) = false :=
      not_balanced_append ((balanced_cons 0 _ ts).1 hbalanced).2 _
    simp [unwrap?, List.dropLast_append_of_ne_nil hrest, hinner]
  · exact unwrap?_of_head_ne ht (ts ++ us)

/-! ## Parentheses that match -/

/-- Opening less closing parentheses. -/
def height (tokens : List Token) : Int :=
  tokens.count (mark .leftParen) - tokens.count (mark .rightParen)

@[simp] theorem height_nil : height [] = 0 := rfl

@[simp] theorem height_append (ts us : List Token) : height (ts ++ us) = height ts + height us := by
  simp only [height, List.count_append]
  omega

theorem height_cons (t : Token) (ts : List Token) : height (t :: ts) = height [t] + height ts :=
  height_append [t] ts

/-- A list begins with a parenthesis that its last token matches: before the end every beginning
opens more than it closes, and the whole opens as many as it closes. -/
structure Wraps (tokens inner : List Token) : Prop where
  eq : tokens = mark .leftParen :: inner ++ [mark .rightParen]
  closed : height tokens = 0
  opened : ∀ front, front <+: tokens → front ≠ [] → front ≠ tokens → 0 < height front

theorem cast_nest {depth : Nat} {t : Token} (h : ¬ (t = mark .rightParen ∧ depth = 0)) :
    (nest depth t : Int) = depth + height [t] := by
  by_cases hopen : t = mark .leftParen
  · subst hopen
    simp [nest, height]
  · by_cases hclose : t = mark .rightParen
    · subst hclose
      have hdepth : depth ≠ 0 := fun hdepth => h ⟨rfl, hdepth⟩
      have hheight : height [mark .rightParen] = -1 := by decide
      simp only [nest, hheight]
      omega
    · rw [nest_of_not_paren ⟨hopen, hclose⟩]
      simp [height, hopen, hclose]

/-- Parentheses pair up when no beginning of the list closes more than are open, and all are closed
at the end. -/
theorem balanced_iff_height (depth : Nat) (ts : List Token) :
    balanced depth ts = true ↔
      depth + height ts = 0 ∧ ∀ front, front <+: ts → 0 ≤ depth + height front := by
  induction ts generalizing depth with
  | nil => simp
  | cons t ts ih =>
      rw [balanced_cons, ih]
      constructor
      · rintro ⟨hclose, hclosed, hfront⟩
        have hstep := cast_nest hclose
        rw [height_cons]
        refine ⟨by omega, fun front hprefix => ?_⟩
        rcases List.prefix_cons_iff.mp hprefix with rfl | ⟨us, rfl, hus⟩
        · simp
        · have hrest := hfront us hus
          rw [height_cons]
          omega
      · rintro ⟨hclosed, hfront⟩
        have hfirst : 0 ≤ depth + height [t] := hfront [t] (List.prefix_append [t] ts)
        have hclose : ¬ (t = mark .rightParen ∧ depth = 0) := by
          rintro ⟨rfl, rfl⟩
          revert hfirst
          decide
        have hstep := cast_nest hclose
        rw [height_cons] at hclosed
        refine ⟨hclose, by omega, fun us hus => ?_⟩
        have hrest := hfront (t :: us) ((List.prefix_cons_inj t).mpr hus)
        rw [height_cons] at hrest
        omega

/-- The parentheses that are taken off match each other. -/
theorem unwrap?_eq_some_iff (tokens inner : List Token) :
    unwrap? tokens = some inner ↔ Wraps tokens inner := by
  have hopening : height [mark .leftParen] = 1 := rfl
  have hclosing : height [mark .rightParen] = -1 := rfl
  constructor
  · intro h
    obtain ⟨rfl, hbalanced⟩ := unwrap?_eq_some h
    obtain ⟨hclosed, hfront⟩ := (balanced_iff_height 0 inner).mp hbalanced
    refine ⟨rfl, ?_, fun front hprefix hne hproper => ?_⟩
    · rw [height_append, height_cons]
      omega
    · rcases List.prefix_cons_iff.mp hprefix with hnil | ⟨us, rfl, hus⟩
      · exact absurd hnil hne
      · rcases List.prefix_concat_iff.mp hus with hall | hus
        · exact absurd (congrArg (mark .leftParen :: ·) hall) hproper
        · have hrest := hfront us hus
          rw [height_cons]
          omega
  · intro h
    obtain rfl := h.eq
    refine unwrap?_group ((balanced_iff_height 0 inner).mpr ⟨?_, fun us hus => ?_⟩)
    · have hclosed := h.closed
      rw [height_append, height_cons] at hclosed
      omega
    · obtain ⟨vs, rfl⟩ := hus
      have hopened := h.opened (mark .leftParen :: us) ⟨vs ++ [mark .rightParen], by simp⟩
        (List.cons_ne_nil _ _) (by simp)
      rw [height_cons] at hopened
      omega

/-- Pairs of parentheses around a list that match each other, one within the other. -/
inductive Unwraps : Nat → List Token → List Token → Prop
  | none {tokens : List Token} : Unwraps 0 tokens tokens
  | more {n : Nat} {tokens inner rest : List Token} :
    Wraps tokens inner → Unwraps n inner rest → Unwraps (n + 1) tokens rest

theorem Unwraps.eq {n : Nat} {tokens inner : List Token} (h : Unwraps n tokens inner) :
    tokens =
      List.replicate n (mark .leftParen) ++ inner ++ List.replicate n (mark .rightParen) := by
  induction h with
  | none => simp
  | @more n tokens middle inner hwraps _ ih =>
      rw [hwraps.eq, List.replicate_succ, List.replicate_succ', ih]
      simp

/-- Pairs of parentheses are taken off as often as possible. -/
theorem exists_unwraps (tokens : List Token) :
    ∃ k, Unwraps k tokens (stripParens tokens) ∧
      ∀ n inner, Unwraps n tokens inner → n ≤ k := by
  induction tokens using stripParens.induct with
  | case1 tokens hnone =>
      rw [stripParens_of_unwrap? hnone]
      refine ⟨0, .none, fun n inner h => ?_⟩
      cases h with
      | none => exact Nat.le_refl 0
      | more hwraps _ =>
          rw [(unwrap?_eq_some_iff tokens _).mpr hwraps] at hnone
          cases hnone
  | case2 tokens inner hsome ih =>
      obtain ⟨k, hunwraps, hmost⟩ := ih
      have hwraps := (unwrap?_eq_some_iff tokens inner).mp hsome
      rw [stripParens_of_unwrap?_eq_some hsome]
      refine ⟨k + 1, .more hwraps hunwraps, fun n rest h => ?_⟩
      cases h with
      | none => exact Nat.zero_le (k + 1)
      | @more n _ inner' _ hwraps' hrest =>
          have hinner' := (unwrap?_eq_some_iff tokens inner').mpr hwraps'
          obtain rfl : inner = inner' := Option.some.inj (hsome.symm.trans hinner')
          exact Nat.succ_le_succ (hmost n rest hrest)

/-- All that is taken off a list are parentheses. -/
theorem exists_stripParens (tokens : List Token) :
    ∃ opening closing, tokens = opening ++ stripParens tokens ++ closing ∧
      (∀ t ∈ opening, t = mark .leftParen) ∧ ∀ t ∈ closing, t = mark .rightParen := by
  obtain ⟨k, hunwraps, -⟩ := exists_unwraps tokens
  exact ⟨_, _, hunwraps.eq, fun _ => List.eq_of_mem_replicate, fun _ => List.eq_of_mem_replicate⟩

end MiniSql.Token
