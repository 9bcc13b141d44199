import MiniSql.Predicate.Clause
import MiniSql.Proofs.Nesting

/-!
# Pieces of token lists

Where the pieces of a list stand in it. A list is cut at certain tokens, and whether a token
cuts may depend on what was read before it: an `AND` cuts a clause only outside parentheses
and when no `BETWEEN` waits for it. The readers go through the pieces from left to right and
pass on the next free slot.

**Results.**
* `split_joined`, `splitConjuncts_joined`: a list joined from pieces is cut into them again.
* `splitConjuncts_induction`: the conjuncts of a clause, from its last one to its first.
* `listed_split`, `listed_splitConjuncts`: the pieces of any list, and where they stand.
* `Listed.exists_place`: the place of one of them.
* `Place.left`, `Place.of_append`: a place in a part of a list.
* `listed_of_readAll`: what is read from the pieces stands where they do, if every reader counts
  the parameters of its piece.
-/

namespace MiniSql

namespace Token

/-- Items one after the other, with a cutting token between each two. `At read item x` says
what `x` has to do with an item that stands after the tokens `read`. -/
inductive Listed {α : Type} (cut : List Token → Token → Prop)
    (At : List Token → List Token → α → Prop) : List Token → List Token → List α → Prop where
  | none {read : List Token} : Listed cut At read [] []
  | last {read item : List Token} {x : α} : At read item x → Listed cut At read item [x]
  | more {read item rest : List Token} {t : Token} {x : α} {xs : List α} :
    At read item x → cut (read ++ item) t → Listed cut At (read ++ item ++ [t]) rest xs →
      Listed cut At read (item ++ t :: rest) (x :: xs)

/-- No token of the list cuts it. -/
def Uncut (cut : List Token → Token → Prop) (read item : List Token) : Prop :=
  ∀ ts t us, item = ts ++ t :: us → ¬ cut (read ++ ts) t

theorem uncut_nil (cut : List Token → Token → Prop) (read : List Token) : Uncut cut read [] := by
  intro ts t us h
  cases ts <;> cases h

theorem Uncut.concat {cut : List Token → Token → Prop} {read item : List Token} {t : Token}
    (h : Uncut cut read item) (ht : ¬ cut (read ++ item) t) : Uncut cut read (item ++ [t]) := by
  intro ts u us heq
  rcases List.eq_nil_or_concat us with rfl | ⟨us, v, rfl⟩
  · obtain ⟨rfl, hu⟩ := List.append_inj' heq rfl
    obtain rfl : t = u := by simpa using hu
    exact ht
  · rw [List.concat_eq_append, ← List.cons_append, ← List.append_assoc] at heq
    exact h ts u us (List.append_inj' heq rfl).1

/-- An item is itself, and no token of it cuts. -/
def Piece (cut : List Token → Token → Prop) (read item piece : List Token) : Prop :=
  piece = item ∧ Uncut cut read item

/-- The place of an item in a list that stands after the tokens `read`: what is before it ends
in a cutting token, unless it is the first item, and what is after it begins with one, unless
it is the last. -/
structure Place (cut : List Token → Token → Prop) (read tokens before item after : List Token) :
    Prop where
  eq : tokens = before ++ item ++ after
  starts : before = [] ∨ ∃ ts t, before = ts ++ [t] ∧ cut (read ++ ts) t
  ends : after = [] ∨ ∃ t us, after = t :: us ∧ cut (read ++ before ++ item) t

section

variable {α : Type} {cut : List Token → Token → Prop} {At : List Token → List Token → α → Prop}

/-- The places of a list are places after a further item. -/
theorem Place.after {read item rest before item' after : List Token} {t : Token}
    (h : Place cut (read ++ item ++ [t]) rest before item' after) (ht : cut (read ++ item) t) :
    Place cut read (item ++ t :: rest) (item ++ t :: before) item' after := by
  refine ⟨by simp [h.eq], Or.inr ?_, ?_⟩
  · rcases h.starts with rfl | ⟨ts, u, rfl, hu⟩
    · exact ⟨item, t, rfl, ht⟩
    · exact ⟨item ++ t :: ts, u, by simp, by simpa using hu⟩
  · rcases h.ends with hnil | ⟨u, us, hcons, hu⟩
    · exact Or.inl hnil
    · exact Or.inr ⟨u, us, hcons, by simpa using hu⟩

theorem Listed.exists_place {read tokens : List Token} {xs : List α}
    (h : Listed cut At read tokens xs) {x : α} (hx : x ∈ xs) :
    ∃ before item after, Place cut read tokens before item after ∧ At (read ++ before) item x := by
  induction h with
  | none => cases hx
  | @last read item y hy =>
      obtain rfl : x = y := by simpa using hx
      exact ⟨[], item, [], ⟨by simp, Or.inl rfl, Or.inl rfl⟩, by simpa using hy⟩
  | @more read item rest t y ys hy ht _ ih =>
      rcases List.mem_cons.1 hx with rfl | hx
      · exact ⟨[], item, t :: rest, ⟨by simp, Or.inl rfl, Or.inr ⟨t, rest, rfl, by simpa using ht⟩⟩,
          by simpa using hy⟩
      · obtain ⟨before, item', after, hplace, hat⟩ := ih hx
        exact ⟨item ++ t :: before, item', after, hplace.after ht, by simpa using hat⟩

/-- What the items have to do with their places may depend on the whole list. -/
theorem Listed.of_place {At' : List Token → List Token → α → Prop} {read tokens : List Token}
    {xs : List α} (h : Listed cut At read tokens xs)
    (hat : ∀ before item after x, Place cut read tokens before item after →
      At (read ++ before) item x → At' (read ++ before) item x) :
    Listed cut At' read tokens xs := by
  induction h with
  | none => exact .none
  | @last read item x hx =>
      refine .last ?_
      have hplace : Place cut read item [] item [] := ⟨by simp, Or.inl rfl, Or.inl rfl⟩
      simpa using hat [] item [] x hplace (by simpa using hx)
  | @more read item rest t x xs hx ht _ ih =>
      refine .more ?_ ht (ih ?_)
      · have hplace : Place cut read (item ++ t :: rest) [] item (t :: rest) :=
          ⟨by simp, Or.inl rfl, Or.inr ⟨t, rest, rfl, by simpa using ht⟩⟩
        simpa using hat [] item (t :: rest) x hplace (by simpa using hx)
      · intro before item' after y hplace hy
        simpa using hat (item ++ t :: before) item' after y (hplace.after ht) (by simpa using hy)

end

/-! ## Cutting -/

theorem listed_splitFrom (isSeparator : Token → Bool) (depth : Nat) (read current : List Token)
    (tokens : List Token) :
    Listed (fun _ t => isSeparator t = true) (fun _ item piece => piece = item) read
      (current ++ tokens) (splitFrom isSeparator depth current tokens) := by
  induction tokens generalizing depth read current with
  | nil =>
      rw [splitFrom, List.append_nil]
      split
      · next hcurrent =>
          rw [hcurrent]
          exact .none
      · exact .last rfl
  | cons t ts ih =>
      rw [splitFrom]
      split
      · next hcut =>
          rw [Bool.and_eq_true] at hcut
          exact .more rfl hcut.2 (ih 0 (read ++ current ++ [t]) [])
      · simpa using ih (nest depth t) read (current ++ [t])

/-- The pieces of a list that is cut at separators. -/
theorem listed_split (isSeparator : Token → Bool) (read tokens : List Token) :
    Listed (fun _ t => isSeparator t = true) (fun _ item piece => piece = item) read
      tokens (split isSeparator tokens) :=
  listed_splitFrom isSeparator 0 read [] tokens

theorem splitFrom_ne_nil (isSeparator : Token → Bool) (depth : Nat) {current tokens : List Token}
    (h : current ++ tokens ≠ []) : splitFrom isSeparator depth current tokens ≠ [] := by
  induction tokens generalizing depth current with
  | nil =>
      rw [List.append_nil] at h
      simp [splitFrom, h]
  | cons t ts ih =>
      rw [splitFrom]
      split
      · simp
      · exact ih (nest depth t) (by simp)

theorem one_lt_length_splitFrom {isSeparator : Token → Bool} {t : Token}
    (ht : isSeparator t = true) {depth : Nat} {ts us : List Token}
    (hdepth : depthFrom depth ts = 0) (hus : us ≠ []) (current : List Token) :
    1 < (splitFrom isSeparator depth current (ts ++ t :: us)).length := by
  induction ts generalizing depth current with
  | nil =>
      obtain rfl : depth = 0 := hdepth
      have hrest := List.length_pos_iff.2 (@splitFrom_ne_nil isSeparator 0 [] us hus)
      simpa [splitFrom, ht] using hrest
  | cons u ts ih =>
      rw [List.cons_append, splitFrom]
      split
      · have hne : [] ++ (ts ++ t :: us) ≠ [] := by simp
        have hrest := List.length_pos_iff.2 (splitFrom_ne_nil isSeparator 0 hne)
        simpa using hrest
      · exact ih hdepth (current ++ [u])

/-- A list with a separator outside parentheses and something after it has several pieces. -/
theorem one_lt_length_split {isSeparator : Token → Bool} {t : Token}
    (ht : isSeparator t = true) {ts us : List Token} (hts : balanced 0 ts = true)
    (hus : us ≠ []) : 1 < (split isSeparator (ts ++ t :: us)).length :=
  one_lt_length_splitFrom ht (depthFrom_of_balanced hts) hus []

/-- The depth of nesting in a clause, and whether a `BETWEEN` waits for its `AND`. -/
structure ClauseMode where
  depth : Nat
  inBetween : Bool
deriving DecidableEq

/-- The mode after a token. -/
def ClauseMode.next (m : ClauseMode) (t : Token) : ClauseMode :=
  if m.depth = 0 && t.isKeyword "BETWEEN" then ⟨0, true⟩
  else if m.depth = 0 && t.isKeyword "AND" then ⟨0, false⟩
  else ⟨nest m.depth t, m.inBetween⟩

/-- The mode after a list of tokens. -/
def ClauseMode.after (m : ClauseMode) (tokens : List Token) : ClauseMode :=
  tokens.foldl next m

/-- The mode at the start of a clause. -/
def ClauseMode.start : ClauseMode := ⟨0, false⟩

/-- The token cuts a clause after the tokens that were read of it. -/
def CutsClause (read : List Token) (t : Token) : Prop :=
  ClauseMode.start.after read = .start ∧ t.isKeyword "AND" = true

@[simp] theorem ClauseMode.after_nil (m : ClauseMode) : m.after [] = m := rfl

@[simp] theorem ClauseMode.after_cons (m : ClauseMode) (t : Token) (ts : List Token) :
    m.after (t :: ts) = (m.next t).after ts := rfl

@[simp] theorem ClauseMode.after_append (m : ClauseMode) (ts us : List Token) :
    m.after (ts ++ us) = (m.after ts).after us := by
  simp [after]

/-- No word is both keywords. -/
theorem isKeyword_ne {t : Token} {a b : String} (ha : t.isKeyword a = true)
    (hab : Text.sameFold a b = false) : t.isKeyword b = false := by
  cases t with
  | word value quote =>
    cases quote with
    | none =>
        rw [← Bool.not_eq_true]
        intro hb
        rw [isKeyword_word, Text.sameFold_comm] at ha
        rw [isKeyword_word] at hb
        rw [Text.sameFold_trans ha hb] at hab
        cases hab
    | some q => rfl
  | _ => rfl

namespace ClauseMode

theorem next_of_between {m : ClauseMode} {t : Token} (hm : m.depth = 0)
    (ht : t.isKeyword "BETWEEN" = true) : m.next t = ⟨0, true⟩ := by
  simp [next, hm, ht]

theorem next_of_and {m : ClauseMode} {t : Token} (hm : m.depth = 0)
    (ht : t.isKeyword "AND" = true) : m.next t = .start := by
  have hbetween := isKeyword_ne ht (b := "BETWEEN") (by decide)
  simp [next, hm, ht, hbetween, start]

theorem next_of_plain {m : ClauseMode} {t : Token} (h : m.depth = 0 →
    t.isKeyword "BETWEEN" = false ∧ t.isKeyword "AND" = false) :
    m.next t = ⟨nest m.depth t, m.inBetween⟩ := by
  by_cases hm : m.depth = 0
  · simp [next, h hm]
  · simp [next, hm]

end ClauseMode

/-! ## Modes and places -/

theorem ClauseMode.depth_next (m : ClauseMode) (t : Token) : (m.next t).depth = nest m.depth t := by
  unfold next
  split
  · next h =>
      rw [Bool.and_eq_true, decide_eq_true_eq] at h
      rw [nest_of_isKeyword h.2, h.1]
  · split
    · next h =>
        rw [Bool.and_eq_true, decide_eq_true_eq] at h
        rw [nest_of_isKeyword h.2, h.1]
    · rfl

theorem ClauseMode.depth_after (m : ClauseMode) (ts : List Token) :
    (m.after ts).depth = depthFrom m.depth ts := by
  induction ts generalizing m with
  | nil => rfl
  | cons t ts ih => rw [after_cons, ih, depth_next, depthFrom_cons]

/-- Without `BETWEEN` and `AND` outside parentheses only the depth changes. -/
theorem ClauseMode.after_of_outside {m : ClauseMode} {ts : List Token}
    (h : ∀ t ∈ outside m.depth ts, t.isKeyword "BETWEEN" = false ∧ t.isKeyword "AND" = false) :
    m.after ts = ⟨depthFrom m.depth ts, m.inBetween⟩ := by
  induction ts generalizing m with
  | nil => rfl
  | cons t ts ih =>
      simp only [outside_cons, List.mem_append] at h
      have hnext : m.next t = ⟨nest m.depth t, m.inBetween⟩ :=
        next_of_plain fun hm => h t (Or.inl (by simp [hm]))
      rw [after_cons, hnext, ih fun u hu => h u (Or.inr hu)]
      rfl

theorem depthFrom_of_after {ts : List Token} {m : ClauseMode}
    (h : ClauseMode.start.after ts = m) : depthFrom 0 ts = m.depth := by
  rw [← h, ClauseMode.depth_after]
  rfl

theorem cutsClause_append {read : List Token} (h : ClauseMode.start.after read = .start)
    (ts : List Token) (t : Token) : CutsClause (read ++ ts) t ↔ CutsClause ts t := by
  simp [CutsClause, h]

/-- A clause is not cut where no `AND` stands outside parentheses. -/
theorem uncut_of_outside {read ts : List Token} (hread : depthFrom 0 read = 0)
    (h : ∀ t ∈ outside 0 ts, t.isKeyword "AND" = false) : Uncut CutsClause read ts := by
  rintro before t after rfl ⟨hmode, hand⟩
  have hdepth : depthFrom 0 (read ++ before) = 0 := depthFrom_of_after hmode
  rw [depthFrom_append, hread] at hdepth
  have hmem : t ∈ outside 0 (before ++ t :: after) := by
    simp [outside_cons, hdepth]
  rw [h t hmem] at hand
  cases hand

/-- A token of a list stands after, within or before a part of it. -/
theorem sides_of_append {before item after left right : List Token} {t : Token}
    (h : before ++ item ++ after = left ++ t :: right) :
    (∃ middle, left = before ++ item ++ middle ∧ after = middle ++ t :: right) ∨
      (∃ front back, item = front ++ t :: back ∧ left = before ++ front ∧
        right = back ++ after) ∨
      ∃ middle, before = left ++ t :: middle ∧ right = middle ++ item ++ after := by
  rcases List.append_eq_append_iff.1 h with ⟨middle, hleft, hafter⟩ | ⟨middle, hleft, hright⟩
  · exact Or.inl ⟨middle, hleft, hafter⟩
  · rcases List.cons_eq_append_iff.1 hright with ⟨rfl, hafter⟩ | ⟨back, rfl, rfl⟩
    · exact Or.inl ⟨[], by simpa using hleft.symm, by simpa using hafter⟩
    · right
      rcases List.append_eq_append_iff.1 hleft with ⟨front, hfront, hitem⟩ | ⟨front, hbefore, hitem⟩
      · exact Or.inl ⟨front, back, hitem, hfront, rfl⟩
      · rcases List.cons_eq_append_iff.1 hitem with ⟨rfl, hcons⟩ | ⟨middle, rfl, rfl⟩
        · exact Or.inl ⟨[], back, by simpa using hcons, by simpa using hbefore.symm, rfl⟩
        · exact Or.inr ⟨middle, hbefore, by simp⟩

theorem Uncut.append {cut : List Token → Token → Prop} {read ts us : List Token} {t : Token}
    (hts : Uncut cut read ts) (ht : ¬ cut (read ++ ts) t)
    (hus : Uncut cut (read ++ ts ++ [t]) us) : Uncut cut read (ts ++ t :: us) := by
  intro before u after heq
  have heq : before ++ [u] ++ after = ts ++ t :: us := by simp [heq]
  rcases sides_of_append heq with ⟨middle, rfl, -⟩ | ⟨front, back, hu, rfl, -⟩ |
    ⟨middle, rfl, rfl⟩
  · exact hts before u middle (by simp)
  · cases front with
    | nil =>
        obtain rfl : u = t := by simpa using congrArg List.head? hu
        rwa [List.append_nil] at ht
    | cons v front => simp at hu
  · have hcut := hus middle u after (by simp)
    simpa using hcut

/-- What is not cut after tokens that leave the mode as it was. -/
theorem Uncut.of_append {read before item : List Token}
    (hread : ClauseMode.start.after read = .start)
    (h : Uncut CutsClause (read ++ before) item) : Uncut CutsClause before item := by
  intro ts t us heq hcut
  refine h ts t us heq ?_
  rw [List.append_assoc]
  exact (cutsClause_append hread (before ++ ts) t).2 hcut

section

variable {tokens before item after : List Token}

theorem Place.eq_nil_of_uncut {cut : List Token → Token → Prop}
    (h : Place cut [] tokens before item after) (huncut : Uncut cut [] tokens) :
    before = [] ∧ after = [] := by
  constructor
  · rcases h.starts with hnil | ⟨ts, t, rfl, ht⟩
    · exact hnil
    · exact absurd ht (huncut ts t (item ++ after) (by simp [h.eq]))
  · rcases h.ends with hnil | ⟨t, us, rfl, ht⟩
    · exact hnil
    · exact absurd ht (huncut (before ++ item) t us h.eq)

/-- A place in a list is one in its part up to some token after the place. -/
theorem Place.left {cut : List Token → Token → Prop} {read middle rest : List Token}
    (h : Place cut read tokens before item (middle ++ rest)) :
    Place cut read (before ++ item ++ middle) before item middle := by
  refine ⟨rfl, h.starts, ?_⟩
  cases middle with
  | nil => exact Or.inl rfl
  | cons t ts =>
      rcases h.ends with hnil | ⟨u, us, hus, hu⟩
      · cases hnil
      · obtain ⟨rfl, -⟩ := List.cons.inj hus
        exact Or.inr ⟨t, ts, rfl, hu⟩

/-- Every item of a clause starts in the mode at the start of the clause. -/
theorem Place.after_before (h : Place CutsClause [] tokens before item after) :
    ClauseMode.start.after before = .start := by
  rcases h.starts with rfl | ⟨ts, t, rfl, hmode, hand⟩
  · rfl
  · rw [List.nil_append] at hmode
    rw [ClauseMode.after_append, hmode]
    exact ClauseMode.next_of_and rfl hand

/-- A place after tokens that leave the mode as it was. -/
theorem Place.of_append {read : List Token} (hread : ClauseMode.start.after read = .start)
    (h : Place CutsClause [] (read ++ tokens) (read ++ before) item after) :
    Place CutsClause [] tokens before item after := by
  refine ⟨?_, ?_, ?_⟩
  · have heq := h.eq
    simp only [List.append_assoc, List.append_cancel_left_eq] at heq
    rw [heq, List.append_assoc]
  · rcases List.eq_nil_or_concat before with hnil | ⟨ts, t, hconcat⟩
    · exact Or.inl hnil
    · right
      refine ⟨ts, t, by simpa using hconcat, ?_⟩
      rcases h.starts with hnil | ⟨us, u, hus, hu⟩
      · simp [hconcat] at hnil
      · rw [hconcat, List.concat_eq_append, ← List.append_assoc] at hus
        obtain ⟨rfl, hut⟩ := List.append_inj' hus rfl
        obtain rfl : t = u := by simpa using hut
        exact (cutsClause_append hread ts t).1 hu
  · rcases h.ends with hnil | ⟨u, us, hus, hu⟩
    · exact Or.inl hnil
    · refine Or.inr ⟨u, us, hus, ?_⟩
      rw [List.nil_append, List.append_assoc] at hu
      exact (cutsClause_append hread (before ++ item) u).1 hu

/-- Where an item stands in a clause that begins with a token which neither cuts nor changes the
mode. -/
theorem Place.of_cons {t : Token} {ts : List Token}
    (hmode : ClauseMode.start.after [t] = .start) (ht : t.isKeyword "AND" = false)
    (h : Place CutsClause [] (t :: ts) before item after) :
    (before = [] ∧ item = []) ∨
      (before = [] ∧ ∃ rest, item = t :: rest ∧ Place CutsClause [] ts [] rest after) ∨
      ∃ rest, rest ≠ [] ∧ before = t :: rest ∧ Place CutsClause [] ts rest item after := by
  have heq := h.eq
  cases before with
  | nil =>
      cases item with
      | nil => exact Or.inl ⟨rfl, rfl⟩
      | cons u rest =>
          obtain ⟨rfl, hts⟩ := List.cons.inj heq
          refine Or.inr (Or.inl ⟨rfl, rest, rfl, hts, Or.inl rfl, ?_⟩)
          rcases h.ends with hnil | ⟨v, vs, hvs, hv⟩
          · exact Or.inl hnil
          · exact Or.inr ⟨v, vs, hvs, (cutsClause_append hmode rest v).1 hv⟩
  | cons u rest =>
      obtain ⟨rfl, -⟩ := List.cons.inj heq
      refine Or.inr (Or.inr ⟨rest, ?_, rfl, Place.of_append hmode h⟩)
      rintro rfl
      rcases h.starts with hnil | ⟨us, v, hus, -, hand⟩
      · cases hnil
      · obtain rfl : t = v := by simpa using congrArg List.getLast? hus
        rw [ht] at hand
        cases hand

end

end Token

open Token

theorem conjunctsFrom_of_cut {t : Token} (ht : t.isKeyword "AND" = true)
    (current ts : List Token) :
    conjunctsFrom 0 false current (t :: ts) = current :: conjunctsFrom 0 false [] ts := by
  have hbetween := isKeyword_ne ht (b := "BETWEEN") (by decide)
  simp [conjunctsFrom, ht, hbetween]

theorem conjunctsFrom_of_not_cut {m : ClauseMode} {t : Token}
    (h : ¬ (m = .start ∧ t.isKeyword "AND" = true)) (current ts : List Token) :
    conjunctsFrom m.depth m.inBetween current (t :: ts) =
      conjunctsFrom (m.next t).depth (m.next t).inBetween (current ++ [t]) ts := by
  rw [conjunctsFrom, ClauseMode.next]
  split
  · rfl
  · split
    · next hand =>
        rw [Bool.and_eq_true, decide_eq_true_eq] at hand
        have hwaits : m.inBetween = true := by
          by_cases hwaits : m.inBetween = true
          · exact hwaits
          · refine absurd ⟨?_, hand.2⟩ h
            cases m
            simp_all [ClauseMode.start]
        rw [if_pos hwaits]
    · rfl

section

variable {motive : List Token → List Token → List (List Token) → Prop}
  (last : ∀ read item, Uncut CutsClause read item → motive read item [item])
  (more : ∀ read item t rest pieces, Uncut CutsClause read item → CutsClause (read ++ item) t →
    motive (read ++ item ++ [t]) rest pieces → motive read (item ++ t :: rest) (item :: pieces))
include last more

theorem conjunctsFrom_induction (m : ClauseMode) (read current tokens : List Token)
    (hmode : ClauseMode.start.after (read ++ current) = m)
    (hcurrent : Uncut CutsClause read current) :
    motive read (current ++ tokens) (conjunctsFrom m.depth m.inBetween current tokens) := by
  induction tokens generalizing m read current with
  | nil =>
      rw [conjunctsFrom, List.append_nil]
      exact last read current hcurrent
  | cons t ts ih =>
      have hnext : ClauseMode.start.after (read ++ current ++ [t]) = m.next t := by
        rw [ClauseMode.after_append, hmode]
        rfl
      by_cases hcut : m = .start ∧ t.isKeyword "AND" = true
      · obtain ⟨rfl, ht⟩ := hcut
        rw [ClauseMode.next_of_and rfl ht] at hnext
        have hrest := ih .start (read ++ current ++ [t]) [] (by simpa using hnext) (uncut_nil _ _)
        have hcut := conjunctsFrom_of_cut ht current ts
        exact hcut ▸ more read current t ts _ hcurrent ⟨hmode, ht⟩ hrest
      · rw [conjunctsFrom_of_not_cut hcut]
        have hcurrent' : Uncut CutsClause read (current ++ [t]) :=
          hcurrent.concat fun ht => hcut ⟨hmode ▸ ht.1, ht.2⟩
        simpa using ih (m.next t) read (current ++ [t]) (by simpa using hnext) hcurrent'

/-- The conjuncts of a clause are its last one alone, or one before a cutting token and those of
what follows. -/
theorem splitConjuncts_induction (tokens : List Token) :
    motive [] tokens (splitConjuncts tokens) :=
  conjunctsFrom_induction last more .start [] [] tokens rfl (uncut_nil _ _)

end

/-- The conjuncts of a clause, and where they stand. -/
theorem listed_splitConjuncts (tokens : List Token) :
    Listed CutsClause (Piece CutsClause) [] tokens (splitConjuncts tokens) :=
  splitConjuncts_induction (fun _ _ hitem => .last ⟨rfl, hitem⟩)
    (fun _ _ _ _ _ hitem ht hrest => .more ⟨rfl, hitem⟩ ht hrest) tokens

/-! ## Parameters -/

theorem count_cons (t : Token) (ts : List Token) :
    placeholderCount (t :: ts) = placeholderCount [t] + placeholderCount ts :=
  placeholderCount_append [t] ts

theorem count_single {t : Token} (h : t.isPlaceholder = false) : placeholderCount [t] = 0 := by
  simp [placeholderCount, h]

theorem not_placeholder_of_isKeyword {t : Token} {keyword : String}
    (h : t.isKeyword keyword = true) : t.isPlaceholder = false := by
  cases t with
  | placeholder label => cases h
  | _ => rfl

theorem count_of_isEquality {t : Token} (h : t.isEquality = true) : placeholderCount [t] = 0 := by
  cases t with
  | placeholder label => cases h
  | _ => rfl

theorem filter_of_parens {paren : Mark} {tokens : List Token} (h : ∀ t ∈ tokens, t = .mark paren) :
    tokens.filter isPlaceholder = [] := by
  rw [List.filter_eq_nil_iff]
  intro t ht
  simp [h t ht, Token.isPlaceholder]

theorem count_of_parens {paren : Mark} {tokens : List Token} (h : ∀ t ∈ tokens, t = .mark paren) :
    placeholderCount tokens = 0 := by
  rw [placeholderCount, List.countP_eq_length_filter, filter_of_parens h, List.length_nil]

/-- The parentheses around a list hold no parameter. -/
theorem filter_isPlaceholder_stripParens (tokens : List Token) :
    (stripParens tokens).filter isPlaceholder = tokens.filter isPlaceholder := by
  obtain ⟨opening, closing, htokens, hopening, hclosing⟩ := exists_stripParens tokens
  conv => rhs; rw [htokens]
  simp [filter_of_parens hopening, filter_of_parens hclosing]

theorem count_stripParens (tokens : List Token) :
    placeholderCount (stripParens tokens) = placeholderCount tokens := by
  simp only [placeholderCount, List.countP_eq_length_filter, filter_isPlaceholder_stripParens]

/-! ## Reading -/

theorem exists_of_bind_ok {ε α β : Type} {x : Except ε α} {f : α → Except ε β} {b : β}
    (h : (x >>= f) = .ok b) : ∃ a, x = .ok a ∧ f a = .ok b := by
  cases x with
  | error e => cases h
  | ok a => exact ⟨a, rfl, h⟩

theorem exists_of_map_ok {ε α β : Type} {x : Except ε α} {f : α → β} {b : β}
    (h : x.map f = .ok b) : ∃ a, x = .ok a ∧ f a = b := by
  cases x with
  | error e => cases h
  | ok a => exact ⟨a, rfl, Except.ok.inj h⟩

theorem exists_of_mapM_ok {ε α β : Type} {f : α → Except ε β} {xs : List α} {ys : List β}
    (h : xs.mapM f = .ok ys) : ∀ x ∈ xs, ∃ y, f x = .ok y := by
  induction xs generalizing ys with
  | nil => simp
  | cons x xs ih =>
      rw [List.mapM_cons] at h
      obtain ⟨y, hy, h⟩ := exists_of_bind_ok h
      obtain ⟨zs, hzs, -⟩ := exists_of_bind_ok h
      intro z hz
      rcases List.mem_cons.1 hz with rfl | hz
      · exact ⟨y, hy⟩
      · exact ih hzs z hz

theorem isWord_of_identifier? {t : Token} {name : String} (h : t.identifier? = some name) :
    ∃ quote, t = .word name quote := by
  cases t with
  | word value quote =>
      obtain rfl : value = name := by simpa [Token.identifier?] using h
      exact ⟨quote, rfl⟩
  | _ => cases h

theorem columnName_eq_ok {tokens : List Token} {column : String}
    (h : columnName tokens = .ok column) :
    (∃ quote, tokens = [.word column quote]) ∨
      ∃ qualifier quote, tokens = [qualifier, .mark .period, .word column quote] := by
  unfold columnName at h
  split at h
  · simp only at h
    split at h
    · next hname =>
        cases h
        obtain ⟨quote, rfl⟩ := isWord_of_identifier? hname
        exact Or.inl ⟨quote, rfl⟩
    · cases h
  · simp only at h
    split at h
    · next hname =>
        cases h
        obtain ⟨quote, rfl⟩ := isWord_of_identifier? hname
        exact Or.inr ⟨_, quote, rfl⟩
    · cases h
  · cases h

/-- What a comparison with a parameter consists of. -/
theorem comparedColumn?_eq_some {tokens : List Token} {column : String}
    (h : comparedColumn? tokens = some column) :
    ∃ name equality label, tokens = name ++ [equality, .placeholder label] ∧
      equality.isEquality = true ∧ columnName name = .ok column := by
  have hparameter : ∀ t : Token, t.isPlaceholder = true → ∃ label, t = .placeholder label := by
    intro t ht
    cases t with
    | placeholder label => exact ⟨label, rfl⟩
    | _ => cases ht
  unfold comparedColumn? at h
  split at h
  · next word equality parameter =>
      split at h
      · next hsigns =>
          rw [Bool.and_eq_true] at hsigns
          obtain ⟨label, rfl⟩ := hparameter parameter hsigns.2
          exact ⟨[word], equality, label, rfl, hsigns.1, by simp [columnName, h]⟩
      · cases h
  · next qualifier word equality parameter =>
      split at h
      · next hsigns =>
          rw [Bool.and_eq_true] at hsigns
          obtain ⟨label, rfl⟩ := hparameter parameter hsigns.2
          exact ⟨[qualifier, .mark .period, word], equality, label, rfl, hsigns.1,
            by simp [columnName, h]⟩
      · cases h
  · cases h

/-- What is read from pieces stands where they do, when every piece is read from the slot that
counts the parameters before it and the next slot counts those of the piece as well. -/
theorem listed_of_readAll {α : Type} {readItem : Nat → List Token → Except ParseError (α × Nat)}
    {readAll : Nat → List (List Token) → Except ParseError (List α × Nat)} (outer : List Token)
    (hnil : ∀ slot, readAll slot [] = .ok ([], slot))
    (hcons : ∀ slot p ps, readAll slot (p :: ps) = (do
      let (x, slot) ← readItem slot p
      let (xs, slot) ← readAll slot ps
      .ok (x :: xs, slot)))
    {cut cut' : List Token → Token → Prop} {Piece : List Token → List Token → List Token → Prop}
    {At : List Token → List Token → α → Prop} {read tokens : List Token}
    {pieces : List (List Token)} (hpieces : Listed cut Piece read tokens pieces)
    (hcut : ∀ read t, cut read t → cut' (outer ++ read) t ∧ t.isPlaceholder = false)
    (hitem : ∀ read item piece x slot, piece ∈ pieces → Piece read item piece →
      readItem (placeholderCount (outer ++ read)) piece = .ok (x, slot) →
        At (outer ++ read) item x ∧ slot = placeholderCount (outer ++ read ++ item))
    {xs : List α} {slot : Nat}
    (hread : readAll (placeholderCount (outer ++ read)) pieces = .ok (xs, slot)) :
    Listed cut' At (outer ++ read) tokens xs ∧
      slot = placeholderCount (outer ++ read ++ tokens) := by
  induction hpieces generalizing xs slot with
  | none =>
      rw [hnil] at hread
      cases hread
      exact ⟨.none, by simp⟩
  | @last read item piece hpiece =>
      rw [hcons] at hread
      obtain ⟨⟨x, next⟩, hx, hread⟩ := exists_of_bind_ok hread
      obtain ⟨⟨ys, last⟩, hys, hread⟩ := exists_of_bind_ok hread
      rw [hnil] at hys
      cases hys
      cases hread
      obtain ⟨hat, hslot⟩ := hitem read item piece x _ List.mem_cons_self hpiece hx
      exact ⟨.last hat, hslot⟩
  | @more read item rest t piece pieces hpiece ht _ ih =>
      rw [hcons] at hread
      obtain ⟨⟨x, next⟩, hx, hread⟩ := exists_of_bind_ok hread
      obtain ⟨⟨ys, last⟩, hys, hread⟩ := exists_of_bind_ok hread
      cases hread
      obtain ⟨hat, hnext⟩ := hitem read item piece x next List.mem_cons_self hpiece hx
      obtain ⟨ht', hplaceholder⟩ := hcut (read ++ item) t ht
      have hcount : next = placeholderCount (outer ++ (read ++ item ++ [t])) := by
        rw [hnext]
        simp [placeholderCount, hplaceholder]
      rw [hcount] at hys
      obtain ⟨hrest, hlast⟩ := ih (fun read item p x slot hp =>
        hitem read item p x slot (List.mem_cons_of_mem piece hp)) hys
      refine ⟨.more hat (by simpa using ht') (by simpa using hrest), ?_⟩
      rw [hlast]
      simp

/-- What is read from the conjuncts of a clause stands where they do. -/
theorem listed_of_conjuncts (outer : List Token) {cut cut' : List Token → Token → Prop}
    {Piece : List Token → List Token → List Token → Prop}
    {At : List Token → List Token → Conjunct → Prop} {tokens : List Token}
    {pieces : List (List Token)} (hpieces : Listed cut Piece [] tokens pieces)
    (hcut : ∀ read t, cut read t → cut' (outer ++ read) t ∧ t.isKeyword "AND" = true)
    (hitem : ∀ read item piece, piece ∈ pieces → Piece read item piece →
      At (outer ++ read) item (Conjunct.read (placeholderCount (outer ++ read)) piece).1 ∧
        (Conjunct.read (placeholderCount (outer ++ read)) piece).2 =
          placeholderCount (outer ++ read ++ item)) :
    Listed cut' At outer tokens (Conjunct.readAll (placeholderCount outer) pieces).1 := by
  have hlisted := @listed_of_readAll Conjunct (fun slot piece => .ok (Conjunct.read slot piece))
    (fun slot pieces => .ok (Conjunct.readAll slot pieces)) outer (fun _ => rfl) (fun _ _ _ => rfl)
    _ cut' _ At _ _ _ hpieces ?_ ?_ (Conjunct.readAll (placeholderCount outer) pieces).1
    (Conjunct.readAll (placeholderCount outer) pieces).2 (by simp)
  · simpa using hlisted.1
  · intro read t ht
    exact ⟨(hcut read t ht).1, not_placeholder_of_isKeyword (hcut read t ht).2⟩
  · intro read item piece c slot hmem hpiece hread
    have hat := hitem read item piece hmem hpiece
    rwa [Except.ok.inj hread] at hat

/-! ## Joining -/

/-- Pieces without separators, joined, are cut into the pieces again. -/
theorem split_joined {isSeparator : Token → Bool} {separator : Token}
    (hseparator : isSeparator separator = true) {pieces : List (List Token)}
    (hpieces : ∀ p ∈ pieces, p ≠ [] ∧ depthFrom 0 p = 0 ∧
      ∀ t ∈ outside 0 p, isSeparator t = false) :
    split isSeparator ([separator].intercalate pieces) = pieces := by
  induction pieces with
  | nil => rfl
  | cons p rest ih =>
    obtain ⟨hne, hdepth, hp⟩ := hpieces p List.mem_cons_self
    have hrest := ih fun q hq => hpieces q (List.mem_cons_of_mem p hq)
    cases rest with
    | nil =>
        have := splitFrom_append hp [] []
        rw [hdepth] at this
        simpa [split, splitFrom, hne] using this
    | cons q rest =>
        rw [List.intercalate_cons_cons, List.append_assoc, split, splitFrom_append hp, hdepth,
          List.singleton_append, splitFrom]
        simpa [hseparator, split] using hrest

theorem conjunctsFrom_append {ts : List Token} (hflat : Flat ts)
    (h : ∀ t ∈ ts, t.isKeyword "BETWEEN" = false ∧ t.isKeyword "AND" = false)
    (current us : List Token) :
    conjunctsFrom 0 false current (ts ++ us) = conjunctsFrom 0 false (current ++ ts) us := by
  induction ts generalizing current with
  | nil => simp
  | cons t ts ih =>
      have ht := h t List.mem_cons_self
      have hrest := ih (fun u hu => hflat u (List.mem_cons_of_mem t hu))
        (fun u hu => h u (List.mem_cons_of_mem t hu)) (current ++ [t])
      rw [List.cons_append, conjunctsFrom]
      simpa [ht, nest_of_not_paren (hflat t List.mem_cons_self)] using hrest

/-- Comparisons joined by `AND` are the conjuncts of the clause. -/
theorem splitConjuncts_joined {conjunction : Token} (hand : conjunction.isKeyword "AND" = true)
    {pieces : List (List Token)} (hne : pieces ≠ [])
    (hpieces : ∀ p ∈ pieces, Flat p ∧
      ∀ t ∈ p, t.isKeyword "BETWEEN" = false ∧ t.isKeyword "AND" = false) :
    splitConjuncts ([conjunction].intercalate pieces) = pieces := by
  induction pieces with
  | nil => exact absurd rfl hne
  | cons p rest ih =>
    obtain ⟨hflat, hp⟩ := hpieces p List.mem_cons_self
    cases rest with
    | nil =>
        have := conjunctsFrom_append hflat hp [] []
        simpa [splitConjuncts, conjunctsFrom] using this
    | cons q rest =>
        have hrest := ih (by simp) fun r hr => hpieces r (List.mem_cons_of_mem p hr)
        rw [List.intercalate_cons_cons, List.append_assoc, splitConjuncts,
          conjunctsFrom_append hflat hp, List.singleton_append, conjunctsFrom_of_cut hand]
        simpa [splitConjuncts] using hrest

end MiniSql
