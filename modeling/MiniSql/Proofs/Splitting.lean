import MiniSql.Proofs.Cuts

/-!
# Tokens of a split script

The pieces of a script hold the tokens of its text between the semicolons. Trimming is the only
thing that can change them: it takes blanks off the outer words of a piece if these begin or end
with one.

**Results.**
* `scan_split`: the pieces are scanned to the runs of tokens that are not empty.
* `split_keeps_tokens`: no token is lost or changed, and no semicolon is left.
* `split_drops_blank_word`: a word of blanks is lost.
-/

namespace MiniSql.Script

/-- A text with tokens is worth executing. -/
theorem isStatement_of_scan {piece : String} {tokens : List Token}
    (h : Token.scan piece = .ok tokens) : isStatement piece = decide (tokens ≠ []) := by
  by_cases hpiece : piece = ""
  · subst hpiece
    have hscanned := Token.scan_eq_ok_iff.mp h
    rw [Lexer.Scanned.eq_nil hscanned]
    rfl
  · cases tokens with
    | nil => simp [isStatement, h]
    | cons t ts => simp [isStatement, h, hpiece]

theorem scan_trim {cs : List Char} {tokens : List Token} (h : Lexer.Scanned cs tokens)
    (htrimmed : Token.Trimmed tokens) :
    Token.scan (Text.trim (String.ofList cs)) = .ok tokens := by
  rw [Token.scan_eq_ok_iff, Text.trim, String.toList_ofList, String.toList_ofList]
  exact h.trim htrimmed

theorem map_scan_filter {segments : List (List Char)} {runs : List (List Token)}
    (h : List.Forall₂ Lexer.Scanned segments runs)
    (htrimmed : ∀ run ∈ runs, Token.Trimmed run) :
    ((segments.map fun cs => Text.trim (String.ofList cs)).filter isStatement).map Token.scan =
      (runs.filter (· ≠ [])).map .ok := by
  induction h with
  | nil => rfl
  | @cons cs run segments runs hscanned _ ih =>
      have hscan := scan_trim hscanned (htrimmed run List.mem_cons_self)
      have hrest := ih fun run hrun => htrimmed run (List.mem_cons_of_mem _ hrun)
      rw [List.map_cons, List.filter_cons, isStatement_of_scan hscan, List.filter_cons]
      split
      · rw [List.map_cons, List.map_cons, hscan, hrest]
      · exact hrest

/-- The pieces of a script are scanned to the runs of tokens between its semicolons. -/
theorem scan_split {text : String} {tokens : List Token} (h : Token.scan text = .ok tokens)
    (htrimmed : ∀ run ∈ tokens.splitOn (.mark .semicolon), Token.Trimmed run) :
    (split text).map Token.scan =
      ((tokens.splitOn (.mark .semicolon)).filter (· ≠ [])).map .ok := by
  obtain ⟨segments, hsplit, hsegments⟩ := exists_segments h
  rw [hsplit, map_scan_filter hsegments htrimmed]

section Runs

variable {α : Type} [DecidableEq α]

theorem flatten_splitOn (a : α) (xs : List α) :
    (xs.splitOn a).flatten = xs.filter (· ≠ a) := by
  induction xs using separated_induction (p := (· = a)) with
  | single xs hnone =>
      have hxs : ∀ x ∈ xs, x ≠ a := fun x hx => of_decide_eq_false (hnone x hx)
      rw [List.splitOn_eq_singleton fun ha => hxs a ha rfl, List.filter_eq_self.mpr]
      · simp
      · exact fun x hx => decide_eq_true (hxs x hx)
  | cut xs x ys hnone hx ih =>
      have hxs : ∀ x ∈ xs, x ≠ a := fun x hx => of_decide_eq_false (hnone x hx)
      obtain rfl : x = a := of_decide_eq_true hx
      rw [List.splitOn_append_cons_self_of_not_mem fun ha => hxs x ha rfl, List.flatten_cons, ih,
        List.filter_append, List.filter_eq_self.mpr fun y hy => decide_eq_true (hxs y hy)]
      simp

theorem not_mem_of_mem_splitOn {a : α} {xs run : List α} (h : run ∈ xs.splitOn a) : a ∉ run := by
  intro ha
  have hflat : a ∈ (xs.splitOn a).flatten := List.mem_flatten_of_mem h ha
  rw [flatten_splitOn] at hflat
  simp at hflat

end Runs

/-- Splitting a script loses and changes no token: the pieces hold the tokens of the text in
order, without the semicolons. The words next to a cut must not begin or end with a blank. -/
theorem split_keeps_tokens (text : String) (tokens : List Token)
    (hscan : Token.scan text = .ok tokens)
    (htrimmed : ∀ run ∈ tokens.splitOn (.mark .semicolon), Token.Trimmed run) :
    ∃ lists : List (List Token),
      (split text).map Token.scan = lists.map .ok ∧
      lists.flatten = tokens.filter (· ≠ .mark .semicolon) ∧
      ∀ list ∈ lists, list ≠ [] ∧ .mark .semicolon ∉ list := by
  refine ⟨(tokens.splitOn (.mark .semicolon)).filter (· ≠ []), scan_split hscan htrimmed, ?_, ?_⟩
  · rw [List.flatten_filter_ne_nil, flatten_splitOn]
  · intro list hlist
    obtain ⟨hmem, hne⟩ := List.mem_filter.mp hlist
    exact ⟨of_decide_eq_true hne, not_mem_of_mem_splitOn hmem⟩

/-- The cut is at the first semicolon, since a comment holds the second one and a text the
third. -/
theorem split_keeps_tokens_of_two :
    ∃ tokens : List Token,
      Token.scan "DELETE FROM t; -- all; gone\nPRAGMA ';'" = .ok tokens ∧
      (∀ run ∈ tokens.splitOn (.mark .semicolon), Token.Trimmed run) ∧
      ∃ lists : List (List Token),
        (split "DELETE FROM t; -- all; gone\nPRAGMA ';'").map Token.scan = lists.map .ok ∧
        lists.flatten = tokens.filter (· ≠ .mark .semicolon) ∧
        ∀ list ∈ lists, list ≠ [] ∧ .mark .semicolon ∉ list := by
  have hscan : Token.scan "DELETE FROM t; -- all; gone\nPRAGMA ';'" =
      .ok [.word "DELETE" none, .word "FROM" none, .word "t" none, .mark .semicolon,
        .word "PRAGMA" none, .text .plain ";"] := by
    with_unfolding_all rfl
  have htrimmed : ∀ run ∈ [Token.word "DELETE" none, .word "FROM" none, .word "t" none,
      .mark .semicolon, .word "PRAGMA" none, .text .plain ";"].splitOn (.mark .semicolon),
      Token.Trimmed run := by
    decide +kernel
  exact ⟨_, hscan, htrimmed, split_keeps_tokens _ _ hscan htrimmed⟩

/-- A no-break space is a word, but the piece that it makes up is trimmed to nothing. -/
theorem split_drops_blank_word :
    Token.scan "\u00a0" = .ok [.word "\u00a0" none] ∧
      ¬ ∃ lists : List (List Token),
        (split "\u00a0").map Token.scan = lists.map .ok ∧
        lists.flatten = [Token.word "\u00a0" none].filter (· ≠ .mark .semicolon) ∧
        ∀ list ∈ lists, list ≠ [] ∧ .mark .semicolon ∉ list := by
  refine ⟨by with_unfolding_all rfl, ?_⟩
  rintro ⟨lists, hpieces, hflatten, -⟩
  have hsplit : split "\u00a0" = [] := by decide +kernel
  rw [hsplit] at hpieces
  obtain rfl : lists = [] := List.map_eq_nil_iff.mp hpieces.symm
  cases hflatten

end MiniSql.Script
