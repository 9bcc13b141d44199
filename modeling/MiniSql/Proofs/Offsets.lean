import MiniSql.Proofs.Cuts

/-!
# Where semicolons stand

A text is the sources of its lexemes, one after the other. A lexeme therefore begins at the byte
behind the sources before it, whatever characters these have: every one of them takes one column or
begins a line, and takes its bytes. So the location of a lexeme leads back to its first byte, and
the offsets of the semicolons are the places at which the lexemes that are semicolons begin.

**Results.**
* `Lexer.exists_find?_location`: every lexeme is found again by its location.
* `Lexer.length_cuts`, `Lexer.getElem?_cuts`, `Lexer.pairwise_cuts`: one offset for each semicolon,
  in order.
* `Lexer.cuts_apart`: no offset lies within another lexeme.
* `Token.semicolonOffsets_exact`: all of this for the offsets of a text.
-/

namespace MiniSql

open String (utf8Len utf8Len_append utf8Len_eq_zero)

namespace Lexer

section Places

variable {here : Location} {cs : List Char} {offset : Nat} {l : Lexeme}
  {before after ls : List Lexeme}

/-! ## Lexemes -/

theorem exists_source_cons (h : lexemes here cs = .ok ls) (hl : l ∈ ls) :
    ∃ c ds, l.source = c :: ds := by
  induction ls generalizing here cs with
  | nil => cases hl
  | cons m ms ih =>
      obtain ⟨c, ds, n, -, -, hm, hrest⟩ := lexemes_cons_eq h
      rcases List.mem_cons.mp hl with rfl | hl
      · exact ⟨c, ds.take n, by rw [hm]⟩
      · exact ih hrest hl

/-- The location of a lexeme leads back to its first byte. -/
theorem exists_find?_location (h : lexemes .start cs = .ok (before ++ l :: after)) :
    ∃ c ds, l.source = c :: ds ∧
      l.location.find? .start 0 cs = some (utf8Len (before.flatMap Lexeme.source), c) := by
  obtain ⟨c, ds, hsource⟩ := exists_source_cons h (l := l) (by simp)
  have htext : before.flatMap Lexeme.source ++ c :: (ds ++ after.flatMap Lexeme.source) = cs := by
    rw [← lexemes_sources h]
    simp [hsource]
  refine ⟨c, ds, hsource, ?_⟩
  rw [location_of_lexemes h, ← htext, Location.find?_advanceOver, Nat.zero_add]

theorem count_semicolon (ls : List Lexeme) :
    (ls.filterMap Lexeme.token).count (.mark .semicolon) = ls.countP Lexeme.isSemicolon := by
  induction ls with
  | nil => rfl
  | cons l ls ih =>
      cases htoken : l.token with
      | none => simp [htoken, ih, Lexeme.isSemicolon]
      | some t => simp [htoken, ih, Lexeme.isSemicolon, List.count_cons, List.countP_cons]

/-! ## Offsets -/

theorem length_cuts (offset : Nat) (ls : List Lexeme) :
    (cuts offset ls).length = ls.countP Lexeme.isSemicolon := by
  induction ls generalizing offset with
  | nil => rfl
  | cons l ls ih =>
      rw [cuts, List.length_append, ih, List.countP_cons, Nat.add_comm]
      cases l.isSemicolon <;> rfl

/-- A semicolon has as many offsets before its own as there are semicolons before it. -/
theorem getElem?_cuts (hl : l.isSemicolon = true) :
    (cuts offset (before ++ l :: after))[before.countP Lexeme.isSemicolon]? =
      some (offset + utf8Len (before.flatMap Lexeme.source)) := by
  rw [cuts_append, ← length_cuts offset before, List.getElem?_append_right (Nat.le_refl _),
    Nat.sub_self, cuts, hl]
  rfl

theorem utf8Len_source_pos (hne : l.source ≠ []) : 0 < utf8Len l.source :=
  Nat.pos_of_ne_zero (mt utf8Len_eq_zero.mp hne)

/-- Offsets lie within the text of their lexemes. -/
theorem bounds_of_mem_cuts (hne : ∀ l ∈ ls, l.source ≠ []) {n : Nat} (hn : n ∈ cuts offset ls) :
    offset ≤ n ∧ n < offset + utf8Len (ls.flatMap Lexeme.source) := by
  induction ls generalizing offset with
  | nil => cases hn
  | cons l ls ih =>
      have hlength : utf8Len ((l :: ls).flatMap Lexeme.source) =
          utf8Len l.source + utf8Len (ls.flatMap Lexeme.source) := by
        rw [List.flatMap_cons, utf8Len_append]
      rw [cuts, List.mem_append] at hn
      rcases hn with hn | hn
      · have hpos := utf8Len_source_pos (hne l List.mem_cons_self)
        split at hn
        · rw [List.mem_singleton.mp hn]
          omega
        · cases hn
      · have hrest := ih (fun m hm => hne m (List.mem_cons_of_mem l hm)) hn
        omega

theorem pairwise_cuts (hne : ∀ l ∈ ls, l.source ≠ []) : (cuts offset ls).Pairwise (· < ·) := by
  induction ls generalizing offset with
  | nil => exact List.Pairwise.nil
  | cons l ls ih =>
      have hrest : ∀ m ∈ ls, m.source ≠ [] := fun m hm => hne m (List.mem_cons_of_mem l hm)
      have hpos := utf8Len_source_pos (hne l List.mem_cons_self)
      rw [cuts]
      split
      · refine List.pairwise_cons.mpr ⟨fun n hn => ?_, ih hrest⟩
        have := bounds_of_mem_cuts hrest hn
        omega
      · exact ih hrest

/-- No offset lies within a lexeme that is no semicolon. -/
theorem cuts_apart (hne : ∀ m ∈ before ++ l :: after, m.source ≠ []) (hl : l.isSemicolon = false)
    {n : Nat} (hn : n ∈ cuts offset (before ++ l :: after)) :
    n < offset + utf8Len (before.flatMap Lexeme.source) ∨
      offset + utf8Len (before.flatMap Lexeme.source) + utf8Len l.source ≤ n := by
  rw [cuts_append, List.mem_append] at hn
  rcases hn with hn | hn
  · exact .inl (bounds_of_mem_cuts (fun m hm => hne m (by simp [hm])) hn).2
  · rw [cuts, hl] at hn
    exact .inr (bounds_of_mem_cuts (fun m hm => hne m (by simp [hm])) hn).1

end Places

end Lexer

/-- The offsets of the semicolons of a text that is scanned. The text is the sources of its lexemes,
one after the other. Every lexeme is found again by its location, at the byte where it begins; the
offsets increase, there are as many as semicolon tokens, and the one behind as many others as there
are semicolons before a semicolon is the byte where that one begins; none lies within another
lexeme, be it a text, a quoted word or a comment. -/
theorem Token.semicolonOffsets_exact (text : String) (tokens : List Token)
    (h : scan text = .ok tokens) :
    ∃ ls offsets, Lexer.lexemes .start text.toList = .ok ls ∧ ls.filterMap Lexeme.token = tokens ∧
      ls.flatMap Lexeme.source = text.toList ∧ semicolonOffsets text = .ok offsets ∧
      offsets.Pairwise (· < ·) ∧ offsets.length = tokens.count (.mark .semicolon) ∧
      ∀ before l after, ls = before ++ l :: after →
        let start := utf8Len (before.flatMap Lexeme.source)
        (∃ c ds, l.source = c :: ds ∧
          l.location.find? .start 0 text.toList = some (start, c)) ∧
        (l.token = some (.mark .semicolon) →
          l.source = [';'] ∧
          offsets[(before.filterMap Lexeme.token).count (.mark .semicolon)]? = some start) ∧
        (l.token ≠ some (.mark .semicolon) →
          ∀ n ∈ offsets, n < start ∨ start + utf8Len l.source ≤ n) := by
  cases hls : Lexer.lexemes .start text.toList with
  | error e =>
      rw [scan, hls] at h
      cases h
  | ok ls =>
      have htokens : ls.filterMap Lexeme.token = tokens := by
        rw [scan, hls] at h
        exact Except.ok.inj h
      have hne : ∀ l ∈ ls, l.source ≠ [] := by
        intro l hl hnil
        obtain ⟨c, ds, hsource⟩ := Lexer.exists_source_cons hls hl
        exact List.cons_ne_nil c ds (hsource.symm.trans hnil)
      refine ⟨ls, Lexer.cuts 0 ls, rfl, htokens, Lexer.lexemes_sources hls,
        semicolonOffsets_eq hls, Lexer.pairwise_cuts hne, ?_, ?_⟩
      · rw [Lexer.length_cuts, ← Lexer.count_semicolon, htokens]
      rintro before l after rfl
      refine ⟨Lexer.exists_find?_location hls, fun htoken => ?_, fun htoken n hn => ?_⟩
      · have hl : l.isSemicolon = true := decide_eq_true htoken
        refine ⟨Lexer.source_eq_of_isSemicolon hls (by simp) hl, ?_⟩
        rw [Lexer.count_semicolon, Lexer.getElem?_cuts hl, Nat.zero_add]
      · have hapart := Lexer.cuts_apart hne (decide_eq_false htoken) hn
        rwa [Nat.zero_add] at hapart

/-- Semicolons beside others in a text with a character of two bytes, a comment of a line that ends
with a carriage return and a line feed, a quoted word and a comment within a comment. -/
theorem Token.semicolonOffsets_exact_beside_quotes :
    let text := "'é;';-- ;\r\n[;]\n;/* /*;*/ ; */;"
    let tokens : List Token := [.text .plain "é;", .mark .semicolon, .word ";" (some .bracket),
      .mark .semicolon, .mark .semicolon]
    scan text = .ok tokens ∧ semicolonOffsets text = .ok [5, 16, 30] ∧
      [5, 16, 30].Pairwise (· < ·) ∧ [5, 16, 30].length = tokens.count (.mark .semicolon) := by
  intro text tokens
  have hscan : scan text = .ok tokens := by decide +kernel
  obtain ⟨ls, offsets, -, -, -, hoffsets, hincreasing, hcount, -⟩ :=
    semicolonOffsets_exact text tokens hscan
  have hfound : semicolonOffsets text = .ok [5, 16, 30] := by decide +kernel
  obtain rfl : offsets = [5, 16, 30] := Except.ok.inj (hoffsets.symm.trans hfound)
  exact ⟨hscan, hfound, hincreasing, hcount⟩

end MiniSql
