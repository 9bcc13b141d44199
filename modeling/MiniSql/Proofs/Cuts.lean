import Mathlib.Data.List.Forall2
import Mathlib.Data.String.Basic
import MiniSql.Proofs.Trimming
import MiniSql.Script

/-!
# Where a script is cut

A semicolon token is found again by its location, and the text is cut at its byte. Locations
grow along a text, so that the walk to a location stops at its character and at no other; the
bytes between two cuts are those of the lexemes between two semicolons, and each run of lexemes
is scanned by itself as it was scanned in the text.

**Results.**
* `find?_advanceOver`: a location leads back to its character.
* `semicolonOffsets_eq`, `map_slice_ranges`: the raw pieces are the runs of lexemes.
* `exists_segments`: every raw piece is scanned to the tokens between two semicolons.
-/

namespace MiniSql

open String (utf8Len utf8Len_nil utf8Len_cons utf8Len_append)

/-! ## Locations -/

namespace Location

/-- Earlier in a text. -/
def Before (l m : Location) : Prop :=
  l.line < m.line ∨ (l.line = m.line ∧ l.column < m.column)

theorem before_advance (l : Location) (c : Char) : l.Before (l.advance c) := by
  unfold Before advance
  split
  · exact Or.inl (Nat.lt_succ_self l.line)
  · exact Or.inr ⟨rfl, Nat.lt_succ_self l.column⟩

theorem Before.trans {l m n : Location} (h : l.Before m) (h' : m.Before n) : l.Before n := by
  unfold Before at *
  omega

theorem before_advanceOver (l : Location) (c : Char) (cs : List Char) :
    l.Before (l.advanceOver (c :: cs)) := by
  induction cs generalizing l c with
  | nil => exact before_advance l c
  | cons d ds ih => exact (before_advance l c).trans (ih (l.advance c) d)

theorem Before.ne {l m : Location} (h : l.Before m) : l ≠ m := by
  rintro rfl
  unfold Before at h
  omega

/-- The location after a run of characters leads back to the character that follows them. -/
theorem find?_advanceOver (here : Location) (offset : Nat) (before : List Char) (c : Char)
    (after : List Char) :
    (here.advanceOver before).find? here offset (before ++ c :: after) =
      some (offset + utf8Len before, c) := by
  induction before generalizing here offset with
  | nil => simp [find?]
  | cons d ds ih =>
      have hne := (before_advanceOver here d ds).ne
      rw [List.cons_append, find?, if_neg hne, advanceOver_cons, ih, utf8Len_cons]
      congr 2
      omega

end Location

/-! ## Lexemes -/

/-- A semicolon token. -/
def Lexeme.isSemicolon (l : Lexeme) : Bool :=
  l.token = some (.mark .semicolon)

namespace Lexer

theorem operatorToken_eq_mark {spelling : String} {m : Mark}
    (h : operatorToken spelling = .mark m) : spelling = m.spelling := by
  unfold operatorToken at h
  split at h <;> cases h <;> rfl

/-- A mark token other than a point is its spelling. -/
theorem lexeme_eq_mark {c : Char} {cs : List Char} {m : Mark} {n : Nat} (hm : m ≠ .period)
    (h : lexeme c cs = .ok (some (.mark m), n)) :
    c :: cs.take n = m.spelling.toList ∧ n + 1 = m.spelling.length := by
  rw [lexeme_eq_read] at h
  have hmakes := Reader.makes_of_read h
  generalize Reader.choose c cs.head? = r at h hmakes
  cases r with
  | operator =>
      simp only [Reader.read] at h
      split at h
      · next spelling hread =>
          obtain ⟨ht, rfl⟩ := Prod.mk.inj (Except.ok.inj h)
          obtain rfl := operatorToken_eq_mark (Option.some.inj ht)
          have hfind : operators.find? (fun s => s.toList.isPrefixOf (c :: cs)) =
              some m.spelling := hread
          have hfound := List.find?_some hfind
          have hstart : m.spelling.toList <+: c :: cs := List.isPrefixOf_iff_prefix.mp hfound
          have hlength : m.spelling.length - 1 + 1 = m.spelling.length := by cases m <;> rfl
          refine ⟨?_, hlength⟩
          rw [← List.take_succ_cons, hlength, ← String.length_toList]
          exact (List.prefix_iff_eq_take.mp hstart).symm
      · cases h
  | numeral =>
      cases m with
      | period => exact absurd rfl hm
      | _ => cases hmakes
  | _ => cases hmakes

/-- A semicolon token is the character. -/
theorem lexeme_eq_semicolon {c : Char} {cs : List Char} {n : Nat}
    (h : lexeme c cs = .ok (some (.mark .semicolon), n)) : c = ';' ∧ n = 0 := by
  obtain ⟨hchars, hlength⟩ := lexeme_eq_mark (by decide) h
  exact ⟨(List.cons.inj hchars).1, Nat.succ.inj hlength⟩

section Lexemes

variable {here : Location} {cs : List Char} {l : Lexeme} {ls ms : List Lexeme}

/-- The first lexeme of a text and the others. -/
theorem lexemes_cons_eq (h : lexemes here cs = .ok (l :: ls)) :
    ∃ c ds n, cs = c :: ds ∧ lexeme c ds = .ok (l.token, n) ∧ l = ⟨l.token, here, c :: ds.take n⟩ ∧
      lexemes (here.advanceOver (c :: ds.take n)) (ds.drop n) = .ok ls := by
  cases cs with
  | nil =>
      rw [lexemes] at h
      cases h
  | cons c ds =>
      rw [lexemes] at h
      split at h
      · cases h
      · next t n hlexeme =>
          simp only at h
          split at h
          · cases h
          · next rest hrest =>
              cases h
              exact ⟨c, ds, n, rfl, hlexeme, rfl, hrest⟩

theorem source_eq_of_isSemicolon (h : lexemes here cs = .ok ls) (hl : l ∈ ls)
    (hsemicolon : l.isSemicolon = true) : l.source = [';'] := by
  induction ls generalizing here cs with
  | nil => cases hl
  | cons m ms ih =>
      obtain ⟨c, ds, n, -, hlexeme, hm, hrest⟩ := lexemes_cons_eq h
      rcases List.mem_cons.mp hl with rfl | hl
      · rw [of_decide_eq_true hsemicolon] at hlexeme
        obtain ⟨rfl, rfl⟩ := lexeme_eq_semicolon hlexeme
        rw [hm]
        rfl
      · exact ih hrest hl

/-- A lexeme is read as it is when only some of the text after it is left. -/
theorem lexeme_take_append {c : Char} {ds before after : List Char} {t : Option Token} {n : Nat}
    (h : lexeme c ds = .ok (t, n)) (hdrop : before ++ after = ds.drop n) :
    lexeme c (ds.take n ++ before) = .ok (t, n) ∧ (ds.take n ++ before).take n = ds.take n ∧
      (ds.take n ++ before).drop n = before := by
  by_cases hn : n ≤ ds.length
  · have hlength : (ds.take n).length = n := List.length_take_of_le hn
    have hds : ds = (ds.take n ++ before) ++ after := by
      rw [List.append_assoc, hdrop, List.take_append_drop]
    refine ⟨?_, List.take_left' hlength, List.drop_left' hlength⟩
    rw [hds] at h
    refine lexeme_of_append h ?_
    rw [List.length_append, hlength]
    exact Nat.le_add_right n _
  · have hle := Nat.le_of_not_le hn
    rw [List.drop_eq_nil_iff.mpr hle] at hdrop
    obtain ⟨rfl, rfl⟩ := List.append_eq_nil_iff.mp hdrop
    rw [List.append_nil, List.take_of_length_le hle, List.drop_eq_nil_iff.mpr hle]
    exact ⟨h, List.take_of_length_le hle, rfl⟩

/-- A run of lexemes is read from its own characters, and so is what follows it. -/
theorem lexemes_append (h : lexemes here cs = .ok (ls ++ ms)) :
    lexemes here (ls.flatMap Lexeme.source) = .ok ls ∧
      lexemes (here.advanceOver (ls.flatMap Lexeme.source)) (ms.flatMap Lexeme.source) =
        .ok ms := by
  induction ls generalizing here cs with
  | nil =>
      have hsources : ms.flatMap Lexeme.source = cs := lexemes_sources h
      exact ⟨by rw [List.flatMap_nil, lexemes], by rwa [hsources]⟩
  | cons l ls ih =>
      obtain ⟨c, ds, n, rfl, hlexeme, hl, hrest⟩ := lexemes_cons_eq h
      obtain ⟨hls, hms⟩ := ih hrest
      have hdrop : (ls ++ ms).flatMap Lexeme.source = ds.drop n := lexemes_sources hrest
      rw [List.flatMap_append] at hdrop
      have hsource : l.source = c :: ds.take n := by rw [hl]
      have hread := lexeme_take_append hlexeme hdrop
      rw [List.flatMap_cons, hsource]
      refine ⟨?_, by rwa [Location.advanceOver_append]⟩
      rw [List.cons_append, lexemes, hread.1]
      simp only [hread.2.1, hread.2.2, hls]
      rw [← hl]

theorem scanned_of_lexemes (h : lexemes here cs = .ok ls) :
    Scanned cs (ls.filterMap Lexeme.token) := by
  rcases scanned_or_faulty cs here with ⟨ls', hls', hscanned⟩ | ⟨⟨e, he⟩, -⟩
  · rw [h] at hls'
    cases hls'
    exact hscanned
  · rw [h] at he
    cases he

end Lexemes

end Lexer

/-! ## Offsets -/

/-- The byte offsets of the semicolon tokens of a run of lexemes. -/
def Lexer.cuts (offset : Nat) : List Lexeme → List Nat
  | [] => []
  | l :: ls => (if l.isSemicolon then [offset] else []) ++ cuts (offset + utf8Len l.source) ls

theorem Lexer.cuts_append (offset : Nat) (ls ms : List Lexeme) :
    cuts offset (ls ++ ms) =
      cuts offset ls ++ cuts (offset + utf8Len (ls.flatMap Lexeme.source)) ms := by
  induction ls generalizing offset with
  | nil => rfl
  | cons l ls ih =>
      have hoffset : offset + utf8Len ((l :: ls).flatMap Lexeme.source) =
          offset + utf8Len l.source + utf8Len (ls.flatMap Lexeme.source) := by
        rw [List.flatMap_cons, utf8Len_append, Nat.add_assoc]
      rw [List.cons_append, cuts, cuts, ih, hoffset, List.append_assoc]

theorem Lexer.cuts_eq_nil {offset : Nat} {ls : List Lexeme}
    (h : ∀ l ∈ ls, l.isSemicolon = false) : cuts offset ls = [] := by
  induction ls generalizing offset with
  | nil => rfl
  | cons l ls ih =>
      rw [cuts, h l List.mem_cons_self, ih fun m hm => h m (List.mem_cons_of_mem l hm)]
      rfl

/-- The offset that a semicolon token is found at. -/
def Lexer.offset? (cs : List Char) (l : Lexeme) : Option Nat :=
  match l.location.find? .start 0 cs with
  | some (offset, ';') => some offset
  | _ => none

namespace Lexer

theorem filterMap_offset? {cs : List Char} {before after : List Lexeme}
    (h : lexemes .start cs = .ok (before ++ after)) :
    (after.filter Lexeme.isSemicolon).filterMap (offset? cs) =
      cuts (utf8Len (before.flatMap Lexeme.source)) after := by
  induction after generalizing before with
  | nil => rfl
  | cons l ls ih =>
      have hrest : lexemes .start cs = .ok ((before ++ [l]) ++ ls) := by
        rwa [List.append_assoc, List.singleton_append]
      have hoffset : utf8Len ((before ++ [l]).flatMap Lexeme.source) =
          utf8Len (before.flatMap Lexeme.source) + utf8Len l.source := by
        simp
      rw [cuts, ← hoffset, ← ih hrest]
      cases hsemicolon : l.isSemicolon with
      | false => simp [hsemicolon]
      | true =>
          have hsource : l.source = [';'] :=
            source_eq_of_isSemicolon h (by simp) hsemicolon
          have htext : before.flatMap Lexeme.source ++ ';' :: ls.flatMap Lexeme.source = cs := by
            rw [← lexemes_sources h]
            simp [hsource]
          have hfound : offset? cs l = some (utf8Len (before.flatMap Lexeme.source)) := by
            rw [offset?, location_of_lexemes h, ← htext, Location.find?_advanceOver, Nat.zero_add]
            rfl
          simp [hsemicolon, hfound]

end Lexer

theorem Token.semicolonOffsets_eq {text : String} {ls : List Lexeme}
    (h : Lexer.lexemes .start text.toList = .ok ls) :
    semicolonOffsets text = .ok (Lexer.cuts 0 ls) := by
  have hall : Lexer.lexemes .start text.toList = .ok ([] ++ ls) := h
  rw [semicolonOffsets, h]
  exact congrArg Except.ok (Lexer.filterMap_offset? hall)

/-! ## Slices -/

namespace Script

section Slices

variable {range : Nat × Nat} {here : Nat} {cs : List Char}

theorem slice_append (range : Nat × Nat) (here : Nat) (cs ds : List Char) :
    slice range here (cs ++ ds) = slice range here cs ++ slice range (here + utf8Len cs) ds := by
  induction cs generalizing here with
  | nil => rfl
  | cons c cs ih =>
      have hoffset : here + utf8Len (c :: cs) = here + c.utf8Size + utf8Len cs := by
        rw [utf8Len_cons]
        omega
      rw [List.cons_append, slice, slice, ih, hoffset]
      split <;> rfl

/-- Characters within the range are kept. -/
theorem slice_of_within (hstart : range.1 ≤ here) (hend : here + utf8Len cs ≤ range.2) :
    slice range here cs = cs := by
  induction cs generalizing here with
  | nil => rfl
  | cons c cs ih =>
      rw [utf8Len_cons] at hend
      have hsize := c.utf8Size_pos
      rw [slice, if_pos ⟨hstart, by omega⟩, ih (by omega) (by omega)]

/-- Characters before the range are dropped. -/
theorem slice_of_before (hbefore : here + utf8Len cs ≤ range.1) : slice range here cs = [] := by
  induction cs generalizing here with
  | nil => rfl
  | cons c cs ih =>
      rw [utf8Len_cons] at hbefore
      have hsize := c.utf8Size_pos
      rw [slice, if_neg (by omega), ih (by omega)]

/-- Characters after the range are dropped. -/
theorem slice_of_after (hafter : range.2 ≤ here) : slice range here cs = [] := by
  induction cs generalizing here with
  | nil => rfl
  | cons c cs ih => rw [slice, if_neg (by omega), ih (by omega)]

/-- The characters between two byte offsets. -/
theorem slice_append_append (before inside after : List Char) :
    slice (utf8Len before, utf8Len before + utf8Len inside) 0 (before ++ (inside ++ after)) =
      inside := by
  rw [slice_append, slice_append, slice_of_before (by simp), slice_of_within (by simp) (by simp),
    slice_of_after (by simp)]
  simp

end Slices

/-- What holds of a list without separators, and of a list with one if it holds of what follows
the first separator, holds of every list. -/
theorem separated_induction {α : Type} {p : α → Bool} {motive : List α → Prop}
    (single : ∀ xs, (∀ x ∈ xs, p x = false) → motive xs)
    (cut : ∀ xs x ys, (∀ x ∈ xs, p x = false) → p x = true → motive ys → motive (xs ++ x :: ys))
    (xs : List α) : motive xs := by
  suffices hafter : ∀ xs before, (∀ x ∈ before, p x = false) → motive (before ++ xs) from
    hafter xs [] (by simp)
  intro xs
  induction xs with
  | nil =>
      intro before hbefore
      rw [List.append_nil]
      exact single before hbefore
  | cons x xs ih =>
      intro before hbefore
      cases hx : p x with
      | true => exact cut before x xs hbefore hx (ih [] (by simp))
      | false =>
          have hlonger := ih (before ++ [x]) (by simpa [or_imp, forall_and, hx] using hbefore)
          rwa [List.append_assoc, List.singleton_append] at hlonger

/-- The text between two cuts is that of the lexemes between two semicolons. -/
theorem map_slice_ranges {ls : List Lexeme}
    (hsemicolon : ∀ l ∈ ls, l.isSemicolon = true → l.source = [';']) (before : List Char) :
    (ranges (utf8Len before) (Lexer.cuts (utf8Len before) ls)
        (utf8Len (before ++ ls.flatMap Lexeme.source))).map
      (fun range => slice range 0 (before ++ ls.flatMap Lexeme.source)) =
    (ls.splitOnP Lexeme.isSemicolon).map fun run => run.flatMap Lexeme.source := by
  induction ls using separated_induction (p := Lexeme.isSemicolon) generalizing before with
  | single ls hnone =>
      have hslice := slice_append_append before (ls.flatMap Lexeme.source) []
      rw [List.append_nil, ← utf8Len_append] at hslice
      rw [Lexer.cuts_eq_nil hnone, List.splitOnP_eq_singleton hnone]
      simp only [ranges, List.map_cons, List.map_nil, hslice]
  | cut ls l ms hnone hl ih =>
      have hsource : l.source = [';'] := hsemicolon l (by simp) hl
      have hrest := ih (fun m hm => hsemicolon m (by simp [hm]))
        (before ++ (ls.flatMap Lexeme.source ++ [';']))
      have htext : before ++ (ls ++ l :: ms).flatMap Lexeme.source =
          before ++ (ls.flatMap Lexeme.source ++ [';']) ++ ms.flatMap Lexeme.source := by
        simp [hsource]
      have hoffset : utf8Len (before ++ (ls.flatMap Lexeme.source ++ [';'])) =
          utf8Len before + utf8Len (ls.flatMap Lexeme.source) + 1 := by
        rw [utf8Len_append, utf8Len_append, ← Nat.add_assoc]
        rfl
      have hcuts : Lexer.cuts (utf8Len before) (ls ++ l :: ms) =
          (utf8Len before + utf8Len (ls.flatMap Lexeme.source)) ::
            Lexer.cuts (utf8Len (before ++ (ls.flatMap Lexeme.source ++ [';']))) ms := by
        rw [Lexer.cuts_append, Lexer.cuts_eq_nil hnone, Lexer.cuts, hl, hsource, hoffset]
        rfl
      have hslice := slice_append_append before (ls.flatMap Lexeme.source)
        ([';'] ++ ms.flatMap Lexeme.source)
      rw [← List.append_assoc (ls.flatMap Lexeme.source), ← List.append_assoc before] at hslice
      rw [hcuts, htext, List.splitOnP_append_cons_of_forall_mem hnone l hl, ranges, List.map_cons,
        List.map_cons, hslice, ← hoffset, hrest]

/-! ## Runs of lexemes -/

/-- A run of lexemes between two semicolons is scanned by itself. -/
theorem scanned_of_mem_splitOnP {here : Location} {cs : List Char} {ls : List Lexeme}
    (h : Lexer.lexemes here cs = .ok ls) :
    ∀ run ∈ ls.splitOnP Lexeme.isSemicolon,
      Lexer.Scanned (run.flatMap Lexeme.source) (run.filterMap Lexeme.token) := by
  induction ls using separated_induction (p := Lexeme.isSemicolon) generalizing here cs with
  | single ls hnone =>
      intro run hrun
      rw [List.splitOnP_eq_singleton hnone, List.mem_singleton] at hrun
      subst hrun
      rw [Lexer.lexemes_sources h]
      exact Lexer.scanned_of_lexemes h
  | cut ls l ms hnone hl ih =>
      intro run hrun
      rw [List.splitOnP_append_cons_of_forall_mem hnone l hl, List.mem_cons] at hrun
      obtain ⟨hls, hms⟩ := Lexer.lexemes_append h
      rcases hrun with rfl | hrun
      · exact Lexer.scanned_of_lexemes hls
      · obtain ⟨c, ds, n, -, -, -, hrest⟩ := Lexer.lexemes_cons_eq hms
        exact ih hrest run hrun

/-- The tokens between two semicolons are those of the lexemes between them. -/
theorem map_filterMap_splitOnP (ls : List Lexeme) :
    (ls.splitOnP Lexeme.isSemicolon).map (fun run => run.filterMap Lexeme.token) =
      (ls.filterMap Lexeme.token).splitOn (.mark .semicolon) := by
  have hnot : ∀ ls : List Lexeme, (∀ l ∈ ls, l.isSemicolon = false) →
      Token.mark .semicolon ∉ ls.filterMap Lexeme.token := by
    intro ls hnone hmem
    obtain ⟨l, hl, htoken⟩ := List.mem_filterMap.mp hmem
    have hsemicolon := hnone l hl
    simp [Lexeme.isSemicolon, htoken] at hsemicolon
  induction ls using separated_induction (p := Lexeme.isSemicolon) with
  | single ls hnone =>
      rw [List.splitOnP_eq_singleton hnone, List.splitOn_eq_singleton (hnot ls hnone)]
      rfl
  | cut ls l ms hnone hl ih =>
      have htoken : l.token = some (.mark .semicolon) := of_decide_eq_true hl
      rw [List.splitOnP_append_cons_of_forall_mem hnone l hl, List.map_cons, ih,
        List.filterMap_append, List.filterMap_cons_some htoken,
        List.splitOn_append_cons_self_of_not_mem (hnot ls hnone)]

/-- The segments of a text: the characters of the lexemes between its semicolons. -/
def segments (ls : List Lexeme) : List (List Char) :=
  (ls.splitOnP Lexeme.isSemicolon).map fun run => run.flatMap Lexeme.source

/-- The pieces of a text that is scanned are its segments. -/
theorem split_eq_segments {text : String} {ls : List Lexeme}
    (h : Lexer.lexemes .start text.toList = .ok ls) :
    split text =
      ((segments ls).map fun cs => Text.trim (String.ofList cs)).filter isStatement := by
  have hsource := fun l hl => Lexer.source_eq_of_isSemicolon (l := l) h hl
  have hsize : text.utf8ByteSize = utf8Len text.toList := by
    rw [← String.utf8ByteSize_ofList, String.ofList_toList]
  have hslices := map_slice_ranges hsource []
  rw [List.nil_append, Lexer.lexemes_sources h, utf8Len_nil] at hslices
  rw [split, Token.semicolonOffsets_eq h, segments, ← hslices, hsize]
  simp only [List.map_map]
  rfl

/-- A text is cut into segments that are scanned to the tokens between its semicolons. -/
theorem exists_segments {text : String} {tokens : List Token} (h : Token.scan text = .ok tokens) :
    ∃ segments : List (List Char),
      split text = (segments.map fun cs => Text.trim (String.ofList cs)).filter isStatement ∧
        List.Forall₂ Lexer.Scanned segments (tokens.splitOn (.mark .semicolon)) := by
  cases hlexemes : Lexer.lexemes .start text.toList with
  | error e =>
      rw [Token.scan, hlexemes] at h
      cases h
  | ok ls =>
      have htokens : ls.filterMap Lexeme.token = tokens := by
        rw [Token.scan, hlexemes] at h
        exact Except.ok.inj h
      refine ⟨segments ls, split_eq_segments hlexemes, ?_⟩
      rw [segments, ← htokens, ← map_filterMap_splitOnP, List.forall₂_map_left_iff,
        List.forall₂_map_right_iff, List.forall₂_same]
      exact scanned_of_mem_splitOnP hlexemes

end Script

end MiniSql
