import MiniSql.Proofs.Cuts
import MiniSql.Proofs.Requests

/-!
# Scripts put together

A semicolon ends every lexeme before it but one: a comment up to the end of the line, whose line
has not ended yet. Behind any other text it is a cut, what stands behind it is read as it is read
by itself, and the pieces of the whole are those of the two parts. Hence a script put together
from two does what the one does and then, unless it failed, what the other does.

**Results.**
* `lexeme_append_semicolon`: a lexeme with a semicolon somewhere behind it.
* `lexemes_append_semicolon`: the lexemes of two texts with a semicolon between them.
* `split_append_semicolon`: the pieces of two scripts with a semicolon between them.
* `scripts_compose`: splitting and executing two scripts put together.
-/

namespace MiniSql

/-- A comment up to the end of the line whose line does not end. -/
def Lexeme.isOpenComment (l : Lexeme) : Bool :=
  l.token.isNone && ['-', '-'].isPrefixOf l.source && !l.source.contains '\n'

/-- A lexeme without its location. -/
def Lexeme.content (l : Lexeme) : Option Token × List Char :=
  (l.token, l.source)

namespace Lexer

/-! ## A semicolon behind a lexeme -/

section Semicolon

variable {cs : List Char} {n : Nat}

theorem quotedText_append_cons {q b : Char} (hb : b ≠ q) {content : List Char}
    (h : quotedText q cs = some (content, n)) (rest : List Char) :
    quotedText q (cs ++ b :: rest) = some (content, n) ∧ n ≤ cs.length := by
  fun_induction quotedText q cs generalizing content n with
  | case1 => cases h
  | case2 =>
    cases h
    exact ⟨by simp [quotedText, hb], Nat.le_refl 1⟩
  | case3 => cases h
  | case4 cs ih =>
    obtain ⟨s, m, hread, hpair⟩ := exists_of_map_pair h
    cases hpair
    obtain ⟨hlonger, hm⟩ := ih hread
    refine ⟨?_, Nat.add_le_add_right hm 2⟩
    rw [List.cons_append, List.cons_append, quotedText, if_pos rfl, if_pos rfl, hlonger]
    rfl
  | case5 d cs hd =>
    cases h
    exact ⟨by simp [quotedText, hd], Nat.succ_pos _⟩
  | case6 c d cs hc ih =>
    obtain ⟨s, m, hread, hpair⟩ := exists_of_map_pair h
    cases hpair
    obtain ⟨hlonger, hm⟩ := ih hread
    refine ⟨?_, Nat.add_le_add_right hm 1⟩
    rw [List.cons_append] at hlonger
    rw [List.cons_append, List.cons_append, quotedText, if_neg hc, hlonger]
    rfl

theorem escapedText_append_cons {b : Char} (hb : b ≠ '\x27') {content : List Char}
    (h : escapedText cs = some (content, n)) (rest : List Char) :
    escapedText (cs ++ b :: rest) = some (content, n) ∧ n ≤ cs.length := by
  fun_induction escapedText cs generalizing content n with
  | case1 => cases h
  | case2 =>
    cases h
    exact ⟨by simp [escapedText, hb], Nat.le_refl 1⟩
  | case3 => cases h
  | case4 d cs ih =>
    obtain ⟨s, m, hread, hpair⟩ := exists_of_map_pair h
    cases hpair
    obtain ⟨hlonger, hm⟩ := ih hread
    refine ⟨?_, Nat.add_le_add_right hm 2⟩
    rw [List.cons_append, List.cons_append, escapedText, if_pos rfl, hlonger]
    rfl
  | case5 cs hc ih =>
    obtain ⟨s, m, hread, hpair⟩ := exists_of_map_pair h
    cases hpair
    obtain ⟨hlonger, hm⟩ := ih hread
    refine ⟨?_, Nat.add_le_add_right hm 2⟩
    rw [List.cons_append, List.cons_append, escapedText, if_neg hc, if_pos rfl, if_pos rfl,
      hlonger]
    rfl
  | case6 d cs hd hescape =>
    cases h
    exact ⟨by simp [escapedText, hd], Nat.succ_pos _⟩
  | case7 c d cs hc hquote ih =>
    obtain ⟨s, m, hread, hpair⟩ := exists_of_map_pair h
    cases hpair
    obtain ⟨hlonger, hm⟩ := ih hread
    refine ⟨?_, Nat.add_le_add_right hm 1⟩
    rw [List.cons_append] at hlonger
    rw [List.cons_append, List.cons_append, escapedText, if_neg hc, if_neg hquote, hlonger]
    rfl

theorem blockComment_append {depth : Nat} {previous : Char}
    (h : blockComment depth previous cs = some n) (rest : List Char) :
    blockComment depth previous (cs ++ rest) = some n ∧ n ≤ cs.length := by
  fun_induction blockComment depth previous cs generalizing n with
  | case1 => cases h
  | case2 depth previous c cs hopens ih =>
    obtain ⟨m, hread, rfl⟩ := Option.map_eq_some_iff.1 h
    obtain ⟨hlonger, hm⟩ := ih hread
    refine ⟨?_, Nat.succ_le_succ hm⟩
    rw [List.cons_append, blockComment.eq_def]
    simp only [if_pos hopens, hlonger, Option.map_some]
  | case3 previous c cs hopens hcloses =>
    cases h
    refine ⟨?_, Nat.succ_pos _⟩
    rw [List.cons_append, blockComment, if_neg hopens, if_pos hcloses]
  | case4 previous c cs hopens hcloses outer ih =>
    obtain ⟨m, hread, rfl⟩ := Option.map_eq_some_iff.1 h
    obtain ⟨hlonger, hm⟩ := ih hread
    refine ⟨?_, Nat.succ_le_succ hm⟩
    rw [List.cons_append, blockComment, if_neg hopens, if_pos hcloses, hlonger, Option.map_some]
  | case5 depth previous c cs hopens hcloses ih =>
    obtain ⟨m, hread, rfl⟩ := Option.map_eq_some_iff.1 h
    obtain ⟨hlonger, hm⟩ := ih hread
    refine ⟨?_, Nat.succ_le_succ hm⟩
    rw [List.cons_append, blockComment.eq_def]
    simp only [if_neg hopens, if_neg hcloses, hlonger, Option.map_some]

theorem singleQuoted_append_cons {b : Char} (hb : b ≠ '\x27') {form : TextForm} {letter : Nat}
    {t : Token} (h : singleQuoted form letter (cs.drop letter) = .ok (t, n)) (rest : List Char) :
    singleQuoted form letter ((cs ++ b :: rest).drop letter) = .ok (t, n) ∧ n ≤ cs.length := by
  by_cases hletter : letter ≤ cs.length
  · have hlength : (cs.drop letter).length = cs.length - letter := List.length_drop
    rw [List.drop_append_of_le_length hletter]
    unfold singleQuoted at h ⊢
    split at h
    · split at h
      · next content m hread =>
          obtain ⟨rfl, rfl⟩ := Prod.mk.inj (Except.ok.inj h)
          obtain ⟨hlonger, hm⟩ := escapedText_append_cons hb hread rest
          exact ⟨by simp only [hlonger], by omega⟩
      · cases h
    · split at h
      · next content m hread =>
          obtain ⟨rfl, rfl⟩ := Prod.mk.inj (Except.ok.inj h)
          obtain ⟨hlonger, hm⟩ := quotedText_append_cons hb hread rest
          exact ⟨by simp only [hlonger], by omega⟩
      · cases h
  -- Nothing is left behind the letter, and a text that is not there is not closed.
  · rw [List.drop_eq_nil_iff.mpr (Nat.le_of_not_le hletter)] at h
    cases form <;> cases h

theorem lineComment_of_not_mem (h : '\n' ∉ cs) : lineComment cs = cs.length := by
  have hall : cs.takeWhile (· ≠ '\n') = cs := by
    rw [List.takeWhile_eq_self_iff]
    intro c hc
    exact decide_eq_true fun heq => h (heq ▸ hc)
  simp only [lineComment, hall, List.drop_length, List.isEmpty_nil, if_true]

theorem lineComment_of_line {line : List Char} (h : '\n' ∉ line) (rest : List Char) :
    lineComment (line ++ '\n' :: rest) = line.length + 1 := by
  have hline : (line ++ '\n' :: rest).takeWhile (· ≠ '\n') = line := by
    apply takeWhile_append_of_ends
    · intro c hc
      exact decide_eq_true fun heq => h (heq ▸ hc)
    · rintro c ⟨⟩
      rfl
  simp only [lineComment, hline, List.drop_left', List.isEmpty_cons, Bool.false_eq_true, if_false]

theorem lineComment_append_le (h : '\n' ∈ cs) (rest : List Char) :
    lineComment (cs ++ rest) ≤ cs.length := by
  obtain ⟨line, after, rfl, hline⟩ := List.eq_append_cons_of_mem h
  rw [List.append_assoc, List.cons_append, lineComment_of_line hline, List.length_append,
    List.length_cons]
  omega

/-- A character that ends whatever goes on up to a quote or as long as a class of characters. -/
structure Stops (b : Char) : Prop where
  closing : ∀ q : Quote, b ≠ q.closing
  quote : b ≠ '\x27'
  numeral : isNumeralPart b = false
  label : Text.isNumeric b = false
  word : isWordPart b = false

theorem stops_semicolon : Stops ';' :=
  ⟨fun q => by cases q <;> decide, by decide, by decide, by decide +kernel, by decide⟩

section Stops

variable {b c : Char}

/-- A character that stands within no operator is not within the one in front. -/
theorem operator?_append_cons (hb : ∀ s ∈ operators, b ∉ s.toList.tail) {rest : List Char}
    {spelling : String} (h : operator? (c :: cs ++ b :: rest) = some spelling) :
    spelling.length ≤ (c :: cs).length := by
  have hmem : spelling ∈ operators := List.mem_of_find?_eq_some h
  have hfound := List.find?_some h
  have hstart : spelling.toList <+: c :: (cs ++ b :: rest) := List.isPrefixOf_iff_prefix.mp hfound
  have hother := hb spelling hmem
  rw [← String.length_toList]
  cases hs : spelling.toList with
  | nil => exact Nat.zero_le _
  | cons d ds =>
      rw [hs] at hstart hother
      have htail : ds <+: cs ++ b :: rest := (List.cons_prefix_cons.mp hstart).2
      have hwithin : Within (· ≠ b) (cs ++ b :: rest) ds.length := by
        intro e he
        rw [← List.prefix_iff_eq_take.mp htail] at he
        exact decide_eq_true fun heq => hother (heq ▸ he)
      exact Nat.succ_le_succ (hwithin.le_length (by simp))

theorem takeWhile_append_cons_le {p : Char → Bool} (hp : p b = false) (cs rest : List Char) :
    ((cs ++ b :: rest).takeWhile p).length ≤ cs.length :=
  (within_takeWhile (fun _ h => h) _).le_length hp

theorem numeral_append_cons_le (hb : isNumeralPart b = false) (rest : List Char) :
    (numeral (c :: cs ++ b :: rest)).2 - 1 ≤ cs.length := by
  have hlength : (numeral (c :: cs ++ b :: rest)).2 ≤ (c :: cs).length := by
    rcases within_numeral (c :: cs ++ b :: rest) with hpoint | hwithin
    · rw [hpoint]
      exact Nat.succ_pos _
    · exact hwithin.le_length hb
  exact Nat.sub_le_of_le_add hlength

/-- With a character behind its lexeme that ends it a reader does not go beyond it. -/
theorem Reader.exists_read_append_cons (hb : Stops b) {r : Reader} {p : Option Token × Nat}
    (h : r.read c cs = .ok p) (hline : r = .lineComment → '\n' ∈ cs)
    (hfeed : r = .lineEnd → b = '\n' → cs ≠ []) {rest : List Char}
    (hoperator : r = .operator → ∀ spelling, operator? (c :: cs ++ b :: rest) = some spelling →
      spelling.length ≤ (c :: cs).length) :
    ∃ q, r.read c (cs ++ b :: rest) = .ok q ∧ q.2 ≤ cs.length := by
  cases r with
  | blank => exact ⟨_, rfl, Nat.zero_le _⟩
  | stray => exact ⟨_, rfl, Nat.zero_le _⟩
  | lineEnd =>
      refine ⟨_, rfl, ?_⟩
      cases cs with
      | nil =>
          have hne : ([] ++ b :: rest).head? ≠ some '\n' := by
            rintro ⟨⟩
            exact hfeed rfl rfl rfl
          rw [if_neg hne]
          exact Nat.le_refl 0
      | cons d ds =>
          have hone : (if (d :: ds ++ b :: rest).head? = some '\n' then 1 else 0) ≤ 1 := by
            split <;> omega
          exact hone.trans (Nat.succ_pos _)
  | text form letter =>
      obtain ⟨⟨t, n⟩, hread, -⟩ := exists_of_map_ok h
      obtain ⟨hlonger, hn⟩ := singleQuoted_append_cons hb.quote hread rest
      exact ⟨(some t, n), by rw [read, hlonger]; rfl, hn⟩
  | quotedWord q =>
      simp only [read] at h ⊢
      split at h
      · next value n hread =>
          obtain ⟨hlonger, hn⟩ := quotedText_append_cons (hb.closing q) hread rest
          exact ⟨(some (.word (String.ofList value) (some q)), n), by simp only [hlonger], hn⟩
      · cases h
  | numeral => exact ⟨_, rfl, numeral_append_cons_le hb.numeral rest⟩
  | lineComment => exact ⟨_, rfl, lineComment_append_le (hline rfl) _⟩
  | blockComment =>
      simp only [read] at h ⊢
      split at h
      · next n hread =>
          cases cs with
          | nil => cases hread
          | cons d ds =>
              obtain ⟨hlonger, hn⟩ := blockComment_append hread (b :: rest)
              rw [List.tail_cons] at hlonger
              exact ⟨(none, n + 1), by simp only [List.cons_append, List.tail_cons, hlonger],
                Nat.succ_le_succ hn⟩
      · cases h
  | operator =>
      simp only [read]
      split
      · next spelling hread => exact ⟨_, rfl, Nat.sub_le_of_le_add (hoperator rfl spelling hread)⟩
      · exact ⟨_, rfl, Nat.zero_le _⟩
  | placeholder => exact ⟨_, rfl, takeWhile_append_cons_le hb.label cs rest⟩
  | bareWord => exact ⟨_, rfl, takeWhile_append_cons_le hb.word cs rest⟩

end Stops

variable {c : Char}

theorem Reader.choose_append_semicolon (c : Char) (cs rest : List Char) :
    choose c (cs ++ ';' :: rest).head? = choose c cs.head? := by
  cases cs with
  | cons d ds => rfl
  | nil =>
      rcases choose_eq_or c (some ';') with hsame | ⟨form, -, -, hquote⟩ | ⟨-, -, hminus⟩ |
        ⟨-, -, hstar⟩
      · exact hsame
      · cases hquote
      · cases hminus
      · cases hstar

theorem Reader.eq_of_lineComment {next : Option Char} (h : choose c next = lineComment) :
    c = '-' ∧ next = some '-' := by
  have hother : ∀ next, chooseOther c next = lineComment → c = '-' ∧ next = some '-' := by
    intro next h
    unfold chooseOther at h
    split at h
    · cases h
    · by_contra hnot
      rw [if_neg hnot] at h
      repeat' split at h
      all_goals cases h
  unfold choose at h
  split at h
  · cases h
  · split at h
    · cases h
    · split at h
      · cases h
      · split at h
        · cases h
        · exact hother _ h

theorem choose_minus : Reader.choose '-' (some '-') = .lineComment := by
  decide

/-- A lexeme that does not end in an open comment is not changed by a semicolon behind it. -/
theorem lexeme_append_semicolon {t : Option Token} {here : Location}
    (h : lexeme c cs = .ok (t, n))
    (hclosed : Lexeme.isOpenComment ⟨t, here, c :: cs.take n⟩ = false) (rest : List Char) :
    lexeme c (cs ++ ';' :: rest) = .ok (t, n) ∧ n ≤ cs.length := by
  have hread := h
  rw [lexeme_eq_read] at hread
  have hline : Reader.choose c cs.head? = .lineComment → '\n' ∈ cs := by
    intro hchoice
    obtain ⟨rfl, hminus⟩ := Reader.eq_of_lineComment hchoice
    obtain ⟨ds, rfl⟩ := List.head?_eq_some_iff.mp hminus
    rw [hchoice] at hread
    obtain ⟨rfl, rfl⟩ := Prod.mk.inj (Except.ok.inj hread)
    obtain ⟨m, hm⟩ := Nat.exists_eq_add_one_of_ne_zero
      (lineComment_pos (List.cons_ne_nil '-' ds)).ne'
    rw [hm, List.take_succ_cons] at hclosed
    have hfeed : '\n' ∈ ds.take m := by simpa [Lexeme.isOpenComment] using hclosed
    exact List.mem_cons_of_mem _ (List.mem_of_mem_take hfeed)
  have hwithin : ∀ s ∈ operators, ';' ∉ s.toList.tail := by decide
  obtain ⟨⟨u, m⟩, hlonger, hm⟩ := Reader.exists_read_append_cons stops_semicolon hread hline
    (fun _ hfeed => absurd hfeed (by decide)) fun _ _ => operator?_append_cons hwithin
  rw [← Reader.choose_append_semicolon c cs rest, ← lexeme_eq_read] at hlonger
  have hsame := lexeme_of_append hlonger hm
  rw [h] at hsame
  cases hsame
  exact ⟨hlonger, hm⟩

/-- A comment that does not end with its line reaches the end of the text. -/
theorem drop_lineComment (h : '\n' ∉ cs.take (lineComment cs)) :
    cs.drop (lineComment cs) = [] := by
  by_cases hfeed : '\n' ∈ cs
  · obtain ⟨line, after, rfl, hline⟩ := List.eq_append_cons_of_mem hfeed
    rw [lineComment_of_line hline, List.take_length_add_append] at h
    exact absurd (List.mem_append_right line List.mem_cons_self) h
  · rw [lineComment_of_not_mem hfeed, List.drop_length]

/-- Only the last lexeme of a text can be an open comment. -/
theorem isOpenComment_of_drop {t : Option Token} {here : Location}
    (h : lexeme c cs = .ok (t, n)) (hdrop : cs.drop n ≠ []) :
    Lexeme.isOpenComment ⟨t, here, c :: cs.take n⟩ = false := by
  by_contra hopen
  obtain ⟨rfl, rfl, hnext, -, hfeed⟩ :
      t = none ∧ '-' = c ∧ ['-'] <+: cs.take n ∧ ¬ '\n' = c ∧ '\n' ∉ cs.take n := by
    simpa [Lexeme.isOpenComment] using hopen
  obtain ⟨ds, rfl⟩ : ∃ ds, cs = '-' :: ds :=
    (hnext.trans (List.take_prefix n cs)).imp fun _ heq => heq.symm
  rw [lexeme_eq_read, List.head?_cons, choose_minus] at h
  obtain ⟨-, rfl⟩ := Prod.mk.inj (Except.ok.inj h)
  exact hdrop (drop_lineComment hfeed)

end Semicolon

/-! ## Lexemes of two texts -/

theorem lexeme_semicolon (rest : List Char) :
    lexeme ';' rest = .ok (some (.mark .semicolon), 0) := by
  have hends : (Token.mark .semicolon).Ends rest := trivial
  obtain ⟨c, cs, hchars, hread⟩ := lexeme_mark .semicolon hends
  cases hchars
  exact hread

section Lexemes

variable {here : Location} {cs : List Char} {ls : List Lexeme}

/-- The lexemes of a text, by its first one. -/
theorem lexemes_cons_of_lexeme {c : Char} {t : Option Token} {n : Nat}
    (h : lexeme c cs = .ok (t, n)) (here : Location) :
    lexemes here (c :: cs) =
      (lexemes (here.advanceOver (c :: cs.take n)) (cs.drop n)).map
        (⟨t, here, c :: cs.take n⟩ :: ·) := by
  rw [lexemes, h]
  simp only
  cases lexemes (here.advanceOver (c :: cs.take n)) (cs.drop n) <;> rfl

/-- The lexemes of two texts with a semicolon between them. -/
theorem lexemes_append_semicolon (h : lexemes here cs = .ok ls)
    (hlast : ∀ l ∈ ls.getLast?, l.isOpenComment = false) (rest : List Char) :
    lexemes here (cs ++ ';' :: rest) =
      (lexemes ((here.advanceOver cs).advance ';') rest).map fun ms =>
        ls ++ ⟨some (.mark .semicolon), here.advanceOver cs, [';']⟩ :: ms := by
  induction ls generalizing here cs with
  | nil =>
      obtain rfl : [] = cs := lexemes_sources h
      rw [List.nil_append, lexemes, lexeme_semicolon]
      simp only [List.take_zero, List.drop_zero, Location.advanceOver_cons,
        Location.advanceOver_nil]
      cases lexemes (here.advance ';') rest <;> rfl
  | cons l ls ih =>
      obtain ⟨c, ds, n, rfl, hlexeme, hl, hrest⟩ := lexemes_cons_eq h
      have hclosed : Lexeme.isOpenComment ⟨l.token, here, c :: ds.take n⟩ = false := by
        cases ls with
        | nil =>
            rw [← hl]
            exact hlast l rfl
        | cons m ms =>
            obtain ⟨d, es, _, hdrop, -⟩ := lexemes_cons_eq hrest
            exact isOpenComment_of_drop hlexeme (hdrop ▸ List.cons_ne_nil d es)
      have hothers : ∀ m ∈ ls.getLast?, m.isOpenComment = false := by
        intro m hm
        refine hlast m ?_
        rw [List.getLast?_cons, Option.mem_def.mp hm]
        rfl
      obtain ⟨hlonger, hn⟩ := lexeme_append_semicolon hlexeme hclosed rest
      have hthere : (here.advanceOver (c :: ds.take n)).advanceOver (ds.drop n) =
          here.advanceOver (c :: ds) := by
        rw [← Location.advanceOver_append, List.cons_append, List.take_append_drop]
      rw [List.cons_append, lexemes_cons_of_lexeme hlonger, List.take_append_of_le_length hn,
        List.drop_append_of_le_length hn, ih hrest hothers, hthere, ← hl]
      cases lexemes ((here.advanceOver (c :: ds)).advance ';') rest <;> rfl

/-- A text is read in the same way wherever it begins. -/
theorem exists_lexemes_at (h : lexemes here cs = .ok ls) (there : Location) :
    ∃ ms, lexemes there cs = .ok ms ∧ ms.map Lexeme.content = ls.map Lexeme.content := by
  induction ls generalizing here there cs with
  | nil =>
      obtain rfl : [] = cs := lexemes_sources h
      exact ⟨[], by rw [lexemes], rfl⟩
  | cons l ls ih =>
      obtain ⟨c, ds, n, rfl, hlexeme, hl, hrest⟩ := lexemes_cons_eq h
      obtain ⟨ms, hms, hcontent⟩ := ih hrest (there.advanceOver (c :: ds.take n))
      refine ⟨⟨l.token, there, c :: ds.take n⟩ :: ms, ?_, ?_⟩
      · rw [lexemes_cons_of_lexeme hlexeme, hms]
        rfl
      · rw [List.map_cons, List.map_cons, hcontent, hl]
        rfl

end Lexemes

/-- A text is read, and no comment is open at its end. -/
def Closed (cs : List Char) : Prop :=
  ∃ ls, lexemes .start cs = .ok ls ∧ ∀ l ∈ ls.getLast?, l.isOpenComment = false

instance (cs : List Char) : Decidable (Closed cs) :=
  match h : lexemes .start cs with
  | .error _ => isFalse fun ⟨_, hls, _⟩ => by cases h.symm.trans hls
  | .ok ls =>
    decidable_of_iff (∀ l ∈ ls.getLast?, l.isOpenComment = false)
      ⟨fun hlast => ⟨ls, h, hlast⟩, fun ⟨_, hls, hlast⟩ => by cases h.symm.trans hls; exact hlast⟩

section Closed

variable {here : Location} {cs rest : List Char} {ls : List Lexeme}

theorem exists_last_of_content {ms : List Lexeme} {m : Lexeme}
    (h : ms.map Lexeme.content = ls.map Lexeme.content) (hm : m ∈ ms.getLast?) :
    ∃ l ∈ ls.getLast?, l.isOpenComment = m.isOpenComment := by
  have hmap : (ms.getLast?).map Lexeme.content = (ls.getLast?).map Lexeme.content := by
    rw [← List.getLast?_map, h, List.getLast?_map]
  rw [Option.mem_def.mp hm, Option.map_some] at hmap
  obtain ⟨l, hl, hsame⟩ := Option.map_eq_some_iff.mp hmap.symm
  obtain ⟨htoken, hsource⟩ := Prod.mk.inj hsame
  exact ⟨l, hl, by rw [Lexeme.isOpenComment, Lexeme.isOpenComment, htoken, hsource]⟩

/-- Where a text begins does not matter. -/
theorem closed_of_lexemes (h : lexemes here cs = .ok ls)
    (hlast : ∀ l ∈ ls.getLast?, l.isOpenComment = false) : Closed cs := by
  obtain ⟨ms, hms, hcontent⟩ := exists_lexemes_at h .start
  refine ⟨ms, hms, fun m hm => ?_⟩
  obtain ⟨l, hl, hsame⟩ := exists_last_of_content hcontent hm
  rw [← hsame, hlast l hl]

/-- What stands behind lexemes of a closed text is closed. -/
theorem Closed.of_lexemes_append {there : Location} (h : Closed cs)
    (hread : lexemes .start cs = (lexemes there rest).map (ls ++ ·)) : Closed rest := by
  obtain ⟨ms, hms, hlast⟩ := h
  rw [hms] at hread
  cases hrest : lexemes there rest with
  | error e =>
      rw [hrest] at hread
      cases hread
  | ok ns =>
      rw [hrest] at hread
      obtain rfl : ms = ls ++ ns := Except.ok.inj hread
      refine closed_of_lexemes hrest fun n hn => hlast n ?_
      rw [List.getLast?_append, Option.mem_def.mp hn]
      rfl

theorem Closed.of_append_semicolon (h : Closed (cs ++ ';' :: rest)) (hcs : Closed cs) :
    Closed rest := by
  obtain ⟨ls, hls, hlast⟩ := hcs
  have hread := lexemes_append_semicolon hls hlast rest
  have hbehind : lexemes .start (cs ++ ';' :: rest) =
      (lexemes ((Location.start.advanceOver cs).advance ';') rest).map
        ((ls ++ [⟨some (.mark .semicolon), Location.start.advanceOver cs, [';']⟩]) ++ ·) := by
    simp only [hread, List.append_assoc, List.singleton_append]
  exact h.of_lexemes_append hbehind

end Closed

end Lexer

/-! ## Pieces of two scripts -/

namespace Script

theorem segments_cons (l : Lexeme) (ls : List Lexeme) :
    segments (l :: ls) =
      if l.isSemicolon then [] :: segments ls
      else (segments ls).modifyHead (l.source ++ ·) := by
  rw [segments, segments, List.splitOnP_cons_eq_if_modifyHead]
  split
  · rfl
  · cases ls.splitOnP Lexeme.isSemicolon <;> rfl

theorem segments_congr {ls ms : List Lexeme} (h : ls.map Lexeme.content = ms.map Lexeme.content) :
    segments ls = segments ms := by
  induction ls generalizing ms with
  | nil =>
      obtain rfl : ms = [] := List.map_eq_nil_iff.mp h.symm
      rfl
  | cons l ls ih =>
      cases ms with
      | nil => cases h
      | cons m ms =>
          obtain ⟨hcontent, hrest⟩ := List.cons.inj h
          obtain ⟨htoken, hsource⟩ := Prod.mk.inj hcontent
          rw [segments_cons, segments_cons, ih hrest, Lexeme.isSemicolon, htoken, hsource]
          rfl

theorem segments_append_cons {l : Lexeme} (hl : l.isSemicolon = true) (ls ms : List Lexeme) :
    segments (ls ++ l :: ms) = segments ls ++ segments ms := by
  rw [segments, List.splitOnP_append_cons ls ms hl, List.map_append]
  rfl

/-- The pieces of a script with a semicolon behind closed text are those of both parts. -/
theorem split_append_semicolon {cs rest : List Char} {ms : List Lexeme} (hcs : Lexer.Closed cs)
    (hrest : Lexer.lexemes .start rest = .ok ms) :
    split (String.ofList (cs ++ ';' :: rest)) =
      split (String.ofList cs) ++ split (String.ofList rest) := by
  obtain ⟨ls, hls, hlast⟩ := hcs
  obtain ⟨ms', hms', hcontent⟩ :=
    Lexer.exists_lexemes_at hrest ((Location.start.advanceOver cs).advance ';')
  have hall := Lexer.lexemes_append_semicolon hls hlast rest
  rw [hms', ← String.toList_ofList (l := cs ++ ';' :: rest)] at hall
  rw [← String.toList_ofList (l := cs)] at hls
  rw [← String.toList_ofList (l := rest)] at hrest
  rw [split_eq_segments hall, segments_append_cons rfl, segments_congr hcontent,
    split_eq_segments hls, split_eq_segments hrest, List.map_append, List.filter_append]

/-- A text ends within a comment whose line has not ended. -/
def endsInComment (text : String) : Bool :=
  match Lexer.lexemes .start text.toList with
  | .ok ls => ls.getLast?.any Lexeme.isOpenComment
  | .error _ => false

theorem exists_lexemes_of_scan {text : String} {tokens : List Token}
    (h : Token.scan text = .ok tokens) : ∃ ls, Lexer.lexemes .start text.toList = .ok ls := by
  cases hls : Lexer.lexemes .start text.toList with
  | error e =>
      rw [Token.scan, hls] at h
      cases h
  | ok ls => exact ⟨ls, rfl⟩

theorem closed_of_scan {text : String} {tokens : List Token} (h : Token.scan text = .ok tokens)
    (hends : endsInComment text = false) : Lexer.Closed text.toList := by
  obtain ⟨ls, hls⟩ := exists_lexemes_of_scan h
  refine ⟨ls, hls, fun l hl => ?_⟩
  simp only [endsInComment, hls] at hends
  rw [Option.mem_def.mp hl] at hends
  exact hends

end Script

/-! ## Execution of two scripts -/

namespace Answer

variable {α β γ : Type} (a : Answer α)

theorem andThen_map (f : α → β) (g : Database → β → Answer γ) :
    (a.map f).andThen g = a.andThen fun db value => g db (f value) := by
  obtain ⟨result, db, notices⟩ := a
  cases result <;> rfl

theorem andThen_assoc (f : Database → α → Answer β) (g : Database → β → Answer γ) :
    (a.andThen f).andThen g = a.andThen fun db value => (f db value).andThen g := by
  obtain ⟨result, db, notices⟩ := a
  cases result with
  | error e => rfl
  | ok value =>
      simp only [andThen, after]
      cases (f db value).result with
      | error e => rfl
      | ok next => simp only [List.append_assoc]

end Answer

namespace Database

/-- Statements are executed in two goes, the second one unless the first one failed. -/
theorem executeAll_append (db : Database) (texts texts' : List String) :
    db.executeAll (texts ++ texts') =
      (db.executeAll texts).andThen fun db results =>
        (db.executeAll texts').map (results ++ ·) := by
  induction texts generalizing db with
  | nil =>
      have hall : (db.executeAll texts').map (([] : List StatementResult) ++ ·) =
          db.executeAll texts' := by
        simp only [List.nil_append]
        exact (db.executeAll texts').map_id
      exact hall.symm
  | cons sql texts ih =>
      rw [List.cons_append, executeAll, executeAll, Answer.andThen_assoc]
      congr 1
      funext db result
      rw [ih, Answer.map_andThen, Answer.andThen_map]
      congr 1
      funext db results
      rw [Answer.map_map]
      rfl

end Database

namespace Script

/-- Scripts compose: behind a text that is scanned and does not end within a comment of an
unfinished line, a semicolon and a second text that is scanned add the pieces of the second
text, and executing the whole is executing the first text and then, unless it failed, the
second one. -/
theorem scripts_compose (a b : String) (tokens tokens' : List Token)
    (ha : Token.scan a = .ok tokens) (hb : Token.scan b = .ok tokens')
    (hends : endsInComment a = false) :
    split (a ++ ";" ++ b) = split a ++ split b ∧
      ∀ db : Database, db.executeScript (a ++ ";" ++ b) =
        (db.executeScript a).andThen fun db results =>
          (db.executeScript b).map (results ++ ·) := by
  obtain ⟨ms, hms⟩ := exists_lexemes_of_scan hb
  have htext : a ++ ";" ++ b = String.ofList (a.toList ++ ';' :: b.toList) := by
    apply String.toList_inj.mp
    simp [String.toList_append]
  have hsplit := split_append_semicolon (closed_of_scan ha hends) hms
  rw [← htext, String.ofList_toList, String.ofList_toList] at hsplit
  refine ⟨hsplit, fun db => ?_⟩
  rw [Database.executeScript, hsplit, Database.executeAll_append]
  rfl

/-- The first text has lines of its own, characters of several bytes and a semicolon in a
comment; the second one has a semicolon in a text. -/
theorem scripts_compose_of_lines :
    split ("\u20ac;\n--\u00fc;\nPRAGMA a" ++ ";" ++ "\nPRAGMA ';';") =
        split "\u20ac;\n--\u00fc;\nPRAGMA a" ++ split "\nPRAGMA ';';" ∧
      split "\u20ac;\n--\u00fc;\nPRAGMA a" ++ split "\nPRAGMA ';';" =
        ["\u20ac", "--\u00fc;\nPRAGMA a", "PRAGMA ';'"] := by
  have ha : Token.scan "\u20ac;\n--\u00fc;\nPRAGMA a" =
      .ok [.word "\u20ac" none, .mark .semicolon, .word "PRAGMA" none, .word "a" none] := by
    with_unfolding_all rfl
  have hb : Token.scan "\nPRAGMA ';';" =
      .ok [.word "PRAGMA" none, .text .plain ";", .mark .semicolon] := by
    with_unfolding_all rfl
  have hends : endsInComment "\u20ac;\n--\u00fc;\nPRAGMA a" = false := by decide +kernel
  exact ⟨(scripts_compose _ _ _ _ ha hb hends).1, by decide +kernel⟩

/-- A semicolon behind an open comment belongs to the comment. -/
example : split ("PRAGMA a -- b" ++ ";" ++ "PRAGMA c") = ["PRAGMA a -- b;PRAGMA c"] := by
  decide +kernel

end Script

end MiniSql
