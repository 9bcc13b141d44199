import Mathlib.Data.List.Find
import MiniSql.Proofs.Joining

/-!
# What stands behind a lexeme

A reader looks at what follows its lexeme only to see whether the lexeme goes on. A character
that parts what is before it from what is behind it, such as a parenthesis, a comma, an equality
sign, a blank or the end of a comment, keeps every lexeme before it as it is, whatever the text
behind it becomes, unless that begins with the sign of an arrow.

**Results.**
* `lexeme_le`: a lexeme ends within its text.
* `lexeme_of_parallel`: a lexeme before two texts that agree up to a parting character.
* `lexeme_none_before`, `lexeme_mark_before`: what ends with such a character.
-/

namespace MiniSql.Lexer

/-! ## Readers -/

namespace Reader

variable {c : Char}

theorem isWordStart_of_formOfLetter? {form : TextForm} (h : formOfLetter? c = some form) :
    isWordStart c = true := by
  unfold formOfLetter? at h
  split at h
  · next hletter => rcases hletter with rfl | rfl <;> decide
  · split at h
    · next hletter => rcases hletter with rfl | rfl <;> decide
    · split at h
      · next hletter => rcases hletter with rfl | rfl <;> decide
      · cases h

/-- What comes after the first character of a blank does not matter. -/
theorem choose_of_blank {next : Option Char} (h : choose c next = blank ∨ choose c next = lineEnd)
    (next' : Option Char) : choose c next' = choose c next := by
  have hnone : choose c next = choose c none := by
    rcases choose_eq_or c next with hsame | ⟨form, htext, -⟩ | ⟨hline, -⟩ | ⟨hblock, -⟩
    · exact hsame
    · simp [htext] at h
    · simp [hline] at h
    · simp [hblock] at h
  rw [hnone] at h ⊢
  rcases choose_eq_or c next' with hsame | ⟨form, -, hform, -⟩ | ⟨-, rfl, -⟩ | ⟨-, rfl, -⟩
  · exact hsame
  · simp [choose_none_of_isWordStart (isWordStart_of_formOfLetter? hform)] at h
  · exact absurd h (by decide)
  · exact absurd h (by decide)

end Reader

section Lexeme

variable {c : Char} {cs : List Char} {n : Nat}

theorem lineComment_le (cs : List Char) : lineComment cs ≤ cs.length := by
  have hline : (cs.takeWhile (· ≠ '\n')).length ≤ cs.length :=
    (List.takeWhile_prefix _).length_le
  simp only [lineComment]
  split
  · exact hline
  · next hmore =>
      rw [List.isEmpty_iff, List.drop_eq_nil_iff] at hmore
      omega

/-- A lexeme ends within its text. -/
theorem lexeme_le {t : Option Token} (h : lexeme c cs = .ok (t, n)) : n ≤ cs.length := by
  rw [lexeme_eq_read] at h
  generalize Reader.choose c cs.head? = r at h
  by_cases hline : r = .lineComment
  · subst hline
    obtain ⟨-, rfl⟩ := Prod.mk.inj (Except.ok.inj h)
    exact lineComment_le cs
  -- A semicolon behind the text ends every other lexeme, and not before the text does.
  · have hwithin : ∀ s ∈ operators, ';' ∉ s.toList.tail := by decide
    obtain ⟨⟨u, m⟩, hlonger, hm⟩ := Reader.exists_read_append_cons stops_semicolon h
      (fun heq => absurd heq hline) (fun _ hfeed => absurd hfeed (by decide))
      fun _ _ => @operator?_append_cons _ _ _ hwithin [] _
    have hsame := (Reader.read_of_append hlonger hm).symm.trans h
    cases hsame
    exact hm

/-- A word without quotes begins with the first character of its lexeme. -/
theorem lexeme_eq_word {value : String} (h : lexeme c cs = .ok (some (.word value none), n)) :
    isWordStart c = true ∧ ∃ part, value = String.ofList (c :: part) := by
  rw [lexeme_eq_read] at h
  have hmakes := Reader.makes_of_read h
  cases hreader : Reader.choose c cs.head? with
  | bareWord =>
      rw [hreader] at h
      cases h
      exact ⟨Reader.opens_of_choose hreader, _, rfl⟩
  | _ =>
      rw [hreader] at hmakes
      cases hmakes

theorem lexeme_eq_placeholder {label : String}
    (h : lexeme c cs = .ok (some (.placeholder label), n)) : c = '?' := by
  rw [lexeme_eq_read] at h
  have hmakes := Reader.makes_of_read h
  cases hreader : Reader.choose c cs.head? with
  | placeholder => exact of_decide_eq_true (Reader.opens_of_choose hreader)
  | _ =>
      rw [hreader] at hmakes
      cases hmakes

end Lexeme

/-! ## Parting characters -/

theorem isDigit_of_not_isNumeralPart {c : Char} (h : isNumeralPart c = false) :
    c.isDigit = false := by
  simp only [isNumeralPart, isHexDigit, Bool.or_eq_false_iff] at h
  exact h.1.1.1

theorem Stops.head {c : Char} (h : Stops c) :
    c.isDigit = false ∧ c ∉ ['\x27', '.', 'e', 'E', 'L', 'x'] := by
  have hpart : ∀ d ∈ ['.', 'e', 'E', 'L', 'x'], isNumeralPart d = true :=
    forall_mem_of_all (by decide)
  refine ⟨isDigit_of_not_isNumeralPart h.numeral, fun hc => ?_⟩
  rcases List.mem_cons.mp hc with rfl | hc
  · exact h.quote rfl
  · exact absurd h.numeral (by simp [hpart c hc])

/-- A character that ends what goes on as long as a class of characters, and that can stand
within an operator only before the sign of an arrow. -/
structure Parts (b : Char) : Prop extends Stops b where
  operator : ∀ s ∈ operators, s.toList.tail.IsChain fun x y => x = b → y = '>'

theorem parts_of_mem {b : Char} (hb : b ∈ ['(', ',', '=', '/', '\n']) : Parts b := by
  have hclass : ∀ b ∈ ['(', ',', '=', '/', '\n'],
      (∀ q ∈ [Quote.double, .backtick, .bracket], b ≠ q.closing) ∧ b ≠ '\x27' ∧
        isNumeralPart b = false ∧ Text.isNumeric b = false ∧ isWordPart b = false ∧
        ∀ s ∈ operators, s.toList.tail.IsChain fun x y => x = b → y = '>' :=
    forall_mem_of_all (by decide +kernel)
  obtain ⟨hclosing, hquote, hnumeral, hlabel, hword, hoperator⟩ := hclass b hb
  exact ⟨⟨fun q => hclosing q (by cases q <;> decide), hquote, hnumeral, hlabel, hword⟩, hoperator⟩

theorem parts_of_isBlank {b : Char} (hb : Text.isBlank b = true) (hword : isWordPart b = false) :
    Parts b := by
  have hneutral := neutral_of_isBlank hb
  refine ⟨⟨hneutral.closing, hneutral.quote, hneutral.numeral, hneutral.label, hword⟩, ?_⟩
  intro s hs
  refine List.Pairwise.isChain (List.pairwise_of_forall_mem_list fun x hx y _ heq => ?_)
  exact absurd (List.mem_of_mem_tail (heq ▸ hx)) (hneutral.operator s hs)

/-- Two texts are the same up to a parting character. -/
def Parallel (cs ds : List Char) : Prop :=
  cs = ds ∨ ∃ before b rest rest', cs = before ++ b :: rest ∧ ds = before ++ b :: rest' ∧ Parts b ∧
    rest.head? ≠ some '>' ∧ rest'.head? ≠ some '>'

theorem Parallel.append {cs ds : List Char} (h : Parallel cs ds) (before : List Char) :
    Parallel (before ++ cs) (before ++ ds) := by
  rcases h with rfl | ⟨front, b, rest, rest', rfl, rfl, hparts⟩
  · exact Or.inl rfl
  · exact Or.inr ⟨before ++ front, b, rest, rest', by simp, by simp, hparts⟩

section Parallel

variable {b c : Char} {cs ds rest rest' : List Char} {n : Nat}

theorem prefix_of_parts (hchain : ds.IsChain fun x y => x = b → y = '>')
    (hrest : rest.head? ≠ some '>') (h : ds <+: cs ++ b :: rest) : ds <+: cs ++ [b] := by
  have hfront : cs ++ [b] <+: cs ++ b :: rest := ⟨rest, by simp⟩
  rcases List.prefix_or_prefix_of_prefix h hfront with hshort | ⟨behind, rfl⟩
  · exact hshort
  · cases behind with
    | nil => simp
    | cons d behind =>
        rw [List.append_assoc, List.singleton_append] at hchain h
        have hd : d = '>' := (List.isChain_append.mp hchain).2.1.rel rfl
        obtain ⟨after, hafter⟩ := h
        have hhead : rest = d :: (behind ++ after) := by simpa using hafter.symm
        rw [hhead, hd] at hrest
        exact absurd rfl hrest

/-- No operator goes on behind a parting character but an arrow. -/
theorem operator?_append_parts (hb : Parts b) (hrest : rest.head? ≠ some '>')
    (hrest' : rest'.head? ≠ some '>') :
    operator? (c :: cs ++ b :: rest) = operator? (c :: cs ++ b :: rest') := by
  have hgo : ∀ {rest rest' : List Char}, rest.head? ≠ some '>' → ∀ s ∈ operators,
      s.toList <+: c :: cs ++ b :: rest → s.toList <+: c :: cs ++ b :: rest' := by
    intro rest rest' hrest s hs hstart
    have hchain := hb.operator s hs
    cases hspelling : s.toList with
    | nil => exact List.nil_prefix
    | cons d ds =>
        rw [hspelling] at hstart hchain
        obtain ⟨rfl, htail⟩ := List.cons_prefix_cons.mp hstart
        refine List.cons_prefix_cons.mpr ⟨rfl, ?_⟩
        exact (prefix_of_parts hchain hrest htail).trans ⟨rest', by simp⟩
  refine List.find?_congr fun s hs => Bool.eq_iff_iff.mpr ?_
  rw [List.isPrefixOf_iff_prefix, List.isPrefixOf_iff_prefix]
  exact ⟨hgo hrest s hs, hgo hrest' s hs⟩

theorem mem_of_lineComment_le (h : lineComment (cs ++ b :: rest) ≤ cs.length) : '\n' ∈ cs := by
  by_contra hnot
  have hall : ∀ d ∈ cs, decide (d ≠ '\n') = true :=
    fun d hd => decide_eq_true fun heq => hnot (heq ▸ hd)
  simp only [lineComment, List.takeWhile_append_of_pos hall, List.length_append] at h
  split at h
  · next hend =>
      rw [List.isEmpty_iff, List.drop_eq_nil_iff, List.length_append, List.length_cons] at hend
      omega
  · omega

/-- A lexeme before two texts that are the same up to a parting character. -/
theorem lexeme_of_parallel (hparallel : Parallel rest rest') {t : Option Token}
    (h : lexeme c (cs ++ rest) = .ok (t, cs.length)) :
    lexeme c (cs ++ rest') = .ok (t, cs.length) := by
  rcases hparallel with rfl | ⟨before, b, rest, rest', rfl, rfl, hb, hrest, hrest'⟩
  · exact h
  · have hn : cs.length ≤ (cs ++ before).length := by simp
    rw [← List.append_assoc] at h ⊢
    generalize cs ++ before = ds at h hn ⊢
    generalize cs.length = n at h hn ⊢
    have hhead : (ds ++ b :: rest').head? = (ds ++ b :: rest).head? := by cases ds <;> rfl
    rw [lexeme_eq_read] at h
    rw [lexeme_eq_read, hhead]
    generalize Reader.choose c (ds ++ b :: rest).head? = r at h ⊢
    have hshort := Reader.read_of_append h hn
    -- Each reader stops within what the two texts share.
    have hline : r = .lineComment → '\n' ∈ ds := by
      rintro rfl
      obtain ⟨-, rfl⟩ := Prod.mk.inj (Except.ok.inj h)
      exact mem_of_lineComment_le hn
    have hfeed : r = .lineEnd → b = '\n' → ds ≠ [] := by
      rintro rfl rfl rfl
      obtain ⟨-, rfl⟩ := Prod.mk.inj (Except.ok.inj h)
      exact absurd hn (by simp)
    have hoperator : r = .operator → ∀ spelling,
        operator? (c :: ds ++ b :: rest') = some spelling → spelling.length ≤ (c :: ds).length := by
      rintro rfl spelling hspelling
      rw [operator?_append_parts hb hrest' hrest] at hspelling
      simp only [Reader.read, ← List.cons_append, hspelling] at h
      obtain ⟨-, rfl⟩ := Prod.mk.inj (Except.ok.inj h)
      exact Nat.le_add_of_sub_le hn
    obtain ⟨⟨u, m⟩, hlonger, hm⟩ :=
      Reader.exists_read_append_cons hb.toStops hshort hline hfeed hoperator
    rw [hlonger, ← Reader.read_of_append hlonger hm, hshort]

end Parallel

/-! ## Lexemes that end with a parting character -/

section Before

variable {c d e : Char} {cs rest rest' : List Char}

theorem blockComment_getLast? {depth : Nat} {previous : Char} {n : Nat}
    (h : blockComment depth previous cs = some n) (hn : n = cs.length) :
    cs.getLast? = some '/' := by
  have hcons : ∀ {c : Char} {cs : List Char}, cs.getLast? = some '/' →
      (c :: cs).getLast? = some '/' := by
    intro c cs hlast
    rw [List.getLast?_cons, hlast]
    rfl
  fun_induction blockComment depth previous cs generalizing n with
  | case1 => cases h
  | case2 depth previous c cs hopens ih =>
    obtain ⟨m, hread, rfl⟩ := Option.map_eq_some_iff.1 h
    exact hcons (ih hread (Nat.succ.inj hn))
  | case3 previous c cs hopens hcloses =>
    cases h
    rw [hcloses.2, List.eq_nil_of_length_eq_zero (Nat.succ.inj hn).symm]
    rfl
  | case4 previous c cs hopens hcloses outer ih =>
    obtain ⟨m, hread, rfl⟩ := Option.map_eq_some_iff.1 h
    exact hcons (ih hread (Nat.succ.inj hn))
  | case5 depth previous c cs hopens hcloses ih =>
    obtain ⟨m, hread, rfl⟩ := Option.map_eq_some_iff.1 h
    exact hcons (ih hread (Nat.succ.inj hn))

/-- A comment that ends before further text ends with its line. -/
theorem exists_of_lineComment (h : lineComment (cs ++ d :: rest) = cs.length) :
    ∃ line, cs = line ++ ['\n'] ∧ '\n' ∉ line := by
  obtain ⟨line, after, rfl, hline⟩ := List.eq_append_cons_of_mem (mem_of_lineComment_le h.le)
  rw [List.append_assoc, List.cons_append, lineComment_of_line hline, List.length_append,
    List.length_cons] at h
  obtain rfl : after = [] := List.eq_nil_of_length_eq_zero (by omega)
  exact ⟨line, rfl, hline⟩

theorem exists_of_blockComment {depth : Nat} {previous : Char}
    (h : blockComment depth previous (cs ++ rest) = some cs.length) :
    ∃ front, cs = front ++ ['/'] ∧
      ∀ rest', blockComment depth previous (cs ++ rest') = some cs.length := by
  have hshort := blockComment_of_append h (Nat.le_refl _)
  obtain ⟨front, hfront⟩ := List.getLast?_eq_some_iff.mp (blockComment_getLast? hshort rfl)
  exact ⟨front, hfront, fun rest' => (blockComment_append hshort rest').1⟩

/-- A blank is no part of a word. -/
theorem parts_of_choose {next : Option Char}
    (h : Reader.choose c next = .blank ∨ Reader.choose c next = .lineEnd) : Parts c := by
  have hblank : Text.isBlank c = true := by
    rcases h with h | h
    · exact Reader.opens_of_choose h
    · obtain rfl : c = '\r' := of_decide_eq_true (Reader.opens_of_choose h)
      decide +kernel
  refine parts_of_isBlank hblank (Bool.or_eq_false_iff.mpr ⟨?_, ?_⟩)
  · by_contra hstart
    rw [← Reader.choose_of_blank h none,
      Reader.choose_none_of_isWordStart (Bool.not_eq_false _ ▸ hstart)] at h
    exact absurd h (by decide)
  · exact isDigit_of_not_isNumeralPart (neutral_of_isBlank hblank).numeral

/-- A blank begins with a parting character, a comment with a minus or a slash. -/
theorem lexeme_none_head {n : Nat} (h : lexeme c cs = .ok (none, n)) :
    Parts c ∨ c = '-' ∨ c = '/' := by
  rw [lexeme_eq_read] at h
  have hmakes := Reader.makes_of_read h
  cases hreader : Reader.choose c cs.head? with
  | blank => exact Or.inl (parts_of_choose (Or.inl hreader))
  | lineEnd => exact Or.inl (parts_of_choose (Or.inr hreader))
  | lineComment => exact Or.inr (Or.inl (of_decide_eq_true (Reader.opens_of_choose hreader)))
  | blockComment => exact Or.inr (Or.inr (of_decide_eq_true (Reader.opens_of_choose hreader)))
  | _ =>
      rw [hreader] at hmakes
      cases hmakes

/-- A blank or a comment before a character is read before any other one that is no line feed,
and it ends with a parting character. -/
theorem lexeme_none_before (h : lexeme c (cs ++ d :: rest) = .ok (none, cs.length))
    (he : e ≠ '\n') :
    lexeme c (cs ++ e :: rest') = .ok (none, cs.length) ∧
      ∃ front b, c :: cs = front ++ [b] ∧ Parts b := by
  have hhead : cs ≠ [] → (cs ++ e :: rest').head? = (cs ++ d :: rest).head? := by
    intro hne
    obtain ⟨x, xs, rfl⟩ := List.exists_cons_of_ne_nil hne
    rfl
  rw [lexeme_eq_read] at h ⊢
  have hmakes := Reader.makes_of_read h
  cases hreader : Reader.choose c (cs ++ d :: rest).head? with
  | blank =>
      rw [hreader] at h
      obtain rfl : cs = [] := List.eq_nil_of_length_eq_zero (Prod.mk.inj (Except.ok.inj h)).2.symm
      rw [Reader.choose_of_blank (Or.inl hreader), hreader]
      exact ⟨rfl, [], c, rfl, parts_of_choose (Or.inl hreader)⟩
  | lineEnd =>
      rw [hreader] at h
      rw [Reader.choose_of_blank (Or.inr hreader), hreader]
      have hlength := (Prod.mk.inj (Except.ok.inj h)).2
      cases cs with
      | nil => exact ⟨by simp [Reader.read, he], [], c, rfl, parts_of_choose (Or.inr hreader)⟩
      | cons x xs =>
          rw [List.cons_append, List.head?_cons, List.length_cons] at hlength
          split at hlength
          · next hx =>
              obtain rfl : xs = [] := List.eq_nil_of_length_eq_zero (Nat.succ.inj hlength).symm
              obtain rfl : x = '\n' := Option.some.inj hx
              exact ⟨rfl, [c], '\n', rfl, parts_of_mem (by decide)⟩
          · cases hlength
  | lineComment =>
      rw [hreader] at h
      obtain ⟨line, rfl, hline⟩ := exists_of_lineComment (Prod.mk.inj (Except.ok.inj h)).2
      rw [hhead (by simp), hreader]
      refine ⟨?_, c :: line, '\n', rfl, parts_of_mem (by decide)⟩
      rw [Reader.read, List.append_assoc, List.singleton_append, lineComment_of_line hline]
      simp
  | blockComment =>
      rw [hreader] at h
      simp only [Reader.read] at h
      split at h
      · next m hread =>
          have hlength : m + 1 = cs.length := (Prod.mk.inj (Except.ok.inj h)).2
          obtain ⟨x, xs, rfl⟩ := List.exists_cons_of_ne_nil (l := cs) (by rintro rfl; cases hlength)
          rw [Nat.succ.inj hlength] at hread
          obtain ⟨front, rfl, hnew⟩ := exists_of_blockComment hread
          rw [hhead (by simp), hreader]
          refine ⟨?_, c :: x :: front, '/', by simp, parts_of_mem (by decide)⟩
          simp only [Reader.read, List.cons_append, List.tail_cons, hnew, List.length_cons]
      · cases h
  | text | quotedWord | numeral | operator | placeholder | bareWord | stray =>
      rw [hreader] at hmakes
      cases hmakes

/-- So is a mark that a value stands behind. -/
theorem lexeme_mark_before {m : Mark} (hm : m ∈ [.leftParen, .comma, .equal, .doubleEqual])
    (h : lexeme c (cs ++ d :: rest) = .ok (some (.mark m), cs.length)) (he : e ∉ ['=', '>']) :
    lexeme c (cs ++ e :: rest') = .ok (some (.mark m), cs.length) ∧
      ∃ front b, c :: cs = front ++ [b] ∧ Parts b := by
  have hperiod : m ≠ .period := by
    rintro rfl
    simp at hm
  obtain ⟨hchars, -⟩ := lexeme_eq_mark hperiod h
  rw [List.take_left] at hchars
  have hends : (Token.mark m).Ends (e :: rest') := by
    cases m with
    | equal => rintro _ ⟨⟩; exact he
    | leftParen | comma | doubleEqual => trivial
    | semicolon | period | rightParen | star | minus => simp at hm
  obtain ⟨c', cs', hspelling, hread⟩ := lexeme_mark m hends
  obtain ⟨rfl, rfl⟩ := List.cons.inj (hchars.trans hspelling)
  refine ⟨hread, ?_⟩
  cases m with
  | leftParen | comma | equal => exact ⟨[], _, hchars, parts_of_mem (by decide)⟩
  | doubleEqual => exact ⟨['='], '=', hchars, parts_of_mem (by decide)⟩
  | semicolon | period | rightParen | star | minus => simp at hm

end Before

end MiniSql.Lexer
