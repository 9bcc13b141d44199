import Mathlib.Data.List.TakeWhile
import MiniSql.Proofs.Readers

/-!
# Blanks around a text

Trimming takes off every blank character, but a blank character beyond the first 128 can begin
and continue an unquoted word. A blank before a text is a lexeme without a token or belongs to
the first word; a blank after a text is one more lexeme, or it belongs to a comment, or to the
last word.

**Results.**
* `scan_eq_ok_iff`, `exists_scan_eq_error_iff`: the tokens and the faults of a text, lexeme by
  lexeme.
* `Scanned.trim`: a text whose outer words have no blank at the outer end keeps its tokens.
* `Faulty.of_concat`: a blank taken off the end of a text does not mend it.
-/

namespace MiniSql

/-! ## Blank characters -/

namespace Text

/-- The blank characters. -/
def blanks : List Char :=
  blankRanges.toList.flatMap fun r => (List.range' r.1 (r.2 + 1 - r.1)).map Char.ofNat

theorem mem_blanks {c : Char} (hc : isBlank c = true) : c ∈ blanks := by
  rw [isBlank, within_iff] at hc
  obtain ⟨r, hr, hfirst, hlast⟩ := hc
  refine List.mem_flatMap.mpr ⟨r, Array.mem_toList_iff.mpr hr, ?_⟩
  refine List.mem_map.mpr ⟨c.toNat, ?_, Char.ofNat_toNat c⟩
  rw [List.mem_range'_1]
  omega

/-- What is computed of every blank character. -/
theorem blank_forall {p : Char → Prop} [DecidablePred p]
    (h : blanks.all (fun c => decide (p c)) = true) (c : Char) (hc : isBlank c = true) : p c :=
  Lexer.forall_mem_of_all h c (mem_blanks hc)

/-- A property that is kept when a blank is taken off either end is kept by trimming. -/
theorem trim_induction {p : List Char → Prop}
    (hfront : ∀ b cs, isBlank b = true → p (b :: cs) → p cs)
    (hback : ∀ b cs, isBlank b = true → p (cs ++ [b]) → p cs) {cs : List Char} (h : p cs) :
    p (trimEnd (trimStart cs)) := by
  have hstart : p (trimStart cs) := by
    induction cs with
    | nil => exact h
    | cons c cs ih =>
        by_cases hc : isBlank c = true
        · rw [trimStart, List.dropWhile_cons_of_pos hc]
          exact ih (hfront c cs hc h)
        · rwa [trimStart_cons_of_not_blank (Bool.not_eq_true _ ▸ hc)]
  generalize trimStart cs = cs at hstart
  induction cs using List.reverseRecOn with
  | nil => exact hstart
  | append_singleton cs c ih =>
      by_cases hc : isBlank c = true
      · have hdrop : trimEnd (cs ++ [c]) = trimEnd cs := by simp [trimEnd, hc]
        rw [hdrop]
        exact ih (hback c cs hc hstart)
      · rwa [trimEnd_concat_of_not_blank (Bool.not_eq_true _ ▸ hc)]

end Text

namespace Lexer

/-! ## A blank in front -/

section Front

variable {b : Char} (hb : Text.isBlank b = true)

include hb

theorem Reader.choose_blank (next : Option Char) :
    choose b next = blank ∨ choose b next = lineEnd ∨ choose b next = bareWord := by
  have hclass := Text.blank_forall (p := fun b => formOfLetter? b = none ∧ b ≠ '-' ∧ b ≠ '/' ∧
    (choose b none = blank ∨ choose b none = lineEnd ∨ choose b none = bareWord))
    (by decide +kernel) b hb
  obtain ⟨hform, hminus, hslash, hnone⟩ := hclass
  rcases choose_eq_or b next with hsame | ⟨form, -, hletter, -⟩ | ⟨-, hline, -⟩ | ⟨-, hblock, -⟩
  · rwa [hsame]
  · rw [hform] at hletter
    cases hletter
  · exact absurd hline hminus
  · exact absurd hblock hslash

/-- A blank in front is a lexeme by itself, ends a line with the line feed after it, or begins
a word. -/
theorem lexeme_blank (cs : List Char) :
    lexeme b cs = .ok (none, 0) ∨
      (lexeme b cs = .ok (none, 1) ∧ ∃ ds, cs = '\n' :: ds) ∨
      lexeme b cs = .ok (some (.word (String.ofList (b :: cs.takeWhile isWordPart)) none),
        (cs.takeWhile isWordPart).length) := by
  rw [lexeme_eq_read]
  rcases Reader.choose_blank hb cs.head? with hread | hread | hread
  · rw [hread]
    exact Or.inl rfl
  · rw [hread, Reader.read]
    split
    · next hnext => exact Or.inr (Or.inl ⟨rfl, List.head?_eq_some_iff.mp hnext⟩)
    · exact Or.inl rfl
  · rw [hread]
    exact Or.inr (Or.inr rfl)

end Front

/-! ## A blank at the end -/

section Back

variable {b : Char} {cs : List Char} {n : Nat}

theorem takeWhile_append_cons {p : Char → Bool} (hb : p b = false) (cs rest : List Char) :
    (cs ++ b :: rest).takeWhile p = cs.takeWhile p := by
  rw [List.takeWhile_append]
  split
  · next hall =>
      have hsame := (List.takeWhile_prefix p).eq_of_length hall
      rw [hsame, List.takeWhile_cons_of_neg (Bool.eq_false_iff.mp hb), List.append_nil]
  · rfl

theorem takeWhile_concat {p : Char → Bool} (hb : p b = false) (cs : List Char) :
    (cs ++ [b]).takeWhile p = cs.takeWhile p :=
  takeWhile_append_cons hb cs []

theorem quotedText_concat {q : Char} (hb : b ≠ q) (cs : List Char) :
    quotedText q (cs ++ [b]) = quotedText q cs := by
  fun_induction quotedText q cs with
  | case1 => simp [quotedText, hb]
  | case2 => simp [quotedText, hb]
  | case3 c hc => simp [quotedText, hb, hc]
  | case4 cs ih => simp [quotedText, ih]
  | case5 d cs hd => simp [quotedText, hd]
  | case6 c d cs hc ih =>
    rw [List.cons_append, List.cons_append, quotedText, if_neg hc]
    rw [List.cons_append] at ih
    rw [ih]

theorem escapedText_concat (hb : b ≠ '\x27') (cs : List Char) :
    escapedText (cs ++ [b]) = escapedText cs := by
  fun_induction escapedText cs with
  | case1 => simp [escapedText, hb]
  | case2 => simp [escapedText, hb]
  | case3 c hc => simp [escapedText, hb, hc]
  | case4 d cs ih => simp [escapedText, ih]
  | case5 cs hc ih => simp [escapedText, ih]
  | case6 d cs hd hescape => simp [escapedText, hd]
  | case7 c d cs hc hquote ih =>
    rw [List.cons_append, List.cons_append, escapedText, if_neg hc, if_neg hquote]
    rw [List.cons_append] at ih
    rw [ih]

theorem blockComment_concat (hb : b ≠ '/') (depth : Nat) (previous : Char) (cs : List Char) :
    blockComment depth previous (cs ++ [b]) = blockComment depth previous cs := by
  fun_induction blockComment depth previous cs with
  | case1 depth previous => simp [blockComment, hb]
  | case2 depth previous c cs hopens ih =>
    rw [List.cons_append, blockComment.eq_def]
    simp only [if_pos hopens, ih]
  | case3 previous c cs hopens hcloses =>
    rw [List.cons_append, blockComment, if_neg hopens, if_pos hcloses]
  | case4 previous c cs hopens hcloses outer ih =>
    rw [List.cons_append, blockComment, if_neg hopens, if_pos hcloses, ih]
  | case5 depth previous c cs hopens hcloses ih =>
    rw [List.cons_append, blockComment.eq_def]
    simp only [if_neg hopens, if_neg hcloses, ih]

theorem singleQuoted_concat (hb : b ≠ '\x27') (form : TextForm) (letter : Nat) (cs : List Char) :
    singleQuoted form letter (cs ++ [b]) = singleQuoted form letter cs := by
  unfold singleQuoted
  rw [escapedText_concat hb, quotedText_concat hb]

/-- The first `n` characters of a text are of a class. -/
def Within (p : Char → Bool) (cs : List Char) (n : Nat) : Prop :=
  ∀ c ∈ cs.take n, p c = true

theorem Within.add {p : Char → Bool} {m : Nat} (hm : Within p cs m)
    (hn : Within p (cs.drop m) n) : Within p cs (m + n) := by
  intro c hc
  rw [List.take_add, List.mem_append] at hc
  exact hc.elim (hm c) (hn c)

theorem within_takeWhile {p q : Char → Bool} (h : ∀ c, q c = true → p c = true)
    (cs : List Char) : Within p cs (cs.takeWhile q).length := by
  intro c hc
  rw [← List.prefix_iff_eq_take.mp (List.takeWhile_prefix q)] at hc
  exact h c (List.mem_takeWhile_imp hc)

theorem within_one {p : Char → Bool} {c : Char} (h : cs.head? = some c) (hc : p c = true) :
    Within p cs 1 := by
  obtain ⟨ds, rfl⟩ := List.head?_eq_some_iff.mp h
  simpa [Within] using hc

theorem within_zero {p : Char → Bool} : Within p cs 0 := by
  simp [Within]

/-- A character of no such class is not among them. -/
theorem Within.le_length {p : Char → Bool} {rest : List Char} (h : Within p (cs ++ b :: rest) n)
    (hb : p b = false) : n ≤ cs.length := by
  by_contra hn
  obtain ⟨m, rfl⟩ := Nat.exists_eq_add_of_lt (Nat.lt_of_not_le hn)
  have htake : (cs ++ b :: rest).take (cs.length + m + 1) = cs ++ b :: rest.take m := by
    rw [Nat.add_assoc, List.take_length_add_append, List.take_succ_cons]
  have hclass := h b (by rw [htake]; simp)
  rw [hb] at hclass
  cases hclass

/-- A character of numbers. -/
def isNumeralPart (c : Char) : Bool :=
  isHexDigit c || c ∈ ['.', '+', '-', 'L', 'x']

theorem within_exponent (cs : List Char) : Within isNumeralPart cs (exponentLength cs) := by
  have hdigit : ∀ c : Char, c.isDigit = true → isNumeralPart c = true := digit_forall (by decide)
  cases cs with
  | nil => exact within_zero
  | cons e cs =>
      by_cases he : e = 'e' ∨ e = 'E'
      · rw [exponentLength_cons he]
        split
        · exact within_zero
        · have hletter : isNumeralPart e = true := by rcases he with rfl | rfl <;> decide
          refine Within.add (Within.add (within_one rfl hletter) ?_) ?_
          · unfold signLength
            split
            · next hsign =>
                rcases hsign with hsign | hsign
                · exact within_one hsign (by decide)
                · exact within_one hsign (by decide)
            · exact within_zero
          · rw [← List.drop_drop]
            exact within_takeWhile hdigit _
      · rw [exponentLength, if_neg he]
        exact within_zero

theorem within_numeral (cs : List Char) :
    numeral cs = (.mark .period, 1) ∨ Within isNumeralPart cs (numeral cs).2 := by
  have hdigit : ∀ c : Char, c.isDigit = true → isNumeralPart c = true := digit_forall (by decide)
  have hpoint : ∀ cs, Within isNumeralPart cs (pointLength cs) := by
    intro cs
    unfold pointLength
    split
    · next hhead => exact within_one hhead (by decide)
    · exact within_zero
  rw [numeral_eq]
  split
  · next hhex =>
      have hhexDigit : ∀ c, isHexDigit c = true → isNumeralPart c = true := by
        intro c hc
        simp [isNumeralPart, hc]
      have hzero : Within isNumeralPart cs 1 := by
        have hwhole := within_takeWhile hdigit cs
        rwa [hhex.1] at hwhole
      right
      rw [Nat.add_comm]
      exact (hzero.add (within_one hhex.2 (by decide))).add (within_takeWhile hhexDigit _)
  · split
    · exact Or.inl rfl
    · have hplain : Within isNumeralPart cs (plainLength cs) :=
        ((within_takeWhile hdigit cs).add (hpoint _)).add (within_takeWhile hdigit _)
      have hlength := hplain.add (within_exponent (cs.drop (plainLength cs)))
      right
      simp only [numberFrom]
      split
      · next hlong => exact hlength.add (within_one hlong (by decide))
      · exact hlength

theorem numeral_concat (hb : isNumeralPart b = false) (hne : 0 < cs.length) :
    numeral (cs ++ [b]) = numeral cs := by
  refine (numeral_of_append hne ?_).symm
  rcases within_numeral (cs ++ [b]) with hpoint | hwithin
  · rw [hpoint]
    exact hne
  · exact hwithin.le_length hb

theorem operator?_concat (hb : ∀ s ∈ operators, b ∉ s.toList) (c : Char) (cs : List Char) :
    operator? (c :: cs ++ [b]) = operator? (c :: cs) := by
  have hsome : (operator? (c :: cs ++ [b])).isSome = (operator? (c :: cs)).isSome := by
    rw [isSome_operator? c cs, List.cons_append, isSome_operator?]
  cases hread : operator? (c :: cs ++ [b]) with
  | none =>
      rw [hread, Option.isSome_none] at hsome
      exact (Option.not_isSome_iff_eq_none.mp (Bool.eq_false_iff.mp hsome.symm)).symm
  | some spelling =>
      have hfind : operators.find? (fun s => s.toList.isPrefixOf (c :: cs ++ [b])) =
          some spelling := hread
      have hmem : spelling ∈ operators := List.mem_of_find?_eq_some hfind
      have hfound := List.find?_some hfind
      have hstart : spelling.toList <+: c :: cs ++ [b] := List.isPrefixOf_iff_prefix.mp hfound
      refine (operator?_of_append hread ?_).symm
      rcases List.prefix_concat_iff.mp hstart with hall | hshort
      · exact absurd (by rw [hall]; simp) (hb spelling hmem)
      · rw [← String.length_toList]
        exact hshort.length_le

/-- What the readers ask of a character is not so of a blank. -/
structure Neutral (b : Char) : Prop where
  closing : ∀ q : Quote, b ≠ q.closing
  quote : b ≠ '\x27'
  slash : b ≠ '/'
  numeral : isNumeralPart b = false
  label : Text.isNumeric b = false
  operator : ∀ s ∈ operators, b ∉ s.toList

theorem neutral_of_isBlank (hb : Text.isBlank b = true) : Neutral b := by
  have hclass := Text.blank_forall (p := fun b =>
    b ∉ ['\x22', '\x60', ']', '\x27', '/'] ∧ isNumeralPart b = false ∧
      Text.isNumeric b = false ∧ ∀ s ∈ operators, b ∉ s.toList) (by decide +kernel) b hb
  obtain ⟨hmarks, hnumeral, hlabel, hoperator⟩ := hclass
  simp only [List.mem_cons, List.not_mem_nil, or_false, not_or] at hmarks
  obtain ⟨hdouble, hbacktick, hbracket, hquote, hslash⟩ := hmarks
  refine ⟨fun q => ?_, hquote, hslash, hnumeral, hlabel, hoperator⟩
  cases q with
  | double => exact hdouble
  | backtick => exact hbacktick
  | bracket => exact hbracket

theorem drop_concat (n : Nat) (cs : List Char) :
    (cs ++ [b]).drop n = if n ≤ cs.length then cs.drop n ++ [b] else cs.drop n := by
  split
  · next hn => exact List.drop_append_of_le_length hn
  · next hn =>
      rw [List.drop_eq_nil_iff.mpr (Nat.le_of_not_le hn), List.drop_eq_nil_iff]
      rw [List.length_append, List.length_singleton]
      omega

/-- Only a line and a bare word go on with a blank. -/
theorem Reader.read_concat (hb : Text.isBlank b = true) (c : Char) {r : Reader}
    (hr : r ≠ .lineEnd ∧ r ≠ .lineComment ∧ r ≠ .bareWord) (p : Option Token × Nat) :
    r.read c (cs ++ [b]) = .ok p ↔ r.read c cs = .ok p := by
  have hneutral := neutral_of_isBlank hb
  cases r with
  | blank => exact Iff.rfl
  | text form letter =>
      have hbody : singleQuoted form letter ((cs ++ [b]).drop letter) =
          singleQuoted form letter (cs.drop letter) := by
        rw [drop_concat]
        split
        · exact singleQuoted_concat hneutral.quote form letter _
        · rfl
      rw [read, read, hbody]
  | quotedWord q => rw [read, read, quotedText_concat (hneutral.closing q)]
  | numeral =>
      have hread : Lexer.numeral (c :: cs ++ [b]) = Lexer.numeral (c :: cs) :=
        numeral_concat hneutral.numeral (Nat.succ_pos cs.length)
      rw [read, read, ← List.cons_append, hread]
  | blockComment =>
      have htail :
          Lexer.blockComment 0 ' ' (cs ++ [b]).tail = Lexer.blockComment 0 ' ' cs.tail := by
        cases cs with
        | nil => rfl
        | cons d ds => exact blockComment_concat hneutral.slash 0 ' ' ds
      simp only [read, htail]
      split <;> simp
  | operator => rw [read, read, ← List.cons_append, operator?_concat hneutral.operator]
  | placeholder => rw [read, read, takeWhile_concat hneutral.label]
  | stray => exact Iff.rfl
  | lineEnd => exact absurd rfl hr.1
  | lineComment => exact absurd rfl hr.2.1
  | bareWord => exact absurd rfl hr.2.2

theorem lineComment_concat (b : Char) (cs : List Char) :
    lineComment (cs ++ [b]) = lineComment cs ∨
      (lineComment (cs ++ [b]) = cs.length + 1 ∧ lineComment cs = cs.length) := by
  have hstart := List.takeWhile_prefix (· ≠ '\n') (l := cs)
  by_cases hall : (cs.takeWhile (· ≠ '\n')).length = cs.length
  · right
    simp only [lineComment, List.takeWhile_append, hall, if_true]
    by_cases hb : b = '\n'
    · simp [hb]
    · simp [hb]
  · left
    have hlt := Nat.lt_of_le_of_ne hstart.length_le hall
    simp only [lineComment, List.takeWhile_append, hall, if_false]
    rw [List.drop_append_of_le_length hlt.le]
    have hne : cs.drop (cs.takeWhile (· ≠ '\n')).length ≠ [] := by
      rw [Ne, List.drop_eq_nil_iff]
      omega
    rw [List.isEmpty_eq_false_iff.mpr hne, List.isEmpty_eq_false_iff.mpr (by simp)]

theorem Reader.choose_concat (hb : Text.isBlank b = true) (c : Char) (cs : List Char) :
    choose c (cs ++ [b]).head? = choose c cs.head? := by
  cases cs with
  | cons d ds => rfl
  | nil =>
      have hneutral := neutral_of_isBlank hb
      have hne : b ≠ '\x27' ∧ b ≠ '-' ∧ b ≠ '*' := by
        refine ⟨hneutral.quote, ?_, ?_⟩
        · rintro rfl
          exact absurd hneutral.numeral (by decide)
        · rintro rfl
          exact hneutral.operator "*" (by decide) (by decide)
      rcases choose_eq_or c ([] ++ [b]).head? with hsame | ⟨form, -, -, hquote⟩ | ⟨-, -, hminus⟩ |
        ⟨-, -, hstar⟩
      · exact hsame
      · exact absurd (Option.some.inj hquote) hne.1
      · exact absurd (Option.some.inj hminus) hne.2.1
      · exact absurd (Option.some.inj hstar) hne.2.2

/-- A blank after a text is a lexeme of its own, or it belongs to a lexeme without a token that
reaches the end of the text, or to a bare word that does. -/
theorem lexeme_concat (hb : Text.isBlank b = true) (c : Char) (cs : List Char) :
    (∀ p, lexeme c (cs ++ [b]) = .ok p ↔ lexeme c cs = .ok p) ∨
      (lexeme c (cs ++ [b]) = .ok (none, cs.length + 1) ∧ lexeme c cs = .ok (none, cs.length)) ∨
      lexeme c (cs ++ [b]) =
        .ok (some (.word (String.ofList (c :: cs ++ [b])) none), cs.length + 1) := by
  rw [lexeme_eq_read, lexeme_eq_read, Reader.choose_concat hb]
  generalize Reader.choose c cs.head? = r
  by_cases hline : r = .lineComment
  · subst hline
    simp only [Reader.read]
    rcases lineComment_concat b cs with hsame | ⟨hlonger, hwhole⟩
    · exact Or.inl fun p => by rw [hsame]
    · exact Or.inr (Or.inl ⟨by rw [hlonger], by rw [hwhole]⟩)
  · by_cases hend : r = .lineEnd
    · subst hend
      simp only [Reader.read]
      cases cs with
      | cons d ds => exact Or.inl fun p => Iff.rfl
      | nil =>
          by_cases hfeed : b = '\n'
          · subst hfeed
            exact Or.inr (Or.inl ⟨rfl, rfl⟩)
          · exact Or.inl fun p => by simp [hfeed]
    · by_cases hword : r = .bareWord
      · subst hword
        simp only [Reader.read]
        cases hpart : isWordPart b with
        | false => exact Or.inl fun p => by rw [takeWhile_concat hpart]
        | true =>
            rw [List.takeWhile_append]
            split
            · exact Or.inr (Or.inr (by simp [hpart]))
            · exact Or.inl fun p => Iff.rfl
      · exact Or.inl fun p => Reader.read_concat hb c ⟨hend, hline, hword⟩ p

end Back

/-! ## Lexeme by lexeme -/

/-- The tokens of a text, lexeme by lexeme. -/
inductive Scanned : List Char → List Token → Prop
  | nil : Scanned [] []
  | cons {c : Char} {cs : List Char} {t : Option Token} {n : Nat} {tokens : List Token}
      (hlexeme : lexeme c cs = .ok (t, n))
      (hrest : Scanned (cs.drop n) tokens) :
      Scanned (c :: cs) (t.toList ++ tokens)

/-- Some lexeme of the text is faulty. -/
inductive Faulty : List Char → Prop
  | here {c : Char} {cs : List Char} {fault : Fault}
      (hlexeme : lexeme c cs = .error fault) :
      Faulty (c :: cs)
  | later {c : Char} {cs : List Char} {t : Option Token} {n : Nat}
      (hlexeme : lexeme c cs = .ok (t, n))
      (hrest : Faulty (cs.drop n)) :
      Faulty (c :: cs)

theorem scanned_or_faulty (cs : List Char) (here : Location) :
    (∃ ls, lexemes here cs = .ok ls ∧ Scanned cs (ls.filterMap Lexeme.token)) ∨
      ((∃ e, lexemes here cs = .error e) ∧ Faulty cs) := by
  induction cs using WellFounded.induction (measure List.length).wf generalizing here with
  | _ cs ih =>
    cases cs with
    | nil => exact Or.inl ⟨[], by rw [lexemes], Scanned.nil⟩
    | cons c cs =>
        rw [lexemes]
        cases hlexeme : lexeme c cs with
        | error f => exact Or.inr ⟨⟨_, rfl⟩, Faulty.here hlexeme⟩
        | ok p =>
            obtain ⟨t, n⟩ := p
            have hshort : (cs.drop n).length < (c :: cs).length := by
              rw [List.length_drop, List.length_cons]
              omega
            rcases ih (cs.drop n) hshort (here.advanceOver (c :: cs.take n)) with
              ⟨ls, hls, hscanned⟩ | ⟨⟨e, he⟩, hfaulty⟩
            · refine Or.inl ⟨⟨t, here, c :: cs.take n⟩ :: ls, by simp only [hls], ?_⟩
              have hcons := Scanned.cons hlexeme hscanned
              cases t with
              | none => exact hcons
              | some t => exact hcons
            · exact Or.inr ⟨⟨e, by simp only [he]⟩, Faulty.later hlexeme hfaulty⟩

theorem Scanned.not_faulty {cs : List Char} {tokens : List Token} (h : Scanned cs tokens) :
    ¬ Faulty cs := by
  induction h with
  | nil => rintro ⟨⟩
  | cons hlexeme _ ih =>
      rintro (hfault | ⟨hok, hrest⟩)
      · rw [hlexeme] at hfault
        cases hfault
      · rw [hlexeme] at hok
        cases hok
        exact ih hrest

theorem Scanned.unique {cs : List Char} {tokens tokens' : List Token} (h : Scanned cs tokens)
    (h' : Scanned cs tokens') : tokens = tokens' := by
  induction h generalizing tokens' with
  | nil =>
      cases h'
      rfl
  | cons hlexeme _ ih =>
      cases h' with
      | cons hlexeme' hrest' =>
          rw [hlexeme] at hlexeme'
          cases hlexeme'
          rw [ih hrest']

end Lexer

/-- A text is scanned if every lexeme of it is read. -/
theorem Token.scan_eq_ok_iff {sql : String} {tokens : List Token} :
    scan sql = .ok tokens ↔ Lexer.Scanned sql.toList tokens := by
  rcases Lexer.scanned_or_faulty sql.toList .start with ⟨ls, hls, hscanned⟩ | ⟨⟨e, he⟩, hfaulty⟩
  · rw [scan, hls]
    constructor
    · intro h
      cases h
      exact hscanned
    · exact fun h => congrArg Except.ok (hscanned.unique h)
  · rw [scan, he]
    constructor
    · rintro ⟨⟩
    · exact fun h => (h.not_faulty hfaulty).elim

/-- A text is rejected if some lexeme of it is faulty. -/
theorem Token.exists_scan_eq_error_iff {sql : String} :
    (∃ e, scan sql = .error e) ↔ Lexer.Faulty sql.toList := by
  rcases Lexer.scanned_or_faulty sql.toList .start with ⟨ls, hls, hscanned⟩ | ⟨⟨e, he⟩, hfaulty⟩
  · rw [scan, hls]
    constructor
    · rintro ⟨e, ⟨⟩⟩
    · exact fun h => (hscanned.not_faulty h).elim
  · rw [scan, he]
    exact ⟨fun _ => hfaulty, fun _ => ⟨e, rfl⟩⟩

/-! ## Trimming -/

namespace Token

/-- A bare word that begins with a blank. -/
def opensBlank : Token → Bool
  | word value none => value.toList.head?.any Text.isBlank
  | _ => false

/-- A bare word that ends with a blank. -/
def closesBlank : Token → Bool
  | word value none => value.toList.getLast?.any Text.isBlank
  | _ => false

@[simp] theorem opensBlank_bareWord (value : String) :
    (word value none).opensBlank = value.toList.head?.any Text.isBlank := rfl

@[simp] theorem closesBlank_bareWord (value : String) :
    (word value none).closesBlank = value.toList.getLast?.any Text.isBlank := rfl

/-- The first token does not begin and the last one does not end with a blank. -/
def Trimmed (tokens : List Token) : Prop :=
  (∀ t ∈ tokens.head?, t.opensBlank = false) ∧ ∀ t ∈ tokens.getLast?, t.closesBlank = false

instance (tokens : List Token) : Decidable (Trimmed tokens) :=
  inferInstanceAs (Decidable (_ ∧ _))

end Token

namespace Lexer

section Trimming

variable {b : Char} {cs : List Char} {tokens : List Token}

theorem Scanned.of_blank_cons (hb : Text.isBlank b = true) (h : Scanned (b :: cs) tokens)
    (hfirst : ∀ t ∈ tokens.head?, t.opensBlank = false) : Scanned cs tokens := by
  cases h with
  | cons hlexeme hrest =>
      rcases lexeme_blank hb cs with hblank | ⟨hline, ds, rfl⟩ | hword
      · rw [hblank] at hlexeme
        cases hlexeme
        exact hrest
      · rw [hline] at hlexeme
        cases hlexeme
        exact Scanned.cons (t := none) (n := 0) rfl hrest
      · rw [hword] at hlexeme
        cases hlexeme
        have hopens := hfirst _ rfl
        simp [hb] at hopens

theorem Scanned.eq_nil (h : Scanned [] tokens) : tokens = [] := by
  cases h
  rfl

theorem Scanned.eq_nil_of_blank (hb : Text.isBlank b = true) (h : Scanned [b] tokens)
    (hlast : ∀ t ∈ tokens.getLast?, t.closesBlank = false) : tokens = [] := by
  cases h with
  | cons hlexeme hrest =>
      rw [List.drop_nil] at hrest
      obtain rfl := hrest.eq_nil
      rcases lexeme_blank hb [] with hblank | ⟨-, ds, hnil⟩ | hword
      · rw [hblank] at hlexeme
        cases hlexeme
        rfl
      · cases hnil
      · rw [hword] at hlexeme
        cases hlexeme
        have hcloses := hlast _ rfl
        simp [hb] at hcloses

theorem Scanned.of_concat (hb : Text.isBlank b = true) (h : Scanned (cs ++ [b]) tokens)
    (hlast : ∀ t ∈ tokens.getLast?, t.closesBlank = false) : Scanned cs tokens := by
  generalize htext : cs ++ [b] = text at h
  induction h generalizing cs with
  | nil => simp at htext
  | @cons c ds t n tokens hlexeme hrest ih =>
      cases cs with
      | nil =>
          obtain ⟨rfl, rfl⟩ := List.cons.inj htext
          rw [(Scanned.cons hlexeme hrest).eq_nil_of_blank hb hlast]
          exact Scanned.nil
      | cons c cs =>
          rw [List.cons_append] at htext
          obtain ⟨rfl, rfl⟩ := List.cons.inj htext
          have htokens : ∀ u ∈ tokens.getLast?, u.closesBlank = false := by
            intro u hu
            refine hlast u ?_
            rw [List.getLast?_append, Option.mem_def.mp hu]
            rfl
          have hdrop := drop_concat (b := b) n cs
          rcases lexeme_concat hb c cs with hsame | ⟨hlonger, hwhole⟩ | hword
          · refine Scanned.cons ((hsame _).mp hlexeme) ?_
            split at hdrop
            · exact ih htokens hdrop.symm
            · rwa [← hdrop]
          · rw [hlonger] at hlexeme
            cases hlexeme
            rw [List.drop_eq_nil_iff.mpr (by simp)] at hrest
            refine Scanned.cons hwhole ?_
            rwa [List.drop_length]
          · rw [hword] at hlexeme
            cases hlexeme
            rw [List.drop_eq_nil_iff.mpr (by simp)] at hrest
            obtain rfl := hrest.eq_nil
            have hcloses := hlast (.word (String.ofList (c :: cs ++ [b])) none) rfl
            rw [Token.closesBlank_bareWord, String.toList_ofList, List.getLast?_concat,
              Option.any_some, hb] at hcloses
            cases hcloses

/-- A blank taken off the end does not mend a text. -/
theorem Faulty.of_concat (hb : Text.isBlank b = true) (h : Faulty (cs ++ [b])) : Faulty cs := by
  generalize htext : cs ++ [b] = text at h
  induction h generalizing cs with
  | @here c ds fault hlexeme =>
      cases cs with
      | nil =>
          obtain ⟨rfl, rfl⟩ := List.cons.inj htext
          rcases lexeme_blank hb [] with hread | ⟨hread, -⟩ | hread
          all_goals
            rw [hread] at hlexeme
            cases hlexeme
      | cons c cs =>
          rw [List.cons_append] at htext
          obtain ⟨rfl, rfl⟩ := List.cons.inj htext
          rcases lexeme_concat hb c cs with hsame | ⟨hlonger, -⟩ | hword
          · cases hread : lexeme c cs with
            | error fault' => exact Faulty.here hread
            | ok p =>
                rw [(hsame p).mpr hread] at hlexeme
                cases hlexeme
          · rw [hlonger] at hlexeme
            cases hlexeme
          · rw [hword] at hlexeme
            cases hlexeme
  | @later c ds t n hlexeme hrest ih =>
      cases cs with
      | nil =>
          obtain ⟨rfl, rfl⟩ := List.cons.inj htext
          rw [List.drop_nil] at hrest
          cases hrest
      | cons c cs =>
          rw [List.cons_append] at htext
          obtain ⟨rfl, rfl⟩ := List.cons.inj htext
          have hdrop := drop_concat (b := b) n cs
          have hn : n ≤ cs.length := by
            by_contra hn
            rw [hdrop, if_neg hn, List.drop_eq_nil_iff.mpr (Nat.le_of_not_le hn)] at hrest
            cases hrest
          rw [if_pos hn] at hdrop
          rcases lexeme_concat hb c cs with hsame | ⟨hlonger, -⟩ | hword
          · exact Faulty.later ((hsame _).mp hlexeme) (ih hdrop.symm)
          · rw [hlonger] at hlexeme
            cases hlexeme
            omega
          · rw [hword] at hlexeme
            cases hlexeme
            omega

/-- A text whose outer words have no blank at the outer end keeps its tokens. -/
theorem Scanned.trim (h : Scanned cs tokens) (htrimmed : Token.Trimmed tokens) :
    Scanned (Text.trimEnd (Text.trimStart cs)) tokens :=
  Text.trim_induction (p := fun cs => Scanned cs tokens)
    (fun _ _ hb h => h.of_blank_cons hb htrimmed.1) (fun _ _ hb h => h.of_concat hb htrimmed.2) h

end Trimming

end Lexer

end MiniSql
