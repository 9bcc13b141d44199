import MiniSql.Proofs.Layout
import MiniSql.Proofs.Pieces

/-!
# Readers of lexemes

The first character of a lexeme and the one after it choose a reader, and the reader says how
far the lexeme goes. No reader looks beyond the end of its lexeme for anything but whether it
goes on: a lexeme that ends within a text is read from that text alone.

**Results.**
* `lexeme_eq_read`: what is read as a lexeme is what the chosen reader reads.
* `lexeme_of_append`: a lexeme that ends before the rest of a text does not depend on it.
* `Reader.makes_of_read`, `Reader.opens_of_choose`: the tokens and the first character of a reader.
-/

namespace MiniSql.Lexer

/-- The ways in which a lexeme is read. -/
inductive Reader where
  | blank
  | lineEnd
  /-- A text in single quotes; `letter` characters stand before its first quote. -/
  | text (form : TextForm) (letter : Nat)
  | quotedWord (q : Quote)
  | numeral
  | lineComment
  | blockComment
  | operator
  | placeholder
  | bareWord
  | stray
deriving DecidableEq

namespace Reader

/-- The reader of a lexeme that is no blank and no text. -/
def chooseOther (c : Char) (next : Option Char) : Reader :=
  match openingQuote? c with
  | some q => quotedWord q
  | none =>
    if c.isDigit ∨ c = '.' then numeral
    else if c = '-' ∧ next = some '-' then lineComment
    else if c = '/' ∧ next = some '*' then blockComment
    else if (operator? [c]).isSome then operator
    else if c = '?' then placeholder
    else if isWordStart c then bareWord
    else if Text.isBlank c then blank
    else stray

/-- The reader of a lexeme by its first character and the one after it. -/
def choose (c : Char) (next : Option Char) : Reader :=
  if c = ' ' ∨ c = '\t' ∨ c = '\n' then blank
  else if c = '\r' then lineEnd
  else if c = '\x27' then text .plain 0
  else
    match formOfLetter? c, next with
    | some form, some '\x27' => text form 1
    | _, _ => chooseOther c next

/-- What a reader makes of `c` before `cs`. -/
def read (c : Char) (cs : List Char) : Reader → Except Fault (Option Token × Nat)
  | blank => .ok (none, 0)
  | lineEnd => .ok (none, if cs.head? = some '\n' then 1 else 0)
  | text form letter =>
    (singleQuoted form letter (cs.drop letter)).map fun (t, n) => (some t, n)
  | quotedWord q =>
    match quotedText q.closing cs with
    | some (value, n) => .ok (some (.word (String.ofList value) (some q)), n)
    | none => .error ⟨.unclosedWord q, 0⟩
  | numeral => .ok (some (Lexer.numeral (c :: cs)).1, (Lexer.numeral (c :: cs)).2 - 1)
  | lineComment => .ok (none, Lexer.lineComment cs)
  | blockComment =>
    match Lexer.blockComment 0 ' ' cs.tail with
    | some n => .ok (none, n + 1)
    | none => .error ⟨.unclosedComment, cs.length + 1⟩
  | operator =>
    match operator? (c :: cs) with
    | some spelling => .ok (some (operatorToken spelling), spelling.length - 1)
    | none => .ok (some (.stray c), 0)
  | placeholder =>
    .ok (some (.placeholder (String.ofList (cs.takeWhile Text.isNumeric))),
      (cs.takeWhile Text.isNumeric).length)
  | bareWord =>
    .ok (some (.word (String.ofList (c :: cs.takeWhile isWordPart)) none),
      (cs.takeWhile isWordPart).length)
  | stray => .ok (some (.stray c), 0)

end Reader

/-- An operator stands in front exactly if the first character is one. -/
theorem isSome_operator? (c : Char) (cs : List Char) :
    (operator? (c :: cs)).isSome = (operator? [c]).isSome := by
  have hfirst : ∀ s ∈ operators,
      s.toList.head?.all (fun d => (operator? [d]).isSome) = true := by
    decide +kernel
  rw [Bool.eq_iff_iff]
  constructor
  · intro h
    by_contra hc
    have hnone := operator?_eq_none (c := c) (fun s hs hhead => hc ?_) cs
    · simp [hnone] at h
    · simpa [hhead] using hfirst s hs
  · intro h
    obtain ⟨s, hs⟩ := Option.isSome_iff_exists.mp h
    simp only [operator?, List.find?_isSome] at h ⊢
    obtain ⟨s, hs, hstart⟩ := h
    refine ⟨s, hs, ?_⟩
    rw [List.isPrefixOf_iff_prefix] at hstart ⊢
    exact hstart.trans (List.prefix_append [c] cs)

/-- What is read as a lexeme is what the chosen reader reads. -/
theorem lexeme_eq_read (c : Char) (cs : List Char) :
    lexeme c cs = (Reader.choose c cs.head?).read c cs := by
  unfold lexeme Reader.choose
  split
  · rfl
  · split
    · rfl
    · split
      · rfl
      · split
        · next form body hform =>
            simp [Reader.read, hform]
        · next cs _ _ hletter =>
            have hother : (match formOfLetter? c, cs.head? with
                | some form, some '\x27' => Reader.text form 1
                | _, _ => Reader.chooseOther c cs.head?) = Reader.chooseOther c cs.head? := by
              split
              · next form hform hhead =>
                  obtain ⟨body, rfl⟩ : ∃ body, cs = '\x27' :: body := by
                    cases cs with
                    | nil => cases hhead
                    | cons d body => exact ⟨body, by rw [Option.some.inj hhead]⟩
                  exact (hletter form body hform rfl).elim
              · rfl
            rw [hother]
            unfold Reader.chooseOther
            cases hquote : openingQuote? c with
            | some q => rfl
            | none =>
                simp only
                split
                · rfl
                · split
                  · rfl
                  · split
                    · rfl
                    · rw [← isSome_operator? c cs]
                      cases hoperator : operator? (c :: cs) with
                      | some spelling => simp [Reader.read, hoperator]
                      | none =>
                          simp only [Option.isSome_none, Bool.false_eq_true, if_false]
                          split
                          · rfl
                          · split
                            · rfl
                            · split <;> rfl

/-! ## Lexemes that end within a text -/

section Append

variable {cs rest : List Char} {n : Nat}

theorem takeWhile_of_append {p : Char → Bool}
    (h : ((cs ++ rest).takeWhile p).length ≤ cs.length) :
    cs.takeWhile p = (cs ++ rest).takeWhile p := by
  rw [List.takeWhile_append] at h ⊢
  split
  · next hall =>
      rw [if_pos hall, List.length_append] at h
      have hnone : rest.takeWhile p = [] := List.eq_nil_of_length_eq_zero (by omega)
      rw [hnone, List.append_nil]
      exact (List.takeWhile_prefix p).eq_of_length hall
  · rfl

theorem exists_of_map_pair {α : Type} {x : Option (α × Nat)} {f : α × Nat → α × Nat} {a : α}
    (h : x.map f = some (a, n)) : ∃ b m, x = some (b, m) ∧ f (b, m) = (a, n) := by
  obtain ⟨⟨b, m⟩, hx, hpair⟩ := Option.map_eq_some_iff.1 h
  exact ⟨b, m, hx, hpair⟩

theorem quotedText_pos {q : Char} {content : List Char}
    (h : quotedText q cs = some (content, n)) : 0 < n := by
  fun_induction quotedText q cs generalizing content n with
  | case1 => cases h
  | case2 =>
    cases h
    exact Nat.one_pos
  | case3 => cases h
  | case4 =>
    obtain ⟨_, m, -, hpair⟩ := exists_of_map_pair h
    cases hpair
    exact Nat.succ_pos (m + 1)
  | case5 =>
    cases h
    exact Nat.one_pos
  | case6 =>
    obtain ⟨_, m, -, hpair⟩ := exists_of_map_pair h
    cases hpair
    exact Nat.succ_pos m

theorem quotedText_of_append {q : Char} {content : List Char}
    (h : quotedText q (cs ++ rest) = some (content, n)) (hn : n ≤ cs.length) :
    quotedText q cs = some (content, n) := by
  fun_induction quotedText q cs generalizing content n with
  | case1 =>
    have := quotedText_pos h
    simp only [List.length_nil] at hn
    omega
  | case2 =>
    cases rest with
    | nil => simpa [quotedText] using h
    | cons d rest =>
        rw [List.singleton_append, quotedText, if_pos rfl] at h
        split at h
        · obtain ⟨_, m, -, hpair⟩ := exists_of_map_pair h
          cases hpair
          simp only [List.length_singleton] at hn
          omega
        · exact h
  | case3 c hc =>
    cases rest with
    | nil => simp [quotedText, hc] at h
    | cons d rest =>
        rw [List.singleton_append, quotedText, if_neg hc] at h
        obtain ⟨_, m, hread, hpair⟩ := exists_of_map_pair h
        have := quotedText_pos hread
        cases hpair
        simp only [List.length_singleton] at hn
        omega
  | case4 cs ih =>
    rw [List.cons_append, List.cons_append, quotedText, if_pos rfl, if_pos rfl] at h
    obtain ⟨s, m, hread, hpair⟩ := exists_of_map_pair h
    cases hpair
    simp only [List.length_cons] at hn
    rw [ih hread (by omega)]
    rfl
  | case5 d cs hd =>
    rw [List.cons_append, List.cons_append, quotedText, if_pos rfl, if_neg hd] at h
    exact h
  | case6 c d cs hc ih =>
    rw [List.cons_append, List.cons_append, quotedText, if_neg hc] at h
    obtain ⟨s, m, hread, hpair⟩ := exists_of_map_pair h
    cases hpair
    simp only [List.length_cons] at hn
    rw [ih hread (by simp only [List.length_cons]; omega)]
    rfl

theorem escapedText_pos {content : List Char} (h : escapedText cs = some (content, n)) :
    0 < n := by
  fun_induction escapedText cs generalizing content n with
  | case1 => cases h
  | case2 =>
    cases h
    exact Nat.one_pos
  | case3 => cases h
  | case4 =>
    obtain ⟨_, m, -, hpair⟩ := exists_of_map_pair h
    cases hpair
    exact Nat.succ_pos (m + 1)
  | case5 =>
    obtain ⟨_, m, -, hpair⟩ := exists_of_map_pair h
    cases hpair
    exact Nat.succ_pos (m + 1)
  | case6 =>
    cases h
    exact Nat.one_pos
  | case7 =>
    obtain ⟨_, m, -, hpair⟩ := exists_of_map_pair h
    cases hpair
    exact Nat.succ_pos m

theorem escapedText_of_append {content : List Char}
    (h : escapedText (cs ++ rest) = some (content, n)) (hn : n ≤ cs.length) :
    escapedText cs = some (content, n) := by
  fun_induction escapedText cs generalizing content n with
  | case1 =>
    have := escapedText_pos h
    simp only [List.length_nil] at hn
    omega
  | case2 =>
    cases rest with
    | nil => simpa [escapedText] using h
    | cons d rest =>
        rw [List.singleton_append, escapedText, if_neg (by decide), if_pos rfl] at h
        split at h
        · obtain ⟨_, m, -, hpair⟩ := exists_of_map_pair h
          cases hpair
          simp only [List.length_singleton] at hn
          omega
        · exact h
  | case3 c hc =>
    cases rest with
    | nil => simp [escapedText, hc] at h
    | cons d rest =>
        rw [List.singleton_append, escapedText] at h
        split at h
        · obtain ⟨_, m, -, hpair⟩ := exists_of_map_pair h
          cases hpair
          simp only [List.length_singleton] at hn
          omega
        · obtain ⟨_, m, hread, hpair⟩ := exists_of_map_pair h
          have := escapedText_pos hread
          cases hpair
          simp only [List.length_singleton] at hn
          omega
  | case4 d cs ih =>
    rw [List.cons_append, List.cons_append, escapedText, if_pos rfl] at h
    obtain ⟨s, m, hread, hpair⟩ := exists_of_map_pair h
    cases hpair
    simp only [List.length_cons] at hn
    rw [ih hread (by omega)]
    rfl
  | case5 cs hc ih =>
    rw [List.cons_append, List.cons_append, escapedText, if_neg hc, if_pos rfl, if_pos rfl] at h
    obtain ⟨s, m, hread, hpair⟩ := exists_of_map_pair h
    cases hpair
    simp only [List.length_cons] at hn
    rw [ih hread (by omega)]
    rfl
  | case6 d cs hc hd =>
    rw [List.cons_append, List.cons_append, escapedText, if_neg hc, if_pos rfl, if_neg hd] at h
    exact h
  | case7 c d cs hc hquote ih =>
    rw [List.cons_append, List.cons_append, escapedText, if_neg hc, if_neg hquote] at h
    obtain ⟨s, m, hread, hpair⟩ := exists_of_map_pair h
    cases hpair
    simp only [List.length_cons] at hn
    rw [ih hread (by simp only [List.length_cons]; omega)]
    rfl

theorem blockComment_pos {depth : Nat} {previous : Char}
    (h : blockComment depth previous cs = some n) : 0 < n := by
  have hmap : ∀ {x : Option Nat}, x.map (· + 1) = some n → 0 < n := by
    intro x hx
    obtain ⟨m, -, rfl⟩ := Option.map_eq_some_iff.1 hx
    exact Nat.succ_pos m
  cases cs with
  | nil => cases h
  | cons c cs =>
      rw [blockComment.eq_def] at h
      simp only at h
      split at h
      · exact hmap h
      · split at h
        · split at h
          · cases h
            exact Nat.one_pos
          · exact hmap h
        · exact hmap h

theorem blockComment_of_append {depth : Nat} {previous : Char}
    (h : blockComment depth previous (cs ++ rest) = some n) (hn : n ≤ cs.length) :
    blockComment depth previous cs = some n := by
  fun_induction blockComment depth previous cs generalizing n with
  | case1 depth previous =>
    have := blockComment_pos h
    simp only [List.length_nil] at hn
    omega
  | case2 depth previous c cs hopens ih =>
    rw [List.cons_append, blockComment.eq_def] at h
    simp only [if_pos hopens] at h
    obtain ⟨m, hread, rfl⟩ := Option.map_eq_some_iff.1 h
    simp only [List.length_cons] at hn
    rw [ih hread (by omega)]
    rfl
  | case3 previous c cs hopens hcloses =>
    rw [List.cons_append, blockComment, if_neg hopens, if_pos hcloses] at h
    exact h
  | case4 previous c cs hopens hcloses outer ih =>
    rw [List.cons_append, blockComment, if_neg hopens, if_pos hcloses] at h
    obtain ⟨m, hread, rfl⟩ := Option.map_eq_some_iff.1 h
    simp only [List.length_cons] at hn
    rw [ih hread (by omega)]
    rfl
  | case5 depth previous c cs hopens hcloses ih =>
    rw [List.cons_append, blockComment.eq_def] at h
    simp only [if_neg hopens, if_neg hcloses] at h
    obtain ⟨m, hread, rfl⟩ := Option.map_eq_some_iff.1 h
    simp only [List.length_cons] at hn
    rw [ih hread (by omega)]
    rfl

theorem lineComment_of_append (h : lineComment (cs ++ rest) ≤ cs.length) :
    lineComment cs = lineComment (cs ++ rest) := by
  have hline : ((cs ++ rest).takeWhile (· ≠ '\n')).length ≤ cs.length := by
    simp only [lineComment] at h
    split at h <;> omega
  have hsame := takeWhile_of_append hline
  simp only [lineComment, hsame, List.drop_append_of_le_length hline] at h ⊢
  cases hrest : cs.drop ((cs ++ rest).takeWhile (· ≠ '\n')).length with
  | cons d ds => simp
  | nil =>
      have hall : cs.length ≤ ((cs ++ rest).takeWhile (· ≠ '\n')).length :=
        List.drop_eq_nil_iff.mp hrest
      rw [hrest] at h
      cases rest with
      | nil => simp
      | cons d ds =>
          simp only [List.nil_append, List.isEmpty_cons, Bool.false_eq_true, if_false] at h
          omega

/-- A first character that belongs to the lexeme stands in the text. -/
theorem head?_of_append {c : Char} (h : (cs ++ rest).head? = some c) (hne : 0 < cs.length) :
    cs.head? = some c := by
  rwa [List.head?_append_of_ne_nil cs (List.ne_nil_of_length_pos hne)] at h

/-- Number of characters of a sign in front. -/
def signLength (cs : List Char) : Nat :=
  if cs.head? = some '+' ∨ cs.head? = some '-' then 1 else 0

theorem signLength_le_one (cs : List Char) : signLength cs ≤ 1 := by
  unfold signLength
  split <;> omega

theorem exponentLength_cons {e : Char} (he : e = 'e' ∨ e = 'E') (cs : List Char) :
    exponentLength (e :: cs) =
      if ((cs.drop (signLength cs)).takeWhile Char.isDigit).length = 0 then 0
      else 1 + signLength cs + ((cs.drop (signLength cs)).takeWhile Char.isDigit).length := by
  rw [exponentLength, if_pos he]
  rfl

theorem exponentLength_of_append (h : exponentLength (cs ++ rest) ≤ cs.length) :
    exponentLength cs = exponentLength (cs ++ rest) := by
  cases cs with
  | nil => exact (Nat.le_zero.mp h).symm
  | cons e cs =>
      by_cases he : e = 'e' ∨ e = 'E'
      · rw [List.cons_append, List.length_cons, exponentLength_cons he] at h
        rw [List.cons_append, exponentLength_cons he, exponentLength_cons he]
        cases cs with
        | nil =>
            -- Nothing but the letter is left, which is no exponent by itself.
            rw [List.nil_append, List.length_nil] at h
            split at h
            · next hnone =>
                rw [List.nil_append, if_pos hnone]
                rfl
            · omega
        | cons d ds =>
            have hsign : signLength (d :: ds ++ rest) = signLength (d :: ds) := rfl
            have hle : signLength (d :: ds) ≤ (d :: ds).length :=
              (signLength_le_one _).trans (Nat.succ_pos _)
            rw [hsign, List.drop_append_of_le_length hle] at h ⊢
            have hdigits : (((d :: ds).drop (signLength (d :: ds)) ++ rest).takeWhile
                Char.isDigit).length ≤ ((d :: ds).drop (signLength (d :: ds))).length := by
              rw [List.length_drop]
              split at h <;> omega
            rw [takeWhile_of_append hdigits]
      · simp only [List.cons_append, exponentLength, if_neg he]

theorem operator?_of_append {spelling : String} (h : operator? (cs ++ rest) = some spelling)
    (hn : spelling.length ≤ cs.length) : operator? cs = some spelling := by
  unfold operator? at h ⊢
  rw [List.find?_eq_some_iff_append] at h ⊢
  obtain ⟨hstart, before, after, hoperators, hbefore⟩ := h
  refine ⟨?_, before, after, hoperators, fun s hs => ?_⟩
  · rw [List.isPrefixOf_iff_prefix] at hstart ⊢
    exact List.prefix_of_prefix_length_le hstart (List.prefix_append cs rest) hn
  · have hnot := hbefore s hs
    simp only [Bool.not_eq_true', ← Bool.not_eq_true, List.isPrefixOf_iff_prefix] at hnot ⊢
    exact fun hstart => hnot (hstart.trans (List.prefix_append cs rest))

/-- Number of characters of a point in front. -/
def pointLength (cs : List Char) : Nat :=
  if cs.head? = some '.' then 1 else 0

/-- Number of characters of a numeral before its exponent. -/
def plainLength (cs : List Char) : Nat :=
  let whole := (cs.takeWhile Char.isDigit).length
  let point := pointLength (cs.drop whole)
  whole + point + ((cs.drop (whole + point)).takeWhile Char.isDigit).length

/-- The number that begins with `plain` characters before its exponent, and its length. -/
def numberFrom (plain : Nat) (cs : List Char) : Token × Nat :=
  let length := plain + exponentLength (cs.drop plain)
  let long := (cs.drop length).head? = some 'L'
  (.number (String.ofList (cs.take length)) long, if long then length + 1 else length)

/-- A hexadecimal text stands in front. -/
def IsHex (cs : List Char) : Prop :=
  cs.takeWhile Char.isDigit = ['0'] ∧ (cs.drop 1).head? = some 'x'

instance (cs : List Char) : Decidable (IsHex cs) :=
  inferInstanceAs (Decidable (_ ∧ _))

/-- A numeral without digits is a point. -/
theorem plainLength_eq_pointLength (cs : List Char) :
    plainLength cs = pointLength cs ↔ cs.takeWhile Char.isDigit = [] ∧
      (cs.drop (pointLength cs)).takeWhile Char.isDigit = [] := by
  cases hwhole : cs.takeWhile Char.isDigit with
  | nil => simp [plainLength, hwhole]
  | cons d ds =>
      have hpoint : pointLength cs = 0 := by
        cases cs with
        | nil => rfl
        | cons c cs =>
            have hc : c.isDigit = true := by
              by_contra hc
              rw [List.takeWhile_cons_of_neg hc] at hwhole
              cases hwhole
            have hne : c ≠ '.' := by
              rintro rfl
              exact absurd hc (by decide)
            simp [pointLength, hne]
      simp only [plainLength, hwhole, hpoint, List.length_cons]
      constructor
      · omega
      · rintro ⟨hnil, -⟩
        cases hnil

theorem numeral_eq (cs : List Char) : numeral cs =
    if IsHex cs then
      (.text .hex (String.ofList ((cs.drop 2).takeWhile isHexDigit)),
        ((cs.drop 2).takeWhile isHexDigit).length + 2)
    else if plainLength cs = pointLength cs then (.mark .period, 1)
    else numberFrom (plainLength cs) cs := by
  have hhex : (cs.takeWhile Char.isDigit = ['0'] ∧
      (cs.drop (cs.takeWhile Char.isDigit).length).head? = some 'x') ↔ IsHex cs :=
    and_congr_right fun hwhole => by rw [hwhole, List.length_singleton]
  have hpoint : (cs.takeWhile Char.isDigit = [] ∧
      ((cs.drop (cs.takeWhile Char.isDigit).length).drop
        (pointLength (cs.drop (cs.takeWhile Char.isDigit).length))).takeWhile Char.isDigit = []) ↔
        plainLength cs = pointLength cs := by
    rw [plainLength_eq_pointLength]
    exact and_congr_right fun hwhole => by rw [hwhole, List.length_nil, List.drop_zero]
  unfold numeral
  simp only [hhex]
  by_cases h : IsHex cs
  · rw [if_pos h, if_pos h, h.1, List.drop_drop]
    rfl
  · rw [if_neg h, if_neg h]
    by_cases hp : plainLength cs = pointLength cs
    · rw [if_pos hp]
      exact if_pos (hpoint.mpr hp)
    · rw [if_neg hp]
      refine (if_neg (hpoint.not.mpr hp)).trans ?_
      simp only [numberFrom, plainLength, ← List.drop_drop]
      rfl

theorem pointLength_le_one (cs : List Char) : pointLength cs ≤ 1 := by
  unfold pointLength
  split <;> omega

theorem pointLength_of_append (hne : 0 < cs.length) :
    pointLength (cs ++ rest) = pointLength cs := by
  rw [pointLength, pointLength, List.head?_append_of_ne_nil cs (List.ne_nil_of_length_pos hne)]

theorem plainLength_of_append (h : plainLength (cs ++ rest) ≤ cs.length) :
    plainLength cs = plainLength (cs ++ rest) := by
  have hwhole : ((cs ++ rest).takeWhile Char.isDigit).length ≤ cs.length := by
    simp only [plainLength] at h
    omega
  simp only [plainLength, takeWhile_of_append hwhole,
    List.drop_append_of_le_length hwhole] at h ⊢
  generalize ((cs ++ rest).takeWhile Char.isDigit).length = whole at h hwhole ⊢
  have hpoint : pointLength (cs.drop whole ++ rest) = pointLength (cs.drop whole) := by
    rcases Nat.eq_or_lt_of_le hwhole with rfl | hlt
    -- A point after the text would make the numeral longer than the text.
    · rw [List.drop_length, List.nil_append] at h ⊢
      have hzero : pointLength ([] : List Char) = 0 := rfl
      omega
    · exact pointLength_of_append (by rw [List.length_drop]; omega)
  rw [hpoint] at h ⊢
  have hle : whole + pointLength (cs.drop whole) ≤ cs.length := by omega
  rw [List.drop_append_of_le_length hle] at h ⊢
  have hfraction : ((cs.drop (whole + pointLength (cs.drop whole)) ++ rest).takeWhile
      Char.isDigit).length ≤ (cs.drop (whole + pointLength (cs.drop whole))).length := by
    rw [List.length_drop]
    omega
  rw [takeWhile_of_append hfraction]

theorem numberFrom_of_append {plain : Nat} {t : Token}
    (h : numberFrom plain (cs ++ rest) = (t, n)) (hn : n ≤ cs.length) :
    numberFrom plain cs = (t, n) := by
  unfold numberFrom at h ⊢
  obtain ⟨rfl, rfl⟩ := Prod.mk.inj h
  have hlength : plain + exponentLength ((cs ++ rest).drop plain) ≤ cs.length := by
    split at hn <;> omega
  have hplain : plain ≤ cs.length := by omega
  rw [List.drop_append_of_le_length hplain] at hlength hn ⊢
  have hexponent : exponentLength (cs.drop plain ++ rest) ≤ (cs.drop plain).length := by
    rw [List.length_drop]
    omega
  rw [exponentLength_of_append hexponent]
  generalize plain + exponentLength (cs.drop plain ++ rest) = length at hlength hn ⊢
  rw [List.drop_append_of_le_length hlength] at hn ⊢
  rw [List.take_append_of_le_length hlength]
  have hlong : (cs.drop length ++ rest).head? = some 'L' ↔ (cs.drop length).head? = some 'L' := by
    constructor
    · intro hhead
      simp only [hhead, if_true] at hn
      exact head?_of_append hhead (by rw [List.length_drop]; omega)
    · exact fun hhead => by rw [List.head?_append, hhead, Option.some_or]
  simp only [hlong]

theorem IsHex.two_le_length (h : IsHex cs) : 2 ≤ cs.length := by
  have hne : (cs.drop 1).length ≠ 0 := by
    intro hnil
    rw [IsHex, List.eq_nil_of_length_eq_zero hnil] at h
    cases h.2
  rw [List.length_drop] at hne
  omega

theorem isHex_of_append (hlength : 2 ≤ cs.length) : IsHex (cs ++ rest) ↔ IsHex cs := by
  have hdrop : ((cs ++ rest).drop 1).head? = (cs.drop 1).head? := by
    rw [List.drop_append_of_le_length (by omega), List.head?_append_of_ne_nil]
    exact List.ne_nil_of_length_pos (by rw [List.length_drop]; omega)
  rw [IsHex, IsHex, hdrop]
  refine and_congr_left fun _ => ?_
  constructor
  · intro hwhole
    have hle : ((cs ++ rest).takeWhile Char.isDigit).length ≤ cs.length := by
      rw [hwhole, List.length_singleton]
      omega
    rw [takeWhile_of_append hle, hwhole]
  · intro hwhole
    have hshort : ¬ (cs.takeWhile Char.isDigit).length = cs.length := by
      rw [hwhole, List.length_singleton]
      omega
    rw [List.takeWhile_append, if_neg hshort, hwhole]

theorem numeral_of_append (hne : 0 < cs.length) (hn : (numeral (cs ++ rest)).2 ≤ cs.length) :
    numeral cs = numeral (cs ++ rest) := by
  rw [numeral_eq (cs ++ rest)] at hn ⊢
  rw [numeral_eq cs]
  by_cases hhex : IsHex (cs ++ rest)
  · rw [if_pos hhex] at hn ⊢
    have htwo : 2 ≤ cs.length := Nat.le_of_add_left_le hn
    have hhex' : IsHex cs := (isHex_of_append htwo).mp hhex
    rw [List.drop_append_of_le_length htwo] at hn ⊢
    have hdigits : ((cs.drop 2 ++ rest).takeWhile isHexDigit).length ≤ (cs.drop 2).length := by
      rw [List.length_drop]
      exact Nat.le_sub_of_add_le hn
    rw [if_pos hhex', takeWhile_of_append hdigits]
  · have hhex' : ¬ IsHex cs := fun hcs => hhex ((isHex_of_append hcs.two_le_length).mpr hcs)
    rw [if_neg hhex] at hn ⊢
    have hplain : plainLength (cs ++ rest) ≤ cs.length := by
      have := pointLength_le_one (cs ++ rest)
      split at hn
      · omega
      · simp only [numberFrom] at hn
        split at hn <;> omega
    have hpoint : pointLength (cs ++ rest) = pointLength cs := pointLength_of_append hne
    rw [if_neg hhex', plainLength_of_append hplain, ← hpoint]
    split
    · rfl
    · next hnumber =>
        rw [if_neg hnumber] at hn
        exact numberFrom_of_append rfl hn

theorem singleQuoted_of_append {form : TextForm} {letter : Nat} {t : Token}
    (h : singleQuoted form letter ((cs ++ rest).drop letter) = .ok (t, n)) (hn : n ≤ cs.length) :
    singleQuoted form letter (cs.drop letter) = .ok (t, n) := by
  have hbody : ∀ m, letter + m = n → (cs ++ rest).drop letter = cs.drop letter ++ rest ∧
      m ≤ (cs.drop letter).length := by
    rintro m rfl
    exact ⟨List.drop_append_of_le_length (by omega), by rw [List.length_drop]; omega⟩
  unfold singleQuoted at h ⊢
  split at h
  · split at h
    · next content m hread =>
        obtain ⟨rfl, hm⟩ := Prod.mk.inj (Except.ok.inj h)
        obtain ⟨hdrop, hle⟩ := hbody m hm
        rw [hdrop] at hread
        simp only [escapedText_of_append hread hle, hm]
    · cases h
  · split at h
    · next content m hread =>
        obtain ⟨rfl, hm⟩ := Prod.mk.inj (Except.ok.inj h)
        obtain ⟨hdrop, hle⟩ := hbody m hm
        rw [hdrop] at hread
        simp only [quotedText_of_append hread hle, hm]
    · cases h

variable {c : Char} {t : Option Token}

/-- A reader reads a lexeme that ends within a text from that text. -/
theorem Reader.read_of_append {r : Reader} (h : r.read c (cs ++ rest) = .ok (t, n))
    (hn : n ≤ cs.length) : r.read c cs = .ok (t, n) := by
  cases r with
  | blank => exact h
  | lineEnd =>
      obtain ⟨rfl, rfl⟩ := Prod.mk.inj (Except.ok.inj h)
      cases cs with
      | nil =>
          rw [Nat.le_zero.mp hn]
          rfl
      | cons d ds => rfl
  | text form letter =>
      obtain ⟨p, hread, hpair⟩ := exists_of_map_ok h
      obtain ⟨rfl, rfl⟩ := Prod.mk.inj hpair
      rw [read, singleQuoted_of_append hread hn]
      rfl
  | quotedWord q =>
      simp only [read] at h ⊢
      split at h
      · next value m hread =>
          obtain ⟨rfl, rfl⟩ := Prod.mk.inj (Except.ok.inj h)
          simp only [quotedText_of_append hread hn]
      · cases h
  | numeral =>
      obtain ⟨rfl, rfl⟩ := Prod.mk.inj (Except.ok.inj h)
      have hlength : (Lexer.numeral (c :: cs ++ rest)).2 ≤ (c :: cs).length := by
        rw [List.length_cons]
        exact Nat.le_add_of_sub_le hn
      have hread : Lexer.numeral (c :: cs) = Lexer.numeral (c :: cs ++ rest) :=
        numeral_of_append (Nat.succ_pos cs.length) hlength
      rw [read, hread, List.cons_append]
  | lineComment =>
      obtain ⟨rfl, rfl⟩ := Prod.mk.inj (Except.ok.inj h)
      rw [read, lineComment_of_append hn]
  | blockComment =>
      simp only [read] at h ⊢
      split at h
      · next m hread =>
          obtain ⟨rfl, rfl⟩ := Prod.mk.inj (Except.ok.inj h)
          cases cs with
          | nil => cases hn
          | cons d ds =>
              have hm : m ≤ ds.length := Nat.le_of_succ_le_succ hn
              simp only [List.tail_cons, blockComment_of_append hread hm]
      · cases h
  | operator =>
      simp only [read] at h ⊢
      have hsome : (operator? (c :: (cs ++ rest))).isSome = (operator? (c :: cs)).isSome := by
        rw [isSome_operator?, isSome_operator? c cs]
      split at h
      · next spelling hread =>
          obtain ⟨rfl, rfl⟩ := Prod.mk.inj (Except.ok.inj h)
          have hlength : spelling.length ≤ (c :: cs).length := Nat.le_add_of_sub_le hn
          simp only [operator?_of_append hread hlength]
      · next hread =>
          rw [hread, Option.isSome_none] at hsome
          have hnone : operator? (c :: cs) = none := by simpa using hsome.symm
          simpa only [hnone] using h
  | placeholder =>
      obtain ⟨rfl, rfl⟩ := Prod.mk.inj (Except.ok.inj h)
      rw [read, takeWhile_of_append hn]
  | bareWord =>
      obtain ⟨rfl, rfl⟩ := Prod.mk.inj (Except.ok.inj h)
      rw [read, takeWhile_of_append hn]
  | stray => exact h

namespace Reader

theorem chooseOther_eq_or (c : Char) (next : Option Char) :
    chooseOther c next = chooseOther c none ∨
      (chooseOther c next = lineComment ∧ c = '-' ∧ next = some '-') ∨
      (chooseOther c next = blockComment ∧ c = '/' ∧ next = some '*') := by
  unfold chooseOther
  cases hquote : openingQuote? c with
  | some q => exact Or.inl rfl
  | none =>
      by_cases hnumeral : c.isDigit ∨ c = '.'
      · simp [hnumeral]
      · by_cases hline : c = '-' ∧ next = some '-'
        · simp [hline]
        · by_cases hblock : c = '/' ∧ next = some '*'
          · simp [hblock]
          · simp [hnumeral, hline, hblock]

/-- The character after the first one announces a text or a comment, or it does not matter. -/
theorem choose_eq_or (c : Char) (next : Option Char) :
    choose c next = choose c none ∨
      (∃ form, choose c next = text form 1 ∧ formOfLetter? c = some form ∧ next = some '\x27') ∨
      (choose c next = lineComment ∧ c = '-' ∧ next = some '-') ∨
      (choose c next = blockComment ∧ c = '/' ∧ next = some '*') := by
  by_cases hblank : c = ' ' ∨ c = '\t' ∨ c = '\n'
  · simp [choose, hblank]
  · by_cases hline : c = '\r'
    · simp [choose, hline]
    · by_cases hquote : c = '\x27'
      · simp [choose, hquote]
      · have hnone : choose c none = chooseOther c none := by
          cases hform : formOfLetter? c <;> simp [choose, hblank, hline, hquote, hform]
        by_cases htext : (formOfLetter? c).isSome ∧ next = some '\x27'
        · obtain ⟨⟨form, hform⟩, hnext⟩ := htext.imp_left Option.isSome_iff_exists.mp
          refine Or.inr (Or.inl ⟨form, ?_, hform, hnext⟩)
          simp [choose, hblank, hline, hquote, hform, hnext]
        · have hother : choose c next = chooseOther c next := by
            cases hform : formOfLetter? c with
            | none => simp [choose, hblank, hline, hquote, hform]
            | some form =>
                have hnext : next ≠ some '\x27' := fun hnext => htext ⟨by rw [hform]; rfl, hnext⟩
                simp [choose, hblank, hline, hquote, hform, hnext]
          rw [hother, hnone]
          exact (chooseOther_eq_or c next).imp_right Or.inr

/-- A character that begins a word, with nothing after it. -/
theorem choose_none_of_isWordStart {c : Char} (hc : isWordStart c = true) :
    choose c none = bareWord := by
  have hne : ∀ d, isWordStart d = false → c ≠ d := fun d => ne_of_class hc
  have hopening : openingQuote? c = none := by
    simp (disch := decide) [openingQuote?, Quote.opening, hne]
  have hoperator : operator? [c] = none := by
    have hfirst : ∀ s ∈ operators, s.toList.head?.all (!isWordStart ·) = true := by decide
    refine operator?_eq_none (fun s hs hd => ?_) []
    have hstart := hfirst s hs
    rw [hd] at hstart
    simp [hc] at hstart
  have hother : chooseOther c none = bareWord := by
    simp (disch := decide) [chooseOther, hopening, hoperator, hne, hc, isDigit_of_isWordStart hc]
  cases hform : formOfLetter? c <;> simp (disch := decide) [choose, hform, hother, hne]

/-- A character that begins a word begins a text only before a quote. -/
theorem choose_of_isWordStart {c : Char} (hc : isWordStart c = true) (next : Option Char) :
    choose c next = bareWord ∨
      ∃ form, choose c next = text form 1 ∧ formOfLetter? c = some form ∧ next = some '\x27' := by
  rcases choose_eq_or c next with hsame | htext | ⟨-, rfl, -⟩ | ⟨-, rfl, -⟩
  · exact Or.inl (hsame.trans (choose_none_of_isWordStart hc))
  · exact Or.inr htext
  · exact absurd hc (by decide)
  · exact absurd hc (by decide)

end Reader

theorem letter_le_of_singleQuoted {form : TextForm} {letter : Nat} {body : List Char} {t : Token}
    (h : singleQuoted form letter body = .ok (t, n)) : letter ≤ n := by
  unfold singleQuoted at h
  split at h
  all_goals
    split at h
    · obtain ⟨-, rfl⟩ := Prod.mk.inj (Except.ok.inj h)
      exact Nat.le_add_right letter _
    · cases h

theorem lineComment_pos (hne : cs ≠ []) : 0 < lineComment cs := by
  simp only [lineComment]
  split
  · next hnone =>
      rw [List.isEmpty_iff, List.drop_eq_nil_iff] at hnone
      have := List.length_pos_of_ne_nil hne
      omega
  · exact Nat.succ_pos _

/-- A lexeme that ends within a text is read from that text. -/
theorem lexeme_of_append (h : lexeme c (cs ++ rest) = .ok (t, n)) (hn : n ≤ cs.length) :
    lexeme c cs = .ok (t, n) := by
  rw [lexeme_eq_read] at h ⊢
  have hchoice : Reader.choose c (cs ++ rest).head? = Reader.choose c cs.head? := by
    cases cs with
    | cons d ds => rfl
    | nil =>
        -- A lexeme of one character is neither a text with a letter in front nor a comment.
        obtain rfl : n = 0 := Nat.le_zero.mp hn
        rcases Reader.choose_eq_or c ([] ++ rest).head? with hsame | ⟨form, htext, -⟩ |
          ⟨hline, -, hminus⟩ | ⟨hblock, -, -⟩
        · exact hsame
        · rw [htext] at h
          obtain ⟨p, hread, hpair⟩ := exists_of_map_ok h
          obtain ⟨-, hlength⟩ := Prod.mk.inj hpair
          have := letter_le_of_singleQuoted hread
          omega
        · rw [hline] at h
          obtain ⟨-, hlength⟩ := Prod.mk.inj (Except.ok.inj h)
          have hne : [] ++ rest ≠ [] := fun hnil => by simp [hnil] at hminus
          have := lineComment_pos hne
          omega
        · rw [hblock] at h
          simp only [Reader.read] at h
          split at h
          · cases h
          · cases h
  rw [hchoice] at h
  exact Reader.read_of_append h hn

end Append

/-! ## What a reader makes -/

namespace Reader

/-- What a reader can make of its lexeme. -/
def makes : Reader → Option Token → Bool
  | blank, none | lineEnd, none | lineComment, none | blockComment, none => true
  | text _ _, some (.text _ _) => true
  | quotedWord _, some (.word _ (some _)) => true
  | numeral, some (.number _ _) | numeral, some (.text _ _) => true
  | numeral, some (.mark .period) => true
  | operator, some (.mark _) | operator, some (.operator _) | operator, some (.stray _) => true
  | placeholder, some (.placeholder _) => true
  | bareWord, some (.word _ none) => true
  | stray, some (.stray _) => true
  | _, _ => false

/-- What a reader begins with. -/
def opens : Reader → Char → Bool
  | blank, c => Text.isBlank c
  | lineEnd, c => c = '\r'
  | lineComment, c => c = '-'
  | blockComment, c => c = '/'
  | placeholder, c => c = '?'
  | bareWord, c => isWordStart c
  | _, _ => true

variable {c : Char} {cs : List Char} {t : Option Token} {n : Nat} {r : Reader}

theorem makes_of_read (h : r.read c cs = .ok (t, n)) : r.makes t = true := by
  cases r with
  | blank | lineEnd | lineComment | placeholder | bareWord | stray => cases h; rfl
  | text form letter =>
      obtain ⟨⟨u, m⟩, hquoted, hpair⟩ := exists_of_map_ok h
      obtain ⟨rfl, -⟩ := Prod.mk.inj hpair
      unfold singleQuoted at hquoted
      split at hquoted
      all_goals
        split at hquoted
        · cases hquoted
          rfl
        · cases hquoted
  | quotedWord q =>
      simp only [read] at h
      split at h <;> cases h
      rfl
  | blockComment =>
      simp only [read] at h
      split at h <;> cases h
      rfl
  | numeral =>
      obtain ⟨rfl, -⟩ := Prod.mk.inj (Except.ok.inj h)
      rw [numeral_eq]
      split
      · rfl
      · split <;> rfl
  | operator =>
      simp only [read] at h
      split at h
      · cases h
        unfold operatorToken
        split <;> rfl
      · cases h
        rfl

theorem opens_of_choose {next : Option Char} (h : choose c next = r) : r.opens c = true := by
  have hother : (chooseOther c next).opens c = true := by
    unfold chooseOther
    repeat' split
    all_goals simp_all [opens]
  subst h
  unfold choose
  split
  · next hblank =>
      rcases hblank with rfl | rfl | rfl <;> decide +kernel
  · split
    · next hline => exact decide_eq_true hline
    · split
      · rfl
      · split
        · rfl
        · exact hother

end Reader

end MiniSql.Lexer
