import MiniSql.Proofs.FilledStatements
import MiniSql.Proofs.Lookahead

/-!
# Literals in the text of a statement

Parameters of a text are replaced by the texts of literals. Before a value stands a parenthesis,
a comma, an equality sign, a blank or a comment, which part it from what is before them; behind
it stands the end, a comma, a parenthesis, a semicolon, a blank, a comment or the word `WHERE`,
which ends every literal but `NULL`. So the lexemes of the text stay, and those of the literals
come in between, unless a word touches a parameter that becomes a `NULL`.

**Results.**
* `Filling.Fits.reads`: the tokens of a text with literals.
* `Statement.parse_write`: an insertion or update is read with its literals, and then does what
  it did with the parameters that they stand for.
-/

namespace MiniSql

/-! ## Texts with literals -/

namespace Lexer

/-- The lexemes of a text, the parameters among them with their slots. A parameter before a
point is a qualifier and has none. -/
def numbered : Nat → List Lexeme → List (Lexeme × Option Nat)
  | _, [] => []
  | slot, l :: ls =>
    if l.token.any Token.isPlaceholder ∧
        (ls.filterMap Lexeme.token).head? ≠ some (.mark .period) then
      (l, some slot) :: numbered (slot + 1) ls
    else (l, none) :: numbered slot ls

end Lexer

namespace Filling

variable (f : Filling)

/-- The characters of lexemes with literals in the place of parameters. -/
def chars (ms : List (Lexeme × Option Nat)) : List Char :=
  f.fill Lexeme.source (fun l => l.display.toList) ms

/-- The text with literals in the place of parameters. -/
def write (sql : String) : String :=
  match Lexer.lexemes .start sql.toList with
  | .ok ls => String.ofList (f.chars (Lexer.numbered 0 ls))
  | .error _ => sql

end Filling

/-- The lexeme is a word without quotes. -/
def Lexeme.isBareWord (l : Lexeme) : Bool :=
  l.token.any fun
    | .word _ none => true
    | _ => false

/-- No word without quotes touches a `NULL` in front of it. -/
def Filling.Apart (f : Filling) (sql : String) : Prop :=
  ∀ ls, Lexer.lexemes .start sql.toList = .ok ls → (Lexer.numbered 0 ls).IsChain fun m m' =>
    m.2.bind f = some .null → m'.1.isBareWord = false

instance (f : Filling) (sql : String) : Decidable (f.Apart sql) :=
  match h : Lexer.lexemes .start sql.toList with
  | .error _ => isTrue fun _ hls => by cases h.symm.trans hls
  | .ok ls =>
    decidable_of_iff ((Lexer.numbered 0 ls).IsChain fun m m' =>
        m.2.bind f = some .null → m'.1.isBareWord = false)
      ⟨fun hchain _ hls => by cases h.symm.trans hls; exact hchain, fun hapart => hapart ls h⟩

/-- The tokens of lexemes with their slots. -/
def tokensOf (ms : List (Lexeme × Option Nat)) : List (Token × Option Nat) :=
  ms.filterMap fun m => m.1.token.map (·, m.2)

section TokensOf

variable {m : Lexeme × Option Nat} {ms : List (Lexeme × Option Nat)}

theorem tokensOf_cons_of_none (h : m.1.token = none) : tokensOf (m :: ms) = tokensOf ms :=
  List.filterMap_cons_none (by rw [h]; rfl)

theorem tokensOf_cons_of_some {t : Token} (h : m.1.token = some t) :
    tokensOf (m :: ms) = (t, m.2) :: tokensOf ms :=
  List.filterMap_cons_some (by rw [h]; rfl)

theorem map_fst_tokensOf (ms : List (Lexeme × Option Nat)) :
    (tokensOf ms).map Prod.fst = (ms.map Prod.fst).filterMap Lexeme.token := by
  rw [tokensOf, List.map_filterMap, List.filterMap_map]
  refine List.filterMap_congr fun m _ => ?_
  rw [Option.map_map]
  exact Option.map_id'

/-- What holds of the tokens next to each other holds of the lexemes, of a blank or comment
between them nothing. -/
theorem isChain_of_tokensOf {R : Token × Option Nat → Token × Option Nat → Prop}
    (h : (tokensOf ms).IsChain R) :
    ms.IsChain fun m m' => ∀ t ∈ m.1.token, ∀ u ∈ m'.1.token, R (t, m.2) (u, m'.2) := by
  induction ms with
  | nil => exact .nil
  | cons m ms ih =>
      cases htoken : m.1.token with
      | none =>
          rw [tokensOf_cons_of_none htoken] at h
          exact List.isChain_cons.mpr ⟨by simp [htoken], ih h⟩
      | some t =>
          rw [tokensOf_cons_of_some htoken] at h
          refine List.isChain_cons.mpr ⟨?_, ih h.tail⟩
          rintro m' hm' _ ht u hu
          obtain rfl : t = _ := Option.some.inj (htoken.symm.trans ht)
          obtain ⟨ms, rfl⟩ := List.head?_eq_some_iff.mp hm'
          rw [tokensOf_cons_of_some hu] at h
          exact h.rel

end TokensOf

namespace Lexer

theorem map_fst_numbered (slot : Nat) (ls : List Lexeme) :
    (numbered slot ls).map Prod.fst = ls := by
  induction ls generalizing slot with
  | nil => rfl
  | cons l ls ih =>
      rw [numbered]
      split
      · rw [List.map_cons, ih]
      · rw [List.map_cons, ih]

/-- The parameters of a text have the slots of those among its tokens. -/
theorem numbered_tokensOf (slot : Nat) (ls : List Lexeme) :
    Numbered slot (tokensOf (numbered slot ls)) := by
  induction ls generalizing slot with
  | nil => trivial
  | cons l ls ih =>
      have hnext : ∀ slot, Token.beforePeriod (tokensOf (numbered slot ls)) =
          decide ((ls.filterMap Lexeme.token).head? = some (.mark .period)) := by
        intro slot
        rw [Token.beforePeriod, map_fst_tokensOf, map_fst_numbered]
      rw [numbered]
      cases htoken : l.token with
      | none =>
          rw [if_neg (by simp), tokensOf_cons_of_none htoken]
          exact ih slot
      | some t =>
          split
          · next hvalue =>
              rw [tokensOf_cons_of_some htoken, Numbered, hnext, if_pos (by simpa using hvalue)]
              exact ⟨rfl, ih (slot + 1)⟩
          · next hother =>
              rw [tokensOf_cons_of_some htoken, Numbered, hnext, if_neg (by simpa using hother)]
              exact ⟨rfl, ih slot⟩

/-- Only parameters have slots. -/
theorem exists_placeholder {slot k : Nat} {ls : List Lexeme} {m : Lexeme × Option Nat}
    (hm : m ∈ numbered slot ls) (hk : m.2 = some k) :
    ∃ label, m.1.token = some (.placeholder label) := by
  induction ls generalizing slot with
  | nil => cases hm
  | cons l ls ih =>
      rw [numbered] at hm
      split at hm
      · next hvalue =>
          rcases List.mem_cons.mp hm with rfl | hm
          · have hany := hvalue.1
            cases htoken : l.token with
            | none => simp [htoken] at hany
            | some t =>
                rw [htoken] at hany
                cases t with
                | placeholder label => exact ⟨label, rfl⟩
                | _ => cases hany
          · exact ih hm
      · rcases List.mem_cons.mp hm with rfl | hm
        · cases hk
        · exact ih hm

/-! ## Before and behind a literal -/

section Neighbours

variable {c d e : Char} {cs rest rest' : List Char} {t : Option Token} {n : Nat}

/-- What a value may stand directly behind is read alike before a parameter and a literal, and
it ends with a parting character. -/
theorem lexeme_before_value (h : lexeme c (cs ++ d :: rest) = .ok (t, cs.length))
    (ht : ∀ u ∈ t, u.opensValue = true) (he : e ∉ ['=', '>', '\n']) :
    lexeme c (cs ++ e :: rest') = .ok (t, cs.length) ∧
      ∃ front b, c :: cs = front ++ [b] ∧ Parts b := by
  simp only [List.mem_cons, List.not_mem_nil, or_false, not_or] at he
  cases t with
  | none => exact lexeme_none_before h he.2.2
  | some u =>
      obtain ⟨m, hm, rfl⟩ : ∃ m ∈ [Mark.leftParen, .comma, .equal, .doubleEqual], u = .mark m := by
        have hopens := ht u rfl
        simp only [Token.opensValue, Bool.or_eq_true, decide_eq_true_eq] at hopens
        rcases hopens with (rfl | rfl) | hequality
        · exact ⟨_, by decide, rfl⟩
        · exact ⟨_, by decide, rfl⟩
        · unfold Token.isEquality at hequality
          split at hequality
          · exact ⟨_, by decide, rfl⟩
          · exact ⟨_, by decide, rfl⟩
          · cases hequality
      exact lexeme_mark_before hm h (by simp [he.1, he.2.1])

/-- The first letter of a keyword is that of its word, in either case. -/
theorem toLower_of_isKeyword {u : Token} {keyword : String} {k : Char} {ks : List Char}
    (hkeyword : Text.fold keyword = k :: ks) (h : lexeme c cs = .ok (some u, n))
    (hu : u.isKeyword keyword = true) :
    isWordStart c = true ∧ c.toLower = k ∧ ∃ value, u = .word value none := by
  cases u with
  | word value quote =>
      cases quote with
      | some q => cases hu
      | none =>
          obtain ⟨hstart, part, rfl⟩ := lexeme_eq_word h
          have hfold := (Text.sameFold_iff _ _).mp hu
          rw [hkeyword, Text.fold, String.toList_ofList, List.map_cons] at hfold
          exact ⟨hstart, (List.cons.inj hfold).1, _, rfl⟩
  | _ => cases hu

/-- What may stand directly behind a value does not go on with a number, begins no text and, if
it is no word, does not go on with one. -/
theorem head_of_closes (h : lexeme c cs = .ok (t, n)) (ht : ∀ u ∈ t, u.closesValue = true) :
    c.isDigit = false ∧ c ∉ ['\x27', '.', 'e', 'E', 'L', 'x'] ∧
      (isWordPart c = false ∨ ∃ value, t = some (.word value none)) := by
  have hmarks : ∀ c ∈ [',', ')', ';', '-', '/'], c.isDigit = false ∧
      c ∉ ['\x27', '.', 'e', 'E', 'L', 'x'] ∧ isWordPart c = false :=
    forall_mem_of_all (by decide)
  have hmark : c ∈ [',', ')', ';', '-', '/'] → c.isDigit = false ∧
      c ∉ ['\x27', '.', 'e', 'E', 'L', 'x'] ∧
        (isWordPart c = false ∨ ∃ value, t = some (.word value none)) := by
    intro hc
    obtain ⟨hdigit, hother, hword⟩ := hmarks c hc
    exact ⟨hdigit, hother, Or.inl hword⟩
  cases t with
  | none =>
      rcases lexeme_none_head h with hparts | rfl | rfl
      · exact ⟨hparts.head.1, hparts.head.2, Or.inl hparts.word⟩
      · exact hmark (by decide)
      · exact hmark (by decide)
  | some u =>
      have hcloses := ht u rfl
      simp only [Token.closesValue, Bool.or_eq_true, decide_eq_true_eq] at hcloses
      rcases hcloses with hcloses | hwhere
      · obtain ⟨m, hm, hperiod, rfl⟩ : ∃ m ∈ [Mark.comma, .rightParen, .semicolon],
            m ≠ .period ∧ u = .mark m := by
          simpa using hcloses
        obtain ⟨hchars, -⟩ := lexeme_eq_mark hperiod h
        apply hmark
        cases m with
        | comma | rightParen | semicolon =>
            rw [(List.cons.inj hchars).1]
            decide
        | _ => simp at hm
      · obtain ⟨hstart, hletter, value, rfl⟩ := toLower_of_isKeyword (k := 'w') rfl h hwhere
        have hother : ∀ d ∈ ['\x27', '.', 'e', 'E', 'L', 'x'], d.toLower ≠ 'w' :=
          forall_mem_of_all (by decide)
        exact ⟨isDigit_of_isWordStart hstart, fun hc => hother c hc hletter, Or.inr ⟨value, rfl⟩⟩

end Neighbours

end Lexer

namespace Literal

/-- A literal begins with a letter, a quote, a minus or a digit. -/
theorem exists_display_cons {l : Literal} (h : l.isCanonical = true) :
    ∃ e es, l.display.toList = e :: es ∧ e ∉ ['=', '>', '\n'] := by
  have hdigit : ∀ e : Char, e.isDigit = true → e ∉ ['=', '>', '\n'] :=
    Lexer.digit_forall (by decide)
  cases l with
  | null => exact ⟨_, _, rfl, by decide⟩
  | real x => cases h
  | text s => exact ⟨'\x27', _, by rw [display, quote, String.toList_ofList]; rfl, by decide⟩
  | integer i =>
      have hwritable := (printable_literal h).writable
      rw [← layout_literal _ h, String.toList_ofList]
      by_cases hneg : i.toInt < 0
      · obtain ⟨tail, htail⟩ := Token.exists_layout_eq (.mark .minus)
          [.number i.toInt.natAbs.repr false]
        exact ⟨'-', tail, by rw [tokens, if_pos hneg]; exact htail, by decide⟩
      · rw [tokens, if_neg hneg, List.nil_append] at hwritable ⊢
        obtain ⟨hne, hdigits, -⟩ :=
          (Token.isWritable_number_iff _ _).mp (hwritable _ List.mem_cons_self)
        obtain ⟨e, es, hchars⟩ := List.exists_cons_of_ne_nil hne
        rw [Token.layout, Token.written, hchars]
        exact ⟨e, es, rfl, hdigit e (hdigits e (by simp [hchars]))⟩

/-- Before a character that begins neither a number nor a quote a literal ends. -/
theorem ends_of_head {l : Literal} (h : l.isCanonical = true) {c : Char} {u : Token}
    (hu : u ∈ l.tokens.getLast?) (hdigit : c.isDigit = false)
    (hother : c ∉ ['\x27', '.', 'e', 'E', 'L', 'x'])
    (hword : l = .null → Lexer.isWordPart c = false) (rest : List Char) : u.Ends (c :: rest) := by
  simp only [List.mem_cons, List.not_mem_nil, or_false, not_or] at hother
  cases l with
  | null =>
      obtain rfl : Token.bare "NULL" = u := Option.some.inj hu
      rintro _ ⟨⟩
      exact ⟨hword rfl, hother.1⟩
  | text s =>
      obtain rfl : Token.text .plain s = u := Option.some.inj hu
      simpa [Token.Ends] using hother.1
  | integer i =>
      rw [tokens, List.getLast?_append] at hu
      obtain rfl := Option.some.inj hu
      rintro _ ⟨⟩
      simp [hdigit, hother]
  | real x => cases h

end Literal

namespace Filling

variable {f : Filling}

/-- Of two lexemes in a row, a literal in the place of the one keeps apart from the other. -/
structure Sealed (f : Filling) (m m' : Lexeme × Option Nat) : Prop where
  opens : (m'.2.bind f).isSome = true → ∀ t ∈ m.1.token, t.opensValue = true
  closes : (m.2.bind f).isSome = true → ∀ t ∈ m'.1.token, t.closesValue = true
  apart : m.2.bind f = some .null → m'.1.isBareWord = false

variable {m : Lexeme × Option Nat} {ms : List (Lexeme × Option Nat)}

theorem chars_cons_of_some {l : Literal} (h : m.2.bind f = some l) :
    f.chars (m :: ms) = l.display.toList ++ f.chars ms :=
  fill_cons_of_some h ms

theorem chars_cons_of_none (h : m.2.bind f = none) :
    f.chars (m :: ms) = m.1.source ++ f.chars ms :=
  fill_cons_of_none h ms

/-- What the lexemes of a text must be for literals to be written among them. -/
structure Fits (f : Filling) (ms : List (Lexeme × Option Nat)) : Prop where
  parameter : ∀ m ∈ ms, ∀ l, m.2.bind f = some l →
    (∃ label, m.1.token = some (.placeholder label)) ∧ l.isCanonical = true
  chain : ms.IsChain f.Sealed

theorem Fits.tail (h : f.Fits (m :: ms)) : f.Fits ms :=
  ⟨fun m' hm' => h.parameter m' (List.mem_cons_of_mem m hm'), h.chain.tail⟩

open Lexer (lexemes Reads Parallel)

/-- A literal ends before what follows it. -/
theorem Fits.ends {l : Literal} {here : Location} {cs : List Char} (h : f.Fits (m :: ms))
    (hl : m.2.bind f = some l) (hread : lexemes here cs = .ok (ms.map Prod.fst)) {u : Token}
    (hu : u ∈ l.tokens.getLast?) : u.Ends (f.chars ms) := by
  cases ms with
  | nil => exact Token.ends_nil u
  | cons y ys =>
      obtain ⟨c, ds, n, rfl, hlexeme, hy, -⟩ := Lexer.lexemes_cons_eq hread
      obtain ⟨-, hcloses, hapart⟩ := h.chain.rel
      have hcloses := hcloses (by rw [hl]; rfl)
      have hstays : y.2.bind f = none := by
        cases hfilled : y.2.bind f with
        | none => rfl
        | some l' =>
            obtain ⟨⟨label, htoken⟩, -⟩ := h.tail.parameter y List.mem_cons_self l' hfilled
            cases hcloses _ htoken
      obtain ⟨hdigit, hother, hword⟩ := Lexer.head_of_closes hlexeme hcloses
      rw [chars_cons_of_none hstays, hy]
      refine Literal.ends_of_head (h.parameter m List.mem_cons_self l hl).2 hu hdigit hother ?_ _
      rintro rfl
      rcases hword with hword | ⟨value, htoken⟩
      · exact hword
      · have hbare := hapart hl
        rw [Lexeme.isBareWord, htoken] at hbare
        cases hbare

/-- A lexeme that stays is read as it was. -/
theorem Fits.lexeme {here : Location} {c : Char} {cs rest : List Char} (h : f.Fits (m :: ms))
    (hlexeme : Lexer.lexeme c (cs ++ rest) = .ok (m.1.token, cs.length))
    (hread : lexemes here rest = .ok (ms.map Prod.fst))
    (hparallel : (∀ m ∈ ms.head?, m.2.bind f = none) → Parallel rest (f.chars ms)) :
    Lexer.lexeme c (cs ++ f.chars ms) = .ok (m.1.token, cs.length) ∧
      Parallel (c :: cs ++ rest) (c :: cs ++ f.chars ms) := by
  by_cases hhead : ∀ m ∈ ms.head?, m.2.bind f = none
  · have hsame := hparallel hhead
    exact ⟨Lexer.lexeme_of_parallel hsame hlexeme, hsame.append (c :: cs)⟩
  · push Not at hhead
    obtain ⟨y, hy, hfilled⟩ := hhead
    obtain ⟨l, hl⟩ := Option.ne_none_iff_exists'.mp hfilled
    obtain ⟨ys, rfl⟩ := List.head?_eq_some_iff.mp hy
    obtain ⟨⟨label, htoken⟩, hcanonical⟩ := h.tail.parameter y List.mem_cons_self l hl
    obtain ⟨d, ds, n, rfl, hparameter, -⟩ := Lexer.lexemes_cons_eq hread
    rw [htoken] at hparameter
    obtain rfl := Lexer.lexeme_eq_placeholder hparameter
    obtain ⟨e, es, hdisplay, he⟩ := Literal.exists_display_cons hcanonical
    rw [chars_cons_of_some hl, hdisplay, List.cons_append]
    obtain ⟨hnew, front, b, hfront, hb⟩ := Lexer.lexeme_before_value hlexeme
      (h.chain.rel.opens (by rw [hl]; rfl)) he
    refine ⟨hnew, Or.inr ⟨front, b, '?' :: ds, e :: (es ++ f.chars ys), ?_, ?_, hb, ?_, ?_⟩⟩
    · rw [hfront, List.append_assoc, List.singleton_append]
    · rw [hfront, List.append_assoc, List.singleton_append]
    · simp
    · rintro ⟨⟩
      exact absurd he (by decide)

/-- The lexemes of a text with literals, read from its end: up to the last parting character
before a literal the text stays as it is. -/
theorem Fits.reads {here : Location} {cs : List Char} (h : f.Fits ms)
    (hread : lexemes here cs = .ok (ms.map Prod.fst)) :
    Reads (f.chars ms) (f.tokens (tokensOf ms)) ∧
      ((∀ m ∈ ms.head?, m.2.bind f = none) → Parallel cs (f.chars ms)) := by
  induction ms generalizing here cs with
  | nil =>
      obtain rfl : [] = cs := Lexer.lexemes_sources hread
      exact ⟨Lexer.reads_nil, fun _ => Or.inl rfl⟩
  | cons m ms ih =>
      obtain ⟨c, ds, n, rfl, hlexeme, hm, hrest⟩ := Lexer.lexemes_cons_eq hread
      obtain ⟨hreads, hparallel⟩ := ih h.tail hrest
      cases hl : m.2.bind f with
      | some l =>
          obtain ⟨⟨label, htoken⟩, hcanonical⟩ := h.parameter m List.mem_cons_self l hl
          have hprintable := printable_literal hcanonical
          have hchars : f.chars (m :: ms) = Token.layout l.tokens ++ f.chars ms := by
            rw [chars_cons_of_some hl, ← layout_literal l hcanonical, String.toList_ofList]
          refine ⟨?_, fun hnone => absurd (hl.symm.trans (hnone m rfl)) (by simp)⟩
          rw [hchars, tokensOf_cons_of_some htoken, tokens_cons_of_some hl]
          exact Token.reads_layout_append hprintable.writable hprintable.chain
            (fun u hu => h.ends hl hrest hu) hreads
      | none =>
          have hn := Lexer.lexeme_le hlexeme
          have hlength : (ds.take n).length = n := List.length_take_of_le hn
          have hsource : m.1.source = c :: ds.take n := by rw [hm]
          rw [← List.take_append_drop n ds] at hlexeme
          obtain ⟨hnew, hsame⟩ := h.lexeme (by rwa [hlength]) hrest hparallel
          have htokens : f.tokens (tokensOf (m :: ms)) =
              m.1.token.toList ++ f.tokens (tokensOf ms) := by
            cases htoken : m.1.token with
            | none => rw [tokensOf_cons_of_none htoken]; rfl
            | some t => rw [tokensOf_cons_of_some htoken, tokens_cons_of_none hl]; rfl
          rw [chars_cons_of_none hl, hsource, htokens]
          refine ⟨hreads.lexeme hnew, fun _ => ?_⟩
          rwa [List.cons_append, List.take_append_drop] at hsame

/-- The lexemes of a statement that is read fit. -/
theorem fits_of_framed {ls : List Lexeme} (hf : ∀ k l, f k = some l → l.isCanonical = true)
    (hframed : (tokensOf (Lexer.numbered 0 ls)).IsChain f.Framed)
    (hapart : (Lexer.numbered 0 ls).IsChain fun m m' =>
      m.2.bind f = some .null → m'.1.isBareWord = false) :
    f.Fits (Lexer.numbered 0 ls) := by
  have hparameter : ∀ m ∈ Lexer.numbered 0 ls, ∀ l, m.2.bind f = some l →
      (∃ label, m.1.token = some (.placeholder label)) ∧ l.isCanonical = true := by
    intro m hm l hl
    obtain ⟨k, hk, hfk⟩ := Option.bind_eq_some_iff.mp hl
    exact ⟨Lexer.exists_placeholder hm hk, hf k l hfk⟩
  have hpair := isChain_of_tokensOf hframed
  rw [List.isChain_iff_forall_rel_of_append_cons_cons] at hpair hapart
  refine ⟨hparameter, List.isChain_iff_forall_rel_of_append_cons_cons.mpr ?_⟩
  intro m m' before after heq
  refine ⟨fun hfilled t ht => ?_, fun hfilled t ht => ?_, hapart heq⟩
  · obtain ⟨l, hl⟩ := Option.isSome_iff_exists.mp hfilled
    obtain ⟨⟨label, htoken⟩, -⟩ := hparameter m' (by simp [heq]) l hl
    exact (hpair heq t ht _ htoken).opens hfilled
  · obtain ⟨l, hl⟩ := Option.isSome_iff_exists.mp hfilled
    obtain ⟨⟨label, htoken⟩, -⟩ := hparameter m (by simp [heq]) l hl
    exact (hpair heq _ htoken t ht).closes hfilled

end Filling

namespace Statement

/-- To bind a value and to write it as a literal is the same. An insertion or update whose text
is rewritten with some of its parameters as literals is read as the statement with these among
its values, if no word touches a `NULL`. Without their entries the parameters that are left,
those of the tests among them, find the entries they had, or none if they had none, and the
statement does in every registry what it did before. -/
theorem parse_write (f : Filling) (sql : String) (s : Statement) (params : List Value)
    (hparse : parse sql = .ok s) (hkind : s.kind = .insert ∨ s.kind = .update)
    (hf : f.Spells s params) (hapart : f.Apart sql) :
    parse (f.write sql) = .ok (s.fill f) ∧
      (∀ k ∈ s.testSlots, f k = none) ∧
      (∀ k, f k = none → (f.params params)[f.slot k]? = params[k]?) ∧
      ∀ (r : Registry) (options : ExecOptions) (path : Path),
        r.execute options (s.fill f) path (f.params params) = r.execute options s path params := by
  obtain ⟨ls, hls, htokens⟩ : ∃ ls, Lexer.lexemes .start sql.toList = .ok ls ∧
      ofTokens (ls.filterMap Lexeme.token) = .ok s := by
    unfold parse Token.scan at hparse
    cases hls : Lexer.lexemes .start sql.toList with
    | error e =>
        rw [hls] at hparse
        cases hparse
    | ok ls =>
        rw [hls] at hparse
        exact ⟨ls, rfl, hparse⟩
  have hnumbered := Lexer.numbered_tokensOf 0 ls
  rw [← Lexer.map_fst_numbered 0 ls, ← map_fst_tokensOf] at htokens
  obtain ⟨hfilled, htests, hframed⟩ :=
    ofTokens_filled hnumbered hf.canonical hf.value hkind htokens
  have hfits := Filling.fits_of_framed hf.canonical hframed (hapart ls hls)
  obtain ⟨hreads, -⟩ := hfits.reads (by rwa [Lexer.map_fst_numbered])
  refine ⟨?_, htests, fun k hk => Filling.getElem?_params hk params,
    fun r options path => r.execute_fill hf hkind htests options path⟩
  obtain ⟨ms, hms, hmsTokens⟩ := hreads .start
  rw [parse, Token.scan, Filling.write, hls]
  simp only [String.toList_ofList, hms]
  rw [← hfilled, ← hmsTokens]
  rfl

/-- A text with a quote and a `NULL` are written, the value between them and the test stay. -/
theorem parse_write_of_update :
    let s : Statement := .update ⟨"t", [⟨"a", .placeholder 0⟩, ⟨"b", .placeholder 1⟩,
      ⟨"c", .placeholder 2⟩], some ⟨[.equals "id" 3]⟩⟩
    let s' : Statement := .update ⟨"t", [⟨"a", .literal (.text "it's")⟩, ⟨"b", .placeholder 0⟩,
      ⟨"c", .literal .null⟩], some ⟨[.equals "id" 1]⟩⟩
    parse "UPDATE t SET a = ?, b = ?, c=? WHERE id = ?" = .ok s ∧
      parse "UPDATE t SET a = 'it''s', b = ?, c=NULL WHERE id = ?" = .ok s' ∧
      ∀ (r : Registry) (options : ExecOptions) (path : Path),
        r.execute options s' path [.integer 5, .integer 7] =
          r.execute options s path [.text "it's", .integer 5, .null, .integer 7] := by
  intro s s'
  let f : Filling := fun k => ([some (.text "it's"), none, some .null][k]?).join
  have hparse : parse "UPDATE t SET a = ?, b = ?, c=? WHERE id = ?" = .ok s := by
    decide +kernel
  have hwrite : f.write "UPDATE t SET a = ?, b = ?, c=? WHERE id = ?" =
      "UPDATE t SET a = 'it''s', b = ?, c=NULL WHERE id = ?" := by
    decide +kernel
  have hspells : f.Spells s [.text "it's", .integer 5, .null, .integer 7] := by
    have hslots : ∀ k l, f k = some l → k = 0 ∧ l = .text "it's" ∨ k = 2 ∧ l = .null := by
      rintro (_ | _ | _ | k) l hl
      · exact Or.inl ⟨rfl, (Option.some.inj hl).symm⟩
      · cases hl
      · exact Or.inr ⟨rfl, (Option.some.inj hl).symm⟩
      · cases hl
    constructor
    all_goals
      intro k l hl
      rcases hslots k l hl with ⟨rfl, rfl⟩ | ⟨rfl, rfl⟩ <;> decide
  have hapart : f.Apart "UPDATE t SET a = ?, b = ?, c=? WHERE id = ?" := by decide +kernel
  obtain ⟨hwritten, -, -, hsame⟩ := parse_write f _ s _ hparse (Or.inr rfl) hspells hapart
  rw [hwrite] at hwritten
  exact ⟨hparse, hwritten, hsame⟩

/-- A word that touches a parameter goes on with the letters of a `NULL` in its place, and what
was an update is no statement any more. -/
theorem write_null_before_word :
    let s : Statement := .update ⟨"t", [⟨"a", .placeholder 0⟩], some ⟨[.equals "id" 1]⟩⟩
    let f : Filling := fun k => if k = 0 then some .null else none
    parse "UPDATE t SET a = ?WHERE id = ?" = .ok s ∧ f.Spells s [.null, .integer 1] ∧
      (∀ (r : Registry) (options : ExecOptions),
        (r.execute options s .run [.null, .integer 1]).isOk = true) ∧
      f.write "UPDATE t SET a = ?WHERE id = ?" = "UPDATE t SET a = NULLWHERE id = ?" ∧
      (parse "UPDATE t SET a = NULLWHERE id = ?").isOk = false := by
  intro s f
  have hslots : ∀ k l, f k = some l → k = 0 ∧ l = .null := by
    intro k l hl
    by_cases hk : k = 0
    · rw [show f k = _ from if_pos hk] at hl
      exact ⟨hk, (Option.some.inj hl).symm⟩
    · rw [show f k = _ from if_neg hk] at hl
      cases hl
  refine ⟨by decide +kernel, ?_, fun _ _ => rfl, by decide +kernel, by decide +kernel⟩
  constructor
  all_goals
    intro k l hl
    obtain ⟨rfl, rfl⟩ := hslots k l hl
    decide

end Statement

end MiniSql
