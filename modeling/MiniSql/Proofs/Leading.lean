import MiniSql.Proofs.Joining

/-!
# Blanks before a script

Most blanks before a script are lexemes of their own. One beyond the first 128 characters begins
a word, which goes on with a word that stands directly behind it; but it would also swallow the
first digits of a number and the letter before a text. If neither stands there, the script has
the same pieces with and without the blanks, since every piece is trimmed.

**Results.**
* `exists_lexeme_front`: the first lexeme of blanks before a text.
* `alike_blanks_append`: the lexemes of a text, and of the text behind blanks.
* `Closed.of_blanks`, `split_blanks_append`: what blanks before a text do not change.
-/

namespace MiniSql

namespace Lexer

/-- The text begins with a number, or with the letter before a text: a word right before it
would go on with them. -/
def opensInWord : List Char → Bool
  | [] => false
  | c :: cs => c.isDigit || ((formOfLetter? c).isSome && cs.head? = some '\x27')

/-- The last of the blanks takes nothing from the text behind them but the rest of a word. -/
def Apart (blanks cs : List Char) : Prop :=
  ∀ b ∈ blanks.getLast?,
    (b = '\r' → cs.head? ≠ some '\n') ∧ (isWordPart b = true → opensInWord cs = false)

/-! ## The first lexeme -/

section Front

variable {b c : Char} {blanks cs : List Char}

theorem Apart.of_drop {n : Nat} (h : Apart (b :: blanks) cs) : Apart (blanks.drop n) cs := by
  intro c hc
  refine h c ?_
  have hdrop : b :: blanks = (b :: blanks.take n) ++ blanks.drop n := by
    rw [List.cons_append, List.take_append_drop]
  rw [hdrop, List.getLast?_append, Option.mem_def.mp hc]
  rfl

/-- A text is read as a word if a word before it goes on with a word. -/
theorem Reader.choose_of_isWordPart (hc : isWordPart c = true)
    (hopens : opensInWord (c :: cs) = false) : choose c cs.head? = bareWord := by
  obtain ⟨hdigit, hletter⟩ := Bool.or_eq_false_iff.mp hopens
  have hstart : isWordStart c = true := by simpa [isWordPart, hdigit] using hc
  rcases choose_of_isWordStart hstart cs.head? with hword | ⟨form, -, hform, hquote⟩
  · exact hword
  · simp [hform, hquote] at hletter

theorem Reader.choose_blank_of_isWordPart (hb : Text.isBlank b = true)
    (hpart : isWordPart b = true) (next : Option Char) : choose b next = bareWord := by
  have hclass := Text.blank_forall (p := fun b => b.isDigit = false ∧ formOfLetter? b = none)
    (by decide +kernel) b hb
  have hstart : isWordStart b = true := by simpa [isWordPart, hclass.1] using hpart
  rcases choose_of_isWordStart hstart next with hword | ⟨form, -, hform, -⟩
  · exact hword
  · rw [hclass.2] at hform
    cases hform

theorem Reader.choose_blank_of_not_isWordPart (hb : Text.isBlank b = true)
    (hpart : isWordPart b = false) (next : Option Char) :
    choose b next = blank ∨ (choose b next = lineEnd ∧ b = '\r') := by
  have hclass := Text.blank_forall (p := fun b => isWordPart b = false →
    formOfLetter? b = none ∧ b ≠ '-' ∧ b ≠ '/' ∧
      (choose b none = blank ∨ (choose b none = lineEnd ∧ b = '\r'))) (by decide +kernel) b hb
  obtain ⟨hform, hminus, hslash, hnone⟩ := hclass hpart
  rcases choose_eq_or b next with hsame | ⟨form, -, hletter, -⟩ | ⟨-, hline, -⟩ | ⟨-, hblock, -⟩
  · rwa [hsame]
  · rw [hform] at hletter
    cases hletter
  · exact absurd hline hminus
  · exact absurd hblock hslash

/-- The first of blanks before a text ends among them, or it is a word and the text goes on
with a word. -/
theorem exists_lexeme_front (hb : Text.isBlank b = true) (hapart : Apart (b :: blanks) cs) :
    ∃ t n, lexeme b (blanks ++ cs) = .ok (t, n) ∧ t ≠ some (.mark .semicolon) ∧
      (n ≤ blanks.length ∨
        (n = blanks.length + (cs.takeWhile isWordPart).length ∧
          ∃ c ds, cs = c :: ds ∧ isWordPart c = true ∧ opensInWord cs = false)) := by
  rw [lexeme_eq_read]
  cases hpart : isWordPart b with
  | false =>
      rcases Reader.choose_blank_of_not_isWordPart hb hpart (blanks ++ cs).head? with
        hread | ⟨hread, hreturn⟩
      · rw [hread]
        exact ⟨none, 0, rfl, (Option.some_ne_none _).symm, .inl (Nat.zero_le _)⟩
      · rw [hread, Reader.read]
        refine ⟨none, _, rfl, (Option.some_ne_none _).symm, .inl ?_⟩
        cases blanks with
        | nil =>
            rw [List.nil_append, if_neg ((hapart b rfl).1 hreturn)]
            exact Nat.le_refl 0
        | cons d ds => split <;> simp
  | true =>
      rw [Reader.choose_blank_of_isWordPart hb hpart, Reader.read]
      refine ⟨_, _, rfl, by simp, ?_⟩
      rw [List.takeWhile_append]
      split
      · next hlength =>
          have hall : ∀ d ∈ b :: blanks, isWordPart d = true := by
            intro d hd
            rcases List.mem_cons.mp hd with rfl | hd
            · exact hpart
            · rw [← (List.takeWhile_prefix isWordPart).eq_of_length hlength] at hd
              exact List.mem_takeWhile_imp hd
          cases cs with
          | nil => simp
          | cons c ds =>
              by_cases hc : isWordPart c = true
              · have hlast := List.getLast?_eq_some_getLast (List.cons_ne_nil b blanks)
                have hopens := (hapart _ hlast).2 (hall _ (List.getLast_mem _))
                exact .inr ⟨List.length_append, c, ds, rfl, hc, hopens⟩
              · left
                rw [List.takeWhile_cons_of_neg hc, List.append_nil]
      · exact .inl (List.takeWhile_prefix _).length_le

end Front

/-! ## The lexemes -/

/-- Two readings that fail both, or come to lexemes that are related. -/
inductive Alike (R : List Lexeme → List Lexeme → Prop) :
    Except LexError (List Lexeme) → Except LexError (List Lexeme) → Prop
  | error {e e' : LexError} : Alike R (.error e) (.error e')
  | ok {ms ls : List Lexeme} : R ms ls → Alike R (.ok ms) (.ok ls)

section Alike

variable {R S : List Lexeme → List Lexeme → Prop} {x y : Except LexError (List Lexeme)}
  {f g : List Lexeme → List Lexeme}

theorem Alike.map_right (h : Alike R x y) (hf : ∀ ms ls, R ms ls → S ms (f ls)) :
    Alike S x (y.map f) := by
  cases h with
  | error => exact .error
  | ok hR => exact .ok (hf _ _ hR)

theorem Alike.map (h : Alike R x y) (hfg : ∀ ms ls, R ms ls → S (f ms) (g ls)) :
    Alike S (x.map f) (y.map g) := by
  cases h with
  | error => exact .error
  | ok hR => exact .ok (hfg _ _ hR)

end Alike

/-- Lexemes of a text, and of the same text behind blanks. -/
structure Behind (blanks : List Char) (ms ls : List Lexeme) : Prop where
  segments : Script.segments ls = (Script.segments ms).modifyHead (blanks ++ ·)
  last : ∀ m ∈ ms.getLast?, m.isOpenComment = true → ∃ l ∈ ls.getLast?, l.isOpenComment = true

section Behind

variable {blanks cs : List Char} {ms ls : List Lexeme}

/-- Where a text begins does not matter. -/
theorem alike_lexemes (cs : List Char) (here there : Location) :
    Alike (Behind []) (lexemes there cs) (lexemes here cs) := by
  cases hms : lexemes there cs with
  | ok ms =>
      obtain ⟨ls, hls, hcontent⟩ := exists_lexemes_at hms here
      rw [hls]
      refine .ok ⟨?_, fun m hm hopen => ?_⟩
      · rw [Script.segments_congr hcontent]
        cases Script.segments ms <;> rfl
      · obtain ⟨l, hl, hsame⟩ := exists_last_of_content hcontent.symm hm
        exact ⟨l, hl, hsame.trans hopen⟩
  | error e =>
      cases hls : lexemes here cs with
      | error e' => exact .error
      | ok ls =>
          obtain ⟨ms, hms', -⟩ := exists_lexemes_at hls there
          cases hms.symm.trans hms'

/-- A lexeme among the blanks. -/
theorem Behind.cons {l : Lexeme} (h : Behind blanks ms ls) (hl : l.isSemicolon = false) :
    Behind (l.source ++ blanks) ms (l :: ls) := by
  constructor
  · rw [Script.segments_cons, if_neg (Bool.eq_false_iff.mp hl), h.segments]
    cases Script.segments ms <;> simp
  · intro m hm hopen
    obtain ⟨k, hk, hkopen⟩ := h.last m hm hopen
    refine ⟨k, ?_, hkopen⟩
    rw [← List.singleton_append, List.getLast?_append, Option.mem_def.mp hk]
    rfl

/-- A word that goes on with the first word of the text. -/
theorem Behind.joined {m l : Lexeme} (h : Behind [] ms ls) (hm : m.isSemicolon = false)
    (hl : l.isSemicolon = false) (hword : m.token.isSome = true)
    (hsource : l.source = blanks ++ m.source) : Behind blanks (m :: ms) (l :: ls) := by
  constructor
  · rw [Script.segments_cons, Script.segments_cons, if_neg (Bool.eq_false_iff.mp hm),
      if_neg (Bool.eq_false_iff.mp hl), h.segments, hsource]
    cases Script.segments ms <;> simp
  · intro k hk hopen
    rw [List.getLast?_cons] at hk
    cases hlast : ms.getLast? with
    | none =>
        obtain rfl : k = m := by simpa [hlast] using hk.symm
        rw [Lexeme.isOpenComment, Option.isNone_eq_false_iff.mpr hword] at hopen
        cases hopen
    | some k' =>
        obtain rfl : k = k' := by simpa [hlast] using hk.symm
        obtain ⟨l', hl', hopen'⟩ := h.last k hlast hopen
        refine ⟨l', ?_, hopen'⟩
        rw [List.getLast?_cons, Option.mem_def.mp hl']
        rfl

/-- The lexemes of a text, and of the text behind blanks that stand apart. -/
theorem alike_blanks_append (hblanks : ∀ b ∈ blanks, Text.isBlank b = true)
    (hapart : Apart blanks cs) (here there : Location) :
    Alike (Behind blanks) (lexemes there cs) (lexemes here (blanks ++ cs)) := by
  -- By the number of blanks, since a word takes several of them at once.
  induction blanks using WellFounded.induction (measure List.length).wf generalizing here with
  | _ blanks ih =>
    cases blanks with
    | nil => exact alike_lexemes cs here there
    | cons b blanks =>
        obtain ⟨t, n, hlexeme, ht, hn | ⟨hn, c, ds, rfl, hc, hopens⟩⟩ :=
          exists_lexeme_front (hblanks b List.mem_cons_self) hapart
        · have hshort : (blanks.drop n).length < (b :: blanks).length := by
            rw [List.length_drop, List.length_cons]
            omega
          have hrest : ∀ d ∈ blanks.drop n, Text.isBlank d = true :=
            fun d hd => hblanks d (List.mem_cons_of_mem b (List.mem_of_mem_drop hd))
          have h := ih (blanks.drop n) hshort hrest hapart.of_drop
            (here.advanceOver (b :: blanks.take n))
          rw [List.cons_append, lexemes_cons_of_lexeme hlexeme, List.take_append_of_le_length hn,
            List.drop_append_of_le_length hn]
          refine h.map_right fun ms ls hbehind => ?_
          have hcons := hbehind.cons (l := ⟨t, here, b :: blanks.take n⟩) (decide_eq_false ht)
          rwa [List.cons_append, List.take_append_drop] at hcons
        · have hfirst : lexeme c ds =
              .ok (some (.word (String.ofList (c :: ds.takeWhile isWordPart)) none),
                (ds.takeWhile isWordPart).length) := by
            rw [lexeme_eq_read, Reader.choose_of_isWordPart hc hopens, Reader.read]
          rw [List.takeWhile_cons_of_pos hc, List.length_cons] at hn
          rw [List.cons_append, lexemes_cons_of_lexeme hlexeme, lexemes_cons_of_lexeme hfirst, hn,
            List.take_length_add_append, List.drop_length_add_append, List.take_succ_cons,
            List.drop_succ_cons]
          exact (alike_lexemes _ _ _).map fun ms ls h =>
            h.joined rfl (decide_eq_false ht) rfl rfl

theorem Closed.of_blanks (hblanks : ∀ b ∈ blanks, Text.isBlank b = true)
    (hapart : Apart blanks cs) (h : Closed (blanks ++ cs)) : Closed cs := by
  have halike := alike_blanks_append hblanks hapart .start .start
  obtain ⟨ls, hls, hlast⟩ := h
  rw [hls] at halike
  generalize hms : lexemes .start cs = x at halike
  cases halike with
  | @ok ms _ hbehind =>
      refine ⟨ms, hms, fun m hm => Bool.eq_false_iff.mpr fun hopen => ?_⟩
      obtain ⟨l, hl, hlopen⟩ := hbehind.last m hm hopen
      rw [hlast l hl] at hlopen
      cases hlopen

theorem exists_lexemes_blanks (hblanks : ∀ b ∈ blanks, Text.isBlank b = true)
    (hapart : Apart blanks cs) {here : Location} (h : lexemes here cs = .ok ms) :
    ∃ ls, lexemes here (blanks ++ cs) = .ok ls := by
  have halike := alike_blanks_append hblanks hapart here here
  rw [h] at halike
  generalize lexemes here (blanks ++ cs) = y at halike ⊢
  cases halike with
  | ok => exact ⟨_, rfl⟩

end Behind

end Lexer

namespace Script

section Blanks

variable {blanks cs : List Char}

theorem trim_blanks_append (hblanks : ∀ b ∈ blanks, Text.isBlank b = true) (cs : List Char) :
    Text.trim (String.ofList (blanks ++ cs)) = Text.trim (String.ofList cs) := by
  rw [Text.trim, Text.trim, String.toList_ofList, String.toList_ofList, Text.trimStart,
    List.dropWhile_append_of_pos hblanks]
  rfl

theorem split_of_error {text : String} {e : LexError}
    (h : Lexer.lexemes .start text.toList = .error e) :
    split text = [Text.trim text].filter isStatement := by
  rw [split, Token.semicolonOffsets, h]
  rfl

/-- Blanks that stand apart before a script change none of its pieces. -/
theorem split_blanks_append (hblanks : ∀ b ∈ blanks, Text.isBlank b = true)
    (hapart : Lexer.Apart blanks cs) :
    split (String.ofList (blanks ++ cs)) = split (String.ofList cs) := by
  have halike := Lexer.alike_blanks_append hblanks hapart .start .start
  have hlonger : (String.ofList (blanks ++ cs)).toList = blanks ++ cs := String.toList_ofList
  have hshorter : (String.ofList cs).toList = cs := String.toList_ofList
  generalize hms : Lexer.lexemes .start cs = x at halike
  generalize hls : Lexer.lexemes .start (blanks ++ cs) = y at halike
  rw [← hshorter] at hms
  rw [← hlonger] at hls
  cases halike with
  | error => rw [split_of_error hls, split_of_error hms, trim_blanks_append hblanks]
  | @ok ms ls hbehind =>
      rw [split_eq_segments hls, split_eq_segments hms, hbehind.segments]
      cases segments ms with
      | nil => rfl
      | cons s ss =>
          rw [List.modifyHead_cons, List.map_cons, List.map_cons, trim_blanks_append hblanks]

end Blanks

end Script

end MiniSql
