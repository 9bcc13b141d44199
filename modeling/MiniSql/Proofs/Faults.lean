import MiniSql.Proofs.Requests
import MiniSql.Proofs.Trimming

/-!
# Scripts with a lexical fault

A text with a lexical fault is one piece, and the piece is trimmed. Without the blanks in front
of it the text may be read differently: a blank beyond the first 128 characters begins a word,
and the rest of that word may be the letter before a text, or a number. What is left either
still has a fault or begins with a value, and no statement begins with one.

**Results.**
* `Hopeless.trim`: trimming keeps a text from being a statement.
* `split_of_fault`, `executeScript_of_fault`: nothing of the script is executed.
-/

namespace MiniSql

/-- A number or a text. -/
def Token.isValue : Token → Bool
  | number _ _ => true
  | text _ _ => true
  | _ => false

namespace Lexer

/-- A text with a fault, or one that begins with a value. -/
inductive Hopeless : List Char → Prop
  | fault {cs : List Char}
      (hfault : Faulty cs) :
      Hopeless cs
  | value {c : Char} {cs : List Char} {t : Token} {n : Nat}
      (hlexeme : lexeme c cs = .ok (some t, n))
      (hvalue : t.isValue = true) :
      Hopeless (c :: cs)

theorem isValue_of_singleQuoted {form : TextForm} {letter n : Nat} {body : List Char} {t : Token}
    (h : singleQuoted form letter body = .ok (t, n)) : t.isValue = true := by
  unfold singleQuoted at h
  split at h
  all_goals
    split at h
    · cases h
      rfl
    · cases h

theorem isValue_numeral {c : Char} (hc : c.isDigit = true) (cs : List Char) :
    (numeral (c :: cs)).1.isValue = true := by
  have hpoint : plainLength (c :: cs) ≠ pointLength (c :: cs) := by
    rw [Ne, plainLength_eq_pointLength, List.takeWhile_cons_of_pos hc]
    rintro ⟨hnil, -⟩
    cases hnil
  rw [numeral_eq, if_neg hpoint]
  split <;> rfl

theorem Reader.choose_digit {c : Char} (hc : c.isDigit = true) (next : Option Char) :
    choose c next = numeral := by
  have hclass : ∀ c : Char, c.isDigit = true → choose c none = numeral ∧ formOfLetter? c = none ∧
      c ≠ '-' ∧ c ≠ '/' := digit_forall (by decide +kernel)
  obtain ⟨hnone, hform, hminus, hslash⟩ := hclass c hc
  rcases choose_eq_or c next with hsame | ⟨form, -, hletter, -⟩ | ⟨-, hline, -⟩ | ⟨-, hblock, -⟩
  · exact hsame.trans hnone
  · rw [hform] at hletter
    cases hletter
  · exact absurd hline hminus
  · exact absurd hblock hslash

/-- A word without its first character is the rest of the word, or no word at all. -/
theorem lexeme_of_isWordPart {c : Char} (hc : isWordPart c = true) (cs : List Char) :
    lexeme c cs = .ok (some (.word (String.ofList (c :: cs.takeWhile isWordPart)) none),
        (cs.takeWhile isWordPart).length) ∨ Hopeless (c :: cs) := by
  rw [isWordPart, Bool.or_eq_true] at hc
  rcases hc with hstart | hdigit
  · rcases Reader.choose_of_isWordStart hstart cs.head? with hword | ⟨form, htext, -⟩
    · left
      rw [lexeme_eq_read, hword]
      rfl
    · right
      cases hread : lexeme c cs with
      | error fault => exact Hopeless.fault (Faulty.here hread)
      | ok p =>
          rw [lexeme_eq_read, htext] at hread
          obtain ⟨⟨t, n⟩, hquoted, rfl⟩ := exists_of_map_ok hread
          refine Hopeless.value (t := t) (n := n) ?_ (isValue_of_singleQuoted hquoted)
          rw [lexeme_eq_read, htext]
          exact hread
  · right
    refine Hopeless.value (t := (numeral (c :: cs)).1) (n := (numeral (c :: cs)).2 - 1) ?_
      (isValue_numeral hdigit cs)
    rw [lexeme_eq_read, Reader.choose_digit hdigit]
    rfl

section Trimming

variable {b : Char} {cs : List Char}

/-- A blank in front is no fault and no value. -/
theorem lexeme_blank_eq_ok (hb : Text.isBlank b = true) (cs : List Char) :
    ∃ t n, lexeme b cs = .ok (t, n) ∧ ∀ u ∈ t, u.isValue = false := by
  rcases lexeme_blank hb cs with hread | ⟨hread, -⟩ | hread
  · exact ⟨_, _, hread, by rintro u ⟨⟩⟩
  · exact ⟨_, _, hread, by rintro u ⟨⟩⟩
  · exact ⟨_, _, hread, by rintro u ⟨⟩; rfl⟩

theorem Faulty.of_blank_cons (hb : Text.isBlank b = true) (h : Faulty (b :: cs)) :
    Hopeless cs := by
  obtain ⟨t, n, hread, -⟩ := lexeme_blank_eq_ok hb cs
  cases h with
  | here hlexeme =>
      rw [hread] at hlexeme
      cases hlexeme
  | later hlexeme hrest =>
      rcases lexeme_blank hb cs with hblank | ⟨hline, ds, rfl⟩ | hword
      · rw [hblank] at hlexeme
        cases hlexeme
        exact Hopeless.fault hrest
      · rw [hline] at hlexeme
        cases hlexeme
        exact Hopeless.fault (Faulty.later (t := none) (n := 0) rfl hrest)
      · rw [hword] at hlexeme
        cases hlexeme
        cases cs with
        | nil => cases hrest
        | cons c ds =>
            by_cases hc : isWordPart c = true
            · rw [List.takeWhile_cons_of_pos hc, List.length_cons, List.drop_succ_cons] at hrest
              rcases lexeme_of_isWordPart hc ds with hrestWord | hhopeless
              · exact Hopeless.fault (Faulty.later hrestWord hrest)
              · exact hhopeless
            · rw [List.takeWhile_cons_of_neg hc] at hrest
              exact Hopeless.fault hrest

theorem Hopeless.of_blank_cons (hb : Text.isBlank b = true) (h : Hopeless (b :: cs)) :
    Hopeless cs := by
  cases h with
  | fault hfault => exact hfault.of_blank_cons hb
  | value hlexeme hvalue =>
      obtain ⟨t, n, hread, hnone⟩ := lexeme_blank_eq_ok hb cs
      rw [hread] at hlexeme
      cases hlexeme
      rw [hnone _ rfl] at hvalue
      cases hvalue

theorem Hopeless.of_concat (hb : Text.isBlank b = true) (h : Hopeless (cs ++ [b])) :
    Hopeless cs := by
  cases cs with
  | nil => exact h.of_blank_cons hb
  | cons c cs =>
      rw [List.cons_append] at h
      cases h with
      | fault hfault => exact Hopeless.fault (Faulty.of_concat hb hfault)
      | value hlexeme hvalue =>
          rcases lexeme_concat hb c cs with hsame | ⟨hlonger, -⟩ | hword
          · exact Hopeless.value ((hsame _).mp hlexeme) hvalue
          · rw [hlonger] at hlexeme
            cases hlexeme
          · rw [hword] at hlexeme
            cases hlexeme
            cases hvalue

/-- Trimming keeps a text from being a statement. -/
theorem Hopeless.trim (h : Hopeless cs) : Hopeless (Text.trimEnd (Text.trimStart cs)) :=
  Text.trim_induction (p := Hopeless) (fun _ _ hb h => h.of_blank_cons hb)
    (fun _ _ hb h => h.of_concat hb) h

end Trimming

end Lexer

/-! ## Pieces of a text with a fault -/

/-- No statement begins with a value. -/
theorem Statement.ofTokens_of_isValue {t : Token} (ht : t.isValue = true) (tokens : List Token) :
    Statement.ofTokens (t :: tokens) = .error (.unsupported (.statement (some t))) := by
  cases t with
  | number digits long => rfl
  | text form content => rfl
  | _ => cases ht

theorem Lexer.Hopeless.scan {piece : String} (h : Hopeless piece.toList) :
    (∃ e, Token.scan piece = .error e) ∨
      ∃ t tokens, Token.scan piece = .ok (t :: tokens) ∧ t.isValue = true := by
  cases hscan : Token.scan piece with
  | error e => exact Or.inl ⟨e, rfl⟩
  | ok tokens =>
      have hscanned := Token.scan_eq_ok_iff.mp hscan
      generalize piece.toList = cs at h hscanned
      cases h with
      | fault hfault => exact (hscanned.not_faulty hfault).elim
      | value hlexeme hvalue =>
          cases hscanned with
          | cons hlexeme' hrest =>
              rw [hlexeme] at hlexeme'
              cases hlexeme'
              exact Or.inr ⟨_, _, rfl, hvalue⟩

namespace Script

/-- A hopeless text is a piece, but no statement. -/
theorem exists_parse_error_of_hopeless {piece : String} (h : Lexer.Hopeless piece.toList) :
    isStatement piece = true ∧ ∃ reason, Statement.parse piece = .error reason := by
  have hne : piece ≠ "" := by
    rintro rfl
    cases h with
    | fault hfault => cases hfault
  rcases h.scan with ⟨e, he⟩ | ⟨t, tokens, hscan, hvalue⟩
  · exact ⟨by simp [isStatement, hne, he], ⟨_, by rw [Statement.parse, he]⟩⟩
  · have hparse : Statement.parse piece = .error (.unsupported (.statement (some t))) := by
      rw [Statement.parse, hscan]
      exact Statement.ofTokens_of_isValue hvalue tokens
    exact ⟨by simp [isStatement, hne, hscan], ⟨_, hparse⟩⟩

/-- A text with a lexical fault stays in one piece, which is no statement. -/
theorem split_of_fault {text : String} {e : LexError} (h : Token.scan text = .error e) :
    split text = [Text.trim text] ∧
      ∃ reason, Statement.parse (Text.trim text) = .error reason := by
  have hfaulty : Lexer.Faulty text.toList := Token.exists_scan_eq_error_iff.mp ⟨e, h⟩
  have htrim : Lexer.Hopeless (Text.trim text).toList := by
    rw [Text.trim, String.toList_ofList]
    exact (Lexer.Hopeless.fault hfaulty).trim
  obtain ⟨hstatement, hparse⟩ := exists_parse_error_of_hopeless htrim
  have hoffsets : ∃ e, Token.semicolonOffsets text = .error e := by
    cases hlexemes : Lexer.lexemes .start text.toList with
    | error e => exact ⟨e, by rw [Token.semicolonOffsets, hlexemes]; rfl⟩
    | ok ls =>
        rw [Token.scan, hlexemes] at h
        cases h
  obtain ⟨e', he'⟩ := hoffsets
  refine ⟨?_, hparse⟩
  simp [split, he', hstatement]

end Script

/-! ## Scripts -/

namespace Database

theorem executeAll_singleton (db : Database) (sql : String) :
    db.executeAll [sql] = (db.execute sql).map fun result => [result] := by
  cases hresult : (db.execute sql).result with
  | error e => simp [executeAll, Answer.andThen, Answer.map, hresult, Except.map]
  | ok result =>
      simp [executeAll, Answer.andThen, Answer.map, Answer.after, succeed, hresult, Except.map]

/-- A lexical fault anywhere stops the whole script: the text is one piece that is no statement,
and the policy answers for it, before any statement of the script is executed. -/
theorem executeScript_of_fault (text : String) (e : LexError) (h : Token.scan text = .error e) :
    ∃ piece reason, Script.split text = [piece] ∧ Statement.parse piece = .error reason ∧
      ∀ db : Database,
        db.executeScript text =
          db.unhandled piece reason.message [.ignored reason.message] ∧
        (db.executeScript text).database = db := by
  obtain ⟨hsplit, reason, hparse⟩ := Script.split_of_fault h
  refine ⟨Text.trim text, reason, hsplit, hparse, fun db => ?_⟩
  have hanswer : db.executeScript text =
      db.unhandled (Text.trim text) reason.message [.ignored reason.message] := by
    rw [executeScript, hsplit, executeAll_singleton, execute, executeText, hparse, map_unhandled]
  exact ⟨hanswer, by rw [hanswer, database_unhandled]⟩

/-- The transaction that the script begins with is not begun. -/
theorem executeScript_of_open_text :
    Token.scan "BEGIN; SELECT 'open" = .error ⟨.unclosedText, ⟨1, 15⟩⟩ ∧
      ∃ piece reason, Script.split "BEGIN; SELECT 'open" = [piece] ∧
        Statement.parse piece = .error reason ∧
        ∀ db : Database,
          db.executeScript "BEGIN; SELECT 'open" =
            db.unhandled piece reason.message [.ignored reason.message] ∧
          (db.executeScript "BEGIN; SELECT 'open").database = db := by
  have hscan : Token.scan "BEGIN; SELECT 'open" = .error ⟨.unclosedText, ⟨1, 15⟩⟩ := by
    with_unfolding_all rfl
  exact ⟨hscan, executeScript_of_fault _ _ hscan⟩

end Database

end MiniSql
