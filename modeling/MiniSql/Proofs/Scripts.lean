import MiniSql.Proofs.Endings
import MiniSql.Proofs.Faults
import MiniSql.Proofs.Quoting
import MiniSql.Proofs.Splitting

/-!
# Scripts of one statement

A text that is one statement, with semicolons after it at most, is one piece, and the piece is
the same statement: then executing the text, the script, and the script in a shell are one. A
semicolon inside the parentheses of the statement is a cut all the same, and a blank that
belongs to the last word is trimmed.

**Results.**
* `split_of_statement`: the only piece of a text of one statement.
* `split_agrees_with_parse`: the four ways of executing it.
* `split_cuts_in_group`: a semicolon inside parentheses.
-/

namespace MiniSql

/-! ## First and last words -/

/-- A keyword begins with a letter. -/
theorem Token.isKeyword_of_opensBlank {t : Token} (ht : t.opensBlank = true) (keyword : String)
    (hkeyword : (Text.fold keyword).head?.all (fun c => !Text.isBlank c) = true) :
    t.isKeyword keyword = false := by
  cases t with
  | word value quote =>
    cases quote with
    | some q => rfl
    | none =>
        rw [isKeyword_word, ← Bool.not_eq_true, Text.sameFold_iff]
        intro hfold
        rw [opensBlank_bareWord] at ht
        cases hvalue : value.toList with
        | nil => simp [hvalue] at ht
        | cons c cs =>
            have hblank : Text.isBlank c = true := by simpa [hvalue] using ht
            have hlower : c.toLower = c :=
              Text.blank_forall (p := fun c => c.toLower = c) (by decide +kernel) c hblank
            rw [← hfold, Text.fold, hvalue, List.map_cons, hlower] at hkeyword
            simp [hblank] at hkeyword
  | _ => rfl

/-- No kind of statement is announced by a word that begins with a blank. -/
theorem StatementKind.ofTokens_of_opensBlank {t : Token} (ht : t.opensBlank = true)
    (ts : List Token) : ofTokens (t :: ts) = .unknown := by
  have hnone := Token.isKeyword_of_opensBlank ht
  simp (disch := decide +kernel) [ofTokens, hnone]

theorem Token.trimmed_of_ofTokens {tokens : List Token} {s : Statement}
    (h : Statement.ofTokens tokens = .ok s)
    (hlast : ∀ t ∈ tokens.getLast?, t.closesBlank = false) : Trimmed tokens := by
  refine ⟨fun t ht => ?_, hlast⟩
  obtain ⟨ts, rfl⟩ := List.head?_eq_some_iff.mp ht
  by_contra hopens
  obtain ⟨rest, hstatement, -⟩ := Statement.exists_of_ofTokens h
  rw [StatementKind.ofTokens_of_opensBlank (Bool.not_eq_false _ ▸ hopens)] at hstatement
  cases hstatement

namespace Script

/-! ## The piece of a statement -/

theorem filter_splitOn_semicolons {tail : List Token} (htail : ∀ t ∈ tail, t = .mark .semicolon) :
    (tail.splitOn (.mark .semicolon)).filter (· ≠ []) = [] := by
  induction tail with
  | nil => rfl
  | cons t ts ih =>
      obtain rfl := htail t List.mem_cons_self
      have hcut : (Token.mark .semicolon :: ts).splitOn (.mark .semicolon) =
          [] :: ts.splitOn (.mark .semicolon) :=
        List.splitOn_append_cons_self_of_not_mem List.not_mem_nil ts
      rw [hcut, List.filter_cons_of_neg (by simp)]
      exact ih fun u hu => htail u (List.mem_cons_of_mem _ hu)

/-- Tokens with nothing but semicolons after them are the only run that is not empty. -/
theorem filter_splitOn_append {body tail : List Token} (hbody : Token.mark .semicolon ∉ body)
    (hne : body ≠ []) (htail : ∀ t ∈ tail, t = .mark .semicolon) :
    ((body ++ tail).splitOn (.mark .semicolon)).filter (· ≠ []) = [body] := by
  cases tail with
  | nil =>
      rw [List.append_nil, List.splitOn_eq_singleton hbody, List.filter_cons_of_pos (by simpa)]
      rfl
  | cons t ts =>
      obtain rfl := htail t List.mem_cons_self
      rw [List.splitOn_append_cons_self_of_not_mem hbody, List.filter_cons_of_pos (by simpa),
        filter_splitOn_semicolons fun u hu => htail u (List.mem_cons_of_mem _ hu)]

/-- A text of one statement is one piece, and the piece is the same statement. -/
theorem split_of_statement {text : String} {tokens : List Token} {s : Statement}
    (hscan : Token.scan text = .ok tokens) (hparse : Statement.parse text = .ok s)
    (houtside : Token.mark .semicolon ∈ tokens →
      Token.depthFrom 0 (Parser.beforeSemicolon tokens) = 0)
    (hlast : ∀ t ∈ (Parser.beforeSemicolon tokens).getLast?, t.closesBlank = false) :
    ∃ piece, split text = [piece] ∧ Statement.parse piece = .ok s := by
  have htokens : Statement.ofTokens tokens = .ok s := by
    rwa [Statement.parse, hscan] at hparse
  obtain ⟨hbody, htail⟩ := Statement.ofTokens_beforeSemicolon htokens houtside
  have htext : Parser.beforeSemicolon tokens ++ Parser.fromSemicolon tokens = tokens :=
    List.takeWhile_append_dropWhile
  have hnot : Token.mark .semicolon ∉ Parser.beforeSemicolon tokens := by
    intro hmem
    have hne := List.mem_takeWhile_imp hmem
    simp at hne
  have hne : Parser.beforeSemicolon tokens ≠ [] := by
    intro hnil
    rw [hnil] at hbody
    cases hbody
  have hruns := filter_splitOn_append hnot hne htail
  rw [htext] at hruns
  have htrimmed : ∀ run ∈ tokens.splitOn (.mark .semicolon), Token.Trimmed run := by
    intro run hrun
    by_cases hrunNil : run = []
    · subst hrunNil
      exact ⟨by rintro t ⟨⟩, by rintro t ⟨⟩⟩
    · have hmem : run ∈ (tokens.splitOn (.mark .semicolon)).filter (· ≠ []) :=
        List.mem_filter.mpr ⟨hrun, decide_eq_true hrunNil⟩
      rw [hruns, List.mem_singleton] at hmem
      rw [hmem]
      exact Token.trimmed_of_ofTokens hbody hlast
  have hpieces := scan_split hscan htrimmed
  rw [hruns, List.map_singleton] at hpieces
  obtain ⟨piece, hsplit, hpiece⟩ := List.map_eq_singleton_iff.mp hpieces
  exact ⟨piece, hsplit, by rw [Statement.parse, hpiece]; exact hbody⟩

end Script

/-! ## One statement in a shell -/

namespace Shell

/-- The turn with its fault shown. -/
def Turn.shown (turn : Turn) : Turn :=
  let errors := turn.fault.toList.map fun fault => Emission.err ("ERROR: " ++ fault.message ++ "\n")
  ⟨turn.shell, turn.emissions ++ errors, none, false⟩

theorem exits_attempt (s : Shell) (sql : String) : (s.attempt sql).exits = false := by
  unfold attempt
  simp only
  split <;> rfl

theorem attemptUntil_singleton (s : Shell) (sql : String) :
    s.attemptUntil [sql] = s.attempt sql := by
  have hexits := s.exits_attempt sql
  rw [attemptUntil]
  generalize s.attempt sql = turn at hexits ⊢
  obtain ⟨shell, emissions, fault, exits⟩ := turn
  cases fault with
  | some fault => rfl
  | none =>
      obtain rfl : exits = false := hexits
      simp [attemptUntil]

theorem attemptAll_singleton (s : Shell) (sql : String) :
    s.attemptAll [sql] = ((s.attempt sql).shown.shell, (s.attempt sql).shown.emissions) := by
  simp [attemptAll, Turn.shown]

end Shell

namespace Script

/-- A text that is read as one statement is split into one piece that is the same statement:
executing the text, the script, and the script in a shell, strictly or not, are one. The first
semicolon must stand outside parentheses, and the last word must not end with a blank. -/
theorem split_agrees_with_parse (text : String) (tokens : List Token) (s : Statement)
    (hscan : Token.scan text = .ok tokens) (hparse : Statement.parse text = .ok s)
    (houtside : Token.mark .semicolon ∈ tokens →
      Token.depthFrom 0 (Parser.beforeSemicolon tokens) = 0)
    (hlast : ∀ t ∈ (Parser.beforeSemicolon tokens).getLast?, t.closesBlank = false) :
    ∃ piece, split text = [piece] ∧ Statement.parse piece = .ok s ∧
      (∀ db : Database,
        db.executeScript text = (db.execute piece).map (fun result => [result]) ∧
        db.execute piece = (db.execute text).requote piece) ∧
      ∀ shell : Shell,
        shell.runStrictly text = shell.attempt piece ∧
        shell.runScript text = (shell.attempt piece).shown ∧
        shell.attempt piece = (shell.attempt text).requote piece := by
  obtain ⟨piece, hsplit, hpiece⟩ := split_of_statement hscan hparse houtside hlast
  refine ⟨piece, hsplit, hpiece, fun db => ⟨?_, ?_⟩, fun shell => ⟨?_, ?_, ?_⟩⟩
  · rw [Database.executeScript, hsplit, Database.executeAll_singleton]
  · exact (Database.execute_requote (hparse.trans hpiece.symm)).symm
  · rw [Shell.runStrictly, hsplit, Shell.attemptUntil_singleton]
  · rw [Shell.runScript, hsplit, Shell.attemptAll_singleton]
    rfl
  · exact (Shell.attempt_requote shell hparse hpiece).symm

/-- A removal with a semicolon in a comment and one at its end. -/
theorem split_agrees_with_parse_of_removal :
    Token.scan "DELETE FROM t/*;*/;" =
        .ok [.word "DELETE" none, .word "FROM" none, .word "t" none, .mark .semicolon] ∧
      Statement.parse "DELETE FROM t/*;*/;" = .ok (.delete ⟨"t", none⟩) ∧
      ∃ piece, split "DELETE FROM t/*;*/;" = [piece] ∧
        Statement.parse piece = .ok (.delete ⟨"t", none⟩) ∧
        (∀ db : Database,
          db.executeScript "DELETE FROM t/*;*/;" =
              (db.execute piece).map (fun result => [result]) ∧
            db.execute piece = (db.execute "DELETE FROM t/*;*/;").requote piece) ∧
        ∀ shell : Shell,
          shell.runStrictly "DELETE FROM t/*;*/;" = shell.attempt piece ∧
            shell.runScript "DELETE FROM t/*;*/;" = (shell.attempt piece).shown ∧
            shell.attempt piece = (shell.attempt "DELETE FROM t/*;*/;").requote piece := by
  have hscan : Token.scan "DELETE FROM t/*;*/;" =
      .ok [.word "DELETE" none, .word "FROM" none, .word "t" none, .mark .semicolon] := by
    with_unfolding_all rfl
  have hparse : Statement.parse "DELETE FROM t/*;*/;" = .ok (.delete ⟨"t", none⟩) := by
    rw [Statement.parse, hscan]
    with_unfolding_all rfl
  exact ⟨hscan, hparse,
    split_agrees_with_parse _ _ _ hscan hparse (fun _ => by decide) (by decide +kernel)⟩

/-- A semicolon inside the parentheses of a statement is a cut, although the statement goes on
behind it. -/
theorem split_cuts_in_group :
    ¬ ∀ (text : String) (s : Statement), Statement.parse text = .ok s →
      ∃ piece, split text = [piece] ∧ Statement.parse piece = .ok s := by
  intro h
  have hparse : Statement.parse "CREATE TABLE t (a; b)" =
      .ok (.createTable ⟨"t", false, [Column.define "a" [.mark .semicolon, .word "b" none]]⟩) := by
    with_unfolding_all rfl
  obtain ⟨piece, hsplit, -⟩ := h _ _ hparse
  have htwo : split "CREATE TABLE t (a; b)" = ["CREATE TABLE t (a", "b)"] := by decide +kernel
  rw [htwo] at hsplit
  cases hsplit

end Script

end MiniSql
