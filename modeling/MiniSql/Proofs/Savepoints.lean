import MiniSql.Proofs.Heads
import MiniSql.Proofs.Joining
import MiniSql.Proofs.Scripts
import MiniSql.Proofs.Switches
import MiniSql.Proofs.Transactions

/-!
# Rollbacks to savepoints

There are no savepoints, and a rollback to one is refused, so that it does not undo the whole
transaction. The parser looks at the word behind `ROLLBACK` only: a `TO` there is refused with
whatever follows it, in every letter case and with any blanks and comments between the words. A
`TRANSACTION` between the two words hides the `TO`, and the statement is a plain `ROLLBACK`.

A text that is refused leaves a database as it is, on every way of executing it. As a statement of
a script it is passed over, or it ends the script.

**Results.**
* `Lexer.Refused.trim`: trimming keeps a text from being anything but refused.
* `Statement.parse_savepointRollback`: what the spellings of a rollback to a savepoint are read as.
* `savepoint_rollback_refused`: what executing them does.
* `savepoint_rollback_obeyed`: a spelling that undoes the whole transaction.
-/

namespace MiniSql

/-! ## Reading -/

/-- A rollback to a savepoint with its words as they are written. Two of them may be missing. -/
structure SavepointRollback where
  rollback : Keyword "ROLLBACK"
  transaction : Option (Keyword "TRANSACTION")
  link : Keyword "TO"
  savepoint : Option (Keyword "SAVEPOINT")
  name : Token
  name_ne : name ≠ .mark .semicolon

namespace SavepointRollback

/-- The tokens behind the first word. -/
def words (r : SavepointRollback) : List Token :=
  r.transaction.toList.map Keyword.token ++
    r.link.token :: (r.savepoint.toList.map Keyword.token ++ [r.name])

/-- The tokens of a rollback to a savepoint. -/
def tokens (r : SavepointRollback) : List Token :=
  r.rollback.token :: r.words

/-- The text spells the rollback, with semicolons behind it at most. -/
def IsSpelledBy (r : SavepointRollback) (sql : String) : Prop :=
  ∃ tail, Token.scan sql = .ok (r.tokens ++ tail) ∧ ∀ t ∈ tail, t = .mark .semicolon

end SavepointRollback

theorem Keyword.ne_mark {name : String} (k : Keyword name) (m : Mark) : k.token ≠ .mark m := by
  intro hmark
  have hspells := k.spells
  rw [hmark] at hspells
  cases hspells

theorem SavepointRollback.not_mem_words (r : SavepointRollback) :
    Token.mark .semicolon ∉ r.words := by
  have hname := r.name_ne.symm
  intro hmem
  simp only [words, List.mem_append, List.mem_map, Option.mem_toList, List.mem_cons,
    List.not_mem_nil, or_false] at hmem
  rcases hmem with ⟨k, -, hk⟩ | hlink | ⟨k, -, hk⟩ | hmem
  · exact k.ne_mark _ hk
  · exact r.link.ne_mark _ hlink.symm
  · exact k.ne_mark _ hk
  · exact hname hmem

theorem SavepointRollback.not_mem_tokens (r : SavepointRollback) :
    Token.mark .semicolon ∉ r.tokens := by
  rw [tokens, List.mem_cons, not_or]
  exact ⟨(r.rollback.ne_mark _).symm, r.not_mem_words⟩

theorem Parser.finish_of_semicolons {tail : List Token}
    (htail : ∀ t ∈ tail, t = .mark .semicolon) : finish tail = .ok () := by
  have hdrop : tail.dropWhile (· = .mark .semicolon) = [] :=
    List.dropWhile_eq_nil_iff.mpr fun t ht => decide_eq_true (htail t ht)
  rw [finish, hdrop]

theorem Parser.fromSemicolon_append {words tail : List Token}
    (hwords : Token.mark .semicolon ∉ words) (htail : ∀ t ∈ tail, t = .mark .semicolon) :
    fromSemicolon (words ++ tail) = tail := by
  have hpass : ∀ t ∈ words, decide (t ≠ .mark .semicolon) = true := by
    intro t ht
    exact decide_eq_true fun hmark => hwords (hmark ▸ ht)
  rw [fromSemicolon, List.dropWhile_append_of_pos hpass]
  cases tail with
  | nil => rfl
  | cons t ts => simp [htail t List.mem_cons_self]

namespace Statement

section Rollback

variable (k : Keyword "ROLLBACK") {rest : List Token}

theorem ofTokens_eq_statement :
    ofTokens (k.token :: rest) = (do
      let (s, rest) ← Parser.statement .rollback (k.token :: rest)
      Parser.finish rest
      .ok s) := by
  have hsome : ¬ (k.token :: rest).all (· = .mark .semicolon) = true := by
    simp [k.ne_mark]
  have hkind : StatementKind.ofTokens (k.token :: rest) = .rollback :=
    StatementKind.ofTokens_keyword k rest
  rw [ofTokens, if_neg hsome, hkind]

/-- A `TO` behind the first word is refused, whatever follows it. -/
theorem ofTokens_of_to (h : Parser.startsWith "TO" rest = true) :
    ofTokens (k.token :: rest) = .error (.unsupported .savepointRollback) := by
  have hread : Parser.rollback (k.token :: rest) = .error (.unsupported .savepointRollback) := by
    simp [Parser.rollback, Parser.expect_keyword, h, bind, Except.bind]
  rw [ofTokens_eq_statement, Parser.statement, hread]
  rfl

/-- Without it everything up to the semicolon is passed over. -/
theorem ofTokens_of_not_to (h : Parser.startsWith "TO" rest = false)
    (hrest : ∀ t ∈ Parser.fromSemicolon rest, t = .mark .semicolon) :
    ofTokens (k.token :: rest) = .ok .rollback := by
  have hread : Parser.rollback (k.token :: rest) = .ok (Parser.fromSemicolon rest) := by
    simp [Parser.rollback, Parser.expect_keyword, h, bind, Except.bind]
  have hfinish := Parser.finish_of_semicolons hrest
  rw [ofTokens_eq_statement, Parser.statement, hread]
  simp [Except.map, bind, Except.bind, hfinish]

end Rollback

/-- What a rollback to a savepoint is read as: it is refused, unless a `TRANSACTION` hides the
savepoint. -/
theorem parse_savepointRollback {r : SavepointRollback} {sql : String} (h : r.IsSpelledBy sql) :
    parse sql =
      if r.transaction.isSome then .ok .rollback
      else .error (.unsupported .savepointRollback) := by
  obtain ⟨tail, hscan, htail⟩ := h
  simp only [parse, hscan, SavepointRollback.tokens, List.cons_append]
  cases htransaction : r.transaction with
  | none =>
      have hlink : Parser.startsWith "TO" (r.words ++ tail) = true := by
        rw [SavepointRollback.words, htransaction]
        exact r.link.spells
      exact ofTokens_of_to r.rollback hlink
  | some k =>
      have hhidden : Parser.startsWith "TO" (r.words ++ tail) = false := by
        rw [SavepointRollback.words, htransaction]
        exact k.isKeyword_eq_false (by decide)
      refine ofTokens_of_not_to r.rollback hhidden ?_
      rwa [Parser.fromSemicolon_append r.not_mem_words htail]

end Statement

/-! ## Trimming -/

section Blanks

variable {name : String} (k : Keyword name)
  (hname : (Text.fold name).all (fun c => !Text.isBlank c) = true)

include hname

theorem Keyword.not_blank {value : String} (hvalue : k.token = .word value none) {c : Char}
    (hc : c ∈ value.toList) : Text.isBlank c = false := by
  obtain ⟨value', hvalue', hfold⟩ := k.exists_word
  obtain rfl : value = value' := by
    rw [hvalue] at hvalue'
    exact (Token.word.inj hvalue').1
  by_contra hblank
  rw [Bool.not_eq_false] at hblank
  have hlower : c.toLower = c :=
    Text.blank_forall (p := fun c => c.toLower = c) (by decide +kernel) c hblank
  have hmem : c.toLower ∈ Text.fold name := by
    rw [← (Text.sameFold_iff value name).mp hfold]
    exact List.mem_map_of_mem hc
  have hnone := List.all_eq_true.mp hname _ hmem
  rw [hlower, hblank] at hnone
  cases hnone

theorem Keyword.opensBlank_eq_false : k.token.opensBlank = false := by
  obtain ⟨value, hvalue, -⟩ := k.exists_word
  rw [hvalue, Token.opensBlank_bareWord, Option.any_eq_false]
  exact fun c hc => k.not_blank hname hvalue (List.mem_of_head? hc)

theorem Keyword.closesBlank_eq_false : k.token.closesBlank = false := by
  obtain ⟨value, hvalue, -⟩ := k.exists_word
  rw [hvalue, Token.closesBlank_bareWord, Option.any_eq_false]
  exact fun c hc => k.not_blank hname hvalue (List.mem_of_getLast? hc)

end Blanks

namespace Lexer

section Trimming

variable {b c : Char} {cs : List Char} {tokens : List Token}

/-- A lexeme that is the whole text. -/
theorem Scanned.of_lexeme {t : Option Token} (h : lexeme c cs = .ok (t, cs.length)) :
    Scanned (c :: cs) t.toList := by
  have hrest : Scanned (cs.drop cs.length) [] := by
    rw [List.drop_length]
    exact Scanned.nil
  simpa using Scanned.cons h hrest

/-- A word that ends with the text stays a word when its last character goes. -/
theorem scanned_of_word (hb : Text.isBlank b = true)
    (h : lexeme c (cs ++ [b]) =
      .ok (some (.word (String.ofList (c :: cs ++ [b])) none), cs.length + 1)) :
    ∃ tokens', Scanned (c :: cs) tokens' := by
  rw [lexeme_eq_read, Reader.choose_concat hb] at h
  have hreader : Reader.choose c cs.head? = .bareWord := by
    have hmakes := Reader.makes_of_read h
    cases hreader : Reader.choose c cs.head? with
    | bareWord => rfl
    | _ =>
        rw [hreader] at hmakes
        cases hmakes
  have hlexeme : lexeme c cs =
      .ok (some (.word (String.ofList (c :: cs.takeWhile isWordPart)) none),
        (cs.takeWhile isWordPart).length) := by
    rw [lexeme_eq_read, hreader, Reader.read]
  have hwhole : cs.takeWhile isWordPart = cs := by
    rw [hreader, Reader.read] at h
    have hlength : ((cs ++ [b]).takeWhile isWordPart).length = cs.length + 1 :=
      (Prod.mk.inj (Except.ok.inj h)).2
    have hall : (cs ++ [b]).takeWhile isWordPart = cs ++ [b] :=
      (List.takeWhile_prefix _).eq_of_length (by simpa using hlength)
    rw [List.takeWhile_eq_self_iff] at hall ⊢
    exact fun d hd => hall d (List.mem_append_left _ hd)
  rw [hwhole] at hlexeme
  exact ⟨_, Scanned.of_lexeme hlexeme⟩

/-- Without a blank at its end a text keeps its tokens but the last one. -/
theorem Scanned.exists_of_concat (hb : Text.isBlank b = true) (h : Scanned (cs ++ [b]) tokens) :
    ∃ tokens', Scanned cs tokens' ∧ tokens.dropLast <+: tokens' := by
  generalize htext : cs ++ [b] = text at h
  induction h generalizing cs with
  | nil => simp at htext
  | @cons c ds t n tokens hlexeme hrest ih =>
      cases cs with
      | nil =>
          obtain ⟨rfl, rfl⟩ := List.cons.inj htext
          rw [List.drop_nil] at hrest
          obtain rfl := hrest.eq_nil
          refine ⟨[], Scanned.nil, ?_⟩
          cases t <;> exact List.nil_prefix
      | cons c cs =>
          rw [List.cons_append] at htext
          obtain ⟨rfl, rfl⟩ := List.cons.inj htext
          have hdrop := drop_concat (b := b) n cs
          rcases lexeme_concat hb c cs with hsame | ⟨hlonger, hwhole⟩ | hword
          · by_cases hn : n ≤ cs.length
            · rw [if_pos hn] at hdrop
              obtain ⟨tokens', hscanned, hprefix⟩ := ih hdrop.symm
              refine ⟨_, Scanned.cons ((hsame _).mp hlexeme) hscanned, ?_⟩
              cases tokens with
              | nil =>
                  rw [List.append_nil]
                  exact (List.dropLast_prefix _).trans (List.prefix_append _ _)
              | cons u us =>
                  rw [List.dropLast_append_of_ne_nil (by simp)]
                  exact (List.prefix_append_right_inj _).mpr hprefix
            · rw [if_neg hn] at hdrop
              rw [hdrop] at hrest
              exact ⟨_, Scanned.cons ((hsame _).mp hlexeme) hrest, List.dropLast_prefix _⟩
          · rw [hlonger] at hlexeme
            cases hlexeme
            rw [List.drop_eq_nil_iff.mpr (by simp)] at hrest
            obtain rfl := hrest.eq_nil
            exact ⟨_, Scanned.of_lexeme hwhole, List.nil_prefix⟩
          · obtain ⟨tokens', hscanned⟩ := scanned_of_word hb hword
            rw [hword] at hlexeme
            cases hlexeme
            rw [List.drop_eq_nil_iff.mpr (by simp)] at hrest
            obtain rfl := hrest.eq_nil
            exact ⟨tokens', hscanned, List.nil_prefix⟩

/-- The text begins with the words of a rollback to a savepoint. -/
def Refused (cs : List Char) : Prop :=
  ∃ (k : Keyword "ROLLBACK") (link : Keyword "TO") (rest : List Token),
    Scanned cs (k.token :: link.token :: rest)

theorem Refused.of_blank_cons (hb : Text.isBlank b = true) (h : Refused (b :: cs)) :
    Refused cs := by
  obtain ⟨k, link, rest, hscanned⟩ := h
  refine ⟨k, link, rest, hscanned.of_blank_cons hb fun t ht => ?_⟩
  obtain rfl := Option.mem_some_iff.mp ht
  exact k.opensBlank_eq_false (by decide +kernel)

theorem Refused.of_concat (hb : Text.isBlank b = true) (h : Refused (cs ++ [b])) : Refused cs := by
  obtain ⟨k, link, rest, hscanned⟩ := h
  cases rest with
  | nil =>
      refine ⟨k, link, [], hscanned.of_concat hb fun t ht => ?_⟩
      obtain rfl := Option.mem_some_iff.mp ht
      exact link.closesBlank_eq_false (by decide +kernel)
  | cons t rest =>
      obtain ⟨tokens, hscanned', others, rfl⟩ := hscanned.exists_of_concat hb
      exact ⟨k, link, _, hscanned'⟩

/-- Trimming keeps a text refused. -/
theorem Refused.trim (h : Refused cs) : Refused (Text.trimEnd (Text.trimStart cs)) :=
  Text.trim_induction (p := Refused) (fun _ _ hb h => h.of_blank_cons hb)
    (fun _ _ hb h => h.of_concat hb) h

end Trimming

end Lexer

/-! ## Scripts -/

namespace Script

theorem exists_parse_of_refused {piece : String} (h : Lexer.Refused piece.toList) :
    isStatement piece = true ∧
      Statement.parse piece = .error (.unsupported .savepointRollback) := by
  obtain ⟨k, link, rest, hscanned⟩ := h
  have hscan := Token.scan_eq_ok_iff.mpr hscanned
  refine ⟨by rw [isStatement_of_scan hscan]; simp, ?_⟩
  simp only [Statement.parse, hscan]
  exact Statement.ofTokens_of_to k link.spells

/-- The semicolons behind a text make no pieces. -/
theorem filter_segments_of_semicolons {segments : List (List Char)} {tail : List Token}
    (htail : ∀ t ∈ tail, t = .mark .semicolon)
    (h : List.Forall₂ Lexer.Scanned segments (tail.splitOn (.mark .semicolon))) :
    (segments.map fun cs => Text.trim (String.ofList cs)).filter isStatement = [] := by
  have hruns := filter_splitOn_semicolons htail
  have hnil : ∀ run ∈ tail.splitOn (.mark .semicolon), run = [] := by
    simpa [List.filter_eq_nil_iff] using hruns
  have hscan := map_scan_filter h fun run hrun => by
    rw [hnil run hrun]
    exact ⟨by rintro t ⟨⟩, by rintro t ⟨⟩⟩
  rw [hruns] at hscan
  exact List.map_eq_nil_iff.mp hscan

/-- A script that is refused is one piece, and the piece is refused. -/
theorem split_of_refused {k : Keyword "ROLLBACK"} {link : Keyword "TO"} {rest tail : List Token}
    {sql : String} (hscan : Token.scan sql = .ok (k.token :: link.token :: rest ++ tail))
    (hbody : Token.mark .semicolon ∉ k.token :: link.token :: rest)
    (htail : ∀ t ∈ tail, t = .mark .semicolon) :
    ∃ piece, split sql = [piece] ∧
      Statement.parse piece = .error (.unsupported .savepointRollback) := by
  obtain ⟨segments, hsplit, hsegments⟩ := exists_segments hscan
  -- The first run of tokens is the rollback; the others, if any, are empty.
  obtain ⟨runs, hruns, hrest⟩ : ∃ runs : List (List Token),
      (k.token :: link.token :: rest ++ tail).splitOn (.mark .semicolon) =
        (k.token :: link.token :: rest) :: runs ∧
      ∀ segments, List.Forall₂ Lexer.Scanned segments runs →
        (segments.map fun cs => Text.trim (String.ofList cs)).filter isStatement = [] := by
    cases tail with
    | nil =>
        refine ⟨[], ?_, fun segments h => ?_⟩
        · rw [List.append_nil, List.splitOn_eq_singleton hbody]
        · cases h
          rfl
    | cons t ts =>
        obtain rfl := htail t List.mem_cons_self
        refine ⟨ts.splitOn (.mark .semicolon),
          List.splitOn_append_cons_self_of_not_mem hbody ts, ?_⟩
        exact fun segments =>
          filter_segments_of_semicolons fun u hu => htail u (List.mem_cons_of_mem _ hu)
  rw [hruns] at hsegments
  cases hsegments with
  | @cons first _ others _ hfirst hothers =>
      have hrefused : Lexer.Refused (Text.trim (String.ofList first)).toList := by
        rw [Text.trim, String.toList_ofList, String.toList_ofList]
        exact Lexer.Refused.trim ⟨k, link, rest, hfirst⟩
      obtain ⟨hstatement, hparse⟩ := exists_parse_of_refused hrefused
      refine ⟨_, ?_, hparse⟩
      rw [hsplit, List.map_cons, List.filter_cons_of_pos hstatement, hrest others hothers]

end Script

namespace Database

section Refused

variable {sql : String} {e : ParseError}

/-- What is no statement leaves a database as it is. -/
theorem database_execute_of_unread (db : Database) (h : Statement.parse sql = .error e) :
    (db.execute sql).database = db := by
  rw [execute, executeText, h]
  exact database_unhandled ..

theorem database_handle_of_unread (db : Database) (h : Statement.parse sql = .error e)
    (params : List Value) :
    (db.run (.ofText sql) params).database = db ∧
      (db.fetchOne (.ofText sql) params).database = db ∧
      (db.fetchMany (.ofText sql) params).database = db := by
  simp only [run, runPrepared, fetchOne, fetchMany, Prepared.ofText, h, database_unhandled,
    and_self]

theorem config_executeAll (db : Database) (texts : List String) :
    (db.executeAll texts).database.config = db.config := by
  induction texts generalizing db with
  | nil => rfl
  | cons sql rest ih =>
      have hfirst : (db.execute sql).database.config = db.config :=
        config_of_moves (moves_answer db (.execute sql))
      rw [executeAll]
      cases hresult : (db.execute sql).result with
      | error e => rwa [Answer.andThen_of_error _ hresult]
      | ok result =>
          rw [Answer.andThen_of_ok _ hresult, Answer.database_after, Answer.database_map, ih,
            hfirst]

/-- Among other statements, what is no statement is passed over or ends the script. -/
theorem database_executeAll_of_unread (db : Database) (h : Statement.parse sql = .error e)
    (before after : List String) :
    (db.executeAll (before ++ sql :: after)).database =
      match db.config.unsupported with
      | .degrade => (db.executeAll (before ++ after)).database
      | .reject => (db.executeAll before).database := by
  have hconfig := config_executeAll db before
  rw [executeAll_append, executeAll_append]
  cases hbefore : (db.executeAll before).result with
  | error e =>
      simp only [Answer.andThen_of_error _ hbefore]
      split <;> rfl
  | ok results =>
      simp only [Answer.andThen_of_ok _ hbefore, Answer.database_after, Answer.database_map]
      generalize (db.executeAll before).database = now at hconfig ⊢
      rw [executeAll, execute, executeText, h, ← hconfig]
      cases hpolicy : now.config.unsupported with
      | degrade => simp only [unhandled, hpolicy, Answer.andThen, Answer.database_after,
          Answer.database_map]
      | reject => simp only [unhandled, hpolicy, Answer.andThen, fail]

end Refused

end Database

/-- A rollback to a savepoint is refused in every spelling without `TRANSACTION`, and then
executing it leaves the database as it is, as a text, through a handle, as a script, or among
the statements of a script. In a spelling with `TRANSACTION` it is a `ROLLBACK` that undoes the
whole transaction. -/
theorem savepoint_rollback_refused (r : SavepointRollback) (sql : String)
    (h : r.IsSpelledBy sql) :
    (r.transaction = none →
      Statement.parse sql = .error (.unsupported .savepointRollback) ∧
      ∀ db : Database,
        (db.execute sql).database = db ∧
        (∀ params : List Value,
          (db.run (.ofText sql) params).database = db ∧
          (db.fetchOne (.ofText sql) params).database = db ∧
          (db.fetchMany (.ofText sql) params).database = db) ∧
        (db.executeScript sql).database = db ∧
        ∀ (text : String) (before after : List String),
          Script.split text = before ++ sql :: after →
          (db.executeScript text).database =
            match db.config.unsupported with
            | .degrade => (db.executeAll (before ++ after)).database
            | .reject => (db.executeAll before).database) ∧
    (r.transaction ≠ none →
      Statement.parse sql = .ok .rollback ∧
      ∀ (db : Database) (saved : Registry), db.snapshot = some saved →
        db.Closes (.execute sql) saved) := by
  have hread := Statement.parse_savepointRollback h
  refine ⟨fun htransaction => ?_, fun htransaction => ?_⟩
  · rw [htransaction] at hread
    have hparse : Statement.parse sql = .error (.unsupported .savepointRollback) := hread
    refine ⟨hparse, fun db => ⟨db.database_execute_of_unread hparse,
      db.database_handle_of_unread hparse, ?_, ?_⟩⟩
    · obtain ⟨tail, hscan, htail⟩ := h
      have htokens : r.tokens = r.rollback.token :: r.link.token ::
          (r.savepoint.toList.map Keyword.token ++ [r.name]) := by
        rw [SavepointRollback.tokens, SavepointRollback.words, htransaction]
        rfl
      have hbody := r.not_mem_tokens
      rw [htokens] at hscan hbody
      obtain ⟨piece, hsplit, hpiece⟩ := Script.split_of_refused hscan hbody htail
      rw [Database.executeScript, hsplit, Database.executeAll_singleton, Answer.database_map,
        db.database_execute_of_unread hpiece]
    · intro text before after hsplit
      rw [Database.executeScript, hsplit, db.database_executeAll_of_unread hparse]
  · rw [if_pos (Option.isSome_iff_ne_none.mpr htransaction)] at hread
    refine ⟨hread, fun db saved hopen => Database.closes_rollback ?_ hopen⟩
    show commandOf (Statement.parse sql) = some .rollback
    rw [hread]
    rfl

/-- In small letters, with a comment, a quoted name and a semicolon. -/
theorem savepoint_rollback_refused_in_comment :
    let r : SavepointRollback :=
      ⟨⟨.word "rollback" none, by decide⟩, none, ⟨.word "To" none, by decide⟩,
        some ⟨.word "Savepoint" none, by decide⟩, .word "a b" (some .double), by decide⟩
    r.IsSpelledBy "rollback--\nTo/* the */Savepoint\t\x22a b\x22;" ∧ r.transaction = none ∧
      Statement.parse "rollback--\nTo/* the */Savepoint\t\x22a b\x22;" =
        .error (.unsupported .savepointRollback) ∧
      ∀ db : Database,
        (db.execute "rollback--\nTo/* the */Savepoint\t\x22a b\x22;").database = db := by
  intro r
  have hscan : Token.scan "rollback--\nTo/* the */Savepoint\t\x22a b\x22;" =
      .ok (r.tokens ++ [.mark .semicolon]) := by
    with_unfolding_all rfl
  have hspelled : r.IsSpelledBy "rollback--\nTo/* the */Savepoint\t\x22a b\x22;" :=
    ⟨_, hscan, by simp⟩
  obtain ⟨hparse, hall⟩ := (savepoint_rollback_refused r _ hspelled).1 rfl
  exact ⟨hspelled, rfl, hparse, fun db => (hall db).1⟩

/-- A rollback to a savepoint within which everything since `BEGIN` is lost: the relation that
was created, and the transaction itself. -/
theorem savepoint_rollback_obeyed :
    let db : Database := ⟨.strict, ⟨[("t", ⟨"t", [], 1, []⟩)]⟩, some .empty, 0⟩
    Token.scan "ROLLBACK TRANSACTION TO a" =
        .ok [.word "ROLLBACK" none, .word "TRANSACTION" none, .word "TO" none, .word "a" none] ∧
      Statement.parse "ROLLBACK TRANSACTION TO a" = .ok .rollback ∧
      (db.execute "ROLLBACK TRANSACTION TO a").database.registry = .empty ∧
      (db.execute "ROLLBACK TRANSACTION TO a").database.snapshot = none := by
  intro db
  have hscan : Token.scan "ROLLBACK TRANSACTION TO a" =
      .ok [.word "ROLLBACK" none, .word "TRANSACTION" none, .word "TO" none, .word "a" none] := by
    with_unfolding_all rfl
  have hparse : Statement.parse "ROLLBACK TRANSACTION TO a" = .ok .rollback := by
    rw [Statement.parse, hscan]
    with_unfolding_all rfl
  have hexecute : db.execute "ROLLBACK TRANSACTION TO a" = db.control .rollback := by
    rw [Database.execute, Database.executeText, hparse]
    rfl
  rw [hexecute]
  exact ⟨hscan, hparse, rfl, rfl⟩

end MiniSql
