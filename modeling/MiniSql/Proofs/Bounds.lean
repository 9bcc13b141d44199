import MiniSql.Proofs.Cuts
import MiniSql.Proofs.Literals

/-!
# Counts and offsets within bounds

Reading a text involves three things that can go out of bounds: the negation of an integer, the
count of open parentheses in a group, and the bytes at which a script is cut. None does, for any
text. The magnitude behind a minus is not negative; a group begins with a parenthesis, so that
one is open at each closing one until the group ends; and semicolons are found in the order of
the text, each of them one byte.

**Results.**
* `Parser.countGroup_eq`: the count of a group ends where the group does and never falls below
  zero.
* `Script.ranges_within`, `Script.valid_of_mem_ranges`: a cut range is the bytes of characters that
  follow each other in the text.
* `Statement.bounds_of_parse`: all of it, for every text.
-/

namespace MiniSql

/-! ## Groups -/

namespace Parser

/-- How the count of a group fails. -/
inductive CountFault where
  /-- The tokens end with a parenthesis open. -/
  | unclosed
  /-- A closing parenthesis with none open. -/
  | underflow
deriving DecidableEq, Repr

/-- Counts the open parentheses up to the closing one that leaves none open: the tokens before
it, and those after it. -/
def countGroup (opened : Nat) : List Token → Except CountFault (List Token × List Token)
  | [] => .error .unclosed
  | t :: ts =>
    if t = .mark .rightParen ∧ opened = 0 then .error .underflow
    else if t = .mark .rightParen ∧ opened = 1 then .ok ([], ts)
    else (countGroup (Token.nest opened t) ts).map fun (read, rest) => (t :: read, rest)

/-- With one parenthesis open the count ends where the group is closed. -/
theorem countGroup_eq_closeGroup (depth : Nat) (tokens : List Token) :
    countGroup (depth + 1) tokens =
      match Token.closeGroup depth tokens with
      | some read => .ok read
      | none => .error .unclosed := by
  induction tokens generalizing depth with
  | nil => rfl
  | cons t ts ih =>
      rw [countGroup, Token.closeGroup, if_neg (by omega)]
      by_cases hcloses : t = .mark .rightParen ∧ depth = 0
      · rw [if_pos hcloses, if_pos ⟨hcloses.1, by rw [hcloses.2]⟩]
      · have hgoesOn : ¬ (t = .mark .rightParen ∧ depth + 1 = 1) :=
          fun h => hcloses ⟨h.1, Nat.succ.inj h.2⟩
        rw [if_neg hcloses, if_neg hgoesOn, Token.nest_add hcloses 1, ih]
        cases Token.closeGroup (Token.nest depth t) ts <;> rfl

/-- From its opening parenthesis on, the count of a group ends where the group does, or with a
parenthesis open. -/
theorem countGroup_eq {tokens : List Token} (h : tokens.head? = some (.mark .leftParen)) :
    countGroup 0 tokens ≠ .error .underflow ∧
      group tokens = ((countGroup 0 tokens).map (Prod.map List.tail id)).mapError
        fun _ => .malformed .unbalanced := by
  obtain ⟨ts, rfl⟩ := List.head?_eq_some_iff.mp h
  have hcount : countGroup 0 (.mark .leftParen :: ts) =
      (countGroup 1 ts).map (Prod.map (.mark .leftParen :: ·) id) := rfl
  rw [hcount, countGroup_eq_closeGroup 0 ts, group]
  cases Token.closeGroup 0 ts with
  | none =>
      refine ⟨fun heq => ?_, rfl⟩
      cases heq
  | some read =>
      refine ⟨fun heq => ?_, rfl⟩
      cases heq

end Parser

/-! ## Ranges -/

namespace Script

open String (utf8Len utf8Len_append)

/-- Each range between cuts is the bytes of characters that follow each other in the text. -/
theorem ranges_within {ls : List Lexeme}
    (hsemicolon : ∀ l ∈ ls, l.isSemicolon = true → l.source = [';']) (before passed : List Char) :
    ∀ range ∈ ranges (utf8Len before) (Lexer.cuts (utf8Len (before ++ passed)) ls)
        (utf8Len (before ++ passed ++ ls.flatMap Lexeme.source)),
      ∃ left inside right,
        before ++ passed ++ ls.flatMap Lexeme.source = left ++ (inside ++ right) ∧
          range = (utf8Len left, utf8Len (left ++ inside)) := by
  induction ls generalizing before passed with
  | nil =>
      intro range hrange
      obtain rfl := List.mem_singleton.mp hrange
      exact ⟨before, passed, [], by simp, by simp⟩
  | cons l ls ih =>
      have hlater := fun m hm => hsemicolon m (List.mem_cons_of_mem l hm)
      have htext : before ++ passed ++ (l :: ls).flatMap Lexeme.source =
          before ++ (passed ++ l.source) ++ ls.flatMap Lexeme.source := by
        simp
      have hoffset : utf8Len (before ++ passed) + utf8Len l.source =
          utf8Len (before ++ (passed ++ l.source)) := by
        rw [← utf8Len_append, List.append_assoc]
      intro range hrange
      rw [Lexer.cuts, hoffset, htext] at hrange
      cases hl : l.isSemicolon with
      | false =>
          rw [hl] at hrange
          obtain ⟨left, inside, right, heq, hbytes⟩ := ih hlater before _ range hrange
          exact ⟨left, inside, right, htext.trans heq, hbytes⟩
      | true =>
          -- The text goes on after the semicolon, with nothing passed yet.
          have hsource := hsemicolon l List.mem_cons_self hl
          rw [hl, if_pos rfl, List.singleton_append, ranges, List.mem_cons] at hrange
          rcases hrange with rfl | hrange
          · exact ⟨before, passed, (l :: ls).flatMap Lexeme.source, by simp, rfl⟩
          · have hstart : utf8Len (before ++ passed) + 1 =
                utf8Len (before ++ (passed ++ l.source)) := by
              rw [← hoffset, hsource]
              rfl
            have hrest := ih hlater (before ++ (passed ++ l.source)) [] range
            rw [List.append_nil] at hrest
            rw [hstart] at hrange
            obtain ⟨left, inside, right, heq, hbytes⟩ := hrest hrange
            exact ⟨left, inside, right, htext.trans heq, hbytes⟩

/-- The byte after a run of characters is a boundary of the text that goes on with others. -/
theorem isValid_of_append {text : String} {left right : List Char}
    (h : text.toList = left ++ right) : (⟨utf8Len left⟩ : String.Pos.Raw).IsValid text := by
  refine String.Pos.Raw.isValid_iff_exists_append.mpr
    ⟨String.ofList left, String.ofList right, ?_, ?_⟩
  · rw [← String.ofList_append, ← h, String.ofList_toList]
  · exact String.Pos.Raw.ext (String.utf8ByteSize_ofList left).symm

/-- Each range at which a text is cut lies within it, begins before it ends, and does both between
characters. -/
theorem valid_of_mem_ranges {text : String} {cuts : List Nat}
    (hcuts : Token.semicolonOffsets text = .ok cuts) {range : Nat × Nat}
    (hrange : range ∈ ranges 0 cuts text.utf8ByteSize) :
    range.1 ≤ range.2 ∧ range.2 ≤ text.utf8ByteSize ∧
      (⟨range.1⟩ : String.Pos.Raw).IsValid text ∧ (⟨range.2⟩ : String.Pos.Raw).IsValid text := by
  cases hlexemes : Lexer.lexemes .start text.toList with
  | error e =>
      rw [Token.semicolonOffsets, hlexemes] at hcuts
      cases hcuts
  | ok ls =>
      rw [Token.semicolonOffsets_eq hlexemes] at hcuts
      cases hcuts
      have hsource := fun l hl => Lexer.source_eq_of_isSemicolon (l := l) hlexemes hl
      have hsize : text.utf8ByteSize = utf8Len text.toList := by
        rw [← String.utf8ByteSize_ofList, String.ofList_toList]
      have hwithin := ranges_within hsource [] []
      rw [List.nil_append, List.nil_append, Lexer.lexemes_sources hlexemes, String.utf8Len_nil,
        ← hsize] at hwithin
      obtain ⟨left, inside, right, htext, rfl⟩ := hwithin range hrange
      have htext' : text.toList = (left ++ inside) ++ right :=
        htext.trans (List.append_assoc left inside right).symm
      refine ⟨by simp, ?_, isValid_of_append htext, isValid_of_append htext'⟩
      rw [hsize, htext', utf8Len_append (left ++ inside)]
      exact Nat.le_add_right _ _

end Script

/-! ## Texts -/

/-- For every text: each number token is read as a literal and what a minus negates is not the
least integer, so that no text is rejected for a literal; the count of open parentheses in a
group does not fall below zero; and each range at which the text is cut lies within it, begins
before it ends, and does both between characters. -/
theorem Statement.bounds_of_parse (sql : String) :
    (∀ text, Statement.parse sql ≠ .error (.invalidLiteral text)) ∧
      (∀ tokens, Token.scan sql = .ok tokens →
        (∀ digits long, .number digits long ∈ tokens →
          (∀ negative, ∃ l, Literal.readNumber digits negative = .ok l) ∧
            ∀ i, readInteger? digits.toList = some i → i ≠ Int64.minValue) ∧
        ∀ before group, tokens = before ++ group → group.head? = some (.mark .leftParen) →
          Parser.countGroup 0 group ≠ .error .underflow ∧
            Parser.group group =
              ((Parser.countGroup 0 group).map (Prod.map List.tail id)).mapError
                fun _ => .malformed .unbalanced) ∧
      ∀ cuts, Token.semicolonOffsets sql = .ok cuts →
        ∀ range ∈ Script.ranges 0 cuts sql.utf8ByteSize,
          range.1 ≤ range.2 ∧ range.2 ≤ sql.utf8ByteSize ∧
            (⟨range.1⟩ : String.Pos.Raw).IsValid sql ∧ (⟨range.2⟩ : String.Pos.Raw).IsValid sql := by
  refine ⟨?_, ?_, ?_⟩
  · intro text heq
    have hyields := Statement.yields_parse sql
    rw [heq] at hyields
    exact hyields text rfl
  · intro tokens hscan
    refine ⟨fun digits long hmem => ?_, fun _ group _ hopen => Parser.countGroup_eq hopen⟩
    have hnumeral := Token.numerals_of_scan hscan digits long hmem
    refine ⟨fun negative => ?_, fun i hread heq => ?_⟩
    · obtain ⟨l, hread, -⟩ := Literal.exists_readNumber hnumeral negative
      exact ⟨l, hread⟩
    · have hnonneg := hnumeral.nonneg_of_readInteger? hread
      rw [heq] at hnonneg
      exact absurd hnonneg (by decide)
  · exact fun cuts hcuts range hrange => Script.valid_of_mem_ranges hcuts hrange

/-- Letters of two bytes, the least integer, and a semicolon in a comment. -/
theorem Statement.bounds_of_parse_insertion :
    let sql := "INSERT INTO \u00e9 VALUES (-9223372036854775808);--\u00fc;"
    let digits := "9223372036854775808"
    let before : List Token :=
      [.word "INSERT" none, .word "INTO" none, .word "\u00e9" none, .word "VALUES" none]
    let group : List Token := [.mark .leftParen, .mark .minus, .number digits false,
      .mark .rightParen, .mark .semicolon]
    Token.scan sql = .ok (before ++ group) ∧ Token.semicolonOffsets sql = .ok [44] ∧
      (∃ l, Literal.readNumber digits true = .ok l) ∧
      (∀ i, readInteger? digits.toList = some i → i ≠ Int64.minValue) ∧
      Parser.countGroup 0 group ≠ .error .underflow ∧
      (⟨44⟩ : String.Pos.Raw).IsValid sql ∧ (⟨45⟩ : String.Pos.Raw).IsValid sql := by
  intro sql digits before group
  have hscan : Token.scan sql = .ok (before ++ group) := by decide +kernel
  have hcuts : Token.semicolonOffsets sql = .ok [44] := by decide +kernel
  obtain ⟨-, htokens, hranges⟩ := Statement.bounds_of_parse sql
  obtain ⟨hnumbers, hgroups⟩ := htokens _ hscan
  obtain ⟨hread, hmagnitude⟩ := hnumbers digits false (by decide)
  refine ⟨hscan, hcuts, hread true, hmagnitude, (hgroups before group rfl rfl).1, ?_, ?_⟩
  · exact (hranges _ hcuts (0, 44) (by decide +kernel)).2.2.2
  · exact (hranges _ hcuts (45, 50) (by decide +kernel)).2.2.1

end MiniSql
