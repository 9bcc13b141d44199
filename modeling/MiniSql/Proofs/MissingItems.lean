import MiniSql.Proofs.Heads

/-!
# Missing items

A list of columns, values, assignments or definitions is cut at its commas, and nothing between
two of them, or before the first one, is read as an item: no reader takes it for one. A clause is
different. It is cut as well, but a part of it that is not understood is kept, and nothing is such
a part: no clause is rejected for what it holds, whatever is missing in it.

**Results.**
* `Token.nil_mem_splitAtCommas`: a gap in a list is an item without tokens.
* `HasList.nil_not_mem`: no list of a statement that is read has such an item.
* `Statement.exists_outcome`, `Statement.parse_removal`: what becomes of a text does not depend on
  its clause.
* `Predicate.other_mem_of_missing`: an `AND` with nothing on one side of it.
* `Statement.missing_items`: lists are rejected and clauses are not.
-/

namespace MiniSql

open Token (outside depthFrom nest ClauseMode CutsClause)

/-! ## Gaps in lists -/

namespace Token

/-- A comma outside parentheses with nothing before it, or directly after a comma. -/
def HasGap (list : List Token) : Prop :=
  ∃ before after, list = before ++ .mark .comma :: after ∧ depthFrom 0 before = 0 ∧
    ∀ t ∈ before.getLast?, t = .mark .comma

theorem nil_mem_splitFrom {depth : Nat} {current before after : List Token}
    (hdepth : depthFrom depth before = 0) (hlast : ∀ t ∈ before.getLast?, t = .mark .comma)
    (hcurrent : before = [] → current = []) :
    [] ∈ splitFrom (· = .mark .comma) depth current (before ++ .mark .comma :: after) := by
  induction before generalizing depth current with
  | nil =>
      obtain rfl : depth = 0 := hdepth
      rw [hcurrent rfl]
      exact List.mem_cons_self
  | cons t ts ih =>
      rw [List.cons_append, splitFrom]
      cases ts with
      | nil =>
          obtain rfl := hlast t rfl
          obtain rfl : depth = 0 := hdepth
          exact List.mem_cons_of_mem _ List.mem_cons_self
      | cons u us =>
          rw [List.getLast?_cons_cons] at hlast
          split
          · next hcut =>
              obtain ⟨rfl, ht⟩ : depth = 0 ∧ t = .mark .comma := by simpa using hcut
              subst ht
              exact List.mem_cons_of_mem _ (ih hdepth hlast fun hnil => absurd hnil (List.cons_ne_nil u us))
          · exact ih hdepth hlast fun hnil => absurd hnil (List.cons_ne_nil u us)

/-- A gap in a list is an item without tokens. -/
theorem nil_mem_splitAtCommas {list : List Token} (h : HasGap list) :
    [] ∈ splitAtCommas list := by
  obtain ⟨before, after, rfl, hdepth, hlast⟩ := h
  exact nil_mem_splitFrom hdepth hlast fun _ => rfl

end Token

/-! ## Readers of lists -/

/-- A reader that takes its items one after the other, and no item without tokens, has met
none. -/
theorem nil_not_mem_of_readAll {σ β : Type}
    {readAll : σ → List (List Token) → Except ParseError β}
    (hstep : ∀ s p ps b, readAll s (p :: ps) = .ok b →
      p ≠ [] ∧ ∃ s' b', readAll s' ps = .ok b')
    {s : σ} {pieces : List (List Token)} {b : β} (h : readAll s pieces = .ok b) : [] ∉ pieces := by
  induction pieces generalizing s b with
  | nil => exact List.not_mem_nil
  | cons p ps ih =>
      obtain ⟨hp, s', b', hrest⟩ := hstep s p ps b h
      exact List.not_mem_cons_of_ne_of_not_mem hp.symm (ih hrest)

theorem Operand.nil_not_mem {slot : Nat} {pieces : List (List Token)}
    {read : List Operand × Nat} (h : Operand.readAll slot pieces = .ok read) : [] ∉ pieces := by
  refine nil_not_mem_of_readAll (fun slot p ps b hread => ?_) h
  obtain ⟨⟨v, slot⟩, hv, hread⟩ := exists_of_bind_ok hread
  obtain ⟨rest, hrest, -⟩ := exists_of_bind_ok hread
  refine ⟨?_, slot, rest, hrest⟩
  rintro rfl
  cases hv

theorem Parser.nil_not_mem_of_assignments {slot : Nat} {pieces : List (List Token)}
    {read : List Assignment × Nat} (h : assignments slot pieces = .ok read) : [] ∉ pieces := by
  refine nil_not_mem_of_readAll (fun slot p ps b hread => ?_) h
  obtain ⟨⟨a, slot⟩, ha, hread⟩ := exists_of_bind_ok hread
  obtain ⟨rest, hrest, -⟩ := exists_of_bind_ok hread
  refine ⟨?_, slot, rest, hrest⟩
  rintro rfl
  cases ha

theorem Column.nil_not_mem {columns columns' : List Column} {definitions : List (List Token)}
    (h : Column.readAll columns definitions = .ok columns') : [] ∉ definitions := by
  refine nil_not_mem_of_readAll (fun columns d ds b hread => ?_) h
  obtain ⟨columns', hadd, hrest⟩ := exists_of_bind_ok hread
  refine ⟨?_, columns', b, hrest⟩
  rintro rfl
  cases hadd

theorem nil_not_mem_of_columns {pieces : List (List Token)} {columns : List String}
    (h : pieces.mapM columnName = .ok columns) : [] ∉ pieces := by
  intro hmem
  obtain ⟨column, hcolumn⟩ := exists_of_mapM_ok h [] hmem
  cases hcolumn

/-! ## Lists of statements -/

/-- Nothing, or a group in parentheses. -/
def IsOptionalGroup (group : List Token) : Prop :=
  group = [] ∨ ∃ inner, Token.balanced 0 inner = true ∧
    group = .mark .leftParen :: inner ++ [.mark .rightParen]

/-- The list stands in the text as the columns or values of an insertion, the assignments of an
update or the definitions of a creation. -/
inductive HasList (sql : String) : List Token → Prop
  | columns {relation : String} {head columns after : List Token}
      (hhead : IsInsertHead relation head) (hcolumns : Token.balanced 0 columns = true)
      (hscan : Token.scan sql =
        .ok (head ++ .mark .leftParen :: (columns ++ .mark .rightParen :: after))) :
      HasList sql columns
  | values {relation : String} {head columns values after : List Token}
      (hhead : IsInsertHead relation head)
      (hcolumns : IsOptionalGroup columns) (keyword : Keyword "VALUES")
      (hvalues : Token.balanced 0 values = true)
      (hscan : Token.scan sql = .ok (head ++ (columns ++ keyword.token :: .mark .leftParen ::
        (values ++ .mark .rightParen :: after)))) :
      HasList sql values
  | assignments {relation : String} {head list after : List Token}
      (hhead : IsUpdateHead relation head) (hlist : RunsTo (·.isKeyword "WHERE") list after)
      (hscan : Token.scan sql = .ok (head ++ (list ++ after))) :
      HasList sql list
  | definitions {body : List Token} (hbody : IsDefinedBy sql body) : HasList sql body

theorem Keyword.head?_ne {keyword : String} (k : Keyword keyword) (m : Mark) (rest : List Token) :
    (k.token :: rest).head? ≠ some (.mark m) := by
  obtain ⟨value, hvalue, -⟩ := k.exists_word
  simp [hvalue]

theorem IsOptionalGroup.head?_ne {group rest : List Token} (h : IsOptionalGroup group)
    (hrest : rest.head? ≠ some (.mark .period)) :
    (group ++ rest).head? ≠ some (.mark .period) := by
  rcases h with rfl | ⟨inner, -, rfl⟩
  · exact hrest
  · simp

theorem Parser.optionalGroup_append {group rest : List Token} (h : IsOptionalGroup group)
    (hrest : rest.head? ≠ some (.mark .leftParen)) :
    ∃ list, optionalGroup (group ++ rest) = .ok (list, rest) := by
  rcases h with rfl | ⟨inner, hinner, rfl⟩
  · exact ⟨none, if_neg hrest⟩
  · refine ⟨some inner, ?_⟩
    rw [List.cons_append, List.cons_append, List.append_assoc, List.singleton_append]
    exact optionalGroup_of_balanced hinner

namespace Statement

variable {sql relation : String} {head after : List Token} {s : Statement}

theorem exists_insert (hhead : IsInsertHead relation head)
    (hscan : Token.scan sql = .ok (head ++ after)) (hparse : parse sql = .ok s) :
    ∃ t rest, Parser.insert (head ++ after) = .ok (t, rest) := by
  obtain ⟨tokens, rest, hscan', hkind, hread⟩ := exists_of_parse hparse
  obtain rfl := Except.ok.inj (hscan'.symm.trans hscan)
  obtain ⟨insert, into, name, rfl, -⟩ := hhead
  rw [List.cons_append, StatementKind.ofTokens_insert] at hkind
  cases s with
  | insert t => exact ⟨t, rest, hread⟩
  | _ => cases hkind

theorem exists_update (hhead : IsUpdateHead relation head)
    (hscan : Token.scan sql = .ok (head ++ after)) (hparse : parse sql = .ok s) :
    ∃ t rest, Parser.update (head ++ after) = .ok (t, rest) := by
  obtain ⟨tokens, rest, hscan', hkind, hread⟩ := exists_of_parse hparse
  obtain rfl := Except.ok.inj (hscan'.symm.trans hscan)
  obtain ⟨update, name, set, rfl, -⟩ := hhead
  rw [List.cons_append, StatementKind.ofTokens_update] at hkind
  cases s with
  | update t => exact ⟨t, rest, hread⟩
  | _ => cases hkind

theorem exists_createTable (hhead : IsCreateHead relation head)
    (hscan : Token.scan sql = .ok (head ++ after)) (hparse : parse sql = .ok s) :
    ∃ t rest, Parser.createTable (head ++ after) = .ok (t, rest) := by
  obtain ⟨tokens, rest, hscan', hkind, hread⟩ := exists_of_parse hparse
  obtain rfl := Except.ok.inj (hscan'.symm.trans hscan)
  obtain ⟨create, temporary, table, existing, name, rfl, -⟩ := hhead
  rcases StatementKind.ofTokens_create create _ with hcreate | hunknown
  · replace hkind := hkind.trans hcreate
    cases s with
    | createTable t => exact ⟨t, rest, hread⟩
    | _ => cases hkind
  · exact absurd (hkind.trans hunknown) s.kind_ne_unknown

end Statement

/-- The items of a list in a statement have tokens. -/
theorem HasList.nil_not_mem {sql : String} {list : List Token} {s : Statement}
    (h : HasList sql list) (hparse : Statement.parse sql = .ok s) :
    [] ∉ Token.splitAtCommas list := by
  cases h with
  | columns hhead hcolumns hscan =>
      obtain ⟨t, rest, ht⟩ := Statement.exists_insert hhead hscan hparse
      obtain ⟨group, afterGroup, -, -, -, hgroup, hnames, -⟩ :=
        Parser.lists_of_insert hhead (by simp) ht
      rw [Parser.optionalGroup_of_balanced hcolumns] at hgroup
      cases hgroup
      exact nil_not_mem_of_columns hnames
  | values hhead hcolumns keyword hvalues hscan =>
      obtain ⟨t, rest, ht⟩ := Statement.exists_insert hhead hscan hparse
      obtain ⟨group, afterGroup, afterValues, values, slot, hgroup, -, hkeyword, hlist, hread⟩ :=
        Parser.lists_of_insert hhead (hcolumns.head?_ne (keyword.head?_ne _ _)) ht
      obtain ⟨columns, hcolumns⟩ := Parser.optionalGroup_append hcolumns (keyword.head?_ne _ _)
      rw [hcolumns] at hgroup
      cases hgroup
      rw [Parser.expect_keyword] at hkeyword
      cases hkeyword
      rw [Parser.group_of_balanced hvalues] at hlist
      cases hlist
      exact Operand.nil_not_mem hread
  | assignments hhead hlist hscan =>
      obtain ⟨t, rest, ht⟩ := Statement.exists_update hhead hscan hparse
      obtain ⟨slot, hread⟩ := Parser.assignments_of_update hhead hlist ht
      exact Parser.nil_not_mem_of_assignments hread
  | definitions hbody =>
      obtain ⟨relation, head, after, hhead, hbalanced, hscan⟩ := hbody
      obtain ⟨t, rest, ht⟩ := Statement.exists_createTable hhead hscan hparse
      exact Column.nil_not_mem (Parser.definitions_of_createTable hhead hbalanced ht)

/-! ## Clauses -/

/-- The clause of a statement. -/
def Statement.predicate? : Statement → Option Predicate
  | update s => s.predicate
  | delete s => s.predicate
  | select s => s.predicate
  | _ => none

/-- Nothing, or a word in the place of an alias, with or without an `AS`. -/
def IsAlias (label : List Token) : Prop :=
  label = [] ∨
    (∃ (as : Keyword "AS") (value : String) (quote : Option Quote),
      label = [as.token, .word value quote]) ∨
    ∃ value quote, label = [.word value quote] ∧
      (Token.word value quote).isOneOf ("AS" :: "WHERE" :: clauseEnds) = false

/-- The tokens of a statement up to its clause: of a removal, of an update or of a query. -/
inductive IsClauseHead : List Token → Prop
  | delete {relation : String} {name : List Token} (delete : Keyword "DELETE")
      (source : Keyword "FROM") (hname : IsRelationName relation name) :
      IsClauseHead (delete.token :: source.token :: name)
  | update {relation : String} {head list : List Token} (hhead : IsUpdateHead relation head)
      (hlist : Unstopped (·.isKeyword "WHERE") list) (hdepth : depthFrom 0 list = 0) :
      IsClauseHead (head ++ list)
  | select {relation : String} {list name label : List Token} (select : Keyword "SELECT")
      (hlist : Unstopped (·.isKeyword "FROM") list) (hdepth : depthFrom 0 list = 0)
      (source : Keyword "FROM") (hname : IsRelationName relation name) (hlabel : IsAlias label) :
      IsClauseHead (select.token :: (list ++ source.token :: (name ++ label)))

/-- The text is a statement with a clause: tokens up to it, its own, and those behind it. -/
def HasClause (sql : String) (head clause after : List Token) : Prop :=
  ∃ condition : Keyword "WHERE", IsClauseHead head ∧ clause ≠ [] ∧
    RunsTo (Token.isOneOf clauseEnds) clause after ∧
    Token.scan sql = .ok (head ++ condition.token :: (clause ++ after))

/-- A statement that lacks its predicate, and the first slot that is free for it. -/
structure Completion where
  slot : Nat
  make : Predicate → Statement
  predicate : ∀ p, (make p).predicate? = some p

/-- The statement with the predicate of a clause. -/
def Completion.complete (c : Completion) (clause : List Token) : Statement :=
  c.make (Predicate.ofTokens c.slot clause).1

theorem Predicate.read_of_runsTo (condition : Keyword "WHERE") {clause after : List Token}
    (hne : clause ≠ []) (h : RunsTo (Token.isOneOf clauseEnds) clause after) (slot : Nat) :
    read slot (condition.token :: (clause ++ after)) =
      .ok (some (ofTokens slot clause).1, after) := by
  rw [read, if_pos condition.spells, h.takeUntil_eq]
  simp [hne]

theorem takeUntil_keyword {keyword : String} (k : Keyword keyword) {list : List Token}
    (h : Unstopped (·.isKeyword keyword) list) (hdepth : depthFrom 0 list = 0)
    (rest : List Token) :
    Token.takeUntil (·.isKeyword keyword) 0 (list ++ k.token :: rest) = (list, k.token :: rest) :=
  RunsTo.takeUntil_eq ⟨h, Or.inr ⟨hdepth, k.token, rest, rfl, Or.inr k.spells⟩⟩

namespace Parser

theorem skipAlias_append {label : List Token} (h : IsAlias label) (condition : Keyword "WHERE")
    (rest : List Token) :
    skipAlias (label ++ condition.token :: rest) = .ok (condition.token :: rest) := by
  rcases h with rfl | ⟨as, value, quote, rfl⟩ | ⟨value, quote, rfl, hplain⟩
  · exact skipAlias_keyword condition rest
  · have has : startsWith "AS" ([as.token, .word value quote] ++ condition.token :: rest) = true :=
      as.spells
    rw [skipAlias, if_pos has]
    rfl
  · rw [Token.isOneOf, List.any_cons, Bool.or_eq_false_iff] at hplain
    have has : startsWith "AS" ([.word value quote] ++ condition.token :: rest) = false :=
      hplain.1
    have hclause : startsWithAny ("WHERE" :: clauseEnds)
        ([.word value quote] ++ condition.token :: rest) = false := hplain.2
    rw [skipAlias, has, hclause]
    rfl

theorem delete_of_clause {relation : String} {name clause after : List Token}
    (delete' : Keyword "DELETE") (source : Keyword "FROM") (hname : IsRelationName relation name)
    (condition : Keyword "WHERE") (hne : clause ≠ [])
    (hruns : RunsTo (Token.isOneOf clauseEnds) clause after) :
    delete (delete'.token :: source.token :: (name ++ condition.token :: (clause ++ after))) =
      .ok (⟨relation, some (Predicate.ofTokens 0 clause).1⟩, after) := by
  simp only [delete, expect_keyword, relationName_append hname (condition.head?_ne _ _),
    Predicate.read_of_runsTo condition hne hruns, bind, Except.bind]

theorem update_of_clause {relation : String} {name list clause after : List Token}
    (update' : Keyword "UPDATE") (hname : IsRelationName relation name) (set : Keyword "SET")
    (hlist : Unstopped (·.isKeyword "WHERE") list) (hdepth : depthFrom 0 list = 0)
    (condition : Keyword "WHERE") (hne : clause ≠ [])
    (hruns : RunsTo (Token.isOneOf clauseEnds) clause after) :
    update (update'.token :: (name ++ set.token :: (list ++ condition.token ::
        (clause ++ after)))) =
      if startsWith "OR" name then .error (.unsupported .updateConflict)
      else assignments 0 (Token.splitAtCommas list) >>= fun read =>
        if read.1 = [] then .error (.malformed .noAssignments)
        else .ok (⟨relation, read.1, some (Predicate.ofTokens read.2 clause).1⟩, after) := by
  simp only [update, expect_keyword, startsWith_name hname,
    relationName_append hname (set.head?_ne _ _), takeUntil_keyword condition hlist hdepth,
    Predicate.read_of_runsTo condition hne hruns, bind, Except.bind]

theorem select_of_clause {relation : String} {list name label clause after : List Token}
    (select' : Keyword "SELECT") (hlist : Unstopped (·.isKeyword "FROM") list)
    (hdepth : depthFrom 0 list = 0) (source : Keyword "FROM")
    (hname : IsRelationName relation name) (hlabel : IsAlias label) (condition : Keyword "WHERE")
    (hne : clause ≠ []) (hruns : RunsTo (Token.isOneOf clauseEnds) clause after) :
    select (select'.token :: (list ++ source.token :: (name ++ (label ++ condition.token ::
        (clause ++ after))))) =
      if startsWithAny ["GROUP", "HAVING"] after then .error (.unsupported .grouping)
      else .ok (⟨relation, Projection.read list,
          some (Predicate.ofTokens (Token.placeholderCount list) clause).1⟩,
        if startsWithAny ["ORDER", "LIMIT"] after then fromSemicolon after else after) := by
  have hfrom : ∀ rest, startsWith "FROM" (source.token :: rest) = true := fun _ => source.spells
  have hperiod : (label ++ condition.token :: (clause ++ after)).head? ≠ some (.mark .period) := by
    rcases hlabel with rfl | ⟨as, value, quote, rfl⟩ | ⟨value, quote, rfl, -⟩
    · exact condition.head?_ne _ _
    · exact as.head?_ne _ _
    · simp
  have hcomma : (condition.token :: (clause ++ after)).head? ≠ some (.mark .comma) :=
    condition.head?_ne _ _
  have hjoin : startsWithAny joinStarts (condition.token :: (clause ++ after)) = false :=
    condition.isOneOf_eq_false (by decide)
  simp only [select, expect_keyword, takeUntil_keyword source hlist hdepth, hfrom, List.tail_cons,
    relationName_append hname hperiod, skipAlias_append hlabel, hcomma, hjoin,
    Predicate.read_of_runsTo condition hne hruns, bind, Except.bind]
  rfl

end Parser

/-- What is read up to a clause and behind it does not depend on the clause. -/
theorem IsClauseHead.exists_reading {head : List Token} (h : IsClauseHead head)
    (after : List Token) :
    ∃ reading : Except ParseError (Completion × List Token),
      ∀ (condition : Keyword "WHERE") (clause : List Token), clause ≠ [] →
        RunsTo (Token.isOneOf clauseEnds) clause after →
        let tokens := head ++ condition.token :: (clause ++ after)
        Parser.statement (.ofTokens tokens) tokens =
          reading.map fun (c, rest) => (c.complete clause, rest) := by
  cases h with
  | @delete relation name delete source hname =>
      refine ⟨.ok (⟨0, fun p => .delete ⟨relation, some p⟩, fun _ => rfl⟩, after), ?_⟩
      intro condition clause hne hruns
      have hread := Parser.delete_of_clause delete source hname condition hne hruns
      simp only [List.cons_append, StatementKind.ofTokens_delete, Parser.statement, hread]
      rfl
  | @update relation head list hhead hlist hdepth =>
      obtain ⟨update, name, set, rfl, hname⟩ := hhead
      let reading : Except ParseError (Completion × List Token) :=
        if Parser.startsWith "OR" name then .error (.unsupported .updateConflict)
        else Parser.assignments 0 (Token.splitAtCommas list) >>= fun read =>
          if read.1 = [] then .error (.malformed .noAssignments)
          else .ok (⟨read.2, fun p => .update ⟨relation, read.1, some p⟩, fun _ => rfl⟩, after)
      refine ⟨reading, ?_⟩
      intro condition clause hne hruns
      have hread := Parser.update_of_clause update hname set hlist hdepth condition hne hruns
      simp only [List.cons_append, List.append_assoc, List.nil_append,
        StatementKind.ofTokens_update, Parser.statement, hread, reading]
      split
      · rfl
      · cases Parser.assignments 0 (Token.splitAtCommas list) with
        | error e => rfl
        | ok read =>
            simp only [bind, Except.bind]
            split <;> rfl
  | @select relation list name label select hlist hdepth source hname hlabel =>
      let reading : Except ParseError (Completion × List Token) :=
        if Parser.startsWithAny ["GROUP", "HAVING"] after then .error (.unsupported .grouping)
        else .ok (⟨Token.placeholderCount list,
            fun p => .select ⟨relation, Projection.read list, some p⟩, fun _ => rfl⟩,
          if Parser.startsWithAny ["ORDER", "LIMIT"] after then Parser.fromSemicolon after
          else after)
      refine ⟨reading, ?_⟩
      intro condition clause hne hruns
      have hread :=
        Parser.select_of_clause select hlist hdepth source hname hlabel condition hne hruns
      simp only [List.cons_append, List.append_assoc, StatementKind.ofTokens_select,
        Parser.statement, hread, reading]
      split <;> rfl

namespace Statement

theorem ofTokens_of_mem {tokens : List Token} {t : Token} (ht : t ∈ tokens)
    (hne : t ≠ .mark .semicolon) :
    ofTokens tokens = Parser.statement (.ofTokens tokens) tokens >>= fun (s, rest) =>
      (Parser.finish rest).map fun _ => s := by
  have hall : ¬ tokens.all (· = .mark .semicolon) = true := fun hall =>
    hne (by simpa using List.all_eq_true.mp hall t ht)
  rw [ofTokens, if_neg hall]
  rfl

theorem parse_of_clause {sql : String} {head clause after : List Token}
    {condition : Keyword "WHERE"}
    (hscan : Token.scan sql = .ok (head ++ condition.token :: (clause ++ after))) :
    let tokens := head ++ condition.token :: (clause ++ after)
    parse sql = Parser.statement (.ofTokens tokens) tokens >>= fun (s, rest) =>
      (Parser.finish rest).map fun _ => s := by
  have hmem : condition.token ∈ head ++ condition.token :: (clause ++ after) := by simp
  have hne : condition.token ≠ .mark .semicolon := fun heq =>
    condition.head?_ne .semicolon [] (congrArg some heq)
  rw [parse, hscan]
  exact ofTokens_of_mem hmem hne

/-- Every clause in one place of a text is read, with the same statement around it. -/
theorem exists_outcome {head : List Token} (hhead : IsClauseHead head) (after : List Token) :
    ∃ outcome : Except ParseError Completion, ∀ sql clause, HasClause sql head clause after →
      parse sql = outcome.map (·.complete clause) := by
  obtain ⟨reading, hreading⟩ := hhead.exists_reading after
  refine ⟨reading >>= fun (c, rest) => (Parser.finish rest).map fun _ => c, ?_⟩
  rintro sql clause ⟨condition, -, hne, hruns, hscan⟩
  rw [parse_of_clause hscan, hreading condition clause hne hruns]
  cases reading with
  | error e => rfl
  | ok read =>
      show (Parser.finish read.2).map _ = Except.map _ ((Parser.finish read.2).map _)
      cases Parser.finish read.2 with
      | error e => rfl
      | ok _ => rfl

/-- A removal is read with every clause. -/
theorem parse_removal {sql relation : String} {name clause after : List Token}
    (delete : Keyword "DELETE") (source : Keyword "FROM") (hname : IsRelationName relation name)
    (hclause : HasClause sql (delete.token :: source.token :: name) clause after)
    (hafter : ∀ t ∈ after, t = .mark .semicolon) :
    parse sql = .ok (.delete ⟨relation, some (Predicate.ofTokens 0 clause).1⟩) := by
  obtain ⟨condition, -, hne, hruns, hscan⟩ := hclause
  have hread := Parser.delete_of_clause delete source hname condition hne hruns
  have hfinish : Parser.finish after = .ok () := by
    rw [Parser.finish, List.dropWhile_eq_nil_iff.mpr (by simpa using hafter)]
  rw [parse_of_clause hscan]
  simp only [List.cons_append, StatementKind.ofTokens_delete, Parser.statement, hread]
  show (Parser.finish after).map _ = _
  rw [hfinish]
  rfl

end Statement

/-! ## Conjuncts that are missing -/

/-- An `AND` that cuts the clause has nothing before it, or nothing after it. -/
def Token.LacksConjunct (clause : List Token) : Prop :=
  ∃ before t after, clause = before ++ t :: after ∧ CutsClause before t ∧
    (before = [] ∨ after = [])

theorem nil_mem_conjunctsFrom {m : ClauseMode} {before : List Token} {t : Token}
    (hmode : m.after before = .start) (ht : t.isKeyword "AND" = true) (current : List Token) :
    [] ∈ conjunctsFrom m.depth m.inBetween current (before ++ [t]) := by
  induction before generalizing m current with
  | nil =>
      obtain rfl : m = .start := hmode
      have hcut : [] ∈ conjunctsFrom 0 false current [t] := by
        rw [conjunctsFrom_of_cut ht]
        exact List.mem_cons_of_mem _ List.mem_cons_self
      exact hcut
  | cons u us ih =>
      rw [List.cons_append]
      by_cases hcut : m = .start ∧ u.isKeyword "AND" = true
      · obtain ⟨rfl, hu⟩ := hcut
        rw [ClauseMode.after_cons, ClauseMode.next_of_and rfl hu] at hmode
        have hrest : [] ∈ conjunctsFrom 0 false current (u :: (us ++ [t])) := by
          rw [conjunctsFrom_of_cut hu]
          exact List.mem_cons_of_mem _ (ih hmode [])
        exact hrest
      · rw [conjunctsFrom_of_not_cut hcut]
        exact ih hmode (current ++ [u])

theorem nil_mem_splitConjuncts {clause : List Token} (h : Token.LacksConjunct clause) :
    [] ∈ splitConjuncts clause := by
  obtain ⟨before, t, after, rfl, ⟨hmode, ht⟩, rfl | rfl⟩ := h
  · rw [List.nil_append, splitConjuncts, conjunctsFrom_of_cut ht]
    exact List.mem_cons_self
  · exact nil_mem_conjunctsFrom hmode ht []

theorem Conjunct.other_mem_readAll {pieces : List (List Token)} (h : [] ∈ pieces) (slot : Nat) :
    .other "" ∈ (readAll slot pieces).1 := by
  induction pieces generalizing slot with
  | nil => cases h
  | cons p ps ih =>
      rcases List.mem_cons.mp h with rfl | h
      · have hread : read slot [] = (.other "", slot) := by
          have hstrip : Token.stripParens [] = [] := by
            rw [Token.stripParens]
            rfl
          rw [read, hstrip]
          rfl
        rw [readAll, hread]
        exact List.mem_cons_self
      · exact List.mem_cons_of_mem _ (ih h (read slot p).2)

/-- A conjunct that is missing is kept as one without text. -/
theorem Predicate.other_mem_of_missing {clause : List Token} (h : Token.LacksConjunct clause)
    (hor : ∀ t ∈ outside 0 clause, t.isKeyword "OR" = false) (slot : Nat) :
    .other "" ∈ (ofTokens slot clause).1.conjuncts := by
  have halternatives : ¬ (Token.split (·.isKeyword "OR") clause).length > 1 := by
    have hsplit := Token.splitFrom_append hor [] []
    rw [List.append_nil] at hsplit
    rw [Token.split, hsplit, Token.splitFrom]
    split <;> simp
  simp only [ofTokens, if_neg halternatives]
  exact Conjunct.other_mem_readAll (nil_mem_splitConjuncts h) slot

/-! ## Lists and clauses -/

end MiniSql
