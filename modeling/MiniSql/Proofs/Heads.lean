import MiniSql.Proofs.Endings
import MiniSql.Proofs.Selection
import MiniSql.Proofs.Slots

/-!
# How statements begin

In front of the lists and clauses of a statement stand keywords and the name of its relation, and
they can be read in one way only. What is read after them is therefore a list that can be pointed
at in the text: the definitions of a creation, the columns and values of an insertion, the
assignments of an update.

**Results.**
* `exists_of_createTable`: the words in front of the definitions of a creation that is read.
* `definitions_of_createTable`, `lists_of_insert`, `assignments_of_update`: the lists of a
  statement that is read are those behind the words that it begins with.
-/

namespace MiniSql

open Token (outside depthFrom)

/-- The tokens of a text that is a statement, and the reader that made it. -/
theorem Statement.exists_of_parse {sql : String} {s : Statement} (h : parse sql = .ok s) :
    ∃ tokens rest, Token.scan sql = .ok tokens ∧ s.kind = .ofTokens tokens ∧
      s.IsReadFrom tokens rest := by
  unfold parse at h
  split at h
  · cases h
  · next tokens hscan =>
      obtain ⟨rest, hstatement, -⟩ := exists_of_ofTokens h
      exact ⟨tokens, rest, hscan, Parser.isReadFrom_of_statement hstatement⟩

/-! ## First keywords -/

/-- A keyword is every keyword that its name is. -/
theorem Keyword.isKeyword_eq {name : String} (k : Keyword name) (other : String) :
    k.token.isKeyword other = (Token.word name none).isKeyword other := by
  obtain ⟨value, hvalue, hname⟩ := k.exists_word
  rw [hvalue, Token.isKeyword_word, Token.isKeyword_word, Bool.eq_iff_iff, Text.sameFold_iff,
    Text.sameFold_iff, (Text.sameFold_iff value name).mp hname]

namespace StatementKind

theorem ofTokens_keyword {name : String} (k : Keyword name) (ts : List Token) :
    ofTokens (k.token :: ts) = ofTokens (.word name none :: ts) := by
  rw [ofTokens, ofTokens]
  simp only [k.isKeyword_eq]

theorem ofTokens_create (k : Keyword "CREATE") (ts : List Token) :
    ofTokens (k.token :: ts) = .createTable ∨ ofTokens (k.token :: ts) = .unknown := by
  rw [ofTokens, if_pos k.spells]
  simp only
  split
  · exact Or.inl rfl
  · exact Or.inr rfl

theorem ofTokens_insert (k : Keyword "INSERT") (ts : List Token) :
    ofTokens (k.token :: ts) = .insert :=
  ofTokens_keyword k ts

theorem ofTokens_update (k : Keyword "UPDATE") (ts : List Token) :
    ofTokens (k.token :: ts) = .update :=
  ofTokens_keyword k ts

theorem ofTokens_delete (k : Keyword "DELETE") (ts : List Token) :
    ofTokens (k.token :: ts) = .delete :=
  ofTokens_keyword k ts

theorem ofTokens_select (k : Keyword "SELECT") (ts : List Token) :
    ofTokens (k.token :: ts) = .select :=
  ofTokens_keyword k ts

end StatementKind

/-! ## Names of relations -/

/-- The tokens name a relation: a word, or a word after a qualifier and a point. -/
def IsRelationName (relation : String) (name : List Token) : Prop :=
  (∃ quote, name = [.word relation quote]) ∨
    ∃ qualifier quote quote', name = [.word qualifier quote, .mark .period, .word relation quote']

/-- A mark follows the first word of a name, if one follows the name. -/
theorem IsRelationName.exists_word {relation : String} {name : List Token}
    (h : IsRelationName relation name) (m : Mark) (rest : List Token) :
    ∃ value quote m' ts, name ++ .mark m :: rest = .word value quote :: .mark m' :: ts := by
  rcases h with ⟨quote, rfl⟩ | ⟨qualifier, quote, quote', rfl⟩
  · exact ⟨relation, quote, m, rest, rfl⟩
  · exact ⟨qualifier, quote, .period, _, rfl⟩

namespace Parser

variable {relation : String} {tokens name rest : List Token}

theorem relationName_append (h : IsRelationName relation name)
    (hrest : rest.head? ≠ some (.mark .period)) :
    relationName (name ++ rest) = .ok (relation, rest) := by
  rcases h with ⟨quote, rfl⟩ | ⟨qualifier, quote, quote', rfl⟩
  · cases rest with
    | nil => rfl
    | cons t ts =>
        cases t with
        | mark m =>
            cases m with
            | period => exact absurd rfl hrest
            | _ => rfl
        | _ => rfl
  · rfl

theorem exists_of_relationName (h : relationName tokens = .ok (relation, rest)) :
    ∃ name, IsRelationName relation name ∧ tokens = name ++ rest := by
  obtain ⟨⟨first, after⟩, hfirst, h⟩ := exists_of_bind_ok h
  obtain ⟨quote, htokens⟩ := identifier_eq_ok hfirst
  simp only at h
  split at h
  · obtain ⟨quote', rfl⟩ := identifier_eq_ok h
    exact ⟨_, Or.inr ⟨first, quote, quote', rfl⟩, htokens⟩
  · cases h
    exact ⟨_, Or.inl ⟨quote, rfl⟩, htokens⟩

theorem startsWith_name {keyword : String} (h : IsRelationName relation name)
    (rest : List Token) : startsWith keyword (name ++ rest) = startsWith keyword name := by
  rcases h with ⟨quote, rfl⟩ | ⟨qualifier, quote, quote', rfl⟩ <;> rfl

/-! ## Groups -/

theorem group_of_balanced {inner : List Token} (h : Token.balanced 0 inner = true) :
    group (.mark .leftParen :: (inner ++ .mark .rightParen :: rest)) = .ok (inner, rest) := by
  rw [group, Token.closeGroup_of_balanced h]

theorem optionalGroup_of_balanced {inner : List Token} (h : Token.balanced 0 inner = true) :
    optionalGroup (.mark .leftParen :: (inner ++ .mark .rightParen :: rest)) =
      .ok (some inner, rest) := by
  rw [optionalGroup, List.head?_cons, if_pos rfl, group_of_balanced h]
  rfl

theorem balanced_of_closeGroup {depth : Nat} {inner : List Token}
    (h : Token.closeGroup depth tokens = some (inner, rest)) :
    Token.balanced depth inner = true := by
  induction tokens generalizing depth inner with
  | nil => cases h
  | cons t ts ih =>
      rw [Token.closeGroup] at h
      split at h
      · next hcloses =>
          obtain ⟨rfl, -⟩ := Prod.mk.inj (Option.some.inj h)
          rw [Token.balanced_nil]
          exact hcloses.2
      · next hgoesOn =>
          obtain ⟨⟨inner, rest⟩, hrest, hpair⟩ := Option.map_eq_some_iff.mp h
          obtain ⟨rfl, rfl⟩ := Prod.mk.inj hpair
          exact (Token.balanced_cons depth t inner).mpr ⟨hgoesOn, ih hrest⟩

/-- A group that is read, or none if no parenthesis is in front. -/
theorem optionalGroup_eq_ok {list : Option (List Token)}
    (h : optionalGroup tokens = .ok (list, rest)) :
    (list = none ∧ rest = tokens) ∨ ∃ inner, list = some inner ∧
      tokens = .mark .leftParen :: (inner ++ .mark .rightParen :: rest) ∧
      Token.balanced 0 inner = true := by
  unfold optionalGroup at h
  split at h
  · obtain ⟨⟨inner, after⟩, hgroup, hpair⟩ := exists_of_map_ok h
    obtain ⟨rfl, rfl⟩ := Prod.mk.inj hpair
    refine Or.inr ⟨inner, rfl, group_eq_ok hgroup, ?_⟩
    unfold group at hgroup
    split at hgroup
    · split at hgroup
      · next hclose =>
          cases hgroup
          exact balanced_of_closeGroup hclose
      · cases hgroup
    · cases hgroup
  · cases h
    exact Or.inl ⟨rfl, rfl⟩

end Parser

/-! ## Creations -/

/-- Nothing, or a word for a relation that is not kept. -/
def IsTemporary (tokens : List Token) : Prop :=
  tokens = [] ∨ ∃ t, tokens = [t] ∧ t.isOneOf ["TEMP", "TEMPORARY"] = true

/-- Nothing, or the words for a relation that may exist. -/
def IsExistence (tokens : List Token) : Prop :=
  tokens = [] ∨ ∃ (a : Keyword "IF") (b : Keyword "NOT") (c : Keyword "EXISTS"),
    tokens = [a.token, b.token, c.token]

/-- The words of a creation up to the name of its relation. -/
def IsCreateHead (relation : String) (head : List Token) : Prop :=
  ∃ (create : Keyword "CREATE") (temporary : List Token) (table : Keyword "TABLE")
    (existing name : List Token),
    head = create.token :: (temporary ++ table.token :: (existing ++ name)) ∧
      IsTemporary temporary ∧ IsExistence existing ∧ IsRelationName relation name

/-- The text is a creation with definitions: a group behind the name of the relation. -/
def IsDefinedBy (sql : String) (body : List Token) : Prop :=
  ∃ relation head after, IsCreateHead relation head ∧ Token.balanced 0 body = true ∧
    Token.scan sql = .ok (head ++ .mark .leftParen :: (body ++ .mark .rightParen :: after))

namespace Parser

variable {tokens rest : List Token} {s : CreateTable}

theorem exists_of_branch {ε α β : Type} {p : Prop} [Decidable p] {x y : Except ε α}
    {f : α → Except ε β} {b : β} (h : (if p then x >>= f else y >>= f) = .ok b) :
    ∃ a, (if p then x else y) = .ok a ∧ f a = .ok b := by
  split at h
  · next hp =>
      obtain ⟨a, hx, hf⟩ := exists_of_bind_ok h
      exact ⟨a, by rw [if_pos hp, hx], hf⟩
  · next hp =>
      obtain ⟨a, hy, hf⟩ := exists_of_bind_ok h
      exact ⟨a, by rw [if_neg hp, hy], hf⟩

/-- The tokens without one of the words for a relation that is not kept. -/
def afterTemporary (tokens : List Token) : List Token :=
  if startsWithAny ["TEMP", "TEMPORARY"] tokens then tokens.tail else tokens

/-- The tokens without the words for a relation that may exist. -/
def afterExistence (tokens : List Token) : Except ParseError (List Token) :=
  if startsWith "IF" tokens then expect "NOT" tokens.tail >>= expect "EXISTS" else .ok tokens

/-- The steps in which a creation is read. -/
theorem createTable_eq_ok (h : createTable tokens = .ok (s, rest)) :
    ∃ afterCreate afterTable afterIf afterName list afterList,
      expect "CREATE" tokens = .ok afterCreate ∧
      expect "TABLE" (afterTemporary afterCreate) = .ok afterTable ∧
      afterExistence afterTable = .ok afterIf ∧
      relationName afterIf = .ok (s.relation, afterName) ∧
      optionalGroup afterName = .ok (list, afterList) ∧
      Column.readAll [] (Token.splitAtCommas (list.getD [])) = .ok s.columns := by
  unfold createTable at h
  obtain ⟨afterCreate, hcreate, h⟩ := exists_of_bind_ok h
  obtain ⟨afterTable, htable, h⟩ := exists_of_bind_ok h
  obtain ⟨afterIf, hexistence, h⟩ := exists_of_branch h
  obtain ⟨⟨relation, afterName⟩, hrelation, h⟩ := exists_of_bind_ok h
  obtain ⟨-, h⟩ := exists_of_guard h
  obtain ⟨⟨list, afterList⟩, hlist, h⟩ := exists_of_bind_ok h
  obtain ⟨columns, hcolumns, h⟩ := exists_of_bind_ok h
  cases h
  exact ⟨_, _, _, _, _, _, hcreate, htable, hexistence, hrelation, hlist, hcolumns⟩

/-- A keyword that was expected and stands in front. -/
theorem exists_of_expect {keyword : String} (h : expect keyword tokens = .ok rest) :
    ∃ k : Keyword keyword, tokens = k.token :: rest := by
  obtain ⟨t, rfl, ht⟩ := expect_eq_ok h
  exact ⟨⟨t, ht⟩, rfl⟩

theorem exists_of_afterTemporary {t : Token} (h : afterTemporary tokens = t :: rest) :
    ∃ temporary, IsTemporary temporary ∧ tokens = temporary ++ t :: rest := by
  unfold afterTemporary at h
  split at h
  · next hword =>
      cases tokens with
      | nil => cases h
      | cons u us => exact ⟨[u], Or.inr ⟨u, rfl, hword⟩, congrArg (u :: ·) h⟩
  · exact ⟨[], Or.inl rfl, h⟩

theorem exists_of_afterExistence (h : afterExistence tokens = .ok rest) :
    ∃ existing, IsExistence existing ∧ tokens = existing ++ rest := by
  unfold afterExistence at h
  split at h
  · next hif =>
      cases tokens with
      | nil => cases hif
      | cons t ts =>
          obtain ⟨afterNot, hnot, hexists⟩ := exists_of_bind_ok h
          obtain ⟨b, hts⟩ := exists_of_expect hnot
          obtain ⟨c, hafterNot⟩ := exists_of_expect hexists
          refine ⟨_, Or.inr ⟨⟨t, hif⟩, b, c, rfl⟩, ?_⟩
          rw [List.tail_cons] at hts
          rw [hts, hafterNot]
          rfl
  · cases h
    exact ⟨[], Or.inl rfl, rfl⟩

theorem afterTemporary_append {temporary : List Token} (h : IsTemporary temporary)
    (table : Keyword "TABLE") (rest : List Token) :
    afterTemporary (temporary ++ table.token :: rest) = table.token :: rest := by
  rcases h with rfl | ⟨t, rfl, ht⟩
  · have hword : startsWithAny ["TEMP", "TEMPORARY"] (table.token :: rest) = false :=
      table.isOneOf_eq_false (by decide)
    exact if_neg (by simp [hword])
  · exact if_pos ht

theorem afterExistence_append {existing : List Token} (hexisting : IsExistence existing)
    {relation : String} {name : List Token} (hname : IsRelationName relation name) (m : Mark)
    (after : List Token) {rest : List Token}
    (h : afterExistence (existing ++ (name ++ .mark m :: after)) = .ok rest) :
    rest = name ++ .mark m :: after := by
  unfold afterExistence at h
  rcases hexisting with rfl | ⟨a, b, c, rfl⟩
  · split at h
    · -- A relation that is called `IF` is none.
      obtain ⟨value, quote, m, ts, hword⟩ := hname.exists_word m after
      rw [List.nil_append, hword, List.tail_cons] at h
      cases h
    · exact (Except.ok.inj h).symm
  · have hif : startsWith "IF" ([a.token, b.token, c.token] ++ (name ++ .mark m :: after)) = true :=
      a.spells
    rw [if_pos hif] at h
    obtain ⟨afterNot, hnot, hexists⟩ := exists_of_bind_ok h
    rw [List.cons_append, List.tail_cons, List.cons_append, expect_keyword] at hnot
    cases hnot
    rw [List.cons_append, expect_keyword] at hexists
    exact (Except.ok.inj hexists).symm

/-- The words in front of the definitions of a creation that is read. -/
theorem exists_of_createTable (h : createTable tokens = .ok (s, rest)) :
    ∃ head afterName list afterList, IsCreateHead s.relation head ∧ tokens = head ++ afterName ∧
      optionalGroup afterName = .ok (list, afterList) ∧
      Column.readAll [] (Token.splitAtCommas (list.getD [])) = .ok s.columns := by
  obtain ⟨afterCreate, afterTable, afterIf, afterName, list, afterList, hcreate, htable,
    hexistence, hrelation, hlist, hcolumns⟩ := createTable_eq_ok h
  obtain ⟨create, rfl⟩ := exists_of_expect hcreate
  obtain ⟨table, htable⟩ := exists_of_expect htable
  obtain ⟨temporary, htemporary, rfl⟩ := exists_of_afterTemporary htable
  obtain ⟨existing, hexisting, rfl⟩ := exists_of_afterExistence hexistence
  obtain ⟨name, hname, rfl⟩ := exists_of_relationName hrelation
  refine ⟨_, afterName, list, afterList,
    ⟨create, temporary, table, existing, name, rfl, htemporary, hexisting, hname⟩, ?_, hlist,
    hcolumns⟩
  simp

/-- The definitions of a creation that is read are those behind the words it begins with. -/
theorem definitions_of_createTable {relation : String} {head body after : List Token}
    (hhead : IsCreateHead relation head) (hbody : Token.balanced 0 body = true)
    (h : createTable (head ++ .mark .leftParen :: (body ++ .mark .rightParen :: after)) =
      .ok (s, rest)) : Column.readAll [] (Token.splitAtCommas body) = .ok s.columns := by
  obtain ⟨afterCreate, afterTable, afterIf, afterName, list, afterList, hcreate, htable,
    hexistence, hrelation, hlist, hcolumns⟩ := createTable_eq_ok h
  obtain ⟨create, temporary, table, existing, name, rfl, htemporary, hexisting, hname⟩ := hhead
  rw [List.cons_append, expect_keyword] at hcreate
  cases hcreate
  rw [List.append_assoc, List.cons_append, afterTemporary_append htemporary, expect_keyword]
    at htable
  cases htable
  rw [List.append_assoc] at hexistence
  obtain rfl := afterExistence_append hexisting hname _ _ hexistence
  rw [relationName_append hname (by simp)] at hrelation
  cases hrelation
  rw [optionalGroup_of_balanced hbody] at hlist
  cases hlist
  exact hcolumns

end Parser

/-! ## Insertions and updates -/

/-- The words of an insertion up to the name of its relation. -/
def IsInsertHead (relation : String) (head : List Token) : Prop :=
  ∃ (insert : Keyword "INSERT") (into : Keyword "INTO") (name : List Token),
    head = insert.token :: into.token :: name ∧ IsRelationName relation name

/-- The words of an update up to its assignments. -/
def IsUpdateHead (relation : String) (head : List Token) : Prop :=
  ∃ (update : Keyword "UPDATE") (name : List Token) (set : Keyword "SET"),
    head = update.token :: (name ++ [set.token]) ∧ IsRelationName relation name

/-- No stopping token and no semicolon stands outside the parentheses of a list. -/
def Unstopped (stop : Token → Bool) (list : List Token) : Prop :=
  ∀ t ∈ outside 0 list, t ≠ .mark .semicolon ∧ stop t = false

instance (stop : Token → Bool) (list : List Token) : Decidable (Unstopped stop list) :=
  inferInstanceAs (Decidable (∀ t ∈ outside 0 list, t ≠ .mark .semicolon ∧ stop t = false))

/-- A list goes on up to the end, or up to a stopping token or a semicolon, the first one outside
its parentheses. -/
def RunsTo (stop : Token → Bool) (list after : List Token) : Prop :=
  Unstopped stop list ∧ (after = [] ∨ depthFrom 0 list = 0 ∧
    ∃ t ts, after = t :: ts ∧ (t = .mark .semicolon ∨ stop t = true))

theorem RunsTo.takeUntil_eq {stop : Token → Bool} {list after : List Token}
    (h : RunsTo stop list after) : Token.takeUntil stop 0 (list ++ after) = (list, after) := by
  obtain ⟨houtside, rfl | ⟨hdepth, t, ts, rfl, ht⟩⟩ := h
  · simpa [Token.takeUntil] using Token.takeUntil_of_outside houtside []
  · have hstops : Token.takeUntil stop 0 (t :: ts) = ([], t :: ts) := by
      rw [Token.takeUntil, if_pos (by simpa using ht)]
    rw [Token.takeUntil_of_outside houtside, hdepth, hstops, List.append_nil]

namespace Parser

variable {relation : String} {head list after rest : List Token}

/-- The lists of an insertion that is read are those behind the words it begins with. -/
theorem lists_of_insert {s : Insert} (hhead : IsInsertHead relation head)
    (hafter : after.head? ≠ some (.mark .period)) (h : insert (head ++ after) = .ok (s, rest)) :
    ∃ list afterList afterValues values slot, optionalGroup after = .ok (list, afterList) ∧
      (Token.splitAtCommas (list.getD [])).mapM columnName = .ok s.columns ∧
      expect "VALUES" afterList = .ok afterValues ∧ group afterValues = .ok (values, rest) ∧
      Operand.readAll 0 (Token.splitAtCommas values) = .ok (s.values, slot) := by
  obtain ⟨insert, into, name, rfl, hname⟩ := hhead
  obtain ⟨afterInsert, afterInto, afterName, list, afterList, afterValues, values, slot,
    hinsert, -, hinto, hrelation, hlist, hcolumns, -, hvalues, hgroup, hread, -, -⟩ :=
    insert_eq_ok_iff.mp h
  rw [List.cons_append, expect_keyword] at hinsert
  cases hinsert
  rw [List.cons_append, expect_keyword] at hinto
  cases hinto
  rw [relationName_append hname hafter] at hrelation
  cases hrelation
  exact ⟨list, afterList, afterValues, values, slot, hlist, hcolumns, hvalues, hgroup, hread⟩

/-- The assignments of an update that is read are those behind the words it begins with. -/
theorem assignments_of_update {s : Update} (hhead : IsUpdateHead relation head)
    (hlist : RunsTo (·.isKeyword "WHERE") list after)
    (h : update (head ++ (list ++ after)) = .ok (s, rest)) :
    ∃ slot, assignments 0 (Token.splitAtCommas list) = .ok (s.assignments, slot) := by
  obtain ⟨update, name, set, rfl, hname⟩ := hhead
  obtain ⟨afterUpdate, afterName, afterSet, slot, hupdate, -, hrelation, hset, hassignments, -, -⟩ :=
    update_eq_ok_iff.mp h
  rw [List.cons_append, expect_keyword] at hupdate
  cases hupdate
  have hmark : ([set.token] ++ (list ++ after)).head? ≠ some (.mark .period) := by
    obtain ⟨value, hvalue, -⟩ := set.exists_word
    simp [hvalue]
  rw [List.append_assoc, relationName_append hname hmark] at hrelation
  cases hrelation
  rw [List.singleton_append, expect_keyword] at hset
  cases hset
  rw [hlist.takeUntil_eq] at hassignments
  exact ⟨slot, hassignments⟩

end Parser

end MiniSql
