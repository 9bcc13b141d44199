import MiniSql.Proofs.Heads

/-!
# Flags of columns

A column is flagged by the words of its own definition and by the keys over it alone that are
defined after it. Its definition is looked through word by word, whatever parentheses the words
stand in, and so is the definition of a key. The words in parentheses belong to a type, a default
or a check, and nothing is said by them about the column: where they are no words that flag, the
flags are those that the definitions outside their parentheses say.

A key is taken to be over the words in its first parentheses. These are its columns where the
parentheses are those of its list and a single column stands in them without options, such as a
collation or an order.

**Results.**
* `saysNotNull_eq`, `any_eq_outside_inside`: what a list says, outside its parentheses or inside.
* `Column.flags_define`: the flags that a column gets from its own definition.
* `Column.IsPlainConstraint.isKeyOf_iff`: when a table constraint is a key over one column.
* `Column.flagged_of_readAll`: the flags that later definitions add.
* `flags_of_createTable`: the flags of every column of a creation.
* `flag_from_check`: a check that flags a column.
-/

namespace MiniSql

/-! ## Words outside and inside parentheses -/

namespace Token

/-- The tokens of a list that are met with a parenthesis open. -/
def inside (depth : Nat) : List Token → List Token
  | [] => []
  | t :: ts => (if depth = 0 then [] else [t]) ++ inside (nest depth t) ts

theorem inside_cons (depth : Nat) (t : Token) (ts : List Token) :
    inside depth (t :: ts) = (if depth = 0 then [] else [t]) ++ inside (nest depth t) ts := rfl

theorem any_eq_outside_inside (p : Token → Bool) (depth : Nat) (tokens : List Token) :
    tokens.any p = ((outside depth tokens).any p || (inside depth tokens).any p) := by
  induction tokens generalizing depth with
  | nil => rfl
  | cons t ts ih =>
      rw [List.any_cons, outside_cons, inside_cons, ih (nest depth t)]
      by_cases hdepth : depth = 0
      · simp [hdepth, Bool.or_assoc]
      · simp [hdepth, Bool.or_left_comm]

end Token

open Token (outside inside nest)

theorem saysNotNull_cons_of_not {t : Token} (ht : t.isKeyword "NOT" = false) (ts : List Token) :
    saysNotNull (t :: ts) = saysNotNull ts := by
  cases ts with
  | nil => rfl
  | cons u us => rw [saysNotNull, ht, Bool.false_and, Bool.false_or]

theorem saysNotNull_eq (depth : Nat) (tokens : List Token) :
    saysNotNull tokens =
      (saysNotNull (outside depth tokens) || saysNotNull (inside depth tokens)) := by
  induction tokens generalizing depth with
  | nil => rfl
  | cons t ts ih =>
      cases ht : t.isKeyword "NOT" with
      | false =>
          rw [saysNotNull_cons_of_not ht, ih (nest depth t), Token.outside_cons,
            Token.inside_cons]
          by_cases hdepth : depth = 0 <;> simp [hdepth, saysNotNull_cons_of_not ht]
      | true =>
          cases ts with
          | nil => by_cases hdepth : depth = 0 <;> simp [outside, inside, hdepth, saysNotNull]
          | cons u us =>
              -- The word after a `NOT` is met where the `NOT` is.
              have hrest := ih depth
              rw [Token.outside_cons depth t, Token.inside_cons depth t,
                Token.nest_of_isKeyword ht]
              rw [saysNotNull, hrest, Token.outside_cons, Token.inside_cons]
              by_cases hdepth : depth = 0
              · simp [hdepth, saysNotNull, Bool.or_assoc]
              · simp [hdepth, saysNotNull, Bool.or_left_comm]

/-! ## Words after the type -/

/-- What drops no token of a kind keeps what they say. -/
theorem any_dropWhile {α : Type} {p q : α → Bool} (h : ∀ a, q a = true → p a = false)
    (as : List α) : (as.dropWhile p).any q = as.any q := by
  induction as with
  | nil => rfl
  | cons a as ih =>
      cases hp : p a with
      | false => rw [List.dropWhile_cons_of_neg (by simp [hp])]
      | true =>
          have hq : q a = false := by
            by_contra hq
            rw [h a (by simpa using hq)] at hp
            cases hp
          rw [List.dropWhile_cons_of_pos hp, ih, List.any_cons, hq, Bool.false_or]

theorem saysNotNull_dropWhile {p : Token → Bool} (h : ∀ t, t.isKeyword "NOT" = true → p t = false)
    (tokens : List Token) : saysNotNull (tokens.dropWhile p) = saysNotNull tokens := by
  induction tokens with
  | nil => rfl
  | cons t ts ih =>
      cases hp : p t with
      | false => rw [List.dropWhile_cons_of_neg (by simp [hp])]
      | true =>
          have ht : t.isKeyword "NOT" = false := by
            by_contra hnot
            rw [h t (by simpa using hnot)] at hp
            cases hp
          rw [List.dropWhile_cons_of_pos hp, ih, saysNotNull_cons_of_not ht]

theorem isOneOf_of_isKeyword {t : Token} {name : String} {names : List String}
    (hname : name ∈ names) (h : t.isKeyword name = true) : t.isOneOf names = true :=
  List.any_eq_true.mpr ⟨name, hname, h⟩

namespace Column

/-- The tokens of a column's definition outside its parentheses, from the end of the type on. -/
def afterType (rest : List Token) : List Token :=
  (outside 0 rest).dropWhile fun t => !t.isOneOf columnConstraintStarts

theorem any_afterType {name : String} (hname : name ∈ columnConstraintStarts)
    (rest : List Token) : (afterType rest).any (·.isKeyword name) =
      (outside 0 rest).any (·.isKeyword name) :=
  any_dropWhile (fun t ht => by simp [isOneOf_of_isKeyword hname ht]) _

/-- The flags of a column are those of the words behind its name. -/
theorem flags_define (name : String) (rest : List Token) :
    (define name rest).primaryKey = rest.any (·.isKeyword "PRIMARY") ∧
      (define name rest).unique = rest.any (·.isKeyword "UNIQUE") ∧
      (define name rest).notNull = saysNotNull rest := by
  have hends : ∀ name ∈ columnConstraintStarts, ∀ t : Token, t.isKeyword name = true →
      (!t.isOneOf columnConstraintStarts) = false :=
    fun name hname t ht => by simp [isOneOf_of_isKeyword hname ht]
  exact ⟨any_dropWhile (hends "PRIMARY" (by decide)) rest,
    any_dropWhile (hends "UNIQUE" (by decide)) rest,
    saysNotNull_dropWhile (hends "NOT" (by decide)) rest⟩

/-! ## Keys over one column -/

/-- A definition that begins with the keyword of a table constraint. -/
def isTableConstraint (definition : List Token) : Bool :=
  definition.head?.any (·.isOneOf tableConstraintStarts)

/-- The tokens between the first opening parenthesis of a list and the next closing one. -/
def keyList (tokens : List Token) : List Token :=
  (tokens.dropWhile (· ≠ .mark .leftParen)).tail.takeWhile (· ≠ .mark .rightParen)

/-- The keywords behind a column of a key, which say how it is compared, ordered or numbered. -/
def keyColumnOptions : List String :=
  ["COLLATE", "ASC", "DESC", "AUTOINCREMENT"]

/-- A list of one column: its name, with options or without. -/
def ListsOnly (name : String) (list : List Token) : Prop :=
  ∃ quote options, list = .word name quote :: options ∧ .mark .comma ∉ options ∧
    options.head?.all (·.isOneOf keyColumnOptions) = true

/-- A definition is a key of a kind over one column, which is the first of its name: the keyword
stands outside parentheses, and the list behind it is that column. -/
def IsKeyOf (keyword : String) (definition : List Token) (names : List String) (i : Nat) : Prop :=
  isTableConstraint definition = true ∧
    ∃ before word behind, definition = before ++ word :: behind ∧
      Token.depthFrom 0 before = 0 ∧ word.isKeyword keyword = true ∧
      (keyword = "PRIMARY" → behind.head?.any (·.isKeyword "KEY") = true) ∧
      ∃ name, ListsOnly name (keyList behind) ∧ names.findIdx? (Text.sameFold · name) = some i

/-- The keywords that make a table constraint a key. -/
def keyKinds : List String :=
  ["PRIMARY", "UNIQUE"]

/-- The keywords of the kinds of table constraints. -/
def constraintKinds : List String :=
  ["PRIMARY", "UNIQUE", "FOREIGN", "CHECK"]

/-- The words that flag a column stand outside the parentheses of its definition. -/
def IsPlainColumn (definition : List Token) : Prop :=
  (∀ t ∈ inside 0 definition, t.isOneOf keyKinds = false) ∧
    saysNotNull (inside 0 definition) = false

/-- A list with a single word in it is that word, and a column with options is not the only one. -/
def IsPlainList (list : List Token) : Prop :=
  ((list.filterMap Token.identifier?).length = 1 → list.length = 1) ∧
    (list.tail.head?.any (·.isOneOf keyColumnOptions) = true → .mark .comma ∈ list)

/-- The tokens of a definition from its first keyword of a key on. -/
def keyPart (definition : List Token) : List Token :=
  definition.dropWhile fun t => !t.isOneOf keyKinds

/-- The first parenthesis of a key opens its list, and a `PRIMARY` is followed by `KEY`. -/
def IsPlainKey (definition : List Token) : Prop :=
  .mark .leftParen ∉ definition.takeWhile (fun t => !t.isOneOf keyKinds) ∧
    ((keyPart definition).head?.any (·.isKeyword "PRIMARY") = true →
      (keyPart definition).tail.head?.any (·.isKeyword "KEY") = true) ∧
    IsPlainList (keyList definition)

/-- The words of a table constraint that make a key stand outside its parentheses. Where there is
one, the constraint is no other as well, and it is a plain key. -/
def IsPlainConstraint (definition : List Token) : Prop :=
  (∀ t ∈ inside 0 definition, t.isOneOf keyKinds = false) ∧
    ((outside 0 definition).any (Token.isOneOf keyKinds) = true →
      (∀ t ∈ inside 0 definition, t.isKeyword "FOREIGN" = false) ∧
        (outside 0 definition).countP (Token.isOneOf constraintKinds) ≤ 1 ∧
        IsPlainKey definition)

def IsPlain (definition : List Token) : Prop :=
  if isTableConstraint definition then IsPlainConstraint definition else IsPlainColumn definition

instance (definition : List Token) : Decidable (IsPlainColumn definition) :=
  inferInstanceAs (Decidable (_ ∧ _))

instance (list : List Token) : Decidable (IsPlainList list) :=
  inferInstanceAs (Decidable (_ ∧ _))

instance (definition : List Token) : Decidable (IsPlainKey definition) :=
  inferInstanceAs (Decidable (_ ∧ _ ∧ _))

instance (definition : List Token) : Decidable (IsPlainConstraint definition) :=
  inferInstanceAs (Decidable (_ ∧ (_ → _)))

instance (definition : List Token) : Decidable (IsPlain definition) :=
  inferInstanceAs (Decidable (if isTableConstraint definition then IsPlainConstraint definition
    else IsPlainColumn definition))

theorem listedNames_eq (definition : List Token) (name : String) :
    listedNames definition = some [name] ↔
      (keyList definition).filterMap Token.identifier? = [name] := by
  unfold listedNames keyList
  cases definition.dropWhile (· ≠ .mark .leftParen) with
  | nil => exact ⟨nofun, nofun⟩
  | cons t ts => exact ⟨Option.some.inj, congrArg some⟩

/-- A key over the first column of a name is one over the first such column of any longer list. -/
theorem isKeyOf_append {keyword : String} {d : List Token} {names later : List String} {i : Nat}
    (hi : i < names.length) : IsKeyOf keyword d (names ++ later) i ↔ IsKeyOf keyword d names i := by
  have hfirst : ∀ name : String, (names ++ later).findIdx? (Text.sameFold · name) = some i ↔
      names.findIdx? (Text.sameFold · name) = some i := by
    intro name
    rw [List.findIdx?_append]
    cases names.findIdx? (Text.sameFold · name) with
    | none =>
        refine iff_of_false (fun hlater => ?_) nofun
        obtain ⟨j, -, hj⟩ := Option.map_eq_some_iff.mp hlater
        omega
    | some j => rfl
  simp only [IsKeyOf, hfirst]

/-- What one column becomes under later definitions. -/
structure FlaggedBy (names : List String) (i : Nat) (definitions : List (List Token))
    (c c' : Column) : Prop where
  name : c'.name = c.name
  notNull : c'.notNull = c.notNull
  primaryKey : c'.primaryKey = true ↔
    c.primaryKey = true ∨ ∃ d ∈ definitions, IsKeyOf "PRIMARY" d names i
  unique : c'.unique = true ↔ c.unique = true ∨ ∃ d ∈ definitions, IsKeyOf "UNIQUE" d names i

variable {names : List String} {i : Nat} {c c' c'' : Column}

theorem FlaggedBy.nil : FlaggedBy names i [] c c := by
  constructor <;> simp

theorem FlaggedBy.cons {d : List Token} {ds : List (List Token)}
    (h : FlaggedBy names i [d] c c') (h' : FlaggedBy names i ds c' c'') :
    FlaggedBy names i (d :: ds) c c'' where
  name := h'.name.trans h.name
  notNull := h'.notNull.trans h.notNull
  primaryKey := by
    rw [h'.primaryKey, h.primaryKey]
    simp [or_assoc]
  unique := by
    rw [h'.unique, h.unique]
    simp [or_assoc]

theorem FlaggedBy.append {d : List Token} (h : FlaggedBy names i [d] c c')
    (hi : i < names.length) (later : List String) : FlaggedBy (names ++ later) i [d] c c' := by
  obtain ⟨hname, hnotNull, hprimary, hunique⟩ := h
  constructor <;> simp_all [isKeyOf_append hi]

theorem FlaggedBy.of_column {d : List Token} (h : isTableConstraint d = false) :
    FlaggedBy names i [d] c c := by
  constructor <;> simp [IsKeyOf, h]

theorem names_flagFirst (name : String) (p u : Bool) (columns : List Column) :
    (flagFirst name p u columns).map Column.name = columns.map Column.name := by
  induction columns with
  | nil => rfl
  | cons c cs ih =>
      rw [flagFirst]
      split
      · rfl
      · rw [List.map_cons, List.map_cons, ih]

theorem getElem?_flagFirst (name : String) (p u : Bool) (columns : List Column) (i : Nat) :
    (flagFirst name p u columns)[i]? = columns[i]?.map fun c =>
      if (columns.map Column.name).findIdx? (Text.sameFold · name) = some i then
        { c with primaryKey := c.primaryKey || p, unique := c.unique || u }
      else c := by
  induction columns generalizing i with
  | nil => rfl
  | cons c cs ih =>
      rw [flagFirst, List.map_cons, List.findIdx?_cons]
      by_cases hfirst : Text.sameFold c.name name = true
      · rw [if_pos hfirst, if_pos hfirst]
        cases i with
        | zero => simp
        | succ i => simp
      · rw [if_neg hfirst, if_neg hfirst]
        cases i with
        | zero => simp
        | succ i =>
            rw [List.getElem?_cons_succ, List.getElem?_cons_succ, ih]
            simp

/-- Words that are not inside parentheses are said outside them. -/
theorem any_outside_of_inside {tokens : List Token} {name : String}
    (h : ∀ t ∈ inside 0 tokens, t.isKeyword name = false) :
    tokens.any (·.isKeyword name) = (outside 0 tokens).any (·.isKeyword name) := by
  have hinside : (inside 0 tokens).any (·.isKeyword name) = false :=
    List.any_eq_false.mpr fun t ht => by simp [h t ht]
  rw [Token.any_eq_outside_inside _ 0 tokens, hinside, Bool.or_false]

theorem isKeyword_of_isOneOf {t : Token} {name : String} {names : List String}
    (hname : name ∈ names) (h : t.isOneOf names = false) : t.isKeyword name = false := by
  by_contra hkeyword
  rw [isOneOf_of_isKeyword hname ((Bool.not_eq_false _).mp hkeyword)] at h
  cases h

theorem eq_of_countP_le_one {α : Type} {p : α → Bool} {as : List α} (h : as.countP p ≤ 1) {a b : α}
    (ha : a ∈ as) (hb : b ∈ as) (hpa : p a = true) (hpb : p b = true) : a = b := by
  rw [List.countP_eq_length_filter] at h
  have ha' := List.mem_filter.mpr ⟨ha, hpa⟩
  have hb' := List.mem_filter.mpr ⟨hb, hpb⟩
  generalize as.filter p = kept at h ha' hb'
  match kept, h with
  | [only], _ => rw [List.mem_singleton.mp ha', List.mem_singleton.mp hb']

/-- A list with one constraint is not of two kinds. -/
theorem only_kind {tokens : List Token}
    (h : tokens.countP (Token.isOneOf constraintKinds) ≤ 1) {a b : String}
    (ha : a ∈ constraintKinds) (hb : b ∈ constraintKinds) (hne : Text.sameFold a b = false)
    (hword : tokens.any (·.isKeyword a) = true) : tokens.any (·.isKeyword b) = false := by
  by_contra hother
  obtain ⟨t, ht, hta⟩ := List.any_eq_true.mp hword
  obtain ⟨u, hu, hub⟩ := List.any_eq_true.mp ((Bool.not_eq_false _).mp hother)
  obtain rfl : t = u :=
    eq_of_countP_le_one h ht hu (isOneOf_of_isKeyword ha hta) (isOneOf_of_isKeyword hb hub)
  rw [Token.isKeyword_ne hta hne] at hub
  cases hub

/-- A list with a single word in it, being that word alone. -/
theorem eq_word_of_names {tokens : List Token} {name : String}
    (hnames : tokens.filterMap Token.identifier? = [name]) (hlength : tokens.length = 1) :
    ∃ quote, tokens = [.word name quote] := by
  obtain ⟨t, rfl⟩ := List.length_eq_one_iff.mp hlength
  have hname : t.identifier? = some name := by
    cases hidentifier : t.identifier? with
    | none => simp [hidentifier] at hnames
    | some value => simpa [hidentifier] using hnames
  obtain ⟨quote, rfl⟩ := isWord_of_identifier? hname
  exact ⟨quote, rfl⟩

/-- A plain list is one column exactly if it has one word. -/
theorem IsPlainList.listsOnly_iff {list : List Token} (h : IsPlainList list) (name : String) :
    ListsOnly name list ↔ list.filterMap Token.identifier? = [name] := by
  obtain ⟨hsingle, hoptions⟩ := h
  constructor
  · rintro ⟨quote, options, rfl, hcomma, hoption⟩
    cases options with
    | nil => rfl
    | cons t ts =>
        -- An option behind the only column is what a plain list has not.
        exact absurd (hoptions hoption) (by simpa using hcomma)
  · intro hnames
    obtain ⟨quote, rfl⟩ := eq_word_of_names hnames (hsingle (by rw [hnames]; rfl))
    exact ⟨quote, [], rfl, by simp, rfl⟩

theorem keyList_append {before : List Token} (h : .mark .leftParen ∉ before)
    (rest : List Token) : keyList (before ++ rest) = keyList rest := by
  have hpass : ∀ t ∈ before, decide (t ≠ .mark .leftParen) = true :=
    fun t ht => decide_eq_true fun heq => h (heq ▸ ht)
  rw [keyList, List.dropWhile_append_of_pos hpass, keyList]

theorem outside_cut {before : List Token} (h : Token.depthFrom 0 before = 0) (t : Token)
    (rest : List Token) :
    outside 0 (before ++ t :: rest) = outside 0 before ++ t :: outside (nest 0 t) rest := by
  rw [Token.outside_append, h, Token.outside_cons]
  rfl

/-- Where one token of a kind at most stands outside parentheses, there is one place of it. -/
theorem eq_of_cuts {p : Token → Bool} {before before' behind behind' : List Token} {t t' : Token}
    (heq : before ++ t :: behind = before' ++ t' :: behind')
    (hcount : (outside 0 (before ++ t :: behind)).countP p ≤ 1)
    (hdepth : Token.depthFrom 0 before = 0) (hdepth' : Token.depthFrom 0 before' = 0)
    (ht : p t = true) (ht' : p t' = true) : behind = behind' := by
  have hbefore : (outside 0 before).countP p = 0 := by
    rw [outside_cut hdepth, List.countP_append, List.countP_cons_of_pos ht] at hcount
    omega
  have hbefore' : (outside 0 before').countP p = 0 := by
    rw [heq, outside_cut hdepth', List.countP_append, List.countP_cons_of_pos ht'] at hcount
    omega
  rcases List.append_eq_append_iff.mp heq with ⟨between, rfl, htail⟩ | ⟨between, rfl, htail⟩
  · cases between with
    | nil => exact (List.cons.inj htail).2
    | cons u us =>
        obtain ⟨rfl, -⟩ := List.cons.inj htail
        simp [outside_cut hdepth, ht] at hbefore'
  · cases between with
    | nil => exact (List.cons.inj htail).2.symm
    | cons u us =>
        obtain ⟨rfl, -⟩ := List.cons.inj htail
        simp [outside_cut hdepth', ht'] at hbefore

theorem depthFrom_of_not_mem {tokens : List Token} (h : .mark .leftParen ∉ tokens) :
    Token.depthFrom 0 tokens = 0 := by
  induction tokens with
  | nil => rfl
  | cons t ts ih =>
      obtain ⟨ht, hts⟩ := not_or.mp (mt List.mem_cons.mpr h)
      have hnest : nest 0 t = 0 := by
        unfold Token.nest
        split
        · exact absurd rfl ht
        · rfl
        · rfl
      rw [Token.depthFrom_cons, hnest, ih hts]

section Key

variable {d : List Token}

/-- The keyword of a plain key, and what stands before it and behind it. -/
theorem IsPlainKey.exists_key (h : IsPlainKey d) (hkeyed : d.any (Token.isOneOf keyKinds) = true) :
    ∃ before word behind, d = before ++ word :: behind ∧ .mark .leftParen ∉ before ∧
      word.isOneOf keyKinds = true ∧
      (word.isKeyword "PRIMARY" = true → behind.head?.any (·.isKeyword "KEY") = true) := by
  obtain ⟨hbefore, hkey, -⟩ := h
  have hd := List.takeWhile_append_dropWhile (p := fun t => !t.isOneOf keyKinds) (l := d)
  have hfirst := List.head?_dropWhile_not (fun t => !t.isOneOf keyKinds) d
  rw [keyPart] at hkey
  cases hpart : d.dropWhile fun t => !t.isOneOf keyKinds with
  | nil =>
      obtain ⟨t, ht, hkind⟩ := List.any_eq_true.mp hkeyed
      have hnone := List.dropWhile_eq_nil_iff.mp hpart t ht
      rw [hkind] at hnone
      cases hnone
  | cons word behind =>
      rw [hpart] at hd hfirst hkey
      exact ⟨_, word, behind, hd.symm, hbefore, by simpa using hfirst, hkey⟩

variable {keyword : String} (h : IsPlainConstraint d) (hkeyword : keyword ∈ keyKinds)

include h hkeyword

/-- A plain constraint that says a keyword of a key outside its parentheses says it at one place,
and its first parenthesis opens the list behind it. -/
theorem IsPlainConstraint.exists_key (hsaid : (outside 0 d).any (·.isKeyword keyword) = true) :
    (outside 0 d).countP (Token.isOneOf constraintKinds) ≤ 1 ∧ IsPlainList (keyList d) ∧
      d.any (·.isKeyword "FOREIGN") = false ∧
      ∃ before word behind, d = before ++ word :: behind ∧ Token.depthFrom 0 before = 0 ∧
        word.isKeyword keyword = true ∧ keyList behind = keyList d ∧
        (keyword = "PRIMARY" → behind.head?.any (·.isKeyword "KEY") = true) := by
  obtain ⟨t, ht, htword⟩ := List.any_eq_true.mp hsaid
  have htkind := isOneOf_of_isKeyword hkeyword htword
  obtain ⟨hforeign, hcount, hkey⟩ := h.2 (List.any_eq_true.mpr ⟨t, ht, htkind⟩)
  obtain ⟨before, word, behind, rfl, hbefore, hword, hprimary⟩ :=
    hkey.exists_key (List.any_eq_true.mpr ⟨t, Token.mem_of_outside ht, htkind⟩)
  have hdepth := depthFrom_of_not_mem hbefore
  have hkinds : ∀ u : Token, u.isOneOf keyKinds = true → u.isOneOf constraintKinds = true := by
    intro u hu
    obtain ⟨kind, hkind, hukind⟩ := List.any_eq_true.mp hu
    exact isOneOf_of_isKeyword (List.mem_append_left ["FOREIGN", "CHECK"] hkind) hukind
  have hmem : word ∈ outside 0 (before ++ word :: behind) := by
    rw [outside_cut hdepth]
    simp
  obtain rfl : t = word := eq_of_countP_le_one hcount ht hmem (hkinds t htkind) (hkinds word hword)
  refine ⟨hcount, hkey.2.2, ?_, before, t, behind, rfl, hdepth, htword, ?_,
    fun heq => hprimary (heq ▸ htword)⟩
  · rw [any_outside_of_inside hforeign]
    rcases List.mem_pair.mp hkeyword with rfl | rfl <;>
      exact only_kind hcount (by decide) (by decide) (by decide) hsaid
  · have hopen : .mark .leftParen ∉ before ++ [t] := by
      rw [List.mem_append, List.mem_singleton]
      rintro (hmark | rfl)
      · exact hbefore hmark
      · cases htword
    rw [← List.singleton_append, ← List.append_assoc, keyList_append hopen]

/-- A plain constraint is a key over one column exactly if its words say so. -/
theorem IsPlainConstraint.isKeyOf_iff (htable : isTableConstraint d = true) (names : List String)
    (i : Nat) :
    IsKeyOf keyword d names i ↔ (outside 0 d).any (·.isKeyword keyword) = true ∧
      ∃ name, listedNames d = some [name] ∧ names.findIdx? (Text.sameFold · name) = some i := by
  have hkind : keyword ∈ constraintKinds := List.mem_append_left ["FOREIGN", "CHECK"] hkeyword
  constructor
  · rintro ⟨-, before', word', behind', hd, hdepth', hword', -, name, hlist, hfirst⟩
    have hsaid : (outside 0 d).any (·.isKeyword keyword) = true := by
      rw [hd, outside_cut hdepth']
      simp [hword']
    obtain ⟨hcount, hplain, -, before, word, behind, rfl, hdepth, hword, hbehind, -⟩ :=
      h.exists_key hkeyword hsaid
    obtain rfl : behind = behind' := eq_of_cuts hd hcount hdepth hdepth'
      (isOneOf_of_isKeyword hkind hword) (isOneOf_of_isKeyword hkind hword')
    rw [hbehind, hplain.listsOnly_iff, ← listedNames_eq] at hlist
    exact ⟨hsaid, name, hlist, hfirst⟩
  · rintro ⟨hsaid, name, hnames, hfirst⟩
    obtain ⟨-, hplain, -, before, word, behind, rfl, hdepth, hword, hbehind, hprimary⟩ :=
      h.exists_key hkeyword hsaid
    rw [listedNames_eq, ← hplain.listsOnly_iff, ← hbehind] at hnames
    exact ⟨htable, before, word, behind, rfl, hdepth, hword, hprimary, name, hnames, hfirst⟩

end Key

theorem FlaggedBy.of_none {d : List Token} (h : ∀ keyword ∈ keyKinds,
    ¬ IsKeyOf keyword d names i) : FlaggedBy names i [d] c c := by
  have hprimary := h "PRIMARY" (by decide)
  have hunique := h "UNIQUE" (by decide)
  constructor <;> simp [hprimary, hunique]

/-- What a table constraint does to a column. -/
theorem flagged_of_constrain {d : List Token} (h : IsPlainConstraint d)
    (htable : isTableConstraint d = true) {columns : List Column} {i : Nat} {c : Column}
    (hc : columns[i]? = some c) :
    ∃ c', (constrain d columns)[i]? = some c' ∧
      FlaggedBy (columns.map Column.name) i [d] c c' := by
  have hkey := fun keyword (hkeyword : keyword ∈ keyKinds) =>
    h.isKeyOf_iff hkeyword htable (columns.map Column.name) i
  have houtside : ∀ keyword ∈ keyKinds,
      d.any (·.isKeyword keyword) = (outside 0 d).any (·.isKeyword keyword) :=
    fun keyword hkeyword =>
      any_outside_of_inside fun t ht => isKeyword_of_isOneOf hkeyword (h.1 t ht)
  unfold constrain
  simp only [houtside "PRIMARY" (by decide), houtside "UNIQUE" (by decide)]
  split
  · next hother =>
      -- The constraint is no key, or it is a key to another relation.
      refine ⟨c, hc, .of_none fun keyword hkeyword hkeyOf => ?_⟩
      have hsaid := ((hkey keyword hkeyword).mp hkeyOf).1
      obtain ⟨-, -, hforeign, -⟩ := h.exists_key hkeyword hsaid
      rw [hforeign, Bool.or_false, Bool.not_eq_true', Bool.or_eq_false_iff] at hother
      rcases List.mem_pair.mp hkeyword with rfl | rfl
      · rw [hother.1] at hsaid
        cases hsaid
      · rw [hother.2] at hsaid
        cases hsaid
  · split
    · next name hnames =>
        rw [getElem?_flagFirst, hc, Option.map_some]
        refine ⟨_, rfl, ?_⟩
        by_cases hfirst : (columns.map Column.name).findIdx? (Text.sameFold · name) = some i
        · have hword := fun keyword (hkeyword : keyword ∈ keyKinds) =>
            (hkey keyword hkeyword).trans (and_iff_left ⟨name, hnames, hfirst⟩)
          rw [if_pos hfirst]
          constructor <;> simp [hword "PRIMARY" (by decide), hword "UNIQUE" (by decide)]
        · rw [if_neg hfirst]
          refine .of_none fun keyword hkeyword hkeyOf => ?_
          obtain ⟨-, other, hother, hindex⟩ := (hkey keyword hkeyword).mp hkeyOf
          rw [hnames] at hother
          cases hother
          exact hfirst hindex
    · next hnames =>
        refine ⟨c, hc, .of_none fun keyword hkeyword hkeyOf => ?_⟩
        obtain ⟨-, name, hname, -⟩ := (hkey keyword hkeyword).mp hkeyOf
        exact hnames name hname

/-! ## Lists of definitions -/

variable {columns columns' : List Column} {definitions : List (List Token)}

/-- A definition that begins otherwise than a table constraint defines a column. -/
theorem addDefinition_eq_ok {d : List Token} (h : addDefinition columns d = .ok columns') :
    (isTableConstraint d = true ∧ columns' = constrain d columns) ∨
      isTableConstraint d = false ∧ ∃ name quote rest, d = .word name quote :: rest ∧
        columns' = columns ++ [define name rest] := by
  unfold addDefinition at h
  split at h
  · cases h
  · next first rest =>
      split at h
      · next htable =>
          cases h
          exact Or.inl ⟨htable, rfl⟩
      · next htable =>
          split at h
          · next name hname =>
              cases h
              obtain ⟨quote, rfl⟩ := isWord_of_identifier? hname
              exact Or.inr ⟨(Bool.not_eq_true _).mp htable, name, quote, rest, rfl, rfl⟩
          · cases h

theorem names_constrain (d : List Token) (columns : List Column) :
    (constrain d columns).map name = columns.map name := by
  unfold constrain
  simp only
  split
  · rfl
  · split
    · exact names_flagFirst _ _ _ _
    · rfl

/-- The columns that are there stay, in order, before those that are defined later. -/
theorem exists_names_of_readAll (h : readAll columns definitions = .ok columns') :
    ∃ later, columns'.map name = columns.map name ++ later ∧
      later.length = definitions.countP fun d => !isTableConstraint d := by
  induction definitions generalizing columns with
  | nil =>
      cases h
      exact ⟨[], by simp, rfl⟩
  | cons d ds ih =>
      obtain ⟨middle, hadd, h⟩ := exists_of_bind_ok h
      obtain ⟨later, hnames, hlength⟩ := ih h
      rcases addDefinition_eq_ok hadd with ⟨htable, rfl⟩ | ⟨htable, name, quote, rest, rfl, rfl⟩
      · exact ⟨later, by rw [hnames, names_constrain], by simp [htable, hlength]⟩
      · refine ⟨name :: later, by simp [hnames, define], ?_⟩
        rw [List.countP_cons_of_pos (by simp [htable]), List.length_cons, hlength]

/-- What the definitions after a column do to it. -/
theorem flagged_of_readAll (hplain : ∀ d ∈ definitions, IsPlain d)
    (h : readAll columns definitions = .ok columns') {i : Nat} {c : Column}
    (hc : columns[i]? = some c) :
    ∃ c', columns'[i]? = some c' ∧ FlaggedBy (columns'.map name) i definitions c c' := by
  induction definitions generalizing columns c with
  | nil =>
      cases h
      exact ⟨c, hc, .nil⟩
  | cons d ds ih =>
      have hi := (List.getElem?_eq_some_iff.mp hc).1
      have hlater := fun e he => hplain e (List.mem_cons_of_mem d he)
      obtain ⟨middle, hadd, hrest⟩ := exists_of_bind_ok h
      obtain ⟨later, hnames, -⟩ := exists_names_of_readAll h
      rcases addDefinition_eq_ok hadd with ⟨htable, rfl⟩ | ⟨htable, name, quote, rest, -, rfl⟩
      · have hd : IsPlainConstraint d := by simpa [IsPlain, htable] using hplain d List.mem_cons_self
        obtain ⟨c₁, hc₁, hflags⟩ := flagged_of_constrain hd htable hc
        obtain ⟨c', hc', hmore⟩ := ih hlater hrest hc₁
        have hflags' : FlaggedBy (columns'.map Column.name) i [d] c c₁ := by
          rw [hnames]
          exact hflags.append (by simpa using hi) later
        exact ⟨c', hc', hflags'.cons hmore⟩
      · have hc₁ : (columns ++ [define name rest])[i]? = some c := by
          rw [List.getElem?_append_left hi, hc]
        obtain ⟨c', hc', hmore⟩ := ih hlater hrest hc₁
        exact ⟨c', hc', (FlaggedBy.of_column htable).cons hmore⟩

/-- Every column that is added has a definition, which comes after those of the columns before
it. -/
theorem exists_definition (hplain : ∀ d ∈ definitions, IsPlain d)
    (h : readAll columns definitions = .ok columns') {i : Nat} {c : Column}
    (hi : columns.length ≤ i) (hc : columns'[i]? = some c) :
    ∃ earlier quote rest later, definitions = earlier ++ (.word c.name quote :: rest) :: later ∧
      isTableConstraint (.word c.name quote :: rest) = false ∧
      columns.length + earlier.countP (fun d => !isTableConstraint d) = i ∧
      FlaggedBy (columns'.map name) i later (define c.name rest) c := by
  induction definitions generalizing columns with
  | nil =>
      cases h
      rw [List.getElem?_eq_none hi] at hc
      cases hc
  | cons d ds ih =>
      have hlater := fun e he => hplain e (List.mem_cons_of_mem d he)
      obtain ⟨middle, hadd, hrest⟩ := exists_of_bind_ok h
      rcases addDefinition_eq_ok hadd with ⟨htable, rfl⟩ | ⟨htable, name, quote, rest, rfl, rfl⟩
      · have hlength : (constrain d columns).length = columns.length := by
          simpa using congrArg List.length (names_constrain d columns)
        obtain ⟨earlier, quote, rest, later, rfl, hcolumn, hcount, hflags⟩ :=
          ih hlater hrest (by rwa [hlength])
        refine ⟨d :: earlier, quote, rest, later, rfl, hcolumn, ?_, hflags⟩
        rw [List.countP_cons_of_neg (by simp [htable]), ← hcount, hlength]
      · rcases Nat.eq_or_lt_of_le hi with rfl | hi
        · have hnew : (columns ++ [define name rest])[columns.length]? = some (define name rest) :=
            List.getElem?_concat_length
          obtain ⟨c', hc', hflags⟩ := flagged_of_readAll hlater hrest hnew
          obtain rfl : c' = c := Option.some.inj (hc'.symm.trans hc)
          obtain rfl : c'.name = name := hflags.name
          exact ⟨[], quote, rest, ds, rfl, htable, rfl, hflags⟩
        · obtain ⟨earlier, quote', rest', later, rfl, hcolumn, hcount, hflags⟩ :=
            ih hlater hrest (by rwa [List.length_append])
          refine ⟨_ :: earlier, quote', rest', later, rfl, hcolumn, ?_, hflags⟩
          rw [List.countP_cons_of_pos (by simp [htable]), ← hcount]
          simp only [List.length_append, List.length_singleton]
          omega

/-- A column has one of the definitions. It is flagged by the words that this one says outside its
parentheses, behind the type if they are for a key, and by the keys after it over this column
alone. -/
def IsDeclared (definitions : List (List Token)) (columns : List Column) (i : Nat) (c : Column) :
    Prop :=
  ∃ earlier quote rest later, definitions = earlier ++ (.word c.name quote :: rest) :: later ∧
    isTableConstraint (.word c.name quote :: rest) = false ∧
    earlier.countP (fun d => !isTableConstraint d) = i ∧
    c.notNull = saysNotNull (outside 0 rest) ∧
    (c.primaryKey = true ↔ (afterType rest).any (·.isKeyword "PRIMARY") = true ∨
      ∃ d ∈ later, IsKeyOf "PRIMARY" d (columns.map name) i) ∧
    (c.unique = true ↔ (afterType rest).any (·.isKeyword "UNIQUE") = true ∨
      ∃ d ∈ later, IsKeyOf "UNIQUE" d (columns.map name) i)

theorem IsPlainColumn.flags {name : String} {quote : Option Quote} {rest : List Token}
    (h : IsPlainColumn (.word name quote :: rest)) :
    (define name rest).notNull = saysNotNull (outside 0 rest) ∧
      (define name rest).primaryKey = (afterType rest).any (·.isKeyword "PRIMARY") ∧
      (define name rest).unique = (afterType rest).any (·.isKeyword "UNIQUE") := by
  obtain ⟨hwords, hnull⟩ := h
  have hinside : inside 0 (.word name quote :: rest) = inside 0 rest := rfl
  rw [hinside] at hwords hnull
  have hkeys : ∀ keyword ∈ keyKinds, keyword ∈ columnConstraintStarts →
      rest.any (·.isKeyword keyword) = (afterType rest).any (·.isKeyword keyword) := by
    intro keyword hkeyword hstart
    have hnone : (inside 0 rest).any (·.isKeyword keyword) = false := by
      refine List.any_eq_false.mpr fun t ht hword => ?_
      have hplain := hwords t ht
      rw [isOneOf_of_isKeyword hkeyword hword] at hplain
      cases hplain
    rw [any_afterType hstart, Token.any_eq_outside_inside _ 0 rest, hnone, Bool.or_false]
  obtain ⟨hprimary, hunique, hnotNull⟩ := flags_define name rest
  rw [hprimary, hunique, hnotNull, saysNotNull_eq 0 rest, hnull, Bool.or_false]
  exact ⟨rfl, hkeys _ (by decide) (by decide), hkeys _ (by decide) (by decide)⟩

theorem isDeclared_of_readAll (hplain : ∀ d ∈ definitions, IsPlain d)
    (h : readAll [] definitions = .ok columns') {i : Nat} {c : Column}
    (hc : columns'[i]? = some c) : IsDeclared definitions columns' i c := by
  obtain ⟨earlier, quote, rest, later, rfl, hcolumn, hcount, hflags⟩ :=
    exists_definition hplain h (Nat.zero_le i) hc
  have hdefinition : IsPlainColumn (.word c.name quote :: rest) := by
    simpa [IsPlain, hcolumn] using hplain (.word c.name quote :: rest) (by simp)
  obtain ⟨hnotNull, hprimary, hunique⟩ := hdefinition.flags
  refine ⟨earlier, quote, rest, later, rfl, hcolumn, by simpa using hcount, ?_, ?_, ?_⟩
  · rw [hflags.notNull, hnotNull]
  · rw [hflags.primaryKey, hprimary]
  · rw [hflags.unique, hunique]

end Column

/-! ## Creations -/

/-- A creation has columns only if it has definitions. Every column has its own one, in the order
of these. Where no word that flags a column stands in the parentheses of a definition, each table
constraint is a single one, and a key over one column lists nothing but its name, a column is
flagged by what its definition says outside parentheses and by the later keys over it alone, and by
nothing else. -/
theorem flags_of_createTable (sql : String) (s : CreateTable)
    (hparse : Statement.parse sql = .ok (.createTable s)) :
    (s.columns = [] ∨ ∃ body, IsDefinedBy sql body) ∧
      ∀ body, IsDefinedBy sql body →
        let definitions := Token.splitAtCommas body
        s.columns.length = definitions.countP (fun d => !Column.isTableConstraint d) ∧
          ((∀ d ∈ definitions, Column.IsPlain d) →
            ∀ i c, s.columns[i]? = some c → Column.IsDeclared definitions s.columns i c) := by
  obtain ⟨tokens, rest, hscan, -, hread⟩ := Statement.exists_of_parse hparse
  refine ⟨?_, ?_⟩
  · obtain ⟨head, afterName, list, afterList, hhead, rfl, hlist, hcolumns⟩ :=
      Parser.exists_of_createTable hread
    rcases Parser.optionalGroup_eq_ok hlist with ⟨rfl, -⟩ | ⟨body, -, rfl, hbody⟩
    · exact Or.inl (Except.ok.inj hcolumns).symm
    · exact Or.inr ⟨body, s.relation, head, afterList, hhead, hbody, hscan⟩
  · rintro body ⟨relation, head, after, hhead, hbody, hscan'⟩ definitions
    obtain rfl := Except.ok.inj (hscan.symm.trans hscan')
    have hcolumns := Parser.definitions_of_createTable hhead hbody hread
    refine ⟨?_, fun hplain i c hc => Column.isDeclared_of_readAll hplain hcolumns hc⟩
    obtain ⟨later, hnames, hlength⟩ := Column.exists_names_of_readAll hcolumns
    rw [← hlength]
    simpa using congrArg List.length hnames

/-- A type and a check with parentheses, names that differ in letter case, and a key after
them. -/
theorem flags_of_createTable_keys :
    let sql := "CREATE TABLE t (B NUM(9, 2) CHECK (B IN (1, 2)) NOT NULL, b UNIQUE, PRIMARY KEY (b))"
    let columns : List Column :=
      [⟨"B", "NUM (9, 2)", true, false, true⟩, ⟨"b", "", false, true, false⟩]
    Statement.parse sql = .ok (.createTable ⟨"t", false, columns⟩) ∧
      ∃ body, IsDefinedBy sql body ∧ (∀ d ∈ Token.splitAtCommas body, Column.IsPlain d) ∧
        Column.IsDeclared (Token.splitAtCommas body) columns 0 ⟨"B", "NUM (9, 2)", true, false, true⟩ ∧
        Column.IsDeclared (Token.splitAtCommas body) columns 1 ⟨"b", "", false, true, false⟩ := by
  intro sql columns
  let word : String → Token := fun value => .word value none
  let body : List Token :=
    [word "B", word "NUM", .mark .leftParen, .number "9" false, .mark .comma, .number "2" false,
      .mark .rightParen, word "CHECK", .mark .leftParen, word "B", word "IN", .mark .leftParen,
      .number "1" false, .mark .comma, .number "2" false, .mark .rightParen, .mark .rightParen,
      word "NOT", word "NULL", .mark .comma, word "b", word "UNIQUE", .mark .comma,
      word "PRIMARY", word "KEY", .mark .leftParen, word "b", .mark .rightParen]
  let head : List Token := [word "CREATE", word "TABLE", word "t"]
  have hscan : Token.scan sql = .ok (head ++ .mark .leftParen :: (body ++ [.mark .rightParen])) := by
    decide +kernel
  have hparse : Statement.parse sql = .ok (.createTable ⟨"t", false, columns⟩) := by
    rw [Statement.parse, hscan]
    decide +kernel
  have hbody : IsDefinedBy sql body :=
    ⟨"t", head, [], ⟨⟨word "CREATE", rfl⟩, [], ⟨word "TABLE", rfl⟩, [], [word "t"], rfl, Or.inl rfl,
      Or.inl rfl, Or.inl ⟨none, rfl⟩⟩, by decide +kernel, hscan⟩
  have hplain : ∀ d ∈ Token.splitAtCommas body, Column.IsPlain d := by decide +kernel
  obtain ⟨-, hflags⟩ := flags_of_createTable sql _ hparse
  have hdeclared := (hflags body hbody).2 hplain
  exact ⟨hparse, body, hbody, hplain, hdeclared 0 _ rfl, hdeclared 1 _ rfl⟩

/-- The words of a check flag the column, although they stand in parentheses. -/
theorem flag_from_check :
    let sql := "CREATE TABLE t (a INTEGER CHECK (a IS NOT NULL))"
    let c : Column := ⟨"a", "INTEGER", false, false, true⟩
    Statement.parse sql = .ok (.createTable ⟨"t", false, [c]⟩) ∧
      ∃ body, IsDefinedBy sql body ∧ ¬ Column.IsDeclared (Token.splitAtCommas body) [c] 0 c := by
  intro sql c
  let word : String → Token := fun value => .word value none
  let rest : List Token :=
    [word "INTEGER", word "CHECK", .mark .leftParen, word "a", word "IS", word "NOT", word "NULL",
      .mark .rightParen]
  have hsplit : Token.splitAtCommas (word "a" :: rest) = [word "a" :: rest] := by decide +kernel
  let head : List Token := [word "CREATE", word "TABLE", word "t"]
  have hscan : Token.scan sql = .ok (head ++ .mark .leftParen ::
      (word "a" :: rest ++ [.mark .rightParen])) := by decide +kernel
  refine ⟨?_, word "a" :: rest, ?_, ?_⟩
  · rw [Statement.parse, hscan]
    decide +kernel
  · exact ⟨"t", head, [], ⟨⟨word "CREATE", rfl⟩, [], ⟨word "TABLE", rfl⟩, [], [word "t"], rfl,
      Or.inl rfl, Or.inl rfl, Or.inl ⟨none, rfl⟩⟩, by decide +kernel, hscan⟩
  · rw [hsplit]
    rintro ⟨earlier, quote, rest', later, hdefinitions, -, -, hnotNull, -⟩
    cases earlier with
    | nil =>
        obtain ⟨-, rfl⟩ := List.cons.inj (List.cons.inj hdefinitions).1
        exact absurd hnotNull (by decide +kernel)
    | cons d ds => simp at hdefinitions

end MiniSql
