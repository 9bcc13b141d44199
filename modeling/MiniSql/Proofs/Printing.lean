import MiniSql.Proofs.Layout
import MiniSql.Statement.Parser

/-!
# Printing statements

A statement is printed as the tokens of one spelling of it: names in double quotes, texts in
single quotes, keywords in capitals, parameters as bare question marks. A statement is
canonical when this spelling says everything about it: it has the columns, values and
assignments that the grammar asks for, no value without an exact literal, and parameters
numbered from zero in the order in which they are printed.

**Results.**
* `layout_literal`: literals are printed as they are displayed.
* `scan_print`: a canonical statement, printed and scanned, gives its tokens.
-/

namespace MiniSql

/-! ## Spellings -/

namespace Token

/-- A name in double quotes. -/
def quoted (s : String) : Token := word s (some .double)

/-- A word without quotes. -/
def bare (s : String) : Token := word s none

@[simp] theorem isOneOf_quoted (keywords : List String) (s : String) :
    (quoted s).isOneOf keywords = false := by
  simp [isOneOf, quoted]

/-- The pieces with the separator between them. -/
def joined (separator : Token) (pieces : List (List Token)) : List Token :=
  [separator].intercalate pieces

/-- A list in parentheses, its items separated by commas. -/
def listed (items : List (List Token)) : List Token :=
  mark .leftParen :: joined (mark .comma) items ++ [mark .rightParen]

end Token

open Token (quoted bare joined listed)

/-- The spelling of a literal. A real number has no canonical one. -/
def Literal.tokens : Literal → List Token
  | null => [bare "NULL"]
  | integer i =>
    (if i.toInt < 0 then [.mark .minus] else []) ++ [.number i.toInt.natAbs.repr false]
  | real x => [.operator x.display]
  | text s => [.text .plain s]

def Operand.tokens : Operand → List Token
  | placeholder _ => [.placeholder ""]
  | literal l => l.tokens

def Assignment.tokens (a : Assignment) : List Token :=
  quoted a.column :: .mark .equal :: a.value.tokens

/-- The spelling of a conjunct; one that is kept as text is that text. -/
def Conjunct.tokens : Conjunct → List Token
  | equals column _ => [quoted column, .mark .equal, .placeholder ""]
  | other text => [.operator text]

def Predicate.tokens (p : Predicate) : List Token :=
  joined (bare "AND") (p.conjuncts.map Conjunct.tokens)

/-- The spelling of an optional clause. -/
def Predicate.clause : Option Predicate → List Token
  | none => []
  | some p => bare "WHERE" :: p.tokens

def Projection.tokens : Projection → List Token
  | all => [.mark .star]
  | columns names => joined (.mark .comma) (names.map fun n => [quoted n])
  | expressions text => [.operator text]

/-- The words of a column type. -/
def Column.typeWords (type : String) : List String :=
  if type = "" then [] else (type.toList.splitOn ' ').map String.ofList

/-- The spelling of the constraints of a column. -/
def Column.constraintTokens (c : Column) : List Token :=
  (if c.primaryKey then [bare "PRIMARY", bare "KEY"] else []) ++
    (if c.unique then [bare "UNIQUE"] else []) ++
    (if c.notNull then [bare "NOT", bare "NULL"] else [])

def Column.tokens (c : Column) : List Token :=
  quoted c.name :: (typeWords c.type).map bare ++ c.constraintTokens

namespace Statement

/-- The spelling of a statement. -/
def tokens : Statement → List Token
  | createTable s =>
    bare "CREATE" :: bare "TABLE" ::
      (if s.ifNotExists then [bare "IF", bare "NOT", bare "EXISTS"] else []) ++
      quoted s.relation :: listed (s.columns.map Column.tokens)
  | insert s =>
    bare "INSERT" :: bare "INTO" :: quoted s.relation ::
      listed (s.columns.map fun c => [quoted c]) ++
      bare "VALUES" :: listed (s.values.map Operand.tokens)
  | update s =>
    bare "UPDATE" :: quoted s.relation :: bare "SET" ::
      joined (.mark .comma) (s.assignments.map Assignment.tokens) ++ Predicate.clause s.predicate
  | delete s =>
    bare "DELETE" :: bare "FROM" :: quoted s.relation :: Predicate.clause s.predicate
  | select s =>
    bare "SELECT" :: s.projection.tokens ++
      bare "FROM" :: quoted s.relation :: Predicate.clause s.predicate
  | begin => [bare "BEGIN"]
  | commit => [bare "COMMIT"]
  | rollback => [bare "ROLLBACK"]
  | pragma text => [bare "PRAGMA", .operator text]

/-- The text of a statement. -/
def print (s : Statement) : String :=
  String.ofList (Token.layout s.tokens)

end Statement

/-! ## Canonical statements -/

def Conjunct.slot? : Conjunct → Option Nat
  | equals _ slot => some slot
  | other _ => none

/-- The slots of a clause, from left to right. -/
def Predicate.slots (predicate : Option Predicate) : List Nat :=
  (predicate.elim [] Predicate.conjuncts).filterMap Conjunct.slot?

/-- The slots of a statement, from left to right. -/
def Statement.slots : Statement → List Nat
  | insert s => s.values.filterMap Operand.slot?
  | update s => s.assignments.filterMap (·.value.slot?) ++ Predicate.slots s.predicate
  | delete s => Predicate.slots s.predicate
  | select s => Predicate.slots s.predicate
  | _ => []

/-- Every literal but a real number and the least integer, which has no exact spelling. -/
def Literal.isCanonical : Literal → Bool
  | null => true
  | integer i => i ≠ Int64.minValue
  | real _ => false
  | text _ => true

def Operand.isCanonical : Operand → Bool
  | placeholder _ => true
  | literal l => l.isCanonical

def Conjunct.isCanonical : Conjunct → Bool
  | equals _ _ => true
  | other _ => false

/-- No clause, or comparisons with parameters. -/
def Predicate.isCanonical : Option Predicate → Bool
  | none => true
  | some p => p.conjuncts ≠ [] && p.conjuncts.all Conjunct.isCanonical

def Projection.isCanonical : Projection → Bool
  | all => true
  | columns names => names ≠ []
  | expressions _ => false

/-- The type of the column consists of bare words, none of which begins a constraint. -/
def Column.isCanonical (c : Column) : Bool :=
  (typeWords c.type).all fun w =>
    Token.isBareWord w && !(bare w).isOneOf columnConstraintStarts

/-- The printed text says everything about the statement. -/
def Statement.isCanonical (s : Statement) : Bool :=
  s.slots = List.range s.slots.length &&
    match s with
    | createTable s => s.columns ≠ [] && s.columns.all Column.isCanonical
    | insert s =>
      s.columns ≠ [] && s.columns.length = s.values.length && s.values.all Operand.isCanonical
    | update s =>
      s.assignments ≠ [] && s.assignments.all (·.value.isCanonical) &&
        Predicate.isCanonical s.predicate
    | delete s => Predicate.isCanonical s.predicate
    | select s => s.projection.isCanonical && Predicate.isCanonical s.predicate
    | begin | commit | rollback => true
    | pragma _ => false

/-! ## What is printed -/

/-- Literals are printed as they are displayed. -/
theorem layout_literal (l : Literal) (h : l.isCanonical = true) :
    String.ofList (Token.layout l.tokens) = l.display := by
  cases l with
  | null => rfl
  | integer i =>
      rw [Literal.tokens, Literal.display, Int.repr_eq_if]
      by_cases hneg : i.toInt < 0
      · have hnonneg : ¬ 0 ≤ i.toInt := by omega
        have habs : (-i.toInt).toNat = i.toInt.natAbs := by omega
        rw [if_pos hneg, if_neg hnonneg, habs]
        simp [Token.layout, Token.written, Token.adjoins, Mark.spelling,
          Nat.repr_eq_ofList_toDigits]
      · have hnonneg : 0 ≤ i.toInt := by omega
        have habs : i.toInt.toNat = i.toInt.natAbs := by omega
        rw [if_neg hneg, if_pos hnonneg, habs]
        simp [Token.layout, Token.written, Nat.repr_eq_ofList_toDigits]
  | real x => cases h
  | text s => rfl

namespace Token

/-- Tokens that scanning gives back, and that keep their meaning before further ones. -/
structure Printable (tokens : List Token) : Prop where
  writable : ∀ t ∈ tokens, t.isWritable = true
  chain : tokens.IsChain fun t u => mayPrecede t u = true
  noPeriod : mark .period ∉ tokens
  noMinusLast : tokens.getLast? ≠ some (mark .minus)

theorem mayPrecede_of_ne {t u : Token} (hminus : t ≠ mark .minus) (hperiod : t ≠ mark .period)
    (hnext : u ≠ mark .period) : mayPrecede t u = true := by
  unfold mayPrecede
  split <;> simp_all

theorem printable_nil : Printable [] := by
  constructor <;> simp

theorem Printable.append {ts us : List Token} (hts : Printable ts) (hus : Printable us) :
    Printable (ts ++ us) := by
  constructor
  · intro t ht
    exact (List.mem_append.1 ht).elim (hts.writable t) (hus.writable t)
  · refine List.isChain_append.2 ⟨hts.chain, hus.chain, ?_⟩
    intro t ht u hu
    have htmem : t ∈ ts := List.mem_of_getLast? ht
    have humem : u ∈ us := List.mem_of_mem_head? hu
    apply mayPrecede_of_ne
    · rintro rfl
      exact hts.noMinusLast ht
    · rintro rfl
      exact hts.noPeriod htmem
    · rintro rfl
      exact hus.noPeriod humem
  · intro hmem
    exact (List.mem_append.1 hmem).elim hts.noPeriod hus.noPeriod
  · rw [List.getLast?_append]
    intro hlast
    cases hus' : us.getLast? with
    | none => exact hts.noMinusLast (by simpa [hus'] using hlast)
    | some u => exact hus.noMinusLast (by simpa [hus'] using hlast)

theorem printable_single {t : Token} (hwritable : t.isWritable = true)
    (hperiod : t ≠ mark .period) (hminus : t ≠ mark .minus) : Printable [t] := by
  constructor
  · simpa using hwritable
  · simp
  · simpa using hperiod.symm
  · simpa using hminus

theorem Printable.cons {t : Token} {ts : List Token} (hts : Printable ts)
    (hwritable : t.isWritable = true) (hperiod : t ≠ mark .period) (hminus : t ≠ mark .minus) :
    Printable (t :: ts) :=
  (printable_single hwritable hperiod hminus).append hts

theorem Printable.quoted {ts : List Token} (hts : Printable ts) (s : String) :
    Printable (quoted s :: ts) :=
  hts.cons rfl (by simp [Token.quoted]) (by simp [Token.quoted])

theorem Printable.bare {ts : List Token} (hts : Printable ts) {s : String}
    (hs : isBareWord s = true) : Printable (bare s :: ts) :=
  hts.cons hs (by simp [Token.bare]) (by simp [Token.bare])

theorem printable_joined {separator : Token} (hseparator : Printable [separator])
    {pieces : List (List Token)} (hpieces : ∀ p ∈ pieces, Printable p) :
    Printable (joined separator pieces) := by
  induction pieces with
  | nil => exact printable_nil
  | cons p rest ih =>
    have hp := hpieces p List.mem_cons_self
    cases rest with
    | nil => simpa [joined] using hp
    | cons q rest =>
        rw [joined, List.intercalate_cons_cons]
        exact (hp.append hseparator).append (ih fun r hr => hpieces r (List.mem_cons_of_mem p hr))

theorem printable_listed {items : List (List Token)} (hitems : ∀ p ∈ items, Printable p) :
    Printable (listed items) := by
  have hcomma : Printable [mark .comma] := printable_single rfl (by simp) (by simp)
  have hclose : Printable [mark .rightParen] := printable_single rfl (by simp) (by simp)
  exact ((printable_joined hcomma hitems).append hclose).cons rfl (by simp) (by simp)

end Token

open Token (Printable printable_nil printable_single printable_joined printable_listed)

theorem printable_literal {l : Literal} (h : l.isCanonical = true) : Printable l.tokens := by
  cases l with
  | null => exact printable_nil.bare (by decide)
  | integer i =>
      have hdigits : (Token.number i.toInt.natAbs.repr false).isWritable = true := by
        rw [Token.isWritable_number_iff, Nat.toList_repr]
        refine ⟨Nat.toDigits_ne_nil, ?_, rfl⟩
        exact fun c hc => Nat.isDigit_of_mem_toDigits (by decide) (by decide) hc
      rw [Literal.tokens]
      split
      · have hminus : (Token.mark .minus).isWritable = true := rfl
        constructor <;> simp [hdigits, hminus, Token.mayPrecede]
      · exact printable_single hdigits (by simp) (by simp)
  | real x => cases h
  | text s => exact printable_single rfl (by simp) (by simp)

theorem printable_operand {v : Operand} (h : v.isCanonical = true) : Printable v.tokens := by
  cases v with
  | placeholder slot => exact printable_single rfl (by simp) (by simp)
  | literal l => exact printable_literal h

theorem printable_clause {predicate : Option Predicate}
    (h : Predicate.isCanonical predicate = true) : Printable (Predicate.clause predicate) := by
  cases predicate with
  | none => exact printable_nil
  | some p =>
      simp only [Predicate.isCanonical, Bool.and_eq_true, List.all_eq_true] at h
      refine Printable.bare (printable_joined (printable_nil.bare (by decide)) ?_) (by decide)
      intro piece hpiece
      obtain ⟨c, hc, rfl⟩ := List.mem_map.1 hpiece
      cases c with
      | equals column slot =>
          have hplaceholder : Printable [.placeholder ""] :=
            printable_single rfl (by simp) (by simp)
          exact (hplaceholder.cons rfl (by simp) (by simp)).quoted column
      | other text => cases h.2 _ hc

theorem printable_projection {p : Projection} (h : p.isCanonical = true) :
    Printable p.tokens := by
  cases p with
  | all => exact printable_single rfl (by simp) (by simp)
  | columns names =>
      refine printable_joined (printable_single rfl (by simp) (by simp)) ?_
      intro piece hpiece
      obtain ⟨n, -, rfl⟩ := List.mem_map.1 hpiece
      exact printable_nil.quoted n
  | expressions text => cases h

theorem printable_column {c : Column} (h : c.isCanonical = true) : Printable c.tokens := by
  have htype : ∀ words : List String, (∀ w ∈ words, Token.isBareWord w = true) →
      Printable (words.map bare) := by
    intro words
    induction words with
    | nil => exact fun _ => printable_nil
    | cons w words ih =>
        intro hwords
        exact (ih fun v hv => hwords v (List.mem_cons_of_mem w hv)).bare
          (hwords w List.mem_cons_self)
  have hconstraints : Printable c.constraintTokens := by
    refine (Printable.append ?_ ?_).append ?_ <;> split
    · exact htype ["PRIMARY", "KEY"] (by decide)
    · exact printable_nil
    · exact htype ["UNIQUE"] (by decide)
    · exact printable_nil
    · exact htype ["NOT", "NULL"] (by decide)
    · exact printable_nil
  simp only [Column.isCanonical, List.all_eq_true, Bool.and_eq_true] at h
  exact ((htype _ fun w hw => (h w hw).1).append hconstraints).quoted c.name

namespace Statement

theorem printable_tokens {s : Statement} (h : s.isCanonical = true) : Printable s.tokens := by
  cases s with
  | createTable s =>
      simp only [isCanonical, Bool.and_eq_true, List.all_eq_true] at h
      have hcolumns : Printable (listed (s.columns.map Column.tokens)) := by
        refine printable_listed fun piece hpiece => ?_
        obtain ⟨c, hc, rfl⟩ := List.mem_map.1 hpiece
        exact printable_column (h.2.2 c hc)
      have hexists : Printable
          (if s.ifNotExists then [bare "IF", bare "NOT", bare "EXISTS"] else []) := by
        split
        · exact ((printable_nil.bare (by decide)).bare (by decide)).bare (by decide)
        · exact printable_nil
      exact ((hexists.append (hcolumns.quoted s.relation)).bare (by decide)).bare (by decide)
  | insert s =>
      simp only [isCanonical, Bool.and_eq_true, List.all_eq_true] at h
      have hcolumns : Printable (listed (s.columns.map fun c => [quoted c])) := by
        refine printable_listed fun piece hpiece => ?_
        obtain ⟨c, -, rfl⟩ := List.mem_map.1 hpiece
        exact printable_nil.quoted c
      have hvalues : Printable (listed (s.values.map Operand.tokens)) := by
        refine printable_listed fun piece hpiece => ?_
        obtain ⟨v, hv, rfl⟩ := List.mem_map.1 hpiece
        exact printable_operand (h.2.2 v hv)
      have hrelation := hcolumns.quoted s.relation
      exact ((hrelation.bare (by decide)).bare (by decide)).append (hvalues.bare (by decide))
  | update s =>
      simp only [isCanonical, Bool.and_eq_true, List.all_eq_true] at h
      have hassignments :
          Printable (joined (.mark .comma) (s.assignments.map Assignment.tokens)) := by
        refine printable_joined (printable_single rfl (by simp) (by simp)) fun piece hpiece => ?_
        obtain ⟨a, ha, rfl⟩ := List.mem_map.1 hpiece
        exact ((printable_operand (h.2.1.2 a ha)).cons rfl (by simp) (by simp)).quoted a.column
      have hset : Printable (bare "SET" :: _) := hassignments.bare (by decide)
      exact ((hset.quoted s.relation).bare (by decide)).append (printable_clause h.2.2)
  | delete s =>
      simp only [isCanonical, Bool.and_eq_true] at h
      exact (((printable_clause h.2).quoted s.relation).bare (by decide)).bare (by decide)
  | select s =>
      simp only [isCanonical, Bool.and_eq_true] at h
      have htail : Printable (bare "FROM" :: _) :=
        ((printable_clause h.2.2).quoted s.relation).bare (by decide)
      exact ((printable_projection h.2.1).bare (by decide)).append htail
  | begin => exact printable_nil.bare (by decide)
  | commit => exact printable_nil.bare (by decide)
  | rollback => exact printable_nil.bare (by decide)
  | pragma text => simp [isCanonical] at h

/-- A canonical statement, printed and scanned, gives its tokens. -/
theorem scan_print {s : Statement} (h : s.isCanonical = true) :
    Token.scan s.print = .ok s.tokens :=
  Token.scan_layout (printable_tokens h).writable (printable_tokens h).chain

end Statement

end MiniSql
