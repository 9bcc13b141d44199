import MiniSql.Proofs.FilledTexts
import MiniSql.Proofs.Insertion
import MiniSql.Proofs.Literals

/-!
# Integers written in a statement

The decimal text of an integer, a minus in front if it is negative, is a value of an insertion or
update wherever a parameter is, and is read as this integer; an insertion stores it as such. The
least integer is the exception. What a minus stands before is read first, by itself, and this
magnitude is one too large for an integer: the text is read as a number of double precision, and
no statement has the least integer among its values.

**Results.**
* `Statement.parse_filled`: literals in the place of parameters are read as such.
* `Insert.given?_of_last`: a column is given the value that is the last of its own.
* `Statement.integer_of_write`: what the decimal text of an integer is read as and stored as.
* `Statement.least_integer_becomes_real`: the decimal text of the least integer.
-/

namespace MiniSql

/-! ## One literal -/

/-- One literal in the place of one parameter. -/
def Filling.only (k : Nat) (l : Literal) : Filling :=
  fun slot => if slot = k then some l else none

theorem Filling.only_eq_some {k slot : Nat} {l l' : Literal} (h : only k l slot = some l') :
    slot = k ∧ l' = l := by
  unfold only at h
  split at h
  · next hslot => exact ⟨hslot, (Option.some.inj h).symm⟩
  · cases h

theorem Operand.fill_only (k : Nat) (l : Literal) :
    (placeholder k).fill (.only k l) = literal l := by
  simp [fill, Filling.only]

namespace Statement

variable {s : Statement}

theorem operands_fill (f : Filling) (s : Statement) :
    (s.fill f).operands = s.operands.map (Operand.fill f) := by
  cases s with
  | update s => simp [fill, operands, Assignment.fill]
  | _ => rfl

theorem mem_valueSlots {k : Nat} (h : .placeholder k ∈ s.operands) : k ∈ s.valueSlots := by
  cases s with
  | insert s => exact List.mem_filterMap.mpr ⟨_, h, rfl⟩
  | update s =>
      obtain ⟨a, ha, hvalue⟩ := List.mem_map.mp h
      exact List.mem_filterMap.mpr ⟨a, ha, by rw [hvalue]; rfl⟩
  | _ => cases h

/-- A text with literals in the place of some of its values is read as the statement with these
literals. -/
theorem parse_filled {f : Filling} {sql : String} (hparse : parse sql = .ok s)
    (hkind : s.kind = .insert ∨ s.kind = .update)
    (hcanonical : ∀ k l, f k = some l → l.isCanonical = true)
    (hvalue : ∀ k l, f k = some l → k ∈ s.valueSlots) (hapart : f.Apart sql) :
    parse (f.write sql) = .ok (s.fill f) := by
  cases hls : Lexer.lexemes .start sql.toList with
  | error e =>
      rw [parse, Token.scan, hls] at hparse
      cases hparse
  | ok ls =>
      have htokens : ofTokens (ls.filterMap Lexeme.token) = .ok s := by
        rwa [parse, Token.scan, hls] at hparse
      rw [← Lexer.map_fst_numbered 0 ls, ← map_fst_tokensOf] at htokens
      obtain ⟨hfilled, -, hframed⟩ :=
        ofTokens_filled (Lexer.numbered_tokensOf 0 ls) hcanonical hvalue hkind htokens
      have hfits := Filling.fits_of_framed hcanonical hframed (hapart ls hls)
      obtain ⟨hreads, -⟩ := hfits.reads (by rwa [Lexer.map_fst_numbered])
      obtain ⟨ms, hms, hmsTokens⟩ := hreads .start
      rw [parse, Token.scan, Filling.write, hls]
      simp only [String.toList_ofList, hms, ← hfilled, ← hmsTokens]
      rfl

end Statement

/-! ## The value of a column -/

/-- No value of an insertion after the `j`-th is for the same column, which is not `id`. -/
def Insert.IsLastFor (s : Insert) (j : Nat) (column : String) : Prop :=
  s.columns[j]? = some column ∧ column ≠ idColumn ∧ ∀ i, j < i → s.columns[i]? ≠ some column

namespace Insert

variable {s : Insert} {j : Nat} {column : String}

theorem given?_of_last {operand : Operand} {params : List Value} {v : Value}
    (h : s.IsLastFor j column) (hoperand : s.values[j]? = some operand)
    (hv : operand.resolve params = some v) : s.given? params column = some v := by
  obtain ⟨hcolumn, -, hlast⟩ := h
  have hentry : (s.columns.zip s.values)[j]? = some (column, operand) :=
    List.getElem?_zip_eq_some.mpr ⟨hcolumn, hoperand⟩
  obtain ⟨hlength, hget⟩ := List.getElem?_eq_some_iff.mp hentry
  have hsplit : s.columns.zip s.values =
      (s.columns.zip s.values).take j ++
        (column, operand) :: (s.columns.zip s.values).drop (j + 1) := by
    rw [← hget, ← List.drop_eq_getElem_cons hlength, List.take_append_drop]
  have hlater : ((s.columns.zip s.values).drop (j + 1)).filter (·.1 = column) = [] := by
    refine List.filter_eq_nil_iff.mpr fun entry hentry hname => ?_
    obtain ⟨i, hi⟩ := List.mem_iff_getElem?.mp hentry
    rw [List.getElem?_drop] at hi
    have hcolumns := (List.getElem?_zip_eq_some.mp hi).1
    rw [of_decide_eq_true hname] at hcolumns
    exact hlast _ (by omega) hcolumns
  have hvalue : [(column, operand)].filterMap (·.2.resolve params) = [v] :=
    List.filterMap_cons_some hv
  rw [given?, hsplit, List.filter_append, List.filter_cons_of_pos (by simp), hlater,
    List.filterMap_append, hvalue]
  exact List.getLast?_concat

/-- Wherever the insertion succeeds, the row that it appends holds the value in the column. -/
def Puts (s : Insert) (column : String) (v : Value) : Prop :=
  ∀ (r r' : Registry) (relation : Relation) (options : ExecOptions) (params : List Value)
    (outcome : Outcome), r.find? s.relation = some relation →
    r.execute options (.insert s) .run params = .ok (outcome, r') →
      ∃ row, r.Extended r' s.relation relation row ∧ row.get? column = some v

/-- A literal that is the last value for its column is stored there. -/
theorem puts_of_last {l : Literal} (h : s.IsLastFor j column)
    (hvalue : s.values[j]? = some (.literal l)) : s.Puts column (.ofLiteral l) := by
  intro r r' relation options params outcome hfind hexecute
  have hcolumns : s.columns ≠ [] := by
    intro hnil
    have hcolumn := h.1
    rw [hnil] at hcolumn
    cases hcolumn
  obtain ⟨-, -, hextended⟩ := Registry.execute_insert_eq_ok hcolumns hfind hexecute
  refine ⟨_, hextended, ?_⟩
  rw [(s.stores_rowWithId params relation.nextId).value column h.2.1]
  exact given?_of_last h hvalue rfl

end Insert

/-! ## Integers -/

namespace Statement

/-- An integer other than the least takes the place of a parameter. -/
theorem parse_write_only {sql : String} {s : Statement} {j k : Nat} {i : Int64}
    (hparse : parse sql = .ok s) (hoperand : s.operands[j]? = some (.placeholder k))
    (hi : i ≠ Int64.minValue) :
    parse (Filling.write (.only k (.integer i)) sql) = .ok (s.fill (.only k (.integer i))) := by
  have hmem := List.mem_of_getElem? hoperand
  have hkind : s.kind = .insert ∨ s.kind = .update := by
    cases s with
    | insert s => exact Or.inl rfl
    | update s => exact Or.inr rfl
    | _ => cases hmem
  refine parse_filled hparse hkind (fun slot l hl => ?_) (fun slot l hl => ?_) fun ls _ => ?_
  · obtain ⟨-, rfl⟩ := Filling.only_eq_some hl
    simpa [Literal.isCanonical] using hi
  · obtain ⟨rfl, -⟩ := Filling.only_eq_some hl
    exact mem_valueSlots hmem
  · refine List.isChain_iff_forall_rel_of_append_cons_cons.mpr fun _ _ _ _ _ hnull => ?_
    obtain ⟨slot, -, hslot⟩ := Option.bind_eq_some_iff.mp hnull
    cases (Filling.only_eq_some hslot).2

/-- With an integer other than the least, the decimal text of the integer in the place of a
parameter that is a value of an insertion or update is read as this integer, and an insertion that
gives it to a column as the last value stores it there. The least integer is no value of any
statement. -/
theorem integer_of_write (sql : String) (s : Statement) (j k : Nat) (i : Int64)
    (hparse : parse sql = .ok s) (hoperand : s.operands[j]? = some (.placeholder k)) :
    let f : Filling := .only k (.integer i)
    (i ≠ Int64.minValue →
      parse (f.write sql) = .ok (s.fill f) ∧
        (s.fill f).operands[j]? = some (.literal (.integer i)) ∧
        ∀ (t : Insert) (column : String), s.fill f = .insert t → t.IsLastFor j column →
          t.Puts column (.integer i)) ∧
      .literal (.integer Int64.minValue) ∉ s.operands := by
  intro f
  refine ⟨fun hi => ?_, fun hmem => ?_⟩
  · have hfilled : (s.fill f).operands[j]? = some (.literal (.integer i)) := by
      rw [operands_fill, List.getElem?_map, hoperand, Option.map_some, Operand.fill_only]
    refine ⟨parse_write_only hparse hoperand hi, hfilled, fun t column ht hlast => ?_⟩
    rw [ht] at hfilled
    exact Insert.puts_of_last hlast hfilled
  · have hyields := yields_parse sql
    rw [hparse] at hyields
    exact hyields _ hmem rfl

/-- The greatest magnitude with a minus, between a word and a parenthesis that touch it. -/
theorem integer_of_write_negated :
    let t : Insert := ⟨"t", ["a"], [.literal (.integer (-9223372036854775807))]⟩
    parse "INSERT INTO t (a) VALUES(?)" = .ok (.insert ⟨"t", ["a"], [.placeholder 0]⟩) ∧
      parse "INSERT INTO t (a) VALUES(-9223372036854775807)" = .ok (.insert t) ∧
      t.Puts "a" (.integer (-9223372036854775807)) := by
  intro t
  have hparse : parse "INSERT INTO t (a) VALUES(?)" =
      .ok (.insert ⟨"t", ["a"], [.placeholder 0]⟩) := by
    decide +kernel
  have hwrite : Filling.write (.only 0 (.integer (-9223372036854775807)))
      "INSERT INTO t (a) VALUES(?)" = "INSERT INTO t (a) VALUES(-9223372036854775807)" := by
    decide +kernel
  have hlast : t.IsLastFor 0 "a" := by
    refine ⟨rfl, by decide, fun i hi => ?_⟩
    rw [List.getElem?_eq_none (by exact hi)]
    nofun
  obtain ⟨hwritten, -⟩ := integer_of_write _ _ 0 0 (-9223372036854775807) hparse rfl
  obtain ⟨hread, -, hputs⟩ := hwritten (by decide)
  rw [hwrite] at hread
  exact ⟨hparse, hread, hputs t "a" rfl hlast⟩

/-- The decimal text of the least integer is read as a number of double precision, and this is
what the insertion stores. -/
theorem least_integer_becomes_real :
    let x : Binary64 := .ofInt (-9223372036854775808)
    let t : Insert := ⟨"t", ["a"], [.literal (.real x)]⟩
    "INSERT INTO t (a) VALUES (" ++ Int64.minValue.toInt.repr ++ ")" =
        "INSERT INTO t (a) VALUES (-9223372036854775808)" ∧
      parse "INSERT INTO t (a) VALUES (-9223372036854775808)" = .ok (.insert t) ∧
      t.Puts "a" (.real x) := by
  intro x t
  refine ⟨by decide +kernel, by decide +kernel, ?_⟩
  refine Insert.puts_of_last (j := 0) (l := .real x) ⟨rfl, by decide, fun i hi => ?_⟩ rfl
  rw [List.getElem?_eq_none (by exact hi)]
  nofun

end Statement

end MiniSql
