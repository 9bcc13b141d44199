import MiniSql.Execution
import MiniSql.Proofs.Printing

/-!
# Literals in the place of parameters

Some of the values of an insertion or update are written into the statement, and their entries
are taken out of the list of parameters. The slots of the parameters that stay move down by as
many literals as are written before them, and so do their entries; a slot without an entry keeps
having none. What a statement does depends on the values of its operands and on the parameters
of its tests alone.

**Results.**
* `Filling.getElem?_params`: every parameter that stays finds its own entry.
* `Operand.resolve_fill`: an operand keeps its value.
* `Registry.execute_fill`: a statement with literals does what it did with parameters.
-/

namespace MiniSql

/-- Literals to be written in the place of parameters, by the slots of these. -/
abbrev Filling := Nat → Option Literal

namespace Filling

variable (f : Filling)

/-- The slot of a parameter that stays: how many of those before it stay. -/
def slot (k : Nat) : Nat :=
  (List.range k).countP fun i => (f i).isNone

/-- The entries of the parameters that stay. -/
def params (params : List Value) : List Value :=
  (params.zipIdx.filter fun entry => (f entry.2).isNone).map Prod.fst

theorem slot_succ (k : Nat) : f.slot (k + 1) = f.slot k + if (f k).isNone then 1 else 0 := by
  rw [slot, slot, List.range_succ, List.countP_append, List.countP_singleton]

variable {f}

theorem slot_succ_of_none {k : Nat} (h : f k = none) : f.slot (k + 1) = f.slot k + 1 := by
  rw [slot_succ, h]
  rfl

theorem slot_succ_of_some {k : Nat} {l : Literal} (h : f k = some l) :
    f.slot (k + 1) = f.slot k := by
  rw [slot_succ, h]
  rfl

/-- From where on no literal is written, the slots follow one another. -/
theorem slot_add {k : Nat} (h : ∀ i, k ≤ i → f i = none) (j : Nat) :
    f.slot (k + j) = f.slot k + j := by
  induction j with
  | zero => rfl
  | succ j ih => rw [← Nat.add_assoc, slot_succ_of_none (h _ (Nat.le_add_right k j)), ih]; rfl

theorem getElem?_filter_zipIdx {k : Nat} (params : List Value) (start : Nat)
    (h : f (start + k) = none) :
    (((params.zipIdx start).filter fun entry => (f entry.2).isNone).map Prod.fst)[
      (List.range' start k).countP fun i => (f i).isNone]? = params[k]? := by
  induction params generalizing start k with
  | nil => rfl
  | cons v vs ih =>
      rw [List.zipIdx_cons]
      cases k with
      | zero =>
          rw [Nat.add_zero] at h
          rw [List.filter_cons_of_pos (by simp [h])]
          rfl
      | succ k =>
          have hrest := ih (start + 1) (k := k) (by rwa [Nat.add_assoc, Nat.add_comm 1])
          rw [List.range'_succ, List.getElem?_cons_succ, ← hrest]
          cases hf : f start with
          | none =>
              rw [List.filter_cons_of_pos (by simp [hf]), List.countP_cons_of_pos (by simp [hf])]
              rfl
          | some l =>
              rw [List.filter_cons_of_neg (by simp [hf]), List.countP_cons_of_neg (by simp [hf])]

/-- A parameter that stays finds its own entry, or none if it had none. -/
theorem getElem?_params {k : Nat} (h : f k = none) (params : List Value) :
    (f.params params)[f.slot k]? = params[k]? := by
  have hentries := @getElem?_filter_zipIdx f k params 0 (by rwa [Nat.zero_add])
  rwa [← List.range_eq_range'] at hentries

end Filling

/-! ## Statements with literals -/

section

variable (f : Filling)

/-- The operand with the literal of its slot, or with the slot that it has left. -/
def Operand.fill : Operand → Operand
  | placeholder k => (f k).elim (placeholder (f.slot k)) literal
  | literal l => literal l

def Assignment.fill (a : Assignment) : Assignment :=
  ⟨a.column, a.value.fill f⟩

/-- The conjunct with the slot that it has left. -/
def Conjunct.fill : Conjunct → Conjunct
  | equals column k => equals column (f.slot k)
  | other text => other text

def Predicate.fill (p : Predicate) : Predicate :=
  ⟨p.conjuncts.map (Conjunct.fill f)⟩

/-- The statement with literals in the place of some of its values. -/
def Statement.fill : Statement → Statement
  | insert s => insert ⟨s.relation, s.columns, s.values.map (Operand.fill f)⟩
  | update s =>
    update ⟨s.relation, s.assignments.map (Assignment.fill f), s.predicate.map (Predicate.fill f)⟩
  | s => s

end

/-- The slots of the values of a statement, from left to right. -/
def Statement.valueSlots : Statement → List Nat
  | insert s => s.values.filterMap Operand.slot?
  | update s => s.assignments.filterMap (·.value.slot?)
  | _ => []

/-- The slots of the clause of a change. -/
def Statement.testSlots : Statement → List Nat
  | update s => Predicate.slots s.predicate
  | _ => []

/-- Every literal has an exact spelling and stands for the entry of a value of the statement. -/
structure Filling.Spells (f : Filling) (s : Statement) (params : List Value) : Prop where
  value : ∀ k l, f k = some l → k ∈ s.valueSlots
  canonical : ∀ k l, f k = some l → l.isCanonical = true
  entry : ∀ k l, f k = some l → params[k]? = some (.ofLiteral l)

section

variable {f : Filling} {params : List Value}

/-- A literal has the value of the parameter in whose place it is. -/
theorem Operand.resolve_fill (h : ∀ k l, f k = some l → params[k]? = some (.ofLiteral l))
    (v : Operand) : (v.fill f).resolve (f.params params) = v.resolve params := by
  cases v with
  | literal l => rfl
  | placeholder k =>
      rw [fill]
      cases hf : f k with
      | none => exact Filling.getElem?_params hf params
      | some l => exact (h k l hf).symm

theorem Predicate.idSlot?_fill (p : Predicate) : (p.fill f).idSlot? = p.idSlot?.map f.slot := by
  rw [idSlot?, idSlot?, fill, List.findSome?_map]
  induction p.conjuncts with
  | nil => rfl
  | cons c cs ih =>
      rw [List.findSome?_cons, List.findSome?_cons, ih]
      cases c with
      | other text => rfl
      | equals column k =>
          simp only [Function.comp_apply, Conjunct.fill, Conjunct.key?]
          cases KeyColumn.ofName? column with
          | none => rfl
          | some key => cases key <;> rfl

theorem Predicate.mem_slots_of_idSlot? {predicate : Option Predicate} {k : Nat}
    (h : MiniSql.idSlot? predicate = some k) : k ∈ slots predicate := by
  obtain ⟨p, rfl, hk⟩ := Option.bind_eq_some_iff.mp h
  obtain ⟨c, hc, hslot⟩ := List.exists_of_findSome?_eq_some hk
  refine List.mem_filterMap.mpr ⟨c, hc, ?_⟩
  cases c with
  | other text => cases hslot
  | equals column j =>
      cases hkey : KeyColumn.ofName? column with
      | none => simp [Conjunct.key?, hkey] at hslot
      | some key => cases key <;> simp_all [Conjunct.key?, Conjunct.slot?]

namespace Registry

/-- A statement with literals does what it did with the parameters in their place, whatever the
registry, the switches and the path. -/
theorem execute_fill {s : Statement} (h : f.Spells s params)
    (hkind : s.kind = .insert ∨ s.kind = .update)
    (htests : ∀ k ∈ s.testSlots, f k = none) (r : Registry) (options : ExecOptions) (path : Path) :
    r.execute options (s.fill f) path (f.params params) = r.execute options s path params := by
  have hvalue := Operand.resolve_fill h.entry
  cases s with
  | insert s =>
      have hfields : Insert.fields ⟨s.relation, s.columns, s.values.map (Operand.fill f)⟩
          (f.params params) = s.fields params := by
        simp only [Insert.fields, List.zip_map_right, List.filterMap_map, Function.comp_def,
          Prod.map_fst, Prod.map_snd, id_eq, hvalue]
      cases path with
      | run => simp only [Statement.fill, execute, insertRow, hfields]
      | fetchOne => rfl
      | fetchMany => rfl
  | update s =>
      have hfields : Update.fields ⟨s.relation, s.assignments.map (Assignment.fill f),
          s.predicate.map (Predicate.fill f)⟩ (f.params params) = s.fields params := by
        simp only [Update.fields, List.filterMap_map, Function.comp_def, Assignment.fill, hvalue]
      have hid : idSlot? (s.predicate.map (Predicate.fill f)) =
          (idSlot? s.predicate).map f.slot := by
        cases s.predicate with
        | none => rfl
        | some p => exact p.idSlot?_fill
      cases path with
      | run =>
          simp only [Statement.fill, execute, updateRows, hid, hfields]
          cases hslot : idSlot? s.predicate with
          | none => rfl
          | some k =>
              have hstays : f k = none := htests k (Predicate.mem_slots_of_idSlot? hslot)
              simp only [Option.map_some, Filling.getElem?_params hstays]
      | fetchOne => rfl
      | fetchMany => rfl
  | _ => rcases hkind with hkind | hkind <;> cases hkind

end Registry

end

end MiniSql
