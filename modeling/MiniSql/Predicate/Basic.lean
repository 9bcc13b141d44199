import MiniSql.Literal

/-!
# Operands, predicates and select lists

A `WHERE` clause is kept as its conjuncts. A conjunct that compares a column with a
parameter is understood; if the column is one of a fixed set it also selects rows. Every
other conjunct is carried as text, so that a reader can see what was not understood.
-/

namespace MiniSql

/-- Where the value of an insertion or assignment comes from. -/
inductive Operand where
  /-- A parameter; the slot is its place among all parameters of the statement. -/
  | placeholder (slot : Nat)
  | literal (l : Literal)
deriving DecidableEq

namespace Operand

/-- The slot of a parameter. -/
def slot? : Operand → Option Nat
  | placeholder slot => some slot
  | literal _ => none

/-- The text of an operand. -/
def display : Operand → String
  | placeholder _ => "?"
  | literal l => l.display

end Operand

/-- The columns whose comparison with a parameter selects rows. -/
inductive KeyColumn where
  | id
  | email
  | userId
  | bookingId
  | category
  | providerId
  | status
  | role
deriving DecidableEq, Repr

namespace KeyColumn

/-- Every key column. -/
def all : List KeyColumn :=
  [id, email, userId, bookingId, category, providerId, status, role]

/-- The name under which rows hold the column. -/
def name : KeyColumn → String
  | id => "id"
  | email => "email"
  | userId => "user_id"
  | bookingId => "booking_id"
  | category => "category"
  | providerId => "provider_id"
  | status => "status"
  | role => "role"

/-- The key column that a text names, in any letter case. -/
def ofName? (text : String) : Option KeyColumn :=
  all.find? fun c => Text.sameFold c.name text

/-- Names that differ in letter case name the same key column. -/
theorem ofName?_of_sameFold {a b : String} (h : Text.sameFold a b = true) :
    ofName? a = ofName? b := by
  unfold ofName?
  congr 1
  funext c
  rw [Bool.eq_iff_iff, Text.sameFold_iff, Text.sameFold_iff, (Text.sameFold_iff a b).1 h]

/-- Every key column is listed. -/
theorem mem_all (c : KeyColumn) : c ∈ all := by
  cases c <;> simp [all]

end KeyColumn

/-- One of the parts of a `WHERE` clause that `AND` joins. -/
inductive Conjunct where
  /-- A column compared with a parameter; the column as written, without a qualifier. -/
  | equals (column : String) (slot : Nat)
  /-- Anything else, as normalised text. -/
  | other (text : String)
deriving DecidableEq, Repr

namespace Conjunct

/-- The key column and slot of a conjunct that selects rows. -/
def key? : Conjunct → Option (KeyColumn × Nat)
  | equals column slot => (KeyColumn.ofName? column).map (·, slot)
  | other _ => none

/-- The text of a conjunct. -/
def display : Conjunct → String
  | equals column _ => column ++ " = ?"
  | other text => text

end Conjunct

/-- A `WHERE` clause: its conjuncts in textual order. -/
structure Predicate where
  conjuncts : List Conjunct
deriving DecidableEq, Repr

namespace Predicate

/-- The tests that select rows, in textual order. -/
def keys (p : Predicate) : List (KeyColumn × Nat) :=
  p.conjuncts.filterMap Conjunct.key?

/-- At least one conjunct selects rows. -/
def isRecognized (p : Predicate) : Bool :=
  p.conjuncts.any (·.key?.isSome)

/-- The conjuncts that do not select rows. -/
def unrecognized (p : Predicate) : List Conjunct :=
  p.conjuncts.filter (·.key?.isNone)

/-- The slot of the first test of the column `id`. -/
def idSlot? (p : Predicate) : Option Nat :=
  p.conjuncts.findSome? fun c =>
    match c.key? with
    | some (.id, slot) => some slot
    | _ => none

/-- The text of a clause. -/
def display (p : Predicate) : String :=
  " AND ".intercalate (p.conjuncts.map Conjunct.display)

/-- A clause selects rows exactly when it has a test. -/
theorem isRecognized_iff (p : Predicate) : p.isRecognized = true ↔ p.keys ≠ [] := by
  simp [isRecognized, keys, Option.isSome_iff_ne_none]

end Predicate

/-- A select list. -/
inductive Projection where
  /-- Every column. -/
  | all
  /-- Columns by name. -/
  | columns (names : List String)
  /-- Expressions, which the engine does not evaluate, as normalised text. -/
  | expressions (text : String)
deriving DecidableEq, Repr

end MiniSql
