import MiniSql.Execution

/-!
# Configuration of a database

The switches of a database: what becomes of statements it does not handle, how updates are
counted, whether unique columns are enforced, and what is logged.
-/

namespace MiniSql

/-- What becomes of a statement that is not handled. -/
inductive UnsupportedPolicy where
  /-- It has no effect and a neutral answer. -/
  | degrade
  /-- It is an error. -/
  | reject
deriving DecidableEq, Repr

/-- The switches of a database. -/
structure Config where
  unsupported : UnsupportedPolicy
  updateCount : UpdateCount
  enforceUnique : Bool
  statementLogging : Bool
  /-- Statements that take at least as many milliseconds are reported as slow. -/
  slowThreshold : Nat
deriving DecidableEq, Repr

namespace Config

/-- The lenient switches in force unless others are chosen. -/
def default : Config := ⟨.degrade, .alwaysOne, false, false, 100⟩

instance : Inhabited Config := ⟨default⟩

/-- The switches that reject, count and enforce. -/
def strict : Config :=
  { default with unsupported := .reject, updateCount := .matched, enforceUnique := true }

/-- The switches of execution. -/
def execOptions (c : Config) : ExecOptions :=
  ⟨c.updateCount, c.enforceUnique⟩

/-- The strict switches with the logging of another configuration. -/
def toStrict (c : Config) : Config :=
  { strict with statementLogging := c.statementLogging, slowThreshold := c.slowThreshold }

end Config

/-- The word for a policy. -/
def UnsupportedPolicy.name : UnsupportedPolicy → String
  | degrade => "degrade"
  | reject => "reject"

/-- The policy of a word. -/
def UnsupportedPolicy.ofName? : String → Option UnsupportedPolicy
  | "degrade" => some degrade
  | "reject" => some reject
  | _ => none

/-- The word for a way of counting. -/
def UpdateCount.name : UpdateCount → String
  | alwaysOne => "legacy_always_one"
  | matched => "matched"

/-- The way of counting of a word. -/
def UpdateCount.ofName? : String → Option UpdateCount
  | "legacy_always_one" => some alwaysOne
  | "matched" => some matched
  | _ => none

/-- Each policy is the one of its word. -/
@[simp] theorem UnsupportedPolicy.ofName?_name (p : UnsupportedPolicy) :
    ofName? p.name = some p := by
  cases p <;> rfl

/-- Each way of counting is the one of its word. -/
@[simp] theorem UpdateCount.ofName?_name (u : UpdateCount) : ofName? u.name = some u := by
  cases u <;> rfl

end MiniSql
