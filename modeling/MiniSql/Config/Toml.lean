import MiniSql.Config
import MiniSql.Toml.Reader
import MiniSql.Toml.Writer

/-!
# Configuration files

The switches of a database as a TOML document. A switch that the document does not mention
has its default, and a name that is no switch is ignored.
-/

namespace MiniSql.Config

/-- Reads one of the words of a switch. -/
def choose? {α : Type} (ofName? : String → Option α) (value : Toml) : Option α :=
  value.choice?.bind ofName?

/-- The switches that a value records. -/
def ofToml? (value : Toml) : Option Config := do
  if !value.isRecord then none
  return {
    unsupported := ← Toml.readOr default.unsupported (choose? UnsupportedPolicy.ofName?)
      (value.field? 0 "unsupported")
    updateCount := ← Toml.readOr default.updateCount (choose? UpdateCount.ofName?)
      (value.field? 1 "update_changes")
    enforceUnique := ← Toml.readOr default.enforceUnique Toml.bool?
      (value.field? 2 "enforce_unique")
    statementLogging := ← Toml.readOr default.statementLogging Toml.bool?
      (value.field? 3 "statement_logging")
    slowThreshold := ← Toml.readOr default.slowThreshold Toml.nat?
      (value.field? 4 "slow_statement_threshold_ms") }

/-- Reads a document of switches. -/
def read? (text : String) : Option Config :=
  (Toml.read? text).bind ofToml?

/-- The document of the switches. -/
def toToml (c : Config) : String :=
  Toml.pairLine "unsupported" (Toml.stringText c.unsupported.name) ++
    Toml.pairLine "update_changes" (Toml.stringText c.updateCount.name) ++
    Toml.pairLine "enforce_unique" (Toml.boolText c.enforceUnique) ++
    Toml.pairLine "statement_logging" (Toml.boolText c.statementLogging) ++
    Toml.pairLine "slow_statement_threshold_ms" (Toml.natText c.slowThreshold)

end MiniSql.Config
