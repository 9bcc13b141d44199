import MiniSql.Config.Toml

/-!
# Settings of the shell

What a settings file says about the shell and the database it works on. A setting that is not
mentioned has its default, and a name that is no setting is ignored.
-/

namespace MiniSql

/-- The settings of the shell. -/
structure Settings where
  /-- The name of the output format, which need not be one. -/
  outputFormat : String
  timing : Bool
  /-- The relations of the booking platform are created at the start. -/
  bootstrap : Bool
  historyFile : Option String
  /-- The greatest number of entries of the history. -/
  historySize : Nat
  database : Config
deriving DecidableEq, Repr

namespace Settings

/-- The settings in force unless others are chosen. -/
def default : Settings := ⟨"table", false, false, none, 1000, .default⟩

instance : Inhabited Settings := ⟨default⟩

/-- The settings that a value records. -/
def ofToml? (value : Toml) : Option Settings := do
  return {
    outputFormat := ← Toml.readOr default.outputFormat Toml.string?
      (value.field? 0 "output_format")
    timing := ← Toml.readOr default.timing Toml.bool? (value.field? 1 "timing")
    bootstrap := ← Toml.readOr default.bootstrap Toml.bool? (value.field? 2 "bootstrap")
    historyFile := ← Toml.readOr default.historyFile (fun v => v.string?.map some)
      (value.field? 3 "history_file")
    historySize := ← Toml.readOr default.historySize Toml.nat? (value.field? 4 "history_size")
    database := ← Toml.readOr default.database Config.ofToml? (value.field? 5 "database") }

/-- Reads a document of settings. -/
def read? (text : String) : Option Settings :=
  (Toml.read? text).bind ofToml?

/-- The line of the history file, if one is chosen. -/
def historyLine : Option String → String
  | some path => Toml.pairLine "history_file" (Toml.stringText path)
  | none => ""

/-- The document of the settings. -/
def toToml (s : Settings) : String :=
  Toml.pairLine "output_format" (Toml.stringText s.outputFormat) ++
    Toml.pairLine "timing" (Toml.boolText s.timing) ++
    Toml.pairLine "bootstrap" (Toml.boolText s.bootstrap) ++
    historyLine s.historyFile ++
    Toml.pairLine "history_size" (Toml.natText s.historySize) ++
    Toml.headerLine "database" ++ s.database.toToml

end Settings

end MiniSql
