import MiniSql.Database.Error
import MiniSql.Files
import MiniSql.Text.Guarded
import MiniSql.Text.Quoted

/-!
# Notices

What a run reports besides its results: each notice has a level, a source, a message and
fields, and is written as one line, in which a message is guarded. Durations are reported as
zero, since no statement takes a millisecond.

The line may be colored: the level by its weight, while the name of a field is slanted and
the equality sign behind it faint.
-/

namespace MiniSql

/-- The weight of a notice. -/
inductive Level where
  | debug
  | info
  | warn
deriving DecidableEq, Repr

namespace Level

/-- Heavier levels have greater ranks. -/
def rank : Level → Nat
  | debug => 2
  | info => 3
  | warn => 4

/-- The level right-aligned to five columns. -/
def label : Level → String
  | debug => "DEBUG"
  | info => " INFO"
  | warn => " WARN"

/-- The color of the level. -/
def color : Level → String
  | debug => "34"
  | info => "32"
  | warn => "33"

end Level

/-- How the lines of notices look. -/
inductive LogStyle where
  | plain
  | colored
deriving DecidableEq, Repr

/-- A text in a rendition, for a terminal that obeys its controls. -/
def LogStyle.paint (style : LogStyle) (rendition text : String) : String :=
  match style with
  | plain => text
  | colored => "\x1b[" ++ rendition ++ "m" ++ text ++ "\x1b[0m"

/-- Something worth reporting. -/
inductive Notice where
  /-- An insertion names the column `id`, whose value is generated. -/
  | idInserted (sql : String)
  /-- An update assigns the column `id`, which never changes. -/
  | idAssigned (sql : String)
  /-- A statement was executed; `logged` when every statement is to be seen. -/
  | executed (sql : String) (parameters : Nat) (logged : Bool)
  | slow (sql : String)
  /-- A statement that is not handled got a neutral answer. -/
  | degraded (sql reason : String)
  /-- A clause without a recognized test did not filter. -/
  | unfiltered (sql : String)
  /-- A transaction command was obeyed. -/
  | control (command : StatementKind)
  | transactionStarted
  | transactionCommitted
  | transactionRolledBack (error : DatabaseError)
  | transactionAborted
  | schemaReady (relations : Nat)
  /-- The shell executes a statement. -/
  | executing (sql : String)
  /-- The text of a command line option is executed. -/
  | executingCommand (text : String)
  /-- The file of a command line option is executed. -/
  | executingFile (path : String)
  /-- A line of input does not come from a terminal, or from one that only shows text. -/
  | notTerminal
  | plainTerminal
  /-- A line in the file of past input was not written as an entry. -/
  | historyMiswritten (line : String)
  /-- The file of past input cannot be read, its directory not be made, or it not be
  written. -/
  | historyUnread (error : FileError)
  | historyUnplaced (error : FileError)
  | historyUnsaved (error : FileError)
deriving DecidableEq, Repr

namespace Notice

/-- The level of a notice. -/
def level : Notice → Level
  | idInserted _ | idAssigned _ | slow _ | unfiltered _ | transactionAborted => .warn
  | historyMiswritten _ => .warn
  | executed _ _ logged => if logged then .info else .debug
  | degraded _ _ | transactionStarted | transactionCommitted => .debug
  | notTerminal | plainTerminal => .debug
  | historyUnread _ | historyUnplaced _ | historyUnsaved _ => .debug
  | control _ | transactionRolledBack _ | schemaReady _ => .info
  | executing _ | executingCommand _ | executingFile _ => .info

/-- The part of the program that a notice comes from. -/
def source : Notice → String
  | schemaReady _ => "hangar_db::bootstrap"
  | executing _ | historyUnread _ | historyUnplaced _ | historyUnsaved _ => "hangar::repl"
  | notTerminal | plainTerminal | historyMiswritten _ => "rustyline"
  | executingCommand _ | executingFile _ => "hangar"
  | _ => "hangar_db::database::engine"

/-- The message of a notice. -/
def message : Notice → String
  | idInserted _ => "insert names the id column; the generated identity is kept"
  | idAssigned _ => "update assigns the id column; the assignment is skipped"
  | executed _ _ _ => "statement executed"
  | slow _ => "slow statement"
  | degraded _ _ => "unsupported statement degraded to a neutral result"
  | unfiltered _ => "WHERE clause not recognized; returning all rows unfiltered"
  | control command => command.name
  | transactionStarted => "transaction started"
  | transactionCommitted => "transaction committed"
  | transactionRolledBack _ => "transaction rolled back"
  | transactionAborted => "transaction closure panicked; rolled back"
  | schemaReady _ => "schema initialized"
  | executing sql => "Executing: " ++ sql
  | executingCommand text => "Executing command: " ++ text
  | executingFile path => "Executing file: " ++ path
  | notTerminal => "stdin is not a tty"
  | plainTerminal => "unsupported terminal"
  | historyMiswritten line => "bad escaped line: " ++ line
  | historyUnread error => "Failed to load history: " ++ error.message
  | historyUnplaced error => "Failed to create history directory: " ++ error.message
  | historyUnsaved error => "Failed to save history: " ++ error.message

/-- A field whose value is statement text. -/
def sqlField (sql : String) : String × String :=
  ("sql", Text.quoted sql)

/-- The fields of a notice with their written values. -/
def fields : Notice → List (String × String)
  | idInserted sql | idAssigned sql | unfiltered sql => [sqlField sql]
  | executed sql parameters logged =>
    [sqlField sql, ("params", parameters.repr)] ++ if logged then [("elapsed_us", "0")] else []
  | slow sql => [sqlField sql, ("elapsed_ms", "0")]
  | degraded sql reason => [sqlField sql, ("reason", reason)]
  | transactionRolledBack error => [("error", error.message)]
  | schemaReady relations => [("relations", relations.repr)]
  | _ => []

/-- The names of the fields that the notices of reading input have. -/
def inputFieldNames : List String :=
  ["message", "log.target", "log.module_path", "log.file", "log.line"]

/-- The names of the fields of a notice, the message included. -/
def fieldNames (n : Notice) : List String :=
  match n with
  | notTerminal | plainTerminal | historyMiswritten _ => inputFieldNames
  | _ => "message" :: n.fields.map (·.1)

/-- A field of a line. -/
def fieldText (style : LogStyle) (name value : String) : String :=
  " " ++ style.paint "3" name ++ style.paint "2" "=" ++ value

/-- The line of a notice, without its level. -/
def body (n : Notice) (style : LogStyle) : String :=
  Text.guarded n.message ++
    String.join (n.fields.map fun (name, value) => fieldText style name value)

/-- The line of a notice. -/
def line (n : Notice) (style : LogStyle) : String :=
  style.paint n.level.color n.level.label ++ " " ++ n.body style

end Notice

end MiniSql
