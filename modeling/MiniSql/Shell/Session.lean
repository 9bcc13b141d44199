import MiniSql.Database.Transaction
import MiniSql.Files
import MiniSql.Json.Reader
import MiniSql.Output.Rows
import MiniSql.Schema
import MiniSql.Script
import MiniSql.Shell.Command
import MiniSql.Shell.Help
import MiniSql.Shell.Settings

/-!
# The shell

A shell works on a database of its own. It executes lines, each a command or a script, and
emits the results as text. Parameters bound by a command are pending until the next statement
is attempted, which takes them whatever becomes of it.

A statement without pending parameters is executed as text; one with them is prepared and
executed with them, so that it reports rows or a number of changes only.

**Results.** Every attempted statement leaves no parameters pending.
-/

namespace MiniSql

/-- Something that a shell emits. -/
inductive Emission where
  | out (text : String)
  | err (text : String)
  | notice (n : Notice)
deriving DecidableEq

/-- A shell. -/
structure Shell where
  database : Database
  format : OutputFormat
  /-- Every statement reports how long it took. -/
  timing : Bool
  /-- The parameters of the next statement. -/
  pending : List Value
deriving DecidableEq

namespace Shell

/-- Why a command fails. -/
inductive Fault where
  /-- The parameters are no JSON array of scalars. -/
  | badParameters
  | unreadable (path : String)
  | database (e : DatabaseError)
deriving DecidableEq

/-- The wording of a fault. -/
def Fault.message : Fault → String
  | badParameters => "parameters must be a JSON array of null, numbers, booleans or strings"
  | unreadable path => "reading " ++ path
  | database e => e.message

/-- What a line does: the shell afterwards, what it emitted, why it failed, and whether it
ends the conversation. -/
structure Turn where
  shell : Shell
  emissions : List Emission
  fault : Option Fault
  exits : Bool

/-- A line of output. -/
def line (text : String) : Emission :=
  .out (text ++ "\n")

/-- The prompt before an input, with a star inside a transaction. -/
def prompt (s : Shell) : String :=
  if s.database.inTransaction then "hangar*> " else "hangar> "

/-- The notices of an answer as emissions. -/
def noticed (notices : List Notice) : List Emission :=
  notices.map .notice

/-! ## Statements -/

/-- The ending of a noun that counts `n` things. -/
def plural (n : Nat) : String :=
  if n = 1 then "" else "s"

/-- The number of rows as a line. -/
def countLine (n : Nat) : String :=
  "(" ++ n.repr ++ " row" ++ plural n ++ ")"

/-- A text without the blanks at its end. -/
def trimEnd (s : String) : String :=
  String.ofList (Text.trimEnd s.toList)

/-- The text of a result. -/
def resultText (format : OutputFormat) : StatementResult → String
  | .rows rows =>
    if rows = [] then countLine 0
    else trimEnd (Output.render format rows) ++ "\n" ++ countLine rows.length
  | .changed c =>
    c.count.repr ++ " row" ++ plural c.count ++ " affected"
      ++ StatementResult.insertNote c.lastInsertId
  | result => result.display

/-- The time that a statement took, which is less than can be shown. -/
def timeNote (timing : Bool) : String :=
  if timing then "\nTime: 0.000ms" else ""

/-- Executes a prepared statement with parameters: a query for its rows, any other for its
changes. -/
def executeBound (db : Database) (p : Prepared) (params : List Value) :
    Answer StatementResult :=
  if p.kind = .select then (db.fetchMany p params).map .rows
  else (db.run p params).map .changed

/-- Executes a statement with the pending parameters, if there are any. -/
def answer (s : Shell) (sql : String) : Answer StatementResult :=
  if s.pending = [] then s.database.execute sql
  else executeBound s.database (.ofText sql) s.pending

/-- The shell after it attempted a statement. -/
def afterStatement (s : Shell) (sql : String) : Shell :=
  { s with database := (s.answer sql).database, pending := [] }

/-- The text of a statement's result, or its error. -/
def statementText (s : Shell) (sql : String) : Except DatabaseError String :=
  (s.answer sql).result.map fun result => resultText s.format result ++ timeNote s.timing

/-- What a statement emits before its result. -/
def statementNotices (s : Shell) (sql : String) : List Emission :=
  noticed (.executing sql :: (s.answer sql).notices)

/-- Attempts a statement and shows its result. -/
def attempt (s : Shell) (sql : String) : Turn :=
  let notices := s.statementNotices sql
  match s.statementText sql with
  | .ok text => ⟨s.afterStatement sql, notices ++ [line text], none, false⟩
  | .error e => ⟨s.afterStatement sql, notices, some (.database e), false⟩

/-- Attempts every statement of a list, showing errors. -/
def attemptAll (s : Shell) : List String → Shell × List Emission
  | [] => (s, [])
  | sql :: rest =>
    let turn := s.attempt sql
    let shown := turn.fault.toList.map fun fault => Emission.err ("ERROR: " ++ fault.message ++ "\n")
    let (last, emissions) := turn.shell.attemptAll rest
    (last, turn.emissions ++ shown ++ emissions)

/-- Attempts the statements of a list up to the first error. -/
def attemptUntil (s : Shell) : List String → Turn
  | [] => ⟨s, [], none, false⟩
  | sql :: rest =>
    let turn := s.attempt sql
    if turn.fault.isSome then turn
    else
      let later := turn.shell.attemptUntil rest
      { later with emissions := turn.emissions ++ later.emissions }

/-- Executes a script, showing the errors of its statements. -/
def runScript (s : Shell) (text : String) : Turn :=
  let (last, emissions) := s.attemptAll (Script.split text)
  ⟨last, emissions, none, false⟩

/-- Executes a script up to the first error. -/
def runStrictly (s : Shell) (text : String) : Turn :=
  s.attemptUntil (Script.split text)

/-! ## Commands -/

/-- A turn that shows a text. -/
def say (s : Shell) (text : String) : Turn :=
  ⟨s, [line text], none, false⟩

/-- A turn that fails. -/
def fail (s : Shell) (fault : Fault) : Turn :=
  ⟨s, [], some fault, false⟩

/-- The relations and their numbers of rows. -/
def relationsText (db : Database) : String :=
  match db.relationNames with
  | [] => "No relations."
  | names =>
    let row (name : String) : List String :=
      [name, (((db.describe? name).map Prod.snd).getD 0).repr]
    Grid.render ⟨["relation", "rows"], names.map row⟩

/-- The declared columns of a relation. -/
def relationText (db : Database) (name : String) : String :=
  match db.describe? name with
  | none => "Relation '" ++ name ++ "' does not exist."
  | some ([], rows) =>
    "Relation '" ++ name ++ "' has no declared columns (" ++ rows.repr ++ " rows)."
  | some (columns, rows) =>
    let row (c : Column) : List String := [c.name, c.type, " ".intercalate c.constraints]
    Grid.render ⟨["column", "type", "constraints"], columns.map row⟩
      ++ "\n(" ++ rows.repr ++ " rows stored)"

/-- The pending parameters. -/
def pendingText (params : List Value) : String :=
  if params = [] then "No parameters bound."
  else "Next statement binds " ++ Json.array (params.map Value.toJson)

/-- What is known of the database. A conversation takes less than a second. -/
def statusText (db : Database) : String :=
  "Relations: " ++ db.registry.size.repr
    ++ "\nRows: " ++ db.registry.totalRows.repr
    ++ "\nStatements executed: " ++ db.executed.repr
    ++ "\nIn transaction: " ++ (if db.inTransaction then "yes" else "no")
    ++ "\nUptime: 0s"

/-- Binds parameters to the next statement. -/
def bindText (s : Shell) (json : String) : Turn :=
  match Json.readValues? json with
  | none => s.fail .badParameters
  | some params =>
    { s with pending := params }.say
      ("Bound " ++ params.length.repr ++ " parameter" ++ plural params.length
        ++ " to the next statement.")

/-- Goes on with the database in which the relations of the platform were to be created, and says
what became of them. -/
def reportSchema (s : Shell) (answer : Answer Unit) : Turn :=
  let s := { s with database := answer.database }
  match answer.result with
  | .ok _ =>
    let turn := s.say
      ("Booking platform schema ready (" ++ Schema.statements.length.repr ++ " relations).")
    { turn with emissions := noticed answer.notices ++ turn.emissions }
  | .error e => ⟨s, noticed answer.notices, some (.database e), false⟩

/-- Executes a command. `read` gives the texts of files. -/
def obey (s : Shell) (read : String → Except FileError String) : Command → Turn
  | .quit => ⟨s, [], none, true⟩
  | .help => s.say helpText
  | .describe (some name) => s.say (relationText s.database name)
  | .describe none => s.say (relationsText s.database)
  | .listTables => s.say (relationsText s.database)
  | .bind none => s.say (pendingText s.pending)
  | .bind (some json) => s.bindText json
  | .timing =>
    let timing := !s.timing
    { s with timing := timing }.say (if timing then "Timing is on." else "Timing is off.")
  | .format name =>
    match OutputFormat.ofName name with
    | .ok format =>
      { s with format := format }.say ("Output format set to " ++ format.name ++ ".")
    | .error complaint => s.say complaint
  | .version => s.say versionText
  | .clear => ⟨s, [.out "\x1b[2J\x1b[1;1H"], none, false⟩
  | .runFile path =>
    if path = "" then s.say "Usage: \\i <filename>"
    else
      match read path with
      | .ok text => s.runScript text
      | .error _ => s.fail (.unreadable path)
  | .bootstrap => s.reportSchema (Schema.create s.database)
  | .begin => s.attempt "BEGIN"
  | .commit => s.attempt "COMMIT"
  | .rollback => s.attempt "ROLLBACK"
  | .status => s.say (statusText s.database)
  | .unknown name => s.say ("Unknown command '\\" ++ name ++ "'. Type \\? for help.")

/-- Executes a line: a command, or a script. -/
def process (s : Shell) (read : String → Except FileError String) (line : String) : Turn :=
  if Command.isCommand line then s.obey read (.parse line) else s.runScript line

/-! ## The start -/

/-- A shell on a new database. -/
def create (settings : Settings) (format : OutputFormat) : Shell :=
  ⟨.create settings.database, format, settings.timing, []⟩

/-- Starts a shell, with the relations of the platform if the settings ask for them. -/
def start (settings : Settings) (format : OutputFormat) : Turn :=
  let s := create settings format
  if settings.bootstrap then
    let answer := Schema.create s.database
    let fault :=
      match answer.result with
      | .ok _ => none
      | .error e => some (Fault.database e)
    ⟨{ s with database := answer.database }, noticed answer.notices, fault, false⟩
  else ⟨s, [], none, false⟩

/-- An attempted statement leaves no parameters pending. -/
@[simp] theorem pending_attempt (s : Shell) (sql : String) :
    (s.attempt sql).shell.pending = [] := by
  unfold attempt
  split <;> rfl

/-- Attempting statements changes neither the format nor the timing. -/
@[simp] theorem format_attempt (s : Shell) (sql : String) :
    (s.attempt sql).shell.format = s.format ∧ (s.attempt sql).shell.timing = s.timing := by
  unfold attempt
  split <;> exact ⟨rfl, rfl⟩

end Shell

end MiniSql
