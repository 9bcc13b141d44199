import MiniSql.Text.Blank
import MiniSql.Text.Lowercase

/-!
# Commands of the shell

A line that begins with a backslash is a command: a name in any letter case and, after a
blank, an argument.
-/

namespace MiniSql

/-- A command of the shell. -/
inductive Command where
  | quit
  | help
  /-- Shows the declared columns of a relation, or every relation without one. -/
  | describe (relation : Option String)
  | listTables
  /-- Binds parameters to the next statement, or shows those bound. -/
  | bind (parameters : Option String)
  | timing
  | format (name : String)
  | version
  | clear
  /-- Executes the statements of a file. -/
  | runFile (path : String)
  /-- Creates the relations of the booking platform. -/
  | bootstrap
  | begin
  | commit
  | rollback
  | status
  | unknown (name : String)
deriving DecidableEq, Repr

namespace Command

/-- The command of a name in lower case. -/
def ofName (name : String) (argument : Option String) : Command :=
  match name with
  | "q" | "quit" | "exit" => quit
  | "?" | "h" | "help" => help
  | "d" => describe argument
  | "dt" | "tables" => listTables
  | "bind" | "p" => bind argument
  | "timing" | "t" => timing
  | "format" | "f" => format (argument.getD "table")
  | "version" | "v" => version
  | "clear" | "cls" => clear
  | "i" | "include" => runFile (argument.getD "")
  | "bootstrap" => bootstrap
  | "begin" => begin
  | "commit" => commit
  | "rollback" => rollback
  | "status" | "s" => status
  | _ => unknown name

/-- The text after a backslash in front. -/
def dropBackslash : List Char → List Char
  | '\\' :: cs => cs
  | cs => cs

/-- The name up to the first blank, and the argument after it unless that is blank. -/
def splitName (cs : List Char) : List Char × Option String :=
  let argument := Text.trim (String.ofList (cs.dropWhile (!Text.isBlank ·)))
  (cs.takeWhile (!Text.isBlank ·), if argument = "" then none else some argument)

/-- Reads a command; the backslash may be missing. -/
def parse (line : String) : Command :=
  let (name, argument) := splitName (dropBackslash (Text.trim line).toList)
  ofName (Text.lowercase (String.ofList name)) argument

/-- A line is a command when it begins with a backslash. -/
def isCommand (line : String) : Bool :=
  line.toList.head? = some '\\'

end Command

end MiniSql
