/-!
# Help of the shell

The texts that tell a user about the shell.
-/

namespace MiniSql.Shell

/-- The version of the program. -/
def version : String := "0.1.0"

/-- The name and version of the shell. -/
def versionText : String :=
  "Hangar shell v" ++ version

/-- What is shown at the start of a conversation. -/
def banner : String :=
  versionText ++ "\nIn-memory database; nothing is written to disk.\n"
    ++ "Type \\? for help, \\q to quit.\n\n"

/-- The commands and what they do. -/
def helpText : String := "Hangar Shell Commands
=====================

General:
  \\q, \\quit       Exit the shell
  \\?, \\help       Show this help
  \\v, \\version    Show version information
  \\clear, \\cls    Clear screen
  \\s, \\status     Show database statistics

Schema:
  \\d [NAME]       Describe a relation
  \\dt, \\tables    List all relations
  \\bootstrap      Create the booking platform relations

Parameters:
  \\bind JSON      Bind a JSON array to the next statement's ? placeholders
  \\bind []        Clear bound parameters
  \\bind           Show bound parameters

Transaction:
  \\begin          Start a transaction
  \\commit         Commit the transaction
  \\rollback       Rollback the transaction

Display:
  \\t, \\timing     Toggle timing display
  \\f FORMAT       Set output format (table, json, csv, raw)

Files:
  \\i FILE         Execute statements from file

Type statements followed by a semicolon to execute them.
"

end MiniSql.Shell
