import MiniSql.Shell.Help

/-!
# Help on the command line

The texts that tell about the program's options. The values of the variables that stand in
for options are shown.
-/

namespace MiniSql.CommandLine

/-- The name and version of the program. -/
def versionText : String :=
  "hangar " ++ Shell.version ++ "\n"

/-- The note on a variable and its value. -/
def variableNote (name : String) (environment : List (String × String)) : String :=
  "[env: " ++ name ++ "=" ++ (List.lookup name environment).getD "" ++ "]"

/-- The short form of the help: an option on each line. -/
def shortHelp (environment : List (String × String)) : String :=
  "Shell for the Hangar in-memory statement engine

Usage: hangar [OPTIONS]

Options:
  -c, --command <COMMAND>   Execute a single statement and exit
  -f, --file <FILE>         Execute statements from file and exit
  -o, --output <OUTPUT>     Output format " ++ variableNote "HANGAR_OUTPUT" environment ++
    " [possible values: table, json, csv, raw]
  -b, --bootstrap           Create the booking platform relations before anything else runs
      --strict              Reject unsupported statements, report true update counts and enforce UNIQUE columns
  -v, --verbose             Enable verbose output
  -q, --quiet               Suppress banner (for scripting)
      --config <FILE>       Configuration file path " ++
    variableNote "HANGAR_CONFIG" environment ++ "
      --save-config <FILE>  Write the effective configuration to FILE and exit
  -h, --help                Print help (see more with '--help')
  -V, --version             Print version
"

/-- The long form of the help: a paragraph on each option. -/
def longHelp (environment : List (String × String)) : String :=
  "An interactive shell for the Hangar in-memory statement engine.

Use this tool to try statements against a fresh database, run
seed scripts and inspect the booking platform schema.

Usage: hangar [OPTIONS]

Options:
  -c, --command <COMMAND>
          Execute a single statement and exit

  -f, --file <FILE>
          Execute statements from file and exit

  -o, --output <OUTPUT>
          Output format
          
          " ++ variableNote "HANGAR_OUTPUT" environment ++ "

          Possible values:
          - table: Display results in a formatted table
          - json:  Display results as JSON
          - csv:   Display results as CSV
          - raw:   Display raw values

  -b, --bootstrap
          Create the booking platform relations before anything else runs

      --strict
          Reject unsupported statements, report true update counts and enforce UNIQUE columns

  -v, --verbose
          Enable verbose output

  -q, --quiet
          Suppress banner (for scripting)

      --config <FILE>
          Configuration file path
          
          " ++ variableNote "HANGAR_CONFIG" environment ++ "

      --save-config <FILE>
          Write the effective configuration to FILE and exit

  -h, --help
          Print help (see a summary with '-h')

  -V, --version
          Print version
"

/-- The help in its long or short form. -/
def helpText (long : Bool) (environment : List (String × String)) : String :=
  if long then longHelp environment else shortHelp environment

/-- What is said of arguments that cannot be understood. -/
def misuseText : String :=
  "error: the arguments cannot be understood\n\nUsage: hangar [OPTIONS]\n\n"
    ++ "For more information, try '--help'.\n"

end MiniSql.CommandLine
