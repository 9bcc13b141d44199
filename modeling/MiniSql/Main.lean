import MiniSql.CommandLine.Run

/-!
# The program

Gathers the arguments, the input, the environment and the files that the run may read, runs,
writes what the run wrote to its files, and prints.
-/

namespace MiniSql.CommandLine

/-- The names of the variables of the environment that a run looks at. -/
def variableNames : List String :=
  ["HANGAR_OUTPUT", "HANGAR_CONFIG", "HOME", "XDG_CONFIG_HOME", "XDG_DATA_HOME", "RUST_LOG",
    "NO_COLOR", "TERM"]

/-- Adds a file or directory of the machine to a store. -/
def gatherFile (files : Files) (path : String) : IO Files := do
  match files.locate path with
  | .error _ => return files
  | .ok place =>
    match ← (IO.FS.readFile path).toBaseIO with
    | .ok text => return { files with texts := Files.putText place text files.texts }
    | .error (.inappropriateType _ _ _) =>
      return { files with directories := place :: files.directories }
    | .error _ => return files

/-- The paths of the directories on the way to a path, and the path itself. -/
def waysTo (path : String) : List String :=
  let names := Files.names path
  let ways := (List.range names.length).map fun n => "/".intercalate (names.take (n + 1))
  ways.filter (· ≠ "")

/-- Adds files and the directories on the way to them to a store. -/
def gatherFiles (files : Files) (paths : List String) : IO Files :=
  (paths.flatMap waysTo).foldlM gatherFile files

/-- The path of a place. -/
def pathOf : Place → String
  | "." :: names => "/".intercalate ("." :: names)
  | names => "/" ++ "/".intercalate names

/-- Makes the directories and writes the files that a run has added or changed. -/
def writeFiles (before after : Files) : IO Unit := do
  after.directories.forM fun place => do
    if place ∉ before.directories then IO.FS.createDirAll (pathOf place)
  after.texts.forM fun (place, text) => do
    if Files.textAt? place before.texts ≠ some text then IO.FS.writeFile (pathOf place) text

end MiniSql.CommandLine

open MiniSql.CommandLine in
/-- Runs the program on its arguments. -/
def main (arguments : List String) : IO UInt32 := do
  let environment ← variableNames.filterMapM fun name => do
    return (← IO.getEnv name).map (name, ·)
  let bare : Invocation := ⟨arguments, "", environment, .empty⟩
  let files ← gatherFiles .empty (settingsPaths bare)
  let input ← if readsInput bare then (← IO.getStdin).readToEnd else pure ""
  let known : Invocation := { bare with input := input, files := files }
  let files ← gatherFiles files (otherPaths known)
  let outcome := run { known with files := files }
  writeFiles files outcome.files
  IO.print outcome.out
  IO.eprint outcome.err
  return outcome.code.toUInt32
