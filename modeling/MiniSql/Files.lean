/-!
# Files

A store of text files in directories, as a run of the shell sees it. A path is a list of
names; `.` stands for the directory itself and `..` for the one above. A path that does not
begin at the root begins at the directory of the run.

**Results.** What putting a text at a place does to the texts of all places.
-/

namespace MiniSql

/-- Why a file cannot be read or written. -/
inductive FileError where
  | notFound
  | occupied
  | notDirectory
  | isDirectory
deriving DecidableEq, Repr

/-- The wording of a file error. -/
def FileError.message : FileError → String
  | notFound => "No such file or directory (os error 2)"
  | occupied => "File exists (os error 17)"
  | notDirectory => "Not a directory (os error 20)"
  | isDirectory => "Is a directory (os error 21)"

/-- A place in the store: the names on the way to it. -/
abbrev Place := List String

/-- The text files at their places, and directories that hold none. -/
structure Files where
  texts : List (Place × String)
  directories : List Place
deriving DecidableEq, Repr

namespace Files

/-- A store without files. -/
def empty : Files := ⟨[], []⟩

/-- The text at a place. -/
def textAt? (place : Place) : List (Place × String) → Option String
  | [] => none
  | e :: es => if e.1 = place then some e.2 else textAt? place es

/-- Puts a text at a place. -/
def putText (place : Place) (text : String) : List (Place × String) → List (Place × String)
  | [] => [(place, text)]
  | e :: es => if e.1 = place then (place, text) :: es else e :: putText place text es

/-- The directory of a run. -/
def workPlace : Place := ["."]

/-- A place is a directory: the root, the directory of the run, a known one, or one on the way
to a file. -/
def isDirectory (f : Files) (place : Place) : Bool :=
  place = [] || place = workPlace || f.directories.any (place.isPrefixOf ·) ||
    f.texts.any fun e => place.isPrefixOf e.1 && place ≠ e.1

/-- The names of a path between its slashes. -/
def names (path : String) : List String :=
  (path.toList.splitOn '/').map String.ofList

/-- Where a path begins. -/
def start (path : String) : Place :=
  if path.toList.head? = some '/' then [] else workPlace

/-- The place that names lead to. Every place on the way has to be a directory. -/
def walk (f : Files) (here : Place) : List String → Except FileError Place
  | [] => .ok here
  | name :: rest =>
    if f.isDirectory here then
      if name = "" ∨ name = "." then f.walk here rest
      else if name = ".." then f.walk here.dropLast rest
      else f.walk (here ++ [name]) rest
    else if (textAt? here f.texts).isSome then .error .notDirectory
    else .error .notFound

/-- The place of a path. -/
def locate (f : Files) (path : String) : Except FileError Place :=
  if path = "" ∨ path.contains '\x00' then .error .notFound
  else f.walk (start path) (names path)

/-- The text of a file. -/
def read (f : Files) (path : String) : Except FileError String :=
  match f.locate path with
  | .error e => .error e
  | .ok place =>
    if f.isDirectory place then .error .isDirectory
    else
      match textAt? place f.texts with
      | some text => .ok text
      | none => .error .notFound

/-- A path leads to a file or directory. -/
def contains (f : Files) (path : String) : Bool :=
  match f.locate path with
  | .error _ => false
  | .ok place => f.isDirectory place || (textAt? place f.texts).isSome

/-- Writes the text of a file whose directory exists. -/
def write (f : Files) (path text : String) : Except FileError Files :=
  match f.locate path with
  | .error e => .error e
  | .ok place =>
    if f.isDirectory place then .error .isDirectory
    else if f.isDirectory place.dropLast then
      .ok { f with texts := putText place text f.texts }
    else if (textAt? place.dropLast f.texts).isSome then .error .notDirectory
    else .error .notFound

/-- Makes the directories that names lead to. -/
def makeAll (f : Files) (here : Place) : List String → Except FileError Files
  | [] => .ok f
  | name :: rest =>
    if name = "" ∨ name = "." then f.makeAll here rest
    else if name = ".." then f.makeAll here.dropLast rest
    else
      let next := here ++ [name]
      if f.isDirectory next then f.makeAll next rest
      else if (textAt? next f.texts).isSome then
        .error (if rest = [] then .occupied else .notDirectory)
      else { f with directories := next :: f.directories }.makeAll next rest

/-- Makes the directory of a path and those above it. -/
def makeParents (f : Files) (path : String) : Except FileError Files :=
  let parts := (names path).filter fun name => name ≠ "" ∧ name ≠ "."
  f.makeAll (start path) parts.dropLast

/-- Writes the text of a file, making the directories on its path. -/
def save (f : Files) (path text : String) : Except FileError Files :=
  (f.makeParents path).bind fun f => f.write path text

/-- A text that was put at a place is there, and every other place is as before. -/
theorem textAt?_putText (texts : List (Place × String)) (place other : Place) (text : String) :
    textAt? other (putText place text texts) =
      if other = place then some text else textAt? other texts := by
  induction texts with
  | nil => grind [textAt?, putText]
  | cons e es ih => grind [textAt?, putText]

end Files

end MiniSql
