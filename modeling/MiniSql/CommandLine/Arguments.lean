import MiniSql.Output.Format

/-!
# Command line arguments

The options of the program. Each has a long name after two dashes, and most have a letter
after one; several letters may stand together. An option with a value takes it from the rest
of its word, after an equality sign, or from the next word, which then must not look like an
option. No option may be given twice, and there are no other arguments.

Words are read from left to right, so that the first one that decides what is to be done, or
that is wrong, settles the matter.
-/

namespace MiniSql.CommandLine

/-- An option without a value. -/
inductive Flag where
  | bootstrap
  | strict
  | verbose
  | quiet
deriving DecidableEq, Repr

/-- An option with a value. -/
inductive Setting where
  /-- Statements to execute. -/
  | command
  /-- A file of statements to execute. -/
  | file
  /-- The output format. -/
  | output
  /-- The settings file. -/
  | config
  /-- A file to write the settings to. -/
  | saveConfig
deriving DecidableEq, Repr

/-- What the name of an option means. -/
inductive Meaning where
  | flag (f : Flag)
  | setting (s : Setting)
  | version
  /-- The help, in its long form or its short one. -/
  | help (long : Bool)
deriving DecidableEq, Repr

/-- The meaning of a letter. -/
def Meaning.ofLetter? : Char → Option Meaning
  | 'c' => some (setting .command)
  | 'f' => some (setting .file)
  | 'o' => some (setting .output)
  | 'b' => some (flag .bootstrap)
  | 'v' => some (flag .verbose)
  | 'q' => some (flag .quiet)
  | 'V' => some version
  | 'h' => some (help false)
  | _ => none

/-- The meaning of a long name. -/
def Meaning.ofName? : String → Option Meaning
  | "command" => some (setting .command)
  | "file" => some (setting .file)
  | "output" => some (setting .output)
  | "config" => some (setting .config)
  | "save-config" => some (setting .saveConfig)
  | "bootstrap" => some (flag .bootstrap)
  | "strict" => some (flag .strict)
  | "verbose" => some (flag .verbose)
  | "quiet" => some (flag .quiet)
  | "version" => some version
  | "help" => some (help true)
  | _ => none

/-- The options given: the flags, and the settings with their values. -/
structure Arguments where
  flags : List Flag
  settings : List (Setting × String)
deriving DecidableEq, Repr

namespace Arguments

/-- No options. -/
def none : Arguments := ⟨[], []⟩

/-- A flag is given. -/
def has (a : Arguments) (f : Flag) : Bool :=
  a.flags.contains f

/-- The value of a setting in a list of them. -/
def valueIn? (s : Setting) : List (Setting × String) → Option String
  | [] => .none
  | e :: es => if e.1 = s then some e.2 else valueIn? s es

/-- The value of a setting. -/
def value? (a : Arguments) (s : Setting) : Option String :=
  valueIn? s a.settings

/-- A value that a setting can have: a format by its exact name, a path that is not empty, or
any statements. -/
def admits (s : Setting) (value : String) : Bool :=
  match s with
  | .command => true
  | .output => (OutputFormat.ofLowerName? value).isSome
  | .file | .config | .saveConfig => value ≠ ""

/-- Adds a flag, once. -/
def addFlag? (a : Arguments) (f : Flag) : Option Arguments :=
  if a.has f then .none else some { a with flags := f :: a.flags }

/-- Adds a setting, once. -/
def addSetting? (a : Arguments) (s : Setting) (value : String) : Option Arguments :=
  if (a.value? s).isSome || !admits s value then .none
  else some { a with settings := (s, value) :: a.settings }

end Arguments

/-- What the arguments ask for. -/
inductive Request where
  | run (a : Arguments)
  | version
  | help (long : Bool)
  /-- The arguments cannot be understood. -/
  | misuse
deriving DecidableEq, Repr

/-- How the reading of arguments goes on after a word. -/
inductive Progress where
  /-- The next word is read afresh. -/
  | further (a : Arguments)
  /-- The next word is the value of a setting. -/
  | awaiting (a : Arguments) (s : Setting)
  | settled (r : Request)

/-- Goes on with options, or gives up. -/
def Progress.ofOption : Option Arguments → Progress
  | some a => further a
  | none => settled .misuse

/-- A value behind a letter: the equality sign may be missing. -/
def attached : List Char → String
  | '=' :: cs => String.ofList cs
  | cs => String.ofList cs

/-- Reads letters that stand together. -/
def letters (a : Arguments) : List Char → Progress
  | [] => .further a
  | c :: cs =>
    match Meaning.ofLetter? c with
    | none => .settled .misuse
    | some .version => .settled .version
    | some (.help long) => .settled (.help long)
    | some (.setting s) =>
      if cs = [] then .awaiting a s else .ofOption (a.addSetting? s (attached cs))
    | some (.flag f) =>
      match a.addFlag? f with
      | none => .settled .misuse
      | some a => letters a cs

/-- Reads a long name with the text after its equality sign, if there is one. -/
def longName (a : Arguments) (name : String) (text : Option String) : Progress :=
  match Meaning.ofName? name, text with
  | some .version, none => .settled .version
  | some (.help long), none => .settled (.help long)
  | some (.flag f), none => .ofOption (a.addFlag? f)
  | some (.setting s), none => .awaiting a s
  | some (.setting s), some value => .ofOption (a.addSetting? s value)
  | _, _ => .settled .misuse

/-- The name up to an equality sign, and the text after it. -/
def splitEquality (cs : List Char) : String × Option String :=
  let name := String.ofList (cs.takeWhile (· ≠ '='))
  match cs.dropWhile (· ≠ '=') with
  | [] => (name, none)
  | _ :: value => (name, some (String.ofList value))

/-- Reads a word that is no value. -/
def word (a : Arguments) (text : List Char) : Progress :=
  match text with
  | '-' :: '-' :: cs =>
    let (name, value) := splitEquality cs
    longName a name value
  | '-' :: c :: cs => letters a (c :: cs)
  | _ => .settled .misuse

/-- A word can be the value of the setting before it. -/
def isValue : List Char → Bool
  | '-' :: _ :: _ => false
  | _ => true

mutual

/-- Reads words after the options given so far. -/
def readFrom (a : Arguments) : List String → Request
  | [] => .run a
  | w :: ws =>
    if w = "--" then if ws = [] then .run a else .misuse
    else
      match word a w.toList with
      | .further a => readFrom a ws
      | .awaiting a s => readValue a s ws
      | .settled r => r

/-- Reads words the first of which is the value of a setting. -/
def readValue (a : Arguments) (s : Setting) : List String → Request
  | [] => .misuse
  | w :: ws =>
    if isValue w.toList then
      match a.addSetting? s w with
      | some a => readFrom a ws
      | none => .misuse
    else .misuse

end

/-- The variable of the environment that stands in for a setting. -/
def environmentName? : Setting → Option String
  | .output => some "HANGAR_OUTPUT"
  | .config => some "HANGAR_CONFIG"
  | _ => none

/-- Adds the value of a setting's variable, unless the setting is given. -/
def addVariable? (environment : List (String × String)) (a : Arguments) (s : Setting) :
    Option Arguments :=
  match a.value? s, (environmentName? s).bind fun name => List.lookup name environment with
  | none, some value => a.addSetting? s value
  | _, _ => some a

/-- Reads the arguments, and after them the environment. -/
def parse (environment : List (String × String)) (arguments : List String) : Request :=
  match readFrom .none arguments with
  | .run a =>
    match [Setting.output, .config].foldlM (addVariable? environment) a with
    | some a => .run a
    | none => .misuse
  | r => r

end MiniSql.CommandLine
