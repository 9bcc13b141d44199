import MiniSql.CommandLine.Arguments
import MiniSql.CommandLine.Help
import MiniSql.CommandLine.LogFilter
import MiniSql.Shell.History
import MiniSql.Shell.Input
import MiniSql.Shell.Session

/-!
# A run of the program

A run reads its settings, starts a shell, and executes the statements of an option, those of
a file, or the lines of its input. Statements of an option or file stop at the first error,
which is the error of the run; a conversation goes on after errors, and what was entered goes
into the history.

A run is a function of its arguments, its input, its environment and the files it finds.
-/

namespace MiniSql.CommandLine

/-- What a run starts from. -/
structure Invocation where
  arguments : List String
  input : String
  environment : List (String × String)
  files : Files
deriving DecidableEq

/-- What a run comes to. -/
structure Outcome where
  code : Nat
  out : String
  err : String
  files : Files
deriving DecidableEq

/-- The value of a variable of the environment. -/
def Invocation.valueOf (i : Invocation) (name : String) : Option String :=
  List.lookup name i.environment

/-! ## Places of files -/

/-- The home directory. -/
def Invocation.home? (i : Invocation) : Option String :=
  (i.valueOf "HOME").filter (· ≠ "")

/-- A path with a name added to it. -/
def join (directory name : String) : String :=
  if directory.toList.getLast? = some '/' then directory ++ name else directory ++ "/" ++ name

/-- The directory that a variable names in full, or one below the home directory. -/
def Invocation.directory? (i : Invocation) (name below : String) : Option String :=
  match i.valueOf name with
  | some path =>
    if path.toList.head? = some '/' then some path else i.home?.map (join · below)
  | none => i.home?.map (join · below)

/-- The paths at which settings are looked for when no file is chosen. -/
def Invocation.usualSettings (i : Invocation) : List String :=
  ((i.directory? "XDG_CONFIG_HOME" ".config").map (join · "hangar/config.toml")).toList ++
    (i.home?.map (join · ".hangar/config.toml")).toList

/-- The path of the history. -/
def Invocation.historyPath? (i : Invocation) (s : Settings) : Option String :=
  s.historyFile.or
    ((i.directory? "XDG_DATA_HOME" ".local/share").map (join · "hangar/history"))

/-! ## Settings -/

/-- Reads a settings file, or says why not. -/
def settingsAt (files : Files) (path : String) : Except String Settings :=
  match files.read path with
  | .error e => .error ("reading " ++ path ++ ": " ++ e.message)
  | .ok text =>
    match Settings.read? text with
    | some s => .ok s
    | none => .error ("parsing " ++ path ++ ": TOML parse error")

/-- The settings of the chosen file, or of the first of the usual ones that exists. -/
def chosenSettings (i : Invocation) (a : Arguments) : Except String Settings :=
  match a.value? .config with
  | some path => settingsAt i.files path
  | none =>
    match i.usualSettings.find? i.files.contains with
    | some path => settingsAt i.files path
    | none => .ok .default

/-- The settings with what the flags ask for. -/
def Arguments.adjust (a : Arguments) (s : Settings) : Settings :=
  { s with
    database := if a.has .strict then s.database.toStrict else s.database
    bootstrap := s.bootstrap || a.has .bootstrap }

/-- The output format of the arguments, or else of the settings. -/
def chosenFormat (a : Arguments) (s : Settings) : Except String OutputFormat :=
  match (a.value? .output).bind OutputFormat.ofLowerName? with
  | some format => .ok format
  | none => OutputFormat.ofName s.outputFormat

/-- The filter of the log. -/
def logFilter (i : Invocation) (a : Arguments) : LogFilter :=
  if a.has .verbose then .ofDetail 4
  else ((i.valueOf "RUST_LOG").bind LogFilter.read?).getD (.ofDetail 2)

/-- The style of the log: colored unless the environment asks for no color. -/
def logStyle (i : Invocation) : LogStyle :=
  if (i.valueOf "NO_COLOR").all (· = "") then .colored else .plain

/-! ## Conversations -/

/-- The kinds of terminals that only show text. -/
def plainTerminals : List String :=
  ["dumb", "cons25", "emacs"]

/-- The terminal only shows text. -/
def Invocation.hasPlainTerminal (i : Invocation) : Bool :=
  (i.valueOf "TERM").any fun kind => plainTerminals.any (Text.sameFold kind)

/-- What is emitted before an input is read: a notice, and on a terminal that only shows text
the prompt. -/
def ask (plainTerminal : Bool) (s : Shell) : List Emission :=
  if plainTerminal then [.notice .plainTerminal, .out s.prompt] else [.notice .notTerminal]

/-- A conversation: the shell, the history, and what was emitted. -/
structure Conversation where
  shell : Shell
  history : History
  emissions : List Emission
  plainTerminal : Bool

/-- The conversation after it has asked for input. -/
def Conversation.asked (c : Conversation) : Conversation :=
  { c with emissions := c.emissions ++ ask c.plainTerminal c.shell }

/-- Holds a conversation over inputs until one ends it or there are no more. -/
def converse (read : String → Except FileError String) (c : Conversation) :
    List String → Conversation
  | [] => { c.asked with emissions := c.asked.emissions ++ [Shell.line "\\q"] }
  | input :: rest =>
    let line := Text.trim input
    if line = "" then converse read c.asked rest
    else
      let turn := c.shell.process read line
      let shown := turn.fault.toList.map fun f => Emission.err ("Error: " ++ f.message ++ "\n")
      let after : Conversation :=
        { c with
          shell := turn.shell
          history := c.history.add line
          emissions := c.asked.emissions ++ turn.emissions ++ shown }
      if turn.exits then after else converse read after rest

/-- The history of a file, and what is said of its lines or if it cannot be read. -/
def loadHistory (files : Files) (limit : Nat) (path : Option String) :
    History × List Emission :=
  match path with
  | none => (.empty limit, [])
  | some path =>
    if files.contains path then
      match files.read path with
      | .ok text =>
        (.ofFile limit text,
          (History.miswritten text).map fun line => .notice (.historyMiswritten line))
      | .error e => (.empty limit, [.notice (.historyUnread e)])
    else (.empty limit, [])

/-- Writes a history to its file, and what is said if that fails. -/
def saveHistory (files : Files) (h : History) (path : Option String) :
    Files × List Emission :=
  match path with
  | none => (files, [])
  | some path =>
    let (files, unplaced) :=
      match files.makeParents path with
      | .ok files => (files, [])
      | .error e => (files, [Emission.notice (.historyUnplaced e)])
    if h.isDirty then
      match files.write path h.fileText with
      | .ok files => (files, unplaced)
      | .error e => (files, unplaced ++ [.notice (.historyUnsaved e)])
    else (files, unplaced)

/-! ## Runs -/

/-- A run before its emissions are written: why it failed, and the files afterwards. -/
structure Ended where
  emissions : List Emission
  fault : Option String
  files : Files

/-- A run that fails at once. -/
def refused (i : Invocation) (complaint : String) : Ended :=
  ⟨[], some complaint, i.files⟩

/-- Executes a script up to the first error, after a notice. -/
def runStrictly (i : Invocation) (start : List Emission) (s : Shell) (n : Notice)
    (text : String) : Ended :=
  let turn := s.runStrictly text
  ⟨start ++ .notice n :: turn.emissions, turn.fault.map Shell.Fault.message, i.files⟩

/-- Holds a conversation over the input. -/
def runInput (i : Invocation) (a : Arguments) (start : List Emission) (s : Shell)
    (settings : Settings) : Ended :=
  let path := i.historyPath? settings
  let (history, remarks) := loadHistory i.files settings.historySize path
  let banner := if a.has .quiet then [] else [Emission.out Shell.banner]
  let beginning : Conversation := ⟨s, history, start ++ banner ++ remarks, i.hasPlainTerminal⟩
  let c := converse i.files.read beginning (Shell.inputs i.input)
  let (files, unsaved) := saveHistory i.files c.history path
  ⟨c.emissions ++ unsaved ++ [Shell.line "Goodbye!"], none, files⟩

/-- Starts a shell and executes what the arguments ask for. -/
def runShell (i : Invocation) (a : Arguments) (settings : Settings) (format : OutputFormat) :
    Ended :=
  let turn := Shell.start settings format
  match turn.fault with
  | some fault => ⟨turn.emissions, some fault.message, i.files⟩
  | none =>
    match a.value? .command, a.value? .file with
    | some text, _ => runStrictly i turn.emissions turn.shell (.executingCommand text) text
    | none, some path =>
      match i.files.read path with
      | .ok text => runStrictly i turn.emissions turn.shell (.executingFile path) text
      | .error e =>
        ⟨turn.emissions ++ [.notice (.executingFile path)], some e.message, i.files⟩
    | none, none => runInput i a turn.emissions turn.shell settings

/-- Reads the settings, and writes them to a file or executes what the arguments ask for. -/
def runArguments (i : Invocation) (a : Arguments) : Ended :=
  match chosenSettings i a with
  | .error complaint => refused i complaint
  | .ok settings =>
    let settings := a.adjust settings
    match a.value? .saveConfig with
    | some path =>
      match i.files.save path settings.toToml with
      | .ok files => ⟨[Shell.line ("Configuration written to " ++ path)], none, files⟩
      | .error e => refused i e.message
    | none =>
      match chosenFormat a settings with
      | .error complaint => refused i complaint
      | .ok format => runShell i a settings format

/-- What an emission writes to standard output. -/
def outText (filter : LogFilter) (style : LogStyle) : Emission → String
  | .out text => text
  | .err _ => ""
  | .notice n => if filter.shows n then n.line style ++ "\n" else ""

/-- What an emission writes to standard error. -/
def errText : Emission → String
  | .err text => text
  | _ => ""

/-- Writes the emissions of a run. -/
def Ended.outcome (e : Ended) (filter : LogFilter) (style : LogStyle) : Outcome :=
  let out := String.join (e.emissions.map (outText filter style))
  let err := String.join (e.emissions.map errText)
  match e.fault with
  | none => ⟨0, out, err, e.files⟩
  | some complaint => ⟨1, out, err ++ "Error: " ++ complaint ++ "\n", e.files⟩

/-- Runs the program. -/
def run (i : Invocation) : Outcome :=
  match parse i.environment i.arguments with
  | .misuse => ⟨2, "", misuseText, i.files⟩
  | .version => ⟨0, versionText, "", i.files⟩
  | .help long => ⟨0, helpText long i.environment, "", i.files⟩
  | .run a => (runArguments i a).outcome (logFilter i a) (logStyle i)

/-! ## What a run needs -/

/-- A run holds a conversation over its input. -/
def readsInput (i : Invocation) : Bool :=
  match parse i.environment i.arguments with
  | .run a => [Setting.command, .file, .saveConfig].all fun s => (a.value? s).isNone
  | _ => false

/-- The paths at which a run may look for settings. -/
def settingsPaths (i : Invocation) : List String :=
  match parse i.environment i.arguments with
  | .run a => (a.value? .config).toList ++ i.usualSettings
  | _ => []

/-- The path of the file that an input executes. -/
def filePath? (input : String) : Option String :=
  let line := Text.trim input
  if Command.isCommand line then
    match Command.parse line with
    | .runFile path => some path
    | _ => none
  else none

/-- The other paths that a run may read or write, once its settings are known. -/
def otherPaths (i : Invocation) : List String :=
  match parse i.environment i.arguments with
  | .run a =>
    match chosenSettings i a with
    | .error _ => []
    | .ok settings =>
      (a.value? .file).toList ++ (a.value? .saveConfig).toList ++
        (i.historyPath? settings).toList ++ (Shell.inputs i.input).filterMap filePath?
  | _ => []

end MiniSql.CommandLine
