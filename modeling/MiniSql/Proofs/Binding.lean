import MiniSql.Proofs.Parameters
import MiniSql.Proofs.Scripts

/-!
# Bound parameters

Whatever the lines of a session are, they do three kinds of things to a shell, one after the other:
a command binds parameters, a statement is attempted, or a command does something else. The
statements of a line are those of its script, those of the file that it includes, or the one that a
command for transactions stands for.

A statement is executed with the parameters that were bound last, if none was attempted since, and
without parameters otherwise; it takes them whatever becomes of it. With parameters it is used
through a handle, which is asked for the rows of a query and run for the changes of any other
statement. No other command takes the parameters, changes them, or does anything with them but show
them.

**Results.**
* `Shell.process_eq_perform`: a line is its steps.
* `Shell.shell_turn_other`: other commands keep the pending parameters, and do not depend on them.
* `Shell.pending_of_bound`, `Shell.pending_of_not_bound`: the pending parameters behind steps.
* `Shell.bound_parameters_taken_once`: the parameters that the statements of a session are executed
  with.
-/

namespace MiniSql.Shell

/-! ## Steps -/

/-- One thing that a line does. -/
inductive Step where
  | bind (params : List Value)
  /-- A statement is attempted, and its error is shown or is that of the line. -/
  | attempt (sql : String) (shows : Bool)
  | other (c : Command)
deriving DecidableEq

/-- A line, and what can be read when it is executed. -/
structure Line where
  text : String
  read : String → Except FileError String

/-- The steps of a script. -/
def scriptSteps (text : String) : List Step :=
  (Script.split text).map (.attempt · true)

/-- The steps of a command. -/
def commandSteps (read : String → Except FileError String) : Command → List Step
  | .bind (some json) =>
    match Json.readValues? json with
    | some params => [.bind params]
    | none => [.other (.bind (some json))]
  | .runFile path =>
    if path = "" then [.other (.runFile path)]
    else
      match read path with
      | .ok text => scriptSteps text
      | .error _ => [.other (.runFile path)]
  | .begin => [.attempt "BEGIN" false]
  | .commit => [.attempt "COMMIT" false]
  | .rollback => [.attempt "ROLLBACK" false]
  | c => [.other c]

/-- The steps of a line. -/
def Line.steps (l : Line) : List Step :=
  if Command.isCommand l.text then commandSteps l.read (.parse l.text) else scriptSteps l.text

/-- Nothing can be read. -/
def readNothing (_ : String) : Except FileError String :=
  .error .notFound

/-- Binds parameters to the next statement. -/
def boundTurn (s : Shell) (params : List Value) : Turn :=
  { s with pending := params }.say
    ("Bound " ++ params.length.repr ++ " parameter" ++ plural params.length
      ++ " to the next statement.")

/-- What a step does. -/
def Step.turn (s : Shell) : Step → Turn
  | .bind params => s.boundTurn params
  | .attempt sql true => (s.attempt sql).shown
  | .attempt sql false => s.attempt sql
  | .other c => s.obey readNothing c

/-- Does steps one after the other. -/
def perform (s : Shell) : List Step → Turn
  | [] => ⟨s, [], none, false⟩
  | step :: steps =>
    let turn := step.turn s
    let later := turn.shell.perform steps
    ⟨later.shell, turn.emissions ++ later.emissions, turn.fault.or later.fault,
      turn.exits || later.exits⟩

/-- The shell after lines. -/
def follow (s : Shell) (lines : List Line) : Shell :=
  lines.foldl (fun s l => (s.process l.read l.text).shell) s

theorem perform_singleton (s : Shell) (step : Step) : s.perform [step] = step.turn s := by
  simp [perform]

theorem shell_perform_cons (s : Shell) (step : Step) (steps : List Step) :
    (s.perform (step :: steps)).shell = ((step.turn s).shell.perform steps).shell := rfl

theorem shell_perform_append (s : Shell) (before after : List Step) :
    (s.perform (before ++ after)).shell = ((s.perform before).shell.perform after).shell := by
  induction before generalizing s with
  | nil => rfl
  | cons step before ih => rw [List.cons_append, shell_perform_cons, ih, shell_perform_cons]

/-! ## Lines -/

theorem runScript_eq_perform (s : Shell) (text : String) :
    s.runScript text = s.perform (scriptSteps text) := by
  rw [runScript, scriptSteps]
  generalize Script.split text = statements
  induction statements generalizing s with
  | nil => rfl
  | cons sql rest ih =>
      have hrest := ih (s.attempt sql).shell
      rw [List.map_cons, perform, Step.turn, Turn.shown, ← hrest]
      simp [attemptAll]

theorem obey_eq_perform (s : Shell) (read : String → Except FileError String) (c : Command) :
    s.obey read c = s.perform (commandSteps read c) := by
  cases c with
  | bind parameters =>
      cases parameters with
      | none => simp only [commandSteps, perform_singleton, Step.turn, obey]
      | some json =>
          rw [commandSteps, obey, bindText]
          cases hjson : Json.readValues? json with
          | none => rw [perform_singleton, Step.turn, obey, bindText, hjson]
          | some params => rw [perform_singleton, Step.turn, boundTurn]
  | runFile path =>
      rw [commandSteps, obey]
      by_cases hpath : path = ""
      · rw [if_pos hpath, if_pos hpath, perform_singleton, Step.turn, obey, if_pos hpath]
      · rw [if_neg hpath, if_neg hpath]
        cases read path with
        | ok text => exact s.runScript_eq_perform text
        | error e => rw [perform_singleton, Step.turn, obey, if_neg hpath, readNothing]
  | describe relation =>
      cases relation with
      | none => simp only [commandSteps, perform_singleton, Step.turn, obey]
      | some name => simp only [commandSteps, perform_singleton, Step.turn, obey]
  | _ => simp only [commandSteps, perform_singleton, Step.turn, obey]

/-- A line does its steps. -/
theorem process_eq_perform (s : Shell) (l : Line) :
    s.process l.read l.text = s.perform l.steps := by
  rw [process, Line.steps]
  split
  · exact s.obey_eq_perform l.read _
  · exact s.runScript_eq_perform l.text

theorem follow_eq_perform (s : Shell) (lines : List Line) :
    s.follow lines = (s.perform (lines.flatMap Line.steps)).shell := by
  induction lines generalizing s with
  | nil => rfl
  | cons l lines ih =>
      rw [follow, List.foldl_cons, ← follow, ih, process_eq_perform, List.flatMap_cons,
        shell_perform_append]

/-! ## Other commands -/

/-- A command neither binds parameters nor attempts a statement, if nothing can be read. -/
def isQuiet : Command → Bool
  | .bind (some json) => (Json.readValues? json).isNone
  | .begin | .commit | .rollback => false
  | _ => true

theorem not_mem_scriptSteps (c : Command) (text : String) : Step.other c ∉ scriptSteps text := by
  simp [scriptSteps]

theorem isQuiet_of_mem_steps {l : Line} {c : Command} (h : Step.other c ∈ l.steps) :
    isQuiet c = true := by
  rw [Line.steps] at h
  split at h
  · generalize Command.parse l.text = command at h
    unfold commandSteps at h
    split at h
    · next json =>
        cases hjson : Json.readValues? json with
        | none =>
            rw [hjson, List.mem_singleton] at h
            cases h
            rw [isQuiet, hjson, Option.isNone_none]
        | some params =>
            rw [hjson, List.mem_singleton] at h
            cases h
    · next path =>
        split at h
        · cases List.mem_singleton.mp h
          rfl
        · split at h
          · exact absurd h (not_mem_scriptSteps c _)
          · cases List.mem_singleton.mp h
            rfl
    · cases List.mem_singleton.mp h
    · cases List.mem_singleton.mp h
    · cases List.mem_singleton.mp h
    · next command hbind hfile hbegin hcommit hrollback =>
        cases List.mem_singleton.mp h
        unfold isQuiet
        split
        · next json => exact absurd rfl (hbind json)
        · exact absurd rfl hbegin
        · exact absurd rfl hcommit
        · exact absurd rfl hrollback
        · rfl
  · exact absurd h (not_mem_scriptSteps c _)

theorem shell_reportSchema (s : Shell) (answer : Answer Unit) (params : List Value) :
    ({ s with pending := params }.reportSchema answer).shell =
      { (s.reportSchema answer).shell with pending := params } := by
  unfold reportSchema
  cases answer.result with
  | ok _ => rfl
  | error e => rfl

/-- Other commands keep the parameters, and apart from them do the same whatever they are. -/
theorem shell_turn_other (s : Shell) {c : Command} (hc : isQuiet c = true) (params : List Value) :
    ((Step.other c).turn { s with pending := params }).shell =
      { ((Step.other c).turn s).shell with pending := params } := by
  rw [Step.turn, Step.turn]
  cases c with
  | bind parameters =>
      cases parameters with
      | none => rfl
      | some json =>
          rw [isQuiet, Option.isNone_iff_eq_none] at hc
          simp only [obey, bindText, hc]
          rfl
  | describe relation =>
      cases relation with
      | none => rfl
      | some name => rfl
  | format name =>
      simp only [obey]
      cases OutputFormat.ofName name with
      | ok format => rfl
      | error complaint => rfl
  | runFile path =>
      simp only [obey, readNothing]
      split
      · rfl
      · rfl
  | bootstrap => simp only [obey, shell_reportSchema]
  | begin => cases hc
  | commit => cases hc
  | rollback => cases hc
  | _ => rfl

theorem pending_turn_other (s : Shell) {c : Command} (hc : isQuiet c = true) :
    ((Step.other c).turn s).shell.pending = s.pending := by
  have hkept := congrArg Shell.pending (s.shell_turn_other hc s.pending)
  exact hkept

/-! ## Pending parameters -/

/-- The parameters were bound, and nothing was bound or attempted since. -/
def Bound (steps : List Step) (params : List Value) : Prop :=
  ∃ before since, steps = before ++ .bind params :: since ∧ ∀ step ∈ since, ∃ c, step = .other c

theorem Bound.concat_other {steps : List Step} {params : List Value} (h : Bound steps params)
    (c : Command) : Bound (steps ++ [.other c]) params := by
  obtain ⟨before, since, rfl, hsince⟩ := h
  refine ⟨before, since ++ [.other c], by simp, fun step hstep => ?_⟩
  rcases List.mem_append.mp hstep with hstep | hstep
  · exact hsince step hstep
  · exact ⟨c, List.mem_singleton.mp hstep⟩

/-- An attempted statement takes whatever was bound. -/
theorem not_bound_concat_attempt (steps : List Step) (sql : String) (shows : Bool)
    (params : List Value) : ¬ Bound (steps ++ [.attempt sql shows]) params := by
  rintro ⟨before, since, heq, hsince⟩
  cases since using List.reverseRecOn with
  | nil => cases (List.append_inj' heq rfl).2
  | append_singleton since step =>
      obtain ⟨c, rfl⟩ := hsince step (by simp)
      rw [← List.cons_append, ← List.append_assoc] at heq
      cases (List.append_inj' heq rfl).2

theorem shell_turn_attempt (s : Shell) (sql : String) (shows : Bool) :
    ((Step.attempt sql shows).turn s).shell =
      { s with database := (s.answer sql).database, pending := [] } := by
  have hshell : (s.attempt sql).shell = s.afterStatement sql := by
    unfold attempt
    cases s.statementText sql with
    | ok text => rfl
    | error e => rfl
  cases shows with
  | false => exact hshell
  | true => exact hshell

section Pending

variable {steps : List Step} {params : List Value}
  (hquiet : ∀ c, Step.other c ∈ steps → isQuiet c = true)

include hquiet

theorem pending_perform_others (s : Shell) (hothers : ∀ step ∈ steps, ∃ c, step = .other c) :
    (s.perform steps).shell.pending = s.pending := by
  induction steps generalizing s with
  | nil => rfl
  | cons step steps ih =>
      obtain ⟨c, rfl⟩ := hothers step List.mem_cons_self
      rw [shell_perform_cons, ih (fun c hc => hquiet c (List.mem_cons_of_mem _ hc)) _
        fun step hstep => hothers step (List.mem_cons_of_mem _ hstep)]
      exact s.pending_turn_other (hquiet c List.mem_cons_self)

/-- Parameters that were bound are pending until a statement is attempted or others are bound. -/
theorem pending_of_bound (s : Shell) (h : Bound steps params) :
    (s.perform steps).shell.pending = params := by
  obtain ⟨before, since, rfl, hsince⟩ := h
  rw [shell_perform_append, shell_perform_cons,
    pending_perform_others (fun c hc => hquiet c (by simp [hc])) _ hsince]
  rfl

/-- Unless parameters were bound and no statement was attempted since, none are pending. -/
theorem pending_of_not_bound (s : Shell) (hnone : s.pending = [])
    (h : ∀ params, ¬ Bound steps params) : (s.perform steps).shell.pending = [] := by
  induction steps using List.reverseRecOn with
  | nil => exact hnone
  | append_singleton steps step ih =>
      rw [shell_perform_append, shell_perform_cons]
      cases step with
      | bind params => exact absurd ⟨steps, [], rfl, by simp⟩ (h params)
      | attempt sql shows => exact congrArg Shell.pending (shell_turn_attempt ..)
      | other c =>
          have hbefore := ih (fun c hc => hquiet c (List.mem_append_left _ hc))
            fun params hbound => h params (hbound.concat_other c)
          exact (pending_turn_other _ (hquiet c (by simp))).trans hbefore

end Pending

/-- What the statement behind steps takes: the parameters that are bound, and otherwise none. -/
def Takes (steps : List Step) (params : List Value) : Prop :=
  Bound steps params ∨ params = [] ∧ ∀ others, ¬ Bound steps others

/-- The shell behind any steps of a session: the pending parameters are those bound last if no
statement was attempted since, and otherwise there are none. The statement that is attempted next is
executed with these parameters, and none are pending behind it, whatever its answer is. Any other
command keeps them, and changes the shell as it would without them. -/
theorem bound_parameters_taken_once (s : Shell) (hnone : s.pending = []) (lines : List Line) :
    (∀ l ∈ lines, ∀ s : Shell, s.process l.read l.text = s.perform l.steps) ∧
    ∀ before after : List Step, lines.flatMap Line.steps = before ++ after →
      let now := (s.perform before).shell
      s.follow lines = (now.perform after).shell ∧
      (∀ params, Bound before params → now.pending = params) ∧
      ((∀ params, ¬ Bound before params) → now.pending = []) ∧
      (∀ sql shows rest, after = .attempt sql shows :: rest →
        (∀ params, Takes before params →
          now.database.ExecutedWith sql params (now.answer sql) ∧
          (params = [] → now.answer sql = now.database.execute sql) ∧
          (params ≠ [] → (Prepared.ofText sql).kind = .select →
            now.answer sql = (now.database.fetchMany (.ofText sql) params).map .rows) ∧
          (params ≠ [] → (Prepared.ofText sql).kind ≠ .select →
            now.answer sql = (now.database.run (.ofText sql) params).map .changed)) ∧
        ((Step.attempt sql shows).turn now).shell =
          { now with database := (now.answer sql).database, pending := [] }) ∧
      ∀ c rest, after = .other c :: rest → ∀ params,
        ((Step.other c).turn { now with pending := params }).shell =
          { ((Step.other c).turn now).shell with pending := params } := by
  refine ⟨fun l _ s => s.process_eq_perform l, fun before after hsteps => ?_⟩
  intro now
  have hquiet : ∀ c, Step.other c ∈ before ++ after → isQuiet c = true := by
    intro c hc
    rw [← hsteps] at hc
    obtain ⟨l, -, hl⟩ := List.mem_flatMap.mp hc
    exact isQuiet_of_mem_steps hl
  have hbefore : ∀ c, Step.other c ∈ before → isQuiet c = true :=
    fun c hc => hquiet c (List.mem_append_left _ hc)
  have hbound : ∀ params, Bound before params → now.pending = params :=
    fun params => pending_of_bound hbefore s
  have hnot : (∀ params, ¬ Bound before params) → now.pending = [] :=
    pending_of_not_bound hbefore s hnone
  refine ⟨?_, hbound, hnot, ?_, ?_⟩
  · rw [follow_eq_perform, hsteps, shell_perform_append]
  · rintro sql shows rest rfl
    refine ⟨fun params htakes => ?_, shell_turn_attempt ..⟩
    obtain rfl : now.pending = params := by
      rcases htakes with hparams | ⟨rfl, hnothing⟩
      · exact hbound params hparams
      · exact hnot hnothing
    exact ⟨now.answer_executedWith sql, now.answer_unbound, now.answer_bound_query,
      now.answer_bound_change⟩
  · rintro c rest rfl params
    exact now.shell_turn_other (hquiet c (by simp)) params

/-- No parameters are pending in a shell that was just started. -/
theorem pending_start (settings : Settings) (format : OutputFormat) :
    (start settings format).shell.pending = [] := by
  unfold start
  split <;> rfl

/-- A value that is stored by the first statement of its line, after a command with other ones that
cannot be read and a file that cannot be read, and a value that is taken by a statement that cannot
be read. -/
theorem bound_parameters_taken_by_insertion :
    let s := (start .default .raw).shell
    let insertion := "INSERT INTO t (a) VALUES (?)"
    let query := "SELECT * FROM t"
    let lines : List Line := [⟨"CREATE TABLE t (a)", readNothing⟩, ⟨"\\bind [7]", readNothing⟩,
      ⟨"\\BIND 7", readNothing⟩, ⟨"\\i x", readNothing⟩,
      ⟨"INSERT INTO t (a) VALUES (?); SELECT * FROM t", readNothing⟩,
      ⟨"\\bind [8]", readNothing⟩, ⟨"SELEC; SELECT * FROM t", readNothing⟩]
    let before : List Step := [.attempt "CREATE TABLE t (a)" true, .bind [.integer 7],
      .other (.bind (some "7")), .other (.runFile "x")]
    let between : List Step := [.attempt insertion true, .attempt query true, .bind [.integer 8],
      .attempt "SELEC" true]
    let now := (s.perform before).shell
    let later := (s.perform (before ++ between)).shell
    let row : Row := ⟨[(idColumn, .integer 1), ("a", .integer 7)]⟩
    s.pending = [] ∧ lines.flatMap Line.steps = before ++ between ++ [.attempt query true] ∧
      now.pending = [.integer 7] ∧
      now.database.ExecutedWith insertion [.integer 7] (now.answer insertion) ∧
      now.answer insertion = (now.database.run (.ofText insertion) [.integer 7]).map .changed ∧
      (now.answer insertion).result = .ok (.changed ⟨1, some 1⟩) ∧
      later.pending = [] ∧ later.answer query = later.database.execute query ∧
      (later.answer query).result = .ok (.rows [row]) := by
  intro s insertion query lines before between now later row
  have hnone : s.pending = [] := pending_start _ _
  have hsteps : lines.flatMap Line.steps = before ++ between ++ [.attempt query true] := by
    decide +kernel
  have hbound : Bound before [.integer 7] := ⟨before.take 1, before.drop 2, rfl, by simp [before]⟩
  have hnot : ∀ params, ¬ Bound (before ++ between) params :=
    not_bound_concat_attempt (before ++ between.take 3) "SELEC" true
  obtain ⟨-, hall⟩ := bound_parameters_taken_once s hnone lines
  have hsteps' : lines.flatMap Line.steps =
      before ++ .attempt insertion true :: (between.drop 1 ++ [.attempt query true]) := by
    rw [hsteps]
    rfl
  obtain ⟨-, hpending, -, hfirst, -⟩ := hall before _ hsteps'
  obtain ⟨-, -, hpendingLater, hsecond, -⟩ := hall (before ++ between) _ hsteps
  obtain ⟨hexecuted, -, -, hchange⟩ := (hfirst _ _ _ rfl).1 _ (Or.inl hbound)
  obtain ⟨-, halone, -⟩ := (hsecond _ _ _ rfl).1 _ (Or.inr ⟨rfl, hnot⟩)
  have hresult : (now.answer insertion).result = .ok (.changed ⟨1, some 1⟩) := by
    decide +kernel
  have hrows : (later.answer query).result = .ok (.rows [row]) := by
    decide +kernel
  exact ⟨hnone, hsteps, hpending _ hbound, hexecuted, hchange (by simp) (by decide +kernel),
    hresult, hpendingLater hnot, halone rfl, hrows⟩

end MiniSql.Shell
