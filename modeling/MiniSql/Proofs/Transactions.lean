import MiniSql.Proofs.Runs

/-!
# Transactions

A transaction takes one of two forms. The first is opened and closed by commands: from a
`BEGIN` on, the relations as they were are kept aside, and only a `COMMIT` or a `ROLLBACK`
that is obeyed puts them away again. The second is a program: while it runs no transaction of
the first form is open, and what it did is kept or undone as a whole.

**Results.**
* `snapshot_afterTurns`: what `BEGIN` kept aside survives every turn up to the end of its
  transaction.
* `inTransaction_afterTurns`: the command obeyed last decides whether a transaction is open.
* `transactions_of_run`: both forms of closing, and commands that come at the wrong time.
* `plays_runProgram`: a program gets the replies it would get outside of its transaction.
* `transact_all_or_nothing`: what is left of a program.
-/

namespace MiniSql

namespace Database

/-! ## Transactions of commands -/

theorem inTransaction_eq_true {db : Database} :
    db.inTransaction = true ↔ ∃ saved, db.snapshot = some saved :=
  Option.isSome_iff_exists

theorem inTransaction_eq_false {db : Database} :
    db.inTransaction = false ↔ db.snapshot = none := by
  rw [inTransaction, Option.isSome_eq_false_iff, Option.isNone_iff_eq_none]

/-- A request succeeds and leaves the given relations and no open transaction. -/
structure Closes (db : Database) (r : Request) (registry : Registry) : Prop where
  succeeds : ∃ reply, (db.answer r).result = .ok reply
  registry : (db.answer r).database.registry = registry
  closed : (db.answer r).database.inTransaction = false

section Commands

variable {db db' : Database} {r : Request} {command : StatementKind} {saved : Registry}

theorem answer_of_obeyed {result : StatementResult} {notices : List Notice}
    (hcommand : r.command? = some command)
    (hcontrol : db.control command = ⟨.ok result, db', notices⟩) :
    (∃ reply, (db.answer r).result = .ok reply) ∧ (db.answer r).database = db' := by
  rw [answer_of_command db hcommand, hcontrol]
  exact ⟨⟨r.controlReply result, rfl⟩, rfl⟩

theorem answer_begin (hcommand : r.command? = some .begin) (hclosed : db.snapshot = none) :
    (∃ reply, (db.answer r).result = .ok reply) ∧
      (db.answer r).database = { db.count with snapshot := some db.registry } :=
  answer_of_obeyed hcommand (control_begin hclosed)

theorem closes_commit (hcommand : r.command? = some .commit)
    (hopen : db.snapshot = some saved) :
    db.Closes r db.registry := by
  obtain ⟨hreply, hdatabase⟩ := answer_of_obeyed hcommand (control_commit hopen)
  refine ⟨hreply, ?_, ?_⟩
  · rw [hdatabase]
    rfl
  · rw [hdatabase]
    rfl

theorem closes_rollback (hcommand : r.command? = some .rollback)
    (hopen : db.snapshot = some saved) :
    db.Closes r saved := by
  obtain ⟨hreply, hdatabase⟩ := answer_of_obeyed hcommand (control_rollback hopen)
  refine ⟨hreply, ?_, ?_⟩
  · rw [hdatabase]
  · rw [hdatabase]
    rfl

/-- The fault of a command that comes at the wrong time. -/
def misuseFault : StatementKind → TransactionFault
  | .begin => .nestedBegin
  | command => .noneActive command

theorem control_of_misuse (hmisuse : command = .begin ↔ db.inTransaction = true) :
    db.control command = db.count.fail (.transaction (misuseFault command)) := by
  by_cases hbegin : command = .begin
  · obtain ⟨saved, hopen⟩ := inTransaction_eq_true.mp (hmisuse.mp hbegin)
    subst hbegin
    exact control_begin_of_open hopen
  · have hclosed : db.inTransaction = false :=
      Bool.eq_false_iff.mpr fun hopen => hbegin (hmisuse.mpr hopen)
    have hfault : misuseFault command = .noneActive command := by
      cases command with
      | begin => exact absurd rfl hbegin
      | _ => rfl
    rw [hfault]
    exact control_of_none_open hbegin (inTransaction_eq_false.mp hclosed)

/-- A `BEGIN` within a transaction, or another command outside of one, is refused. -/
theorem answer_of_misuse (hcommand : r.command? = some command)
    (hmisuse : command = .begin ↔ db.inTransaction = true) :
    (db.answer r).result = .error (.transaction (misuseFault command)) ∧
      (db.answer r).database = db.count := by
  rw [answer_of_command db hcommand, control_of_misuse hmisuse]
  exact ⟨rfl, rfl⟩

end Commands

section Steps

variable {db db' : Database} {command : Option StatementKind}

/-- Only an obeyed `COMMIT` or `ROLLBACK` puts away what `BEGIN` kept aside. -/
theorem snapshot_of_moves {saved : Registry} (hmoves : Moves db command db')
    (hopen : db.snapshot = some saved) (hcommit : command ≠ some .commit)
    (hrollback : command ≠ some .rollback) :
    db'.snapshot = some saved := by
  cases hmoves with
  | data hstep => exact hstep.snapshot.trans hopen
  | begin hclosed =>
      rw [hopen] at hclosed
      cases hclosed
  | commit _ => exact absurd rfl hcommit
  | rollback _ => exact absurd rfl hrollback

/-- A transaction is open after an obeyed `BEGIN` and not after another obeyed command;
otherwise nothing changes about it. -/
theorem inTransaction_of_moves (hmoves : Moves db command db') :
    db'.inTransaction = (command.map (· == .begin)).getD db.inTransaction := by
  cases hmoves with
  | data hstep =>
      rw [Option.map_none, Option.getD_none, inTransaction, hstep.snapshot, inTransaction]
  | begin _ => rfl
  | commit _ => rfl
  | rollback _ => rfl

end Steps

/-- What `BEGIN` kept aside survives every turn up to the end of its transaction. -/
theorem snapshot_afterTurns {db : Database} {saved : Registry} {turns : List Turn}
    (hopen : db.snapshot = some saved) (hcommit : .commit ∉ db.obeyed turns)
    (hrollback : .rollback ∉ db.obeyed turns) :
    (db.afterTurns turns).snapshot = some saved := by
  induction turns generalizing db with
  | nil => exact hopen
  | cons t rest ih =>
      rw [obeyed, List.mem_append, not_or, Option.mem_toList] at hcommit hrollback
      have hnext : (db.afterTurn t).snapshot = some saved :=
        snapshot_of_moves (moves_afterTurn db t) hopen hcommit.1 hrollback.1
      exact ih hnext hcommit.2 hrollback.2

/-- The command obeyed last decides whether a transaction is open. -/
theorem inTransaction_afterTurns (db : Database) (turns : List Turn) :
    (db.afterTurns turns).inTransaction =
      ((db.obeyed turns).getLast?.map (· == .begin)).getD db.inTransaction := by
  induction turns generalizing db with
  | nil => rfl
  | cons t rest ih =>
      rw [afterTurns_cons, ih, obeyed, List.getLast?_append,
        inTransaction_of_moves (moves_afterTurn db t)]
      cases (db.afterTurn t |>.obeyed rest).getLast? with
      | none => cases db.obeyed? t <;> rfl
      | some command => rfl

theorem inTransaction_iff_begin_last {db : Database} (hclosed : db.inTransaction = false)
    (turns : List Turn) :
    (db.afterTurns turns).inTransaction = true ↔
      (db.obeyed turns).getLast? = some .begin := by
  rw [inTransaction_afterTurns, hclosed]
  cases (db.obeyed turns).getLast? with
  | none => simp
  | some command => simp

/-- After a `BEGIN` and any calls of which no `COMMIT` and no `ROLLBACK` was obeyed, a
`ROLLBACK` brings back the relations as they were at the `BEGIN`, and a `COMMIT` keeps them
as they are. A transaction is open exactly when the command obeyed last was a `BEGIN`, and a
command that comes at the wrong time is refused and changes nothing. -/
theorem transactions_of_run :
    (∀ (db : Database) (b : Request), db.inTransaction = false → b.command? = some .begin →
      (∃ reply, (db.answer b).result = .ok reply) ∧
      ∀ calls : List Call,
        let start := (db.answer b).database
        let now := start.afterCalls calls
        .commit ∉ start.obeyed (start.turns calls) →
        .rollback ∉ start.obeyed (start.turns calls) →
        (∀ r : Request, r.command? = some .rollback → now.Closes r db.registry) ∧
        (∀ r : Request, r.command? = some .commit → now.Closes r now.registry)) ∧
    (∀ (db : Database) (turns : List Turn), db.inTransaction = false →
      ((db.afterTurns turns).inTransaction = true ↔
        (db.obeyed turns).getLast? = some .begin)) ∧
    (∀ (db : Database) (r : Request) (command : StatementKind), r.command? = some command →
      (command = .begin ↔ db.inTransaction = true) →
      (db.answer r).result = .error (.transaction (misuseFault command)) ∧
      (db.answer r).database.registry = db.registry ∧
      (db.answer r).database.snapshot = db.snapshot) := by
  refine ⟨?_, ?_, ?_⟩
  · intro db b hclosed hbegin
    obtain ⟨hreply, hstart⟩ := answer_begin hbegin (inTransaction_eq_false.mp hclosed)
    refine ⟨hreply, ?_⟩
    intro calls start now hcommit hrollback
    have hopen : start.snapshot = some db.registry := by
      show (db.answer b).database.snapshot = some db.registry
      rw [hstart]
    -- Scripts and programs need no case of their own: they are turns like all others.
    have hnow : now.snapshot = some db.registry := by
      show (start.afterCalls calls).snapshot = some db.registry
      rw [afterCalls_eq]
      exact snapshot_afterTurns hopen hcommit hrollback
    exact ⟨fun r hr => closes_rollback hr hnow, fun r hr => closes_commit hr hnow⟩
  · intro db turns hclosed
    exact inTransaction_iff_begin_last hclosed turns
  · intro db r command hcommand hmisuse
    obtain ⟨hresult, hdatabase⟩ := answer_of_misuse hcommand hmisuse
    refine ⟨hresult, ?_, ?_⟩
    · rw [hdatabase]
      rfl
    · rw [hdatabase]
      rfl

/-- A relation that was created since is gone after the `ROLLBACK`. -/
theorem creation_rolled_back :
    let db := create .default
    let begun := (db.answer (.execute "BEGIN")).database
    let calls : List Call := [.turn (.request (.run (.ofText "CREATE TABLE t (a)") [])),
      .turn (.request (.run (.ofText "BEGIN") []))]
    let now := begun.afterCalls calls
    now.registry.contains "t" = true ∧ now.Closes (.execute "ROLLBACK") db.registry ∧
      (now.answer (.execute "BEGIN")).result = .error (.transaction .nestedBegin) := by
  intro db begun calls now
  have hbegin : (Request.execute "BEGIN").command? = some .begin := by decide +kernel
  have hrollback : (Request.execute "ROLLBACK").command? = some .rollback := by decide +kernel
  have hrun : now.registry.contains "t" = true ∧ now.inTransaction = true ∧
      begun.obeyed (begun.turns calls) = [] := by decide +kernel
  obtain ⟨hcreated, hopen, hobeyed⟩ := hrun
  refine ⟨hcreated, ?_, ?_⟩
  · refine ((transactions_of_run.1 db (.execute "BEGIN") rfl hbegin).2 calls ?_ ?_).1 _ hrollback
    · rw [hobeyed]
      exact List.not_mem_nil
    · rw [hobeyed]
      exact List.not_mem_nil
  · exact (transactions_of_run.2.2 now _ .begin hbegin (iff_of_true rfl hopen)).1

end Database

/-! ## Transactions of programs -/

/-- A request of a program, and the reply that the program got. -/
structure Exchange where
  request : Request
  reply : Except DatabaseError Reply

namespace Exchange

/-- The request gives no transaction command. -/
def isDirect (x : Exchange) : Bool :=
  x.request.command?.isNone

/-- A transaction command got the refusal that it gets within programs. -/
def IsRefused (x : Exchange) : Prop :=
  ∀ command, x.request.command? = some command →
    x.reply = .error (.transaction (.notAllowed command))

end Exchange

/-- By the exchanges in their order a program comes to an ending. -/
inductive Program.Plays {α : Type} : Program α → List Exchange → Ending α → Prop
  | finish (ending : Ending α) :
      Plays (.finish ending) [] ending
  | ask {request : Request} {next : Except DatabaseError Reply → Program α}
      {reply : Except DatabaseError Reply} {rest : List Exchange} {ending : Ending α} :
      Plays (next reply) rest ending →
      Plays (.ask request next) (⟨request, reply⟩ :: rest) ending

namespace Database

/-- The replies to requests made one after another outside of any program, and the database
afterwards. -/
def answerAll (db : Database) : List Request → List (Except DatabaseError Reply) × Database
  | [] => ([], db)
  | r :: rest =>
      let (replies, after) := (db.answer r).database.answerAll rest
      ((db.answer r).result :: replies, after)

/-- The exchanges of a program, without its transaction commands, are what happens outside
of its transaction. -/
def Simulates (db : Database) (exchanges : List Exchange) (after : Database) : Prop :=
  db.answerAll ((exchanges.filter Exchange.isDirect).map Exchange.request) =
    ((exchanges.filter Exchange.isDirect).map Exchange.reply, after)

section Simulates

variable {db after : Database} {r : Request} {exchanges : List Exchange}

theorem Simulates.of_command {command : StatementKind} (hcommand : r.command? = some command)
    (h : (db.serve r).database.Simulates exchanges after) :
    db.Simulates (⟨r, (db.serve r).result⟩ :: exchanges) after := by
  have hleft : ¬ Exchange.isDirect ⟨r, (db.serve r).result⟩ = true := by
    simp [Exchange.isDirect, hcommand]
  rw [serve_of_command hcommand, database_fail] at h
  unfold Simulates
  rw [List.filter_cons_of_neg hleft]
  exact h

theorem Simulates.of_direct (hdirect : r.command? = none)
    (h : (db.serve r).database.Simulates exchanges after) :
    db.Simulates (⟨r, (db.serve r).result⟩ :: exchanges) after := by
  have hkept : Exchange.isDirect ⟨r, (db.serve r).result⟩ = true := by
    simp [Exchange.isDirect, hdirect]
  unfold Simulates at h ⊢
  rw [List.filter_cons_of_pos hkept, List.map_cons, List.map_cons, answerAll,
    answer_of_no_command db hdirect, h]

end Simulates

/-- A program gets the replies it would get outside of its transaction, except that its
transaction commands are refused. -/
theorem plays_runProgram {α : Type} (db : Database) (p : Program α) :
    ∃ exchanges, p.Plays exchanges (db.runProgram p).ending ∧
      (db.runProgram p).steps.map Step.reply = exchanges.map Exchange.reply ∧
      (∀ x ∈ exchanges, x.IsRefused) ∧
      db.Simulates exchanges (db.runProgram p).database := by
  -- The rest of a program starts from what its first request left.
  induction p generalizing db with
  | finish ending =>
      exact ⟨[], .finish ending, rfl, fun x hx => absurd hx List.not_mem_nil, rfl⟩
  | ask request next ih =>
      obtain ⟨exchanges, hplays, hreplies, hrefused, hsimulates⟩ :=
        ih (db.serve request).result (db.serve request).database
      refine ⟨⟨request, (db.serve request).result⟩ :: exchanges, .ask hplays, ?_, ?_, ?_⟩
      · exact congrArg ((db.serve request).result :: ·) hreplies
      · intro x hx command hcommand
        rcases List.mem_cons.mp hx with rfl | hrest
        · show (db.serve request).result = .error (.transaction (.notAllowed command))
          rw [serve_of_command hcommand]
          rfl
        · exact hrefused x hrest command hcommand
      · cases hcommand : request.command? with
        | some command => exact .of_command hcommand hsimulates
        | none => exact .of_direct hcommand hsimulates

section Transact

variable {α : Type} {db : Database} (p : Program α)

theorem transact_of_open (hopen : db.inTransaction = true) :
    db.transact p = ⟨[], .failed (.transaction .alreadyActive), db, []⟩ := by
  rw [transact, if_pos hopen]

theorem transact_of_returned {value : α} (hclosed : db.inTransaction = false)
    (hending : (db.runProgram p).ending = .returned value) :
    db.transact p = ⟨(db.runProgram p).steps, .returned value, (db.runProgram p).database,
      [.transactionStarted, .transactionCommitted]⟩ := by
  rw [transact, if_neg (Bool.eq_false_iff.mp hclosed)]
  simp only [hending]

theorem transact_of_not_returned (hclosed : db.inTransaction = false)
    (hending : ∀ value, (db.runProgram p).ending ≠ .returned value) :
    (db.transact p).steps = (db.runProgram p).steps ∧
      (db.transact p).ending = (db.runProgram p).ending ∧
      (db.transact p).database.registry = db.registry := by
  rw [transact, if_neg (Bool.eq_false_iff.mp hclosed)]
  cases h : (db.runProgram p).ending with
  | returned value => exact absurd h (hending value)
  | failed e => simp only [h, and_self]
  | aborted message => simp only [h, and_self]

theorem inTransaction_transact :
    (db.transact p).database.inTransaction = db.inTransaction := by
  rw [inTransaction, (dataStep_transact db p).snapshot, inTransaction]

end Transact

/-- A program that returns leaves what its requests would have left outside of its
transaction, with the same replies; one that fails or is aborted leaves the relations as they
were. Its transaction commands are refused, so that no transaction is open afterwards. While
one is open no program is run. -/
theorem transact_all_or_nothing {α : Type} (db : Database) (p : Program α) :
    (db.inTransaction = false →
      (∃ exchanges, p.Plays exchanges (db.transact p).ending ∧
        (db.transact p).steps.map Step.reply = exchanges.map Exchange.reply ∧
        (∀ x ∈ exchanges, x.IsRefused) ∧
        (∀ value, (db.transact p).ending = .returned value →
          db.Simulates exchanges (db.transact p).database)) ∧
      ((∀ value, (db.transact p).ending ≠ .returned value) →
        (db.transact p).database.registry = db.registry) ∧
      (db.transact p).database.inTransaction = false) ∧
    (db.inTransaction = true →
      db.transact p = ⟨[], .failed (.transaction .alreadyActive), db, []⟩) ∧
    (∀ (within : Database) (r : Request) (command : StatementKind),
      r.command? = some command →
      within.serve r = within.fail (.transaction (.notAllowed command))) := by
  refine ⟨?_, ?_, ?_⟩
  · intro hclosed
    obtain ⟨exchanges, hplays, hreplies, hrefused, hsimulates⟩ := plays_runProgram db p
    have hafter : (db.transact p).database.inTransaction = false := by
      rw [inTransaction_transact, hclosed]
    by_cases hreturns : ∃ value, (db.runProgram p).ending = .returned value
    · obtain ⟨value, hending⟩ := hreturns
      rw [transact_of_returned p hclosed hending] at hafter ⊢
      rw [hending] at hplays
      refine ⟨⟨exchanges, hplays, hreplies, hrefused, ?_⟩, ?_, hafter⟩
      · intro _ _
        exact hsimulates
      · intro hlost
        exact absurd rfl (hlost value)
    · have hlost : ∀ value, (db.runProgram p).ending ≠ .returned value :=
        fun value hending => hreturns ⟨value, hending⟩
      obtain ⟨hsteps, hending, hundone⟩ := transact_of_not_returned p hclosed hlost
      rw [hsteps, hending]
      refine ⟨⟨exchanges, hplays, hreplies, hrefused, ?_⟩, ?_, hafter⟩
      · intro value hvalue
        exact absurd hvalue (hlost value)
      · intro _
        exact hundone
  · intro hopen
    exact transact_of_open p hopen
  · intro within r command hcommand
    exact serve_of_command hcommand

/-- What was created before an abort is gone, and the command within has no effect. -/
theorem creation_undone :
    let db := create .default
    let p : Program Unit :=
      .ask (.run (.ofText "CREATE TABLE t (a)") []) fun _ =>
        .ask (.run (.ofText "COMMIT") []) fun _ => .finish (.aborted "")
    (db.transact p).steps.length = 2 ∧
      (db.transact p).database.registry = db.registry ∧
      (db.transact p).database.inTransaction = false := by
  intro db p
  have hall := (transact_all_or_nothing db p).1 rfl
  have haborted : (db.transact p).ending = .aborted "" := rfl
  refine ⟨rfl, hall.2.1 ?_, hall.2.2⟩
  intro value hvalue
  rw [haborted] at hvalue
  cases hvalue

end Database

end MiniSql
