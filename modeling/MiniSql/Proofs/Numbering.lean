import MiniSql.Proofs.Identity
import MiniSql.Proofs.Transactions

/-!
# Numbering of rows

Handles that share a database take turns in any order, and a run lists the turns with the
handles that take them. The counter of a relation gives every row that is inserted the next
number, and nothing else moves it: not a removal, not an insertion that is refused, not one more
creation of the relation. Hence, as long as nothing is undone, the identities that insertions
report follow one another without a gap, whoever made them.

**Results.**
* `Numbers.map_toInt`: identities that follow one another.
* `numbers_serve`, `numbers_turn`: one request and one turn use up the identities they report.
* `numbers_reported`: so does a run.
* `identities_gap_free`: the identities that a run from the empty database reports.
-/

namespace MiniSql

/-- From the first counter on the identities follow one another, up to the second counter. -/
inductive Numbers : Int64 → List Int64 → Int64 → Prop
  | nil (i : Int64) :
      Numbers i [] i
  | cons {i j : Int64} {ids : List Int64} :
      i ≠ Int64.maxValue →
      Numbers (i + 1) ids j →
      Numbers i (i :: ids) j

namespace Numbers

variable {i j k : Int64} {ids ids' : List Int64}

theorem append (h : Numbers i ids j) (h' : Numbers j ids' k) : Numbers i (ids ++ ids') k := by
  induction h with
  | nil i => exact h'
  | cons hmax _ ih => exact .cons hmax (ih h')

theorem toInt_eq (h : Numbers i ids j) : j.toInt = i.toInt + ids.length := by
  induction h with
  | nil i => simp
  | cons hmax _ ih =>
      rw [ih, Relation.toInt_add_one_of_ne_max hmax, List.length_cons]
      omega

theorem map_toInt (h : Numbers i ids j) :
    ids.map Int64.toInt = (List.range ids.length).map fun n : Nat => i.toInt + n := by
  induction h with
  | nil i => rfl
  | cons hmax _ ih =>
      rw [List.map_cons, ih, List.length_cons, List.range_succ_eq_map, List.map_cons,
        List.map_map, Relation.toInt_add_one_of_ne_max hmax]
      congr 1
      · simp
      · apply List.map_congr_left
        intro n _
        simp only [Function.comp_apply]
        omega

theorem le_of_mem (h : Numbers i ids j) : ∀ id ∈ ids, i ≤ id := by
  induction h with
  | nil i => exact fun id hid => absurd hid List.not_mem_nil
  | cons hmax _ ih =>
      intro id hid
      rcases List.mem_cons.mp hid with rfl | hrest
      · exact Int64.le_refl id
      · exact Int64.le_trans (Int64.le_of_lt (Relation.lt_add_one_of_ne_max hmax)) (ih id hrest)

theorem pairwise_lt (h : Numbers i ids j) : ids.Pairwise (· < ·) := by
  induction h with
  | nil i => exact List.Pairwise.nil
  | cons hmax hrest ih =>
      refine List.Pairwise.cons ?_ ih
      intro id hid
      exact Int64.lt_of_lt_of_le (Relation.lt_add_one_of_ne_max hmax) (hrest.le_of_mem id hid)

end Numbers

/-! ## Counters -/

namespace Registry

variable {r r' : Registry} {relation relation' : Relation} {options : ExecOptions}
  {params : List Value} {outcome : Outcome} {name : String}

/-- The identity of the next row of a relation, also of one that is still to be created. -/
def counter (r : Registry) (name : String) : Int64 :=
  match r.find? name with
  | none => 1
  | some relation => relation.nextId

theorem counter_of_find? (hfind : r.find? name = some relation) :
    r.counter name = relation.nextId := by
  rw [counter, hfind]

/-- A relation that is created starts at the number it would have been given anyway, and one
that exists is left alone. -/
theorem counter_create (other : String) (columns : List Column) :
    (r.create other columns).2.counter name = r.counter name := by
  unfold create
  split
  · rfl
  · rw [counter, counter, find?_add]
    cases r.find? name with
    | some relation => rfl
    | none =>
        rw [Option.none_or]
        by_cases hname : name = other
        · rw [if_pos hname]
          rfl
        · rw [if_neg hname]

/-- A relation put in place of one with the same counter moves no counter. -/
theorem counter_replace {other : String} (hfind : r.find? other = some relation)
    (hnext : name = other → relation'.nextId = relation.nextId) :
    (r.replace other relation').counter name = r.counter name := by
  rw [counter, counter, find?_replace]
  by_cases hname : name = other
  · rw [if_pos hname, hname, hfind]
    exact hnext hname
  · rw [if_neg hname]

theorem counter_updateRows (s : Update) :
    (r.updateRows options s params).2.counter name = r.counter name := by
  unfold updateRows
  split
  · rfl
  · split
    · rfl
    · next relation hfind => exact counter_replace hfind fun _ => rfl

theorem counter_deleteRow (s : Delete) :
    (r.deleteRow s params).2.counter name = r.counter name := by
  unfold deleteRow
  split
  · rfl
  · split
    · rfl
    · next relation hfind => exact counter_replace hfind fun _ => rfl

/-- Only an insertion into a relation moves its counter. -/
theorem counter_execute {s : Statement} {path : Path}
    (hother : ∀ i, s = .insert i → i.relation ≠ name)
    (h : r.execute options s path params = .ok (outcome, r')) :
    r'.counter name = r.counter name := by
  unfold execute at h
  split at h
  case h_1 s =>
    cases h
    exact counter_create s.relation s.columns
  case h_2 i =>
    rcases insertRow_eq_ok h with ⟨-, -, rfl⟩ | ⟨-, -, -, rfl⟩ | ⟨-, _, _, _, hfind, -, -, rfl⟩
    · rfl
    · rfl
    · exact counter_replace hfind fun hname => absurd hname.symm (hother i rfl)
  case h_3 s =>
    obtain ⟨rfl, rfl⟩ := Prod.mk.inj (Except.ok.inj h)
    exact counter_updateRows s
  case h_4 s =>
    obtain ⟨rfl, rfl⟩ := Prod.mk.inj (Except.ok.inj h)
    exact counter_deleteRow s
  all_goals
    cases h
    rfl

end Registry

/-! ## Identities in replies -/

/-- The identity that an outcome reports. -/
def Outcome.lastInsertId? : Outcome → Option Int64
  | changed changes => changes.lastInsertId
  | _ => none

/-- The identity that a reply reports. -/
def Reply.lastInsertId? : Reply → Option Int64
  | .result (.changed written) => written.lastInsertId
  | .changes written => written.lastInsertId
  | _ => none

/-- What a successful insertion into a relation reported as the identity of its row. -/
def Exchange.insertedId? (name : String) (x : Exchange) : Option Int64 :=
  match x.request.statement, x.reply with
  | .ok (.insert s), .ok reply => if s.relation = name then reply.lastInsertId? else none
  | _, _ => none

namespace Exchange

variable {r : Request} {result : Except DatabaseError Reply} {name : String}

theorem insertedId?_of_error {e : DatabaseError} : insertedId? name ⟨r, .error e⟩ = none := by
  unfold insertedId?
  split
  · next hreply => cases hreply
  · rfl

/-- Only insertions into a relation report its identities. -/
theorem insertedId?_of_other
    (hother : ∀ i, r.statement = .ok (.insert i) → i.relation ≠ name) :
    insertedId? name ⟨r, result⟩ = none := by
  unfold insertedId?
  split
  · next i _ hstatement _ => exact if_neg (hother i hstatement)
  · rfl

end Exchange

namespace Request

variable {r : Request} {db : Database} {outcome : Outcome} {i : Insert} {name : String}

/-- An answer reports no identity if the outcome has none. -/
theorem lastInsertId?_of_none {reply : Reply} (hnone : outcome.lastInsertId? = none)
    (hreply : (r.answerOf db outcome).result = .ok reply) :
    reply.lastInsertId? = none := by
  cases outcome with
  | changed changes =>
      cases hreply
      cases r with
      | execute sql => exact hnone
      | run p params => exact hnone
      | fetchOne p params => rfl
      | fetchMany p params => rfl
  | unsupported shape =>
      rw [answerOf, Database.unhandled] at hreply
      split at hreply
      · cases hreply
        cases r <;> rfl
      · cases hreply
  | _ =>
      cases hreply
      cases r <;> rfl

theorem insertedId?_of_none (hnone : outcome.lastInsertId? = none) :
    Exchange.insertedId? name ⟨r, (r.answerOf db outcome).result⟩ = none := by
  unfold Exchange.insertedId?
  split
  · next hreply =>
      rw [lastInsertId?_of_none hnone hreply, ite_self]
  · rfl

/-- An insertion reports the identity of its outcome. -/
theorem insertedId?_of_changed {changes : Changes} (hstatement : r.statement = .ok (.insert i))
    (hpath : r.path (.insert i) = .run) :
    Exchange.insertedId? i.relation ⟨r, (r.answerOf db (.changed changes)).result⟩ =
      changes.lastInsertId := by
  cases r with
  | execute sql =>
      simp only [Exchange.insertedId?, hstatement]
      exact if_pos rfl
  | run p params =>
      simp only [Exchange.insertedId?, hstatement]
      exact if_pos rfl
  | fetchOne p params => cases hpath
  | fetchMany p params => cases hpath

end Request

/-! ## One request -/

namespace Database

variable (db : Database) (name : String)

/-- An insertion that is executed uses up the identity that it reports. -/
theorem numbers_insert {r : Request} {i : Insert} {outcome : Outcome} {registry : Registry}
    (hstatement : r.statement = .ok (.insert i))
    (hexec : db.registry.execute db.config.execOptions (.insert i) (r.path (.insert i)) r.params =
      .ok (outcome, registry)) (after : Database) :
    Numbers (db.registry.counter i.relation)
      (Exchange.insertedId? i.relation ⟨r, (r.answerOf after outcome).result⟩).toList
      (registry.counter i.relation) := by
  have hnone (hid : outcome.lastInsertId? = none) (hsame : registry = db.registry) :
      Numbers (db.registry.counter i.relation)
        (Exchange.insertedId? i.relation ⟨r, (r.answerOf after outcome).result⟩).toList
        (registry.counter i.relation) := by
    rw [Request.insertedId?_of_none hid, hsame]
    exact .nil _
  cases hpath : r.path (.insert i) with
  | fetchOne =>
      rw [hpath] at hexec
      cases hexec
      exact hnone rfl rfl
  | fetchMany =>
      rw [hpath] at hexec
      cases hexec
      exact hnone rfl rfl
  | run =>
      rw [hpath] at hexec
      rcases Registry.insertRow_eq_ok hexec with ⟨-, rfl, hsame⟩ | ⟨-, -, rfl, hsame⟩ |
        ⟨-, relation, id, relation', hfind, hins, rfl, rfl⟩
      · exact hnone rfl hsame
      · exact hnone rfl hsame
      · obtain ⟨rfl, hmax, rfl⟩ := Relation.insert_eq_ok hins
        have hafter : (db.registry.replace i.relation { relation with
            rows := relation.rows ++ [Relation.rowWithId relation.nextId (i.fields r.params)],
            nextId := relation.nextId + 1 }).find? i.relation = some { relation with
            rows := relation.rows ++ [Relation.rowWithId relation.nextId (i.fields r.params)],
            nextId := relation.nextId + 1 } := by
          rw [Registry.find?_replace, if_pos rfl, hfind]
          rfl
        rw [Request.insertedId?_of_changed hstatement hpath, Registry.counter_of_find? hfind,
          Registry.counter_of_find? hafter]
        exact .cons hmax (.nil _)

/-- A request within a program uses up the identities that it reports. -/
theorem numbers_serve (r : Request) :
    Numbers (db.registry.counter name)
      (Exchange.insertedId? name ⟨r, (db.serve r).result⟩).toList
      ((db.serve r).database.registry.counter name) := by
  have hnone (hid : Exchange.insertedId? name ⟨r, (db.serve r).result⟩ = none)
      (hsame : (db.serve r).database.registry.counter name = db.registry.counter name) :
      Numbers (db.registry.counter name)
        (Exchange.insertedId? name ⟨r, (db.serve r).result⟩).toList
        ((db.serve r).database.registry.counter name) := by
    rw [hid, hsame]
    exact .nil _
  cases hcommand : r.command? with
  | some command =>
      rw [serve_of_command hcommand] at hnone ⊢
      exact hnone Exchange.insertedId?_of_error rfl
  | none =>
      cases hstatement : r.statement with
      | error e =>
          refine hnone (Exchange.insertedId?_of_other ?_) ?_
          · intro i hinsert
            cases hstatement.symm.trans hinsert
          · rw [serve_of_unread hstatement, database_unhandled]
      | ok s =>
          rw [← answer_of_no_command db hcommand] at hnone ⊢
          cases hexec : db.registry.execute db.config.execOptions s (r.path s) r.params with
          | error e =>
              obtain ⟨hdatabase, hresult⟩ := answer_of_refused db hstatement hcommand hexec
              rw [hdatabase, hresult] at hnone ⊢
              exact hnone Exchange.insertedId?_of_error rfl
          | ok p =>
              obtain ⟨hdatabase, hresult⟩ := answer_of_executed db hstatement hcommand hexec
              rw [hdatabase, hresult] at hnone ⊢
              by_cases hinto : ∃ i, s = .insert i ∧ i.relation = name
              · obtain ⟨i, rfl, rfl⟩ := hinto
                exact db.numbers_insert hstatement hexec _
              · have hother : ∀ i, s = .insert i → i.relation ≠ name :=
                  fun i hs hname => hinto ⟨i, hs, hname⟩
                refine hnone (Exchange.insertedId?_of_other ?_)
                  (Registry.counter_execute hother hexec)
                intro i hinsert
                exact hother i (Except.ok.inj (hstatement.symm.trans hinsert))

/-! ## Turns -/

/-- The requests of a program with their replies. -/
def exchanges {α : Type} (db : Database) : Program α → List Exchange
  | .finish _ => []
  | .ask request next =>
    ⟨request, (db.serve request).result⟩ ::
      (db.serve request).database.exchanges (next (db.serve request).result)

/-- The requests made in a turn with their replies. No program is run while a transaction is
open. -/
def turnExchanges (db : Database) : Turn → List Exchange
  | .request r => [⟨r, (db.answer r).result⟩]
  | .program p => if db.inTransaction then [] else db.exchanges p

/-- The identities that a turn reports for a relation. -/
def turnIds (db : Database) (name : String) (t : Turn) : List Int64 :=
  (db.turnExchanges t).filterMap (Exchange.insertedId? name)

/-- Nothing is undone in a turn: no `ROLLBACK` is obeyed, and a program that is run returns. -/
def Keeps (db : Database) : Turn → Prop
  | .request r => db.obeyed? (.request r) ≠ some .rollback
  | .program p => db.inTransaction = false → ∃ value, (db.transact p).ending = .returned value

theorem keeps_of_command? {r : Request} (hrollback : r.command? ≠ some .rollback) :
    db.Keeps (.request r) := by
  simp only [Keeps, obeyed?]
  split
  · exact hrollback
  · exact (Option.some_ne_none _).symm

/-- A program uses up the identities that it reports. -/
theorem numbers_runProgram {α : Type} (p : Program α) :
    Numbers (db.registry.counter name)
      ((db.exchanges p).filterMap (Exchange.insertedId? name))
      ((db.runProgram p).database.registry.counter name) := by
  induction p generalizing db with
  | finish ending => exact .nil _
  | ask request next ih =>
      rw [exchanges, ← List.singleton_append, List.filterMap_append]
      exact (db.numbers_serve name request).append
        (ih (db.serve request).result (db.serve request).database)

/-- A command that is no `ROLLBACK` leaves the relations alone. -/
theorem registry_of_moves {db' : Database} {command : StatementKind}
    (hmoves : Moves db (some command) db') (hrollback : command ≠ .rollback) :
    db'.registry = db.registry := by
  cases hmoves with
  | begin _ => rfl
  | commit _ => rfl
  | rollback _ => exact absurd rfl hrollback

/-- A transaction command that is not obeyed leaves them alone as well. -/
theorem registry_answer_of_command {r : Request} {command : StatementKind}
    (hcommand : r.command? = some command) (hkeeps : db.obeyed? (.request r) ≠ some .rollback) :
    (db.answer r).database.registry = db.registry := by
  have hmoves := moves_answer db r
  cases hobeyed : db.obeyed? (.request r) with
  | some obeyed =>
      rw [hobeyed] at hmoves hkeeps
      exact db.registry_of_moves hmoves fun h => hkeeps (congrArg some h)
  | none =>
      rcases moves_control db (isControl_of_command hcommand) with ⟨hresult, -⟩ | ⟨fault, hfault⟩
      · rw [obeyed?, answer_of_command db hcommand, Answer.map, hresult] at hobeyed
        cases hcommand.symm.trans hobeyed
      · rw [answer_of_command db hcommand, Answer.database_map, hfault]
        rfl

/-- A turn that undoes nothing uses up the identities that it reports. -/
theorem numbers_turn {t : Turn} (hkeeps : db.Keeps t) :
    Numbers (db.registry.counter name) (db.turnIds name t)
      ((db.afterTurn t).registry.counter name) := by
  cases t with
  | request r =>
      rw [turnIds, turnExchanges, afterTurn]
      cases hcommand : r.command? with
      | none =>
          rw [answer_of_no_command db hcommand]
          exact db.numbers_serve name r
      | some command =>
          have hnone : Exchange.insertedId? name ⟨r, (db.answer r).result⟩ = none := by
            apply Exchange.insertedId?_of_other
            intro i hinsert
            cases hcommand.symm.trans (Request.command?_eq_none hinsert rfl)
          rw [List.filterMap_cons_none hnone, db.registry_answer_of_command hcommand hkeeps]
          exact .nil _
  | program p =>
      rw [turnIds, turnExchanges, afterTurn]
      by_cases hopen : db.inTransaction = true
      · rw [if_pos hopen, transact_of_open p hopen]
        exact .nil _
      · have hclosed : db.inTransaction = false := Bool.eq_false_iff.mpr hopen
        obtain ⟨value, hreturned⟩ := hkeeps hclosed
        rw [if_neg hopen]
        by_cases hending : ∃ value, (db.runProgram p).ending = .returned value
        · obtain ⟨value, hending⟩ := hending
          rw [transact_of_returned p hclosed hending]
          exact db.numbers_runProgram name p
        · have hlost := transact_of_not_returned p hclosed fun v h => hending ⟨v, h⟩
          exact absurd ⟨value, hlost.2.1.symm.trans hreturned⟩ hending

/-! ## Runs -/

variable {Handle : Type}

/-- The database after a run. -/
def afterRun (db : Database) (run : List (Handle × Turn)) : Database :=
  db.afterTurns (run.map Prod.snd)

/-- Nothing is undone in a run. -/
def KeepsAll (db : Database) : List (Handle × Turn) → Prop
  | [] => True
  | (_, t) :: rest => db.Keeps t ∧ (db.afterTurn t).KeepsAll rest

/-- The identities that a run reports for a relation, each with the handle that took the turn. -/
def reported (db : Database) (name : String) : List (Handle × Turn) → List (Handle × Int64)
  | [] => []
  | (handle, t) :: rest =>
    (db.turnIds name t).map (handle, ·) ++ (db.afterTurn t).reported name rest

/-- A run that undoes nothing uses up the identities that it reports. -/
theorem numbers_reported {run : List (Handle × Turn)} (hkeeps : db.KeepsAll run) :
    Numbers (db.registry.counter name) ((db.reported name run).map Prod.snd)
      ((db.afterRun run).registry.counter name) := by
  induction run generalizing db with
  | nil => exact .nil _
  | cons entry rest ih =>
      obtain ⟨handle, t⟩ := entry
      have hturn : ((db.turnIds name t).map (handle, ·)).map Prod.snd = db.turnIds name t := by
        rw [List.map_map]
        exact List.map_id _
      rw [reported, List.map_append, hturn]
      exact (db.numbers_turn name hkeeps.1).append (ih _ hkeeps.2)

/-- In a run from the empty database that undoes nothing, the identities reported for a relation
are 1, 2, 3 and so on in the order of the turns, and the next row gets the next one. Hence they
are distinct, and those of one handle increase. -/
theorem identities_gap_free [DecidableEq Handle] (config : Config) (name : String)
    (run : List (Handle × Turn)) (hkeeps : (create config).KeepsAll run) :
    let ids := (create config).reported name run
    ids.map (·.2.toInt) = (List.range ids.length).map (fun n : Nat => (1 : Int) + n) ∧
    (((create config).afterRun run).registry.counter name).toInt = 1 + ids.length ∧
    (ids.map Prod.snd).Nodup ∧
    ∀ handle, ((ids.filter (·.1 = handle)).map Prod.snd).Pairwise (· < ·) := by
  intro ids
  have hnumbers := (create config).numbers_reported name hkeeps
  have hone : ((create config).registry.counter name).toInt = 1 := rfl
  refine ⟨?_, ?_, ?_, ?_⟩
  · have hmap := hnumbers.map_toInt
    rw [List.map_map, List.length_map, hone] at hmap
    exact hmap
  · rw [hnumbers.toInt_eq, hone, List.length_map]
  · exact hnumbers.pairwise_lt.imp Int64.ne_of_lt
  · intro handle
    exact hnumbers.pairwise_lt.sublist (List.filter_sublist.map Prod.snd)

/-- Two handles insert in turns. In between a row is removed, the relation is created once more,
a value is repeated, identities are named in vain, and a relation is missing. -/
theorem three_rows_of_two_handles :
    let table : Prepared := .ofText "CREATE TABLE t (a UNIQUE)"
    let insert : Prepared := .ofText "INSERT INTO t (id, a) VALUES (?, ?)"
    let elsewhere : Prepared := .ofText "INSERT INTO u (a) VALUES (?)"
    let delete : Prepared := .ofText "DELETE FROM t WHERE id = ?"
    let program : Program Unit :=
      .ask (.run insert [.integer 50, .text "y"]) fun _ =>
        .ask (.run delete [.integer 1]) fun _ => .finish (.returned ())
    let run : List (Bool × Turn) := [(true, .request (.run table [])),
      (false, .request (.run insert [.integer 50, .text "x"])), (true, .program program),
      (false, .request (.run table [])), (true, .request (.execute "BEGIN")),
      (false, .request (.run insert [.integer 7, .text "y"])),
      (false, .request (.run elsewhere [.text "y"])),
      (true, .request (.run insert [.null, .text "z"])), (false, .request (.execute "COMMIT"))]
    (create .strict).KeepsAll run ∧
      (create .strict).reported "t" run = [(false, 1), (true, 2), (true, 3)] ∧
      (((create .strict).afterRun run).registry.counter "t").toInt = 4 := by
  intro table insert elsewhere delete program run
  have hprogram : ∀ db : Database, db.inTransaction = false →
      ∃ value, (db.transact program).ending = .returned value := by
    intro db hclosed
    exact ⟨(), congrArg Transacted.ending (transact_of_returned program hclosed rfl)⟩
  have hkeeps : (create .strict).KeepsAll run := by
    refine ⟨?_, ?_, hprogram _, ?_, ?_, ?_, ?_, ?_, ?_, trivial⟩
    all_goals exact keeps_of_command? _ (by decide +kernel)
  have hreported : (create .strict).reported "t" run = [(false, 1), (true, 2), (true, 3)] := by
    decide +kernel
  have hcounter := (identities_gap_free .strict "t" run hkeeps).2.1
  rw [hreported] at hcounter
  exact ⟨hkeeps, hreported, hcounter⟩

end Database

end MiniSql
