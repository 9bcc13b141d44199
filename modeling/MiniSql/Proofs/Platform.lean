import Mathlib.Logic.Function.Iterate
import MiniSql.Proofs.Endings
import MiniSql.Proofs.Runs

/-!
# Setting up the platform

The schema of the platform is a list of creations. A creation adds a relation under a free name
and leaves a relation that exists alone, whether that was created by the schema or not. A list of
creations therefore adds exactly the relations that were missing, and once it was carried out
there is nothing left for it to add.

**Results.**
* `Registry.find?_createAll`: what is found under a name after creations.
* `Registry.createAll_of_contains`: creations of relations that exist.
* `Database.executeAll_creations`: executing creations never fails.
* `SetsUp.of_creations`: what follows for a call that executes creations.
* `Schema.exists_creations`: the schema consists of creations of the six relations.
* `Schema.create_safe`: setting up the platform on any database, once and again.
-/

namespace MiniSql

/-! ## Creations on a registry -/

namespace Registry

/-- The registry after creations, each of which leaves a relation that exists alone. -/
def createAll (r : Registry) (cs : List CreateTable) : Registry :=
  cs.foldl (fun r c => (r.create c.relation c.columns).2) r

section Creations

variable (r : Registry) (name : String) (c : CreateTable) (cs : List CreateTable)

@[simp] theorem createAll_nil : r.createAll [] = r := rfl

@[simp] theorem createAll_cons :
    r.createAll (c :: cs) = (r.create c.relation c.columns).2.createAll cs := rfl

/-- The relation that a creation adds. -/
theorem find?_create (columns : List Column) (other : String) :
    (r.create name columns).2.find? other =
      (r.find? other).or (if other = name then some (.create name columns) else none) := by
  by_cases hold : r.contains name = true
  · have hfound : (r.find? name).isSome = true := hold
    rw [create, if_pos hold]
    split
    · next hname =>
        subst hname
        exact (Option.or_of_isSome hfound).symm
    · exact Option.or_none.symm
  · rw [create, if_neg hold]
    exact find?_add r name other (.create name columns)

/-- After creations a name has the relation that it had, or the first one created under it. -/
theorem find?_createAll :
    (r.createAll cs).find? name =
      (r.find? name).or
        ((cs.find? (·.relation = name)).map fun c => .create c.relation c.columns) := by
  induction cs generalizing r with
  | nil => simp
  | cons c cs ih =>
      rw [createAll_cons, ih, find?_create, Option.or_assoc, List.find?_cons]
      by_cases hname : name = c.relation
      · simp [hname]
      · simp [hname, Ne.symm hname]

variable {r cs}

/-- Creations change nothing if all their relations exist. -/
theorem createAll_of_contains (h : ∀ c ∈ cs, r.contains c.relation = true) :
    r.createAll cs = r := by
  induction cs with
  | nil => rfl
  | cons c cs ih =>
      have hc : r.contains c.relation = true := h c List.mem_cons_self
      have hcs : ∀ d ∈ cs, r.contains d.relation = true :=
        fun d hd => h d (List.mem_cons_of_mem c hd)
      rw [createAll_cons, create, if_pos hc]
      exact ih hcs

theorem contains_createAll (hc : c ∈ cs) : (r.createAll cs).contains c.relation = true := by
  have hcreated : (cs.find? (·.relation = c.relation)).isSome = true :=
    List.find?_isSome.mpr ⟨c, hc, decide_eq_true rfl⟩
  rw [contains, find?_createAll, Option.isSome_or, Option.isSome_map, hcreated, Bool.or_true]

/-- What is done by creations is not done again. -/
theorem createAll_again (r : Registry) (cs : List CreateTable) :
    (r.createAll cs).createAll cs = r.createAll cs :=
  createAll_of_contains fun c hc => contains_createAll c hc

end Creations

end Registry

/-! ## Creations that are executed -/

namespace CreateTable

/-- The text of a creation. -/
def IsReadFrom (c : CreateTable) (sql : String) : Prop :=
  Statement.parse sql = .ok (.createTable c)

/-- A creation is found by its relation, unless another is of the same. -/
theorem find?_relation {cs : List CreateTable} {c : CreateTable}
    (hnodup : (cs.map CreateTable.relation).Nodup) (hc : c ∈ cs) :
    cs.find? (·.relation = c.relation) = some c := by
  induction cs with
  | nil => cases hc
  | cons d ds ih =>
      rw [List.map_cons, List.nodup_cons] at hnodup
      rw [List.find?_cons]
      rcases List.mem_cons.mp hc with rfl | hc
      · simp
      · have hne : d.relation ≠ c.relation := fun heq =>
          hnodup.1 (heq ▸ List.mem_map.mpr ⟨c, hc, rfl⟩)
        simp only [hne, decide_false]
        exact ih hnodup.2 hc

end CreateTable

namespace Database

section Texts

variable (db : Database) {sql : String} {c : CreateTable} {texts : List String}
  {cs : List CreateTable}

/-- A creation succeeds on every database. -/
theorem execute_creation (h : c.IsReadFrom sql) :
    (∃ result, (db.execute sql).result = .ok result) ∧
    (db.execute sql).database =
      { db.count with registry := (db.registry.create c.relation c.columns).2 } := by
  rw [execute, executeText, h]
  exact ⟨⟨_, rfl⟩, rfl⟩

theorem executeAll_creations (h : List.Forall₂ (fun sql c => c.IsReadFrom sql) texts cs) :
    (∃ results, (db.executeAll texts).result = .ok results) ∧
    (db.executeAll texts).database =
      { db with registry := db.registry.createAll cs,
                executed := db.executed + texts.length } := by
  induction h generalizing db with
  | nil => exact ⟨⟨[], rfl⟩, rfl⟩
  | @cons sql c texts cs hsql _ ih =>
      obtain ⟨⟨result, hresult⟩, hdatabase⟩ := db.execute_creation hsql
      obtain ⟨⟨results, hresults⟩, hrest⟩ := ih (db.execute sql).database
      rw [executeAll, Answer.andThen_of_ok _ hresult]
      refine ⟨⟨result :: results, ?_⟩, ?_⟩
      · simp [Answer.after, Answer.map, hresults, Except.map]
      · have hcount : db.executed + 1 + texts.length = db.executed + (texts.length + 1) := by omega
        simp only [Answer.after, Answer.map]
        rw [hrest, hdatabase, Registry.createAll_cons, List.length_cons, ← hcount]
        rfl

/-- Creations with notices after them succeed, and add the relations that were missing. -/
theorem executeAll_creations_noting
    (h : List.Forall₂ (fun sql c => c.IsReadFrom sql) texts cs) (notices : List Notice) :
    ((db.executeAll texts).andThen fun db _ =>
      (⟨.ok (), db, notices⟩ : Answer Unit)).result = .ok () ∧
    ((db.executeAll texts).andThen fun db _ =>
      (⟨.ok (), db, notices⟩ : Answer Unit)).database =
        { db with registry := db.registry.createAll cs,
                  executed := db.executed + texts.length } := by
  obtain ⟨⟨results, hresults⟩, hdatabase⟩ := db.executeAll_creations h
  rw [Answer.andThen_of_ok _ hresults]
  exact ⟨rfl, hdatabase⟩

end Texts

end Database

/-! ## Calls that create relations -/

/-- Adding what is missing once is as good as doing it again and again. -/
theorem registry_iterate {cs : List CreateTable} {f : Database → Database}
    (h : ∀ db, (f db).registry = db.registry.createAll cs) (n : Nat) (db : Database) :
    (f^[n] (f db)).registry = (f db).registry := by
  induction n generalizing db with
  | zero => rfl
  | succ n ih =>
      calc (f^[n + 1] (f db)).registry
          = (f^[n] (f (f db))).registry := by rw [Function.iterate_succ_apply]
        _ = (f (f db)).registry := ih (f db)
        _ = (db.registry.createAll cs).createAll cs := by rw [h, h]
        _ = db.registry.createAll cs := Registry.createAll_again db.registry cs
        _ = (f db).registry := (h db).symm

/-- A call sets relations up: it adds those that are missing and does nothing else. -/
structure SetsUp (cs : List CreateTable) (f : Database → Answer Unit) : Prop where
  succeeds (db : Database) : (f db).result = .ok ()
  config (db : Database) : (f db).database.config = db.config
  /-- An open transaction stays open and keeps what it would go back to. -/
  snapshot (db : Database) : (f db).database.snapshot = db.snapshot
  exist (db : Database) : ∀ c ∈ cs, (f db).database.registry.contains c.relation = true
  kept (db : Database) (name : String) (relation : Relation) :
    db.registry.find? name = some relation →
      (f db).database.registry.find? name = some relation
  added (db : Database) : ∀ c ∈ cs, db.registry.find? c.relation = none →
    (f db).database.registry.find? c.relation =
      some { name := c.relation, columns := c.columns, rows := [], nextId := 1 }
  others (db : Database) (name : String) : name ∉ cs.map CreateTable.relation →
    (f db).database.registry.find? name = db.registry.find? name
  /-- Doing it again, any number of times, changes no relation. -/
  again (db : Database) (n : Nat) :
    ((fun db => (f db).database)^[n] (f db).database).registry = (f db).database.registry

/-- A call that carries out creations sets their relations up. -/
theorem SetsUp.of_creations {cs : List CreateTable} {f : Database → Answer Unit} {count : Nat}
    (hnodup : (cs.map CreateTable.relation).Nodup)
    (h : ∀ db, (f db).result = .ok () ∧
      (f db).database =
        { db with registry := db.registry.createAll cs, executed := db.executed + count }) :
    SetsUp cs f := by
  have hregistry : ∀ db, (f db).database.registry = db.registry.createAll cs :=
    fun db => by rw [(h db).2]
  have hfind : ∀ db name, (f db).database.registry.find? name =
      (db.registry.find? name).or
        ((cs.find? (·.relation = name)).map fun c => .create c.relation c.columns) :=
    fun db name => by rw [hregistry, Registry.find?_createAll]
  constructor
  case succeeds => exact fun db => (h db).1
  case config => exact fun db => by rw [(h db).2]
  case snapshot => exact fun db => by rw [(h db).2]
  case exist =>
    intro db c hc
    rw [hregistry]
    exact Registry.contains_createAll c hc
  case kept =>
    intro db name relation hfound
    rw [hfind, hfound, Option.some_or]
  case added =>
    intro db c hc hmissing
    rw [hfind, hmissing, CreateTable.find?_relation hnodup hc]
    rfl
  case others =>
    intro db name hname
    have hnone : cs.find? (·.relation = name) = none := by
      rw [List.find?_eq_none]
      exact fun c hc heq => hname (List.mem_map.mpr ⟨c, hc, of_decide_eq_true heq⟩)
    rw [hfind, hnone, Option.map_none, Option.or_none]
  case again => exact fun db n => registry_iterate hregistry n db

/-! ## The schema -/

namespace Schema

/-- The relations of the platform. -/
def names : List String :=
  ["users", "providers", "drones", "services", "bookings", "payments"]

theorem nodup_names : names.Nodup := by
  decide

/-- A text is read as the creation of a relation. -/
def Creates (name sql : String) : Prop :=
  ∃ c : CreateTable, c.IsReadFrom sql ∧ c.relation = name

/-- The characters of a text are read as the creation of a relation. -/
def reads (name : String) (cs : List Char) : Bool :=
  match Lexer.lexemes .start cs with
  | .error _ => false
  | .ok ls =>
      match Statement.ofTokens (ls.filterMap Lexeme.token) with
      | .ok (.createTable c) => c.relation = name
      | _ => false

theorem creates_of_reads {name sql : String} {cs : List Char} (hsql : sql = String.ofList cs)
    (h : reads name cs = true) : Creates name sql := by
  unfold reads at h
  split at h
  · cases h
  · next ls hlexemes =>
      split at h
      · next c hread =>
          refine ⟨c, ?_, of_decide_eq_true h⟩
          simp [CreateTable.IsReadFrom, Statement.parse, Token.scan, hsql, hlexemes, hread,
            Except.map]
      · cases h

/-! One theorem for each text, so that no two of them are read at once. -/

theorem creates_users : Creates "users" users :=
  creates_of_reads (by rw [users]) (by decide +kernel)

theorem creates_providers : Creates "providers" providers :=
  creates_of_reads (by rw [providers]) (by decide +kernel)

theorem creates_drones : Creates "drones" drones :=
  creates_of_reads (by rw [drones]) (by decide +kernel)

theorem creates_services : Creates "services" services :=
  creates_of_reads (by rw [services]) (by decide +kernel)

theorem creates_bookings : Creates "bookings" bookings :=
  creates_of_reads (by rw [bookings]) (by decide +kernel)

theorem creates_payments : Creates "payments" payments :=
  creates_of_reads (by rw [payments]) (by decide +kernel)

/-- Each text of the schema creates the relation of that place. -/
theorem forall₂_creates : List.Forall₂ (fun sql name => Creates name sql) statements names :=
  .cons creates_users <| .cons creates_providers <| .cons creates_drones <|
    .cons creates_services <| .cons creates_bookings <| .cons creates_payments .nil

/-- The schema consists of creations, one for each relation of the platform. -/
theorem exists_creations :
    ∃ cs : List CreateTable,
      List.Forall₂ (fun sql c => c.IsReadFrom sql) statements cs ∧
      cs.map CreateTable.relation = names := by
  have hcreates := forall₂_creates
  generalize statements = texts, names = relations at hcreates ⊢
  induction hcreates with
  | nil => exact ⟨[], .nil, rfl⟩
  | cons hsql _ ih =>
      obtain ⟨c, hread, rfl⟩ := hsql
      obtain ⟨cs, hreads, rfl⟩ := ih
      exact ⟨c :: cs, .cons hread hreads, rfl⟩

/-- Setting up the platform adds the relations that were missing and does nothing else. -/
theorem create_of_reads {cs : List CreateTable}
    (h : List.Forall₂ (fun sql c => c.IsReadFrom sql) statements cs) (db : Database) :
    (create db).result = .ok () ∧
    (create db).database =
      { db with registry := db.registry.createAll cs,
                executed := db.executed + statements.length } :=
  db.executeAll_creations_noting h [.schemaReady statements.length]

/-- Setting up the platform succeeds on every database, in a transaction or not, and sets up the
six relations: those that exist stay as they are, whoever created them. -/
theorem create_safe :
    ∃ cs : List CreateTable,
      List.Forall₂ (fun sql c => Statement.parse sql = .ok (.createTable c)) statements cs ∧
      cs.map CreateTable.relation = names ∧
      SetsUp cs create := by
  obtain ⟨cs, hreads, hnames⟩ := exists_creations
  have hnodup : (cs.map CreateTable.relation).Nodup := hnames ▸ nodup_names
  exact ⟨cs, hreads, hnames, .of_creations hnodup (create_of_reads hreads)⟩

end Schema

end MiniSql
