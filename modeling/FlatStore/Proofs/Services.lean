import FlatStore.Proofs.Executing
import FlatStore.Proofs.Plans
import FlatStore.Proofs.RecoveredTable
import FlatStore.Proofs.Stages
import FlatStore.Server.Dispatch
import Mathlib.Logic.Function.Basic

/-!
# A store in service

A store together with what each session has selected.  Lines come from any sessions in any order,
and between them the files may be changed from outside.  A line gives back every lock that it takes,
selects a database for no session but its own, and if it fails it leaves everything as it was, but
for a new file whose line of text found the disk full.
-/

namespace FlatStore

/-- A store, and the database that each session has selected, by the number of the session. -/
structure Service where
  store : Store
  selected : Nat → Option Text

namespace Service

/-- The store when no session has selected a database. -/
def ofStore (store : Store) : Service := ⟨store, fun _ => none⟩

/-- The session with a number. -/
def session (service : Service) (number : Nat) : Session := ⟨number, service.selected number⟩

/-- The service when a session has left a store behind. -/
def settle (service : Service) (store : Store) (session : Session) : Service :=
  ⟨store, Function.update service.selected session.id session.database⟩

/-- Execute a line for a session. -/
def execute (service : Service) (strict : Bool) (number : Nat) (line : Text) :
    Service × Except Failure Answer :=
  let outcome := service.store.execute strict (service.session number) line
  (service.settle outcome.store outcome.session, outcome.result)

/-- Dispatch a line for a session. -/
def dispatch (service : Service) (strict : Bool) (number : Nat) (origin : Option Origin)
    (line : Text) : Service × Response :=
  let reply := service.store.dispatch strict (service.session number) origin line
  (service.settle reply.store reply.session, reply.response)

/-- The services that one service leads to; `Outside` says how the storage may be changed between
the lines. -/
inductive Leads (Outside : Storage → Storage → Prop) (start : Service) : Service → Prop
  | refl : Leads Outside start start
  | command {service : Service} (leads : Leads Outside start service) (strict : Bool)
      (number : Nat) (line : Text) :
      Leads Outside start (service.execute strict number line).1
  | outside {service : Service} (leads : Leads Outside start service) {storage : Storage}
      (permitted : Outside service.store.storage storage) :
      Leads Outside start { service with store.storage := storage }
  /-- Something else is counted, logged or traced, or what was logged is taken away. -/
  | telemetry {service : Service} (leads : Leads Outside start service) (telemetry : Telemetry) :
      Leads Outside start { service with store.telemetry := telemetry }

end Service

/-! ## Sessions -/

/-- What a line does to its session, by its result. -/
inductive Selects (store : Store) (line : Text) (before : Session) :
    Session → Except Failure Answer → Prop
  | nothing {result : Except Failure Answer} : Selects store line before before result
  | database {name : Text} (read : Plan.read line = .ok (.use name))
      (known : store.catalog.hasDatabase name = true) :
      Selects store line before { before with database := some name } (.ok (.selected name))

/-- A session keeps its number. -/
theorem Selects.id_eq {store : Store} {line : Text} {before after : Session}
    {result : Except Failure Answer} (selects : Selects store line before after result) :
    after.id = before.id := by
  cases selects <;> rfl

/-- A session keeps its database, or it has used another one. -/
theorem Selects.database_eq {store : Store} {line : Text} {before after : Session}
    {result : Except Failure Answer} (selects : Selects store line before after result) :
    after.database = before.database ∨
      ∃ name, Plan.read line = .ok (.use name) ∧ after.database = some name := by
  cases selects with
  | nothing => exact .inl rfl
  | database read known => exact .inr ⟨_, read, rfl⟩

/-- A failure selects nothing. -/
theorem Selects.eq_of_error {store : Store} {line : Text} {before after : Session}
    {failure : Failure} (selects : Selects store line before after (.error failure)) :
    after = before := by
  cases selects
  rfl

namespace Store

variable {store after : Store} {strict : Bool} {session : Session} {line : Text}

theorem selects_of_run {plan : Plan} (read : Plan.read line = .ok plan) :
    Selects store line session (plan.run strict store session).session
      (plan.run strict store session).result := by
  obtain ⟨id, selected⟩ := session
  cases plan with
  | createDatabase name => exact .nothing
  | use name =>
      rw [Plan.run]
      split
      · rename_i known
        exact .database read known
      · exact .nothing
  | createTable | insert | select => cases selected <;> exact .nothing

/-- Executing a line selects nothing, or the database that it names. -/
theorem execute_selects (store : Store) (strict : Bool) (session : Session) (line : Text) :
    Selects store line session (store.execute strict session line).session
      (store.execute strict session line).result := by
  rw [execute]
  cases read : Plan.read line with
  | error error => exact .nothing
  | ok plan => exact selects_of_run read

/-! ## Locks -/

theorem locks_create {creation : Creation} : (store.create creation).1.locks = store.locks := by
  rw [create]
  split
  · rfl
  · split
    · rename_i refused
      exact locks_make refused
    · rename_i made
      rw [locks_log, locks_enter, locks_make made]

theorem locks_createDatabase {name : Text} :
    (store.createDatabase name).1.locks = store.locks := by
  rw [createDatabase]
  split
  · rfl
  · exact locks_create

theorem locks_createTable {database name : Text} {columns : List Text} :
    (store.createTable database name columns).1.locks = store.locks := by
  rw [createTable]
  split
  · rfl
  · exact locks_create

theorem locks_runSelect {database table ignored : Text} {columns : Option (List Text)} :
    (Plan.runSelect strict store database table columns ignored).1.locks = store.locks := by
  rw [Plan.runSelect]
  split
  · rfl
  · dsimp only
    repeat' split
    all_goals simp

theorem locks_appendNext {table : Table} {values : List Text} :
    (store.appendNext table values).1.locks = store.locks := by
  rw [appendNext_eq]
  split <;> rfl

/-- An insert gives back the lock of its table and touches no other lock. -/
theorem isHeld_of_isHeld_insert {database name : Text} {values : List Text} {ref : TableRef}
    (held : (store.insert database name values).1.locks.isHeld ref = true) :
    store.locks.isHeld ref = true := by
  rw [insert] at held
  split at held
  · exact held
  · rename_i table _
    have locks : (((store.registerLock table.ref).hold table.ref).appendNext table values).1.locks =
        (store.locks.register table.ref).put table.ref true := locks_appendNext
    -- The row succeeds or fails, and in both cases the lock is released behind it.
    have given_back : ∀ between : Store, between.locks =
        (store.locks.register table.ref).put table.ref true →
        (between.release table.ref).locks.isHeld ref = true → store.locks.isHeld ref = true := by
      intro between same held
      rw [release, same, Locks.isHeld_release, Bool.and_eq_true, decide_eq_true_eq] at held
      obtain ⟨apart, held⟩ := held
      rwa [Locks.isHeld, Index.find?_put_of_ne apart, ← Locks.isHeld, Locks.isHeld_register] at held
    split at held
    · rename_i appended
      rw [appended] at locks
      exact given_back _ locks held
    · rename_i appended
      rw [appended] at locks
      exact given_back _ locks held

theorem isHeld_of_isHeld_runInsert {database name : Text} {values : List Text} {ref : TableRef}
    (held : (Plan.runInsert store database name values).1.locks.isHeld ref = true) :
    store.locks.isHeld ref = true := by
  rw [Plan.runInsert] at held
  split at held
  · exact held
  · dsimp only at held
    split at held
    · exact isHeld_of_isHeld_insert held
    · exact held

theorem isHeld_of_isHeld_run {plan : Plan} {ref : TableRef}
    (held : (plan.run strict store session).store.locks.isHeld ref = true) :
    store.locks.isHeld ref = true := by
  obtain ⟨id, selected⟩ := session
  cases plan with
  | createDatabase name => exact locks_createDatabase ▸ held
  | use name =>
      rw [Plan.run] at held
      split at held <;> exact held
  | createTable name columns =>
      cases selected with
      | none => exact held
      | some database => exact locks_createTable ▸ held
  | insert name values =>
      cases selected with
      | none => exact held
      | some database => exact isHeld_of_isHeld_runInsert held
  | select name columns ignored =>
      cases selected with
      | none => exact held
      | some database => exact locks_runSelect ▸ held

/-- A line leaves no lock held that was free. -/
theorem isHeld_of_isHeld_execute {ref : TableRef}
    (held : (store.execute strict session line).store.locks.isHeld ref = true) :
    store.locks.isHeld ref = true := by
  rw [execute] at held
  split at held
  · exact held
  · rw [locks_account, locks_trace] at held
    exact isHeld_of_isHeld_run held

/-- No lock is held after a load. -/
theorem not_isHeld_of_load (loaded : store.load = .ok after) (ref : TableRef) :
    after.locks.isHeld ref = false := by
  obtain ⟨storage, names, -, -, loads⟩ := load_eq_ok loaded
  rw [loads.locks]
  rfl

end Store

/-! ## What holds of every service -/

namespace Service

variable {Outside : Storage → Storage → Prop} {start service after : Service} {strict : Bool}
  {number : Nat} {line : Text}

/-- A line leaves its session behind, and no other session is touched. -/
theorem selected_execute (service : Service) (strict : Bool) (number : Nat) (line : Text) :
    (service.execute strict number line).1.selected = Function.update service.selected number
      (service.store.execute strict (service.session number) line).session.database := by
  have same := (Store.execute_selects service.store strict (service.session number) line).id_eq
  rw [execute, settle, same]
  rfl

/-- No lock is held between the lines. -/
theorem Leads.not_isHeld {store : Store} (loaded : store.load = .ok start.store)
    (leads : Leads Outside start service) (ref : TableRef) :
    service.store.locks.isHeld ref = false := by
  induction leads with
  | refl => exact Store.not_isHeld_of_load loaded ref
  | command _ strict number line free =>
      rw [Bool.eq_false_iff] at free ⊢
      exact fun held => free (Store.isHeld_of_isHeld_execute held)
  | outside _ _ free => exact free
  | telemetry _ _ free => exact free

/-- A line that fails changes nothing that the catalog knows and no session, and it leaves no lock
held.  It leaves the tree as it was exactly if no line of text is lost; otherwise a new file is left
that is empty. -/
theorem execute_failed_iff {storage : Storage} {store : Store} {failure : Failure}
    (loaded : (Store.ofStorage storage).load = .ok store)
    (leads : Leads (fun _ _ => True) (ofStore store) service)
    (failed : service.execute strict number line = (after, .error failure)) :
    (after.store.storage.tree = service.store.storage.tree ↔
        ∀ place task, ¬Store.LosesLine service.store (service.session number) line place task) ∧
      (∀ place task, Store.LosesLine service.store (service.session number) line place task →
        failure = .store (.file task .diskFull) ∧
          service.store.storage.tree.find? place = none ∧
          after.store.storage.tree = service.store.storage.tree.put place (.file [])) ∧
      after.store.storage = { service.store.storage with
        tree := after.store.storage.tree, troubles := after.store.storage.troubles } ∧
      after.store.catalog = service.store.catalog ∧ after.selected = service.selected ∧
      ∀ ref, after.store.locks.isHeld ref = false := by
  obtain rfl : (service.execute strict number line).1 = after := congrArg Prod.fst failed
  have result : (service.store.execute strict (service.session number) line).result =
    .error failure := congrArg Prod.snd failed
  have effect := Store.execute_effect service.store strict (service.session number) line
  have selects := Store.execute_selects service.store strict (service.session number) line
  rw [result] at effect selects
  have selected : (service.execute strict number line).1.selected = service.selected := by
    rw [selected_execute, selects.eq_of_error]
    exact Function.update_eq_self ..
  have free := (leads.command strict number line).not_isHeld loaded
  have stub : ∀ place task,
      Store.LosesLine service.store (service.session number) line place task →
      failure = .store (.file task .diskFull) ∧
        service.store.storage.tree.find? place = none ∧
        (service.execute strict number line).1.store.storage.tree =
          service.store.storage.tree.put place (.file []) := by
    intro place task loses
    obtain ⟨same, tree⟩ := loses.execute_eq strict
    rw [result, Except.error.injEq] at same
    exact ⟨same, loses.absent, tree⟩
  cases effect with
  | nothing spends catalog quiet =>
      have tree : (service.execute strict number line).1.store.storage.tree =
        service.store.storage.tree := spends.tree_eq
      exact ⟨⟨fun same place task loses => loses.tree_ne strict same, fun _ => tree⟩, stub,
        by rw [tree]; exact spends.same, catalog, selected, free⟩
  | stranded loses strands catalog =>
      exact ⟨⟨fun same => absurd same (loses.tree_ne strict), fun none => absurd loses (none _ _)⟩,
        stub, strands.storage_eq, catalog, selected, free⟩

/-- A session that has selected the database of a sample. -/
def usedService : Service :=
  ((ofStore (Store.sampleStore Store.endedText)).execute false 1 "USE shop".toList).1

/-- The same with some troubles. -/
def troubledService (troubles : Troubles) : Service :=
  { usedService with store.storage.troubles := troubles }

/-- An append that is made to fail. -/
theorem execute_failed_append :
    ∃ after, (troubledService ⟨1, 0⟩).execute false 1 "INSERT INTO stock VALUES (y)".toList =
        (after, .error (.store (.file .appendRow .diskFull))) ∧
      after.store.storage.tree = (troubledService ⟨1, 0⟩).store.storage.tree ∧
      after.store.catalog = (troubledService ⟨1, 0⟩).store.catalog ∧
      after.selected = (troubledService ⟨1, 0⟩).selected ∧
      ∀ ref, after.store.locks.isHeld ref = false := by
  have leads : Leads (fun _ _ => True) (ofStore (Store.sampleStore Store.endedText))
      (troubledService ⟨1, 0⟩) :=
    .outside (.command .refl false 1 "USE shop".toList) trivial
  have failed : (troubledService ⟨1, 0⟩).execute false 1 "INSERT INTO stock VALUES (y)".toList =
      (_, .error (.store (.file .appendRow .diskFull))) :=
    Prod.ext rfl (eq_error_of_error? (by decide +kernel))
  obtain ⟨kept, -, -, catalog, selected, free⟩ :=
    execute_failed_iff Store.load_endedText leads failed
  exact ⟨_, failed, kept.2 fun place task loses => loses.full rfl, catalog, selected, free⟩

/-- The table whose header finds the disk full. -/
def strandedRef : TableRef := ⟨"shop".toList, "price".toList⟩

/-- The line that creates it. -/
def strandedLine : Text := "CREATE TABLE price (a)".toList

/-- A header that finds the disk full: the creation fails, but an empty file is left behind, and it
keeps the table from being created when there is room again. -/
theorem execute_failed_header :
    let store := Store.sampleStore Store.endedText
    let service := troubledService ⟨0, 1⟩
    (Store.ofStorage (Store.sampleStorage Store.endedText)).load = .ok store ∧
      Leads (fun _ _ => True) (ofStore store) service ∧
      ∃ after, service.execute false 1 strandedLine =
          (after, .error (.store (.file .createTable .diskFull))) ∧
        service.store.storage.tree.find? strandedRef.place = none ∧
        after.store.storage.tree.find? strandedRef.place = some (.file []) ∧
        after.store.storage.tree ≠ service.store.storage.tree ∧
        after.store.storage.troubles = .none ∧
        (after.execute false 1 strandedLine).2 = .error (.store (.tableExists "price".toList)) := by
  have absent : (troubledService ⟨0, 1⟩).store.storage.tree.find? strandedRef.place = none := by
    decide +kernel
  have stub : ((troubledService ⟨0, 1⟩).execute false 1 strandedLine).1.store.storage.tree.find?
      strandedRef.place = some (.file []) := by
    decide +kernel
  refine ⟨Store.load_endedText, .outside (.command .refl false 1 "USE shop".toList) trivial, _,
    Prod.ext rfl (eq_error_of_error? (by decide +kernel)), absent, stub, fun same => ?_,
    by decide +kernel, eq_error_of_error? (by decide +kernel)⟩
  rw [same, absent] at stub
  cases stub

end Service
end FlatStore
