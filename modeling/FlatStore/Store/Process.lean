import FlatStore.Store.Create
import FlatStore.Store.Insert

/-!
# Calls side by side

Several threads use one store.  Every call is cut into steps that are atomic: an insert resolves
its table, registers and takes the table's lock, reads the current identity, appends the row, moves
the allocator on and gives the lock back; a creation takes the catalog lock, looks for a duplicate,
creates, registers and gives the lock back.  A schedule says whose step is next; a thread that has
to wait for a lock lets its turn pass.
-/

namespace FlatStore

/-- A call of a thread. -/
inductive Call
  | insert (database table : Text) (values : List Text)
  | nextId (database table : Text)
  | createDatabase (name : Text)
  | createTable (database name : Text) (columns : List Text)
  | resolve (database name : Text)
  | scan (database name : Text)
deriving DecidableEq, Repr

/-- What a call gives back when it succeeds. -/
inductive Value
  | id (id : Int)
  | created (creation : Creation)
  | table (table : Table)
  | rows (schema : Schema) (rows : List (List Text))
deriving DecidableEq, Repr

/-- Where a call stands between two steps. -/
inductive Stage
  | begun (call : Call)
  /-- An insert knows its table. -/
  | resolved (table : Table) (values : List Text)
  /-- An insert waits for the lock of its table. -/
  | waiting (table : Table) (values : List Text)
  /-- An insert holds the lock. -/
  | holding (table : Table) (values : List Text)
  /-- An insert has read the current identity. -/
  | numbered (table : Table) (values : List Text) (id : Int)
  /-- An insert has appended its row. -/
  | appended (table : Table) (id : Int)
  /-- An insert is to give the lock back. -/
  | leaving (table : Table) (result : Except Failure Int)
  /-- A scan knows its table. -/
  | reading (table : Table)
  /-- A creation waits for the catalog lock. -/
  | queued (creation : Creation)
  /-- A creation holds the catalog lock. -/
  | checking (creation : Creation)
  /-- A creation has found no duplicate. -/
  | making (creation : Creation)
  /-- A creation has made its directory or file. -/
  | entering (creation : Creation)
  /-- A creation is to give the catalog lock back. -/
  | closing (creation : Creation) (result : Except StoreError Unit)
  | finished (result : Except Failure Value)

/-- What all threads share. -/
structure Shared where
  store : Store
  catalogHeld : Bool

namespace Stage

/-- The result of an operation that has only errors of the store. -/
def finish (result : Except StoreError Value) : Stage := .finished (result.mapError .store)

/-- The first step of a call. -/
def start (shared : Shared) : Call → Stage × Shared
  | .insert database name values =>
      match shared.store.catalog.resolve database name with
      | .error error => (finish (.error error), shared)
      | .ok table => (.resolved table values, shared)
  | .nextId database name =>
      let (store, result) := shared.store.nextId database name
      (finish (result.map .id), { shared with store })
  | .createDatabase name =>
      match Creation.ofDatabase name with
      | .error error => (finish (.error error), shared)
      | .ok creation => (.queued creation, shared)
  | .createTable database name columns =>
      match Creation.ofTable shared.store.catalog database name columns with
      | .error error => (finish (.error error), shared)
      | .ok creation => (.queued creation, shared)
  | .resolve database name =>
      (finish ((shared.store.catalog.resolve database name).map .table), shared)
  | .scan database name =>
      match shared.store.catalog.resolve database name with
      | .error error => (finish (.error error), shared)
      | .ok table => (.reading table, shared)

/-- The next step of a call; `none` if it has to wait or is over. -/
def step (shared : Shared) : Stage → Option (Stage × Shared)
  | .begun call => some (start shared call)
  | .resolved table values =>
      some (.waiting table values, { shared with store := shared.store.registerLock table.ref })
  | .waiting table values =>
      if shared.store.locks.isHeld table.ref then none
      else some (.holding table values, { shared with store := shared.store.hold table.ref })
  | .holding table values =>
      some (.numbered table values (shared.store.allocatorOf table).next, shared)
  | .numbered table values id =>
      let (store, outcome) := shared.store.appendRow table id values
      match outcome with
      | .error failure => some (.leaving table (.error failure), { shared with store })
      | .ok () => some (.appended table id, { shared with store })
  | .appended table id =>
      match shared.store.advance table id with
      | .error misuse => some (.leaving table (.error (.misuse misuse)), shared)
      | .ok store => some (.leaving table (.ok id), { shared with store })
  | .leaving table result =>
      let store := shared.store.release table.ref
      let store := match result with
        | .ok _ => store.countInserted
        | .error _ => store
      some (.finished (result.map .id), { shared with store })
  | .reading table =>
      some (finish ((shared.store.storage.rows table.path).map (.rows table.schema)), shared)
  | .queued creation =>
      if shared.catalogHeld then none
      else some (.checking creation, { shared with catalogHeld := true })
  | .checking creation =>
      match shared.store.checkNew creation with
      | .error error => some (.closing creation (.error error), shared)
      | .ok () => some (.making creation, shared)
  | .making creation =>
      match shared.store.make creation with
      | (store, .error error) => some (.closing creation (.error error), { shared with store })
      | (store, .ok ()) => some (.entering creation, { shared with store })
  | .entering creation =>
      some (.closing creation (.ok ()), { shared with store := shared.store.enter creation })
  | .closing creation result =>
      let store := match result with
        | .ok () => shared.store.log creation.event
        | .error _ => shared.store
      some (finish (result.map fun _ => .created creation), ⟨store, false⟩)
  | .finished _ => none

end Stage

/-- A thread: the call it is at, the calls to come and the results so far. -/
structure Thread where
  stage : Stage
  /-- The calls after it. -/
  pending : List Call
  /-- The results of the calls before it, in order. -/
  results : List (Except Failure Value)

namespace Thread

/-- A thread that is to make some calls. -/
def ofCalls : List Call → Option Thread
  | [] => none
  | call :: pending => some ⟨.begun call, pending, []⟩

/-- One step: of the present call, or on to the next one; `none` if the thread waits or is done. -/
def step (shared : Shared) (thread : Thread) : Option (Thread × Shared) :=
  match thread.stage, thread.pending with
  | .finished _, [] => none
  | .finished result, call :: pending =>
      some (⟨.begun call, pending, thread.results ++ [result]⟩, shared)
  | stage, _ =>
      (stage.step shared).map fun (stage, shared) => ({ thread with stage }, shared)

/-- Make no more calls if the present one has failed. -/
def giveUp (thread : Thread) : Thread :=
  match thread.stage with
  | .finished (.error _) => { thread with pending := [] }
  | _ => thread

/-- The results of all calls that are over. -/
def finishedResults (thread : Thread) : List (Except Failure Value) :=
  match thread.stage with
  | .finished result => thread.results ++ [result]
  | _ => thread.results

end Thread

/-- Threads with what they share. -/
structure Crew where
  shared : Shared
  threads : List Thread

namespace Crew

/-- Threads at the begin of their calls. -/
def ofCalls (store : Store) (calls : List (List Call)) : Crew :=
  ⟨⟨store, false⟩, calls.filterMap Thread.ofCalls⟩

/-- Let a thread make its next step, if it has one and need not wait. -/
def step (crew : Crew) (turn : Nat) : Crew :=
  match crew.threads[turn]? with
  | none => crew
  | some thread =>
      match thread.step crew.shared with
      | none => crew
      | some (thread, shared) => ⟨shared, crew.threads.set turn thread⟩

/-- Let threads make steps in the order of a schedule. -/
def run (crew : Crew) (schedule : List Nat) : Crew := schedule.foldl step crew

/-- Rounds in which every thread has one turn; a thread gives up after its first call that fails. -/
def runRounds : (count : Nat) → Crew → Crew
  | 0, crew => crew
  | count + 1, crew =>
      let crew := crew.run (List.range crew.threads.length)
      runRounds count { crew with threads := crew.threads.map Thread.giveUp }

/-- The results of all calls that are over, thread after thread. -/
def results (crew : Crew) : List (Except Failure Value) :=
  crew.threads.flatMap Thread.finishedResults

end Crew
end FlatStore
