import FlatStore.Proofs.Crews
import Mathlib.Data.List.Induction

/-!
# Crews that insert and scan

Threads that do nothing but insert rows of clean values and scan follow their lists of calls, and
the catalog keeps its entries but for the allocators.  What a scan gives is what was in the file at
some moment after the scan had begun.
-/

namespace FlatStore

/-! ## Catalogs -/

/-- An entry names its table, one of the known ones, and the file of that name. -/
structure Table.IsAt (table : Table) (Known : TableRef → Prop) (ref : TableRef) : Prop where
  ref_eq : table.ref = ref
  path_eq : table.path = ref.path
  known : Known ref

/-- Every entry names its table, one of the known ones, and the file of that name. -/
def Catalog.Placed (catalog : Catalog) (Known : TableRef → Prop) : Prop :=
  ∀ ref table, catalog.tables.find? ref = some table → table.IsAt Known ref

variable {Known : TableRef → Prop}

theorem Catalog.Placed.setAllocator {catalog : Catalog} (placed : catalog.Placed Known)
    (ref : TableRef) (allocator : Allocator) :
    (catalog.setAllocator ref allocator).Placed Known := by
  intro other table found
  rw [Catalog.find?_setAllocator] at found
  split at found
  · rename_i same
    obtain ⟨entry, there, rfl⟩ := Option.map_eq_some_iff.1 found
    have entry_placed := placed ref entry there
    subst same
    exact ⟨entry_placed.ref_eq, entry_placed.path_eq, entry_placed.known⟩
  · exact placed other table found

theorem Catalog.Placed.resolve {catalog : Catalog} (placed : catalog.Placed Known)
    {database name : Text} {table : Table} (known : catalog.resolve database name = .ok table) :
    table.IsAt Known ⟨database, name⟩ :=
  placed _ table (Catalog.resolve_eq_ok_iff.1 known).2

/-! ## Calls -/

/-- Calls that insert clean values or scan. -/
inductive Call.Clean : Call → Prop
  | insert {database name : Text} {values : List Text} (cells : ∀ value ∈ values, IsCell value) :
      Clean (.insert database name values)
  | scan {database name : Text} : Clean (.scan database name)

namespace Stage

/-- The stage is one of a call that inserts or scans. -/
inductive Serves (Known : TableRef → Prop) : Call → Stage → Prop
  | begun {call : Call} : Serves Known call (.begun call)
  | resolved {database name : Text} {values : List Text} {table : Table}
      (placed : table.IsAt Known ⟨database, name⟩) :
      Serves Known (.insert database name values) (.resolved table values)
  | waiting {database name : Text} {values : List Text} {table : Table}
      (placed : table.IsAt Known ⟨database, name⟩) :
      Serves Known (.insert database name values) (.waiting table values)
  | holding {database name : Text} {values : List Text} {table : Table}
      (placed : table.IsAt Known ⟨database, name⟩) :
      Serves Known (.insert database name values) (.holding table values)
  | numbered {database name : Text} {values : List Text} {table : Table} {id : Int}
      (placed : table.IsAt Known ⟨database, name⟩) :
      Serves Known (.insert database name values) (.numbered table values id)
  | appended {database name : Text} {values : List Text} {table : Table} {id : Int}
      (placed : table.IsAt Known ⟨database, name⟩) :
      Serves Known (.insert database name values) (.appended table id)
  | leaving {database name : Text} {values : List Text} {table : Table}
      {result : Except Failure Int} (placed : table.IsAt Known ⟨database, name⟩) :
      Serves Known (.insert database name values) (.leaving table result)
  | reading {database name : Text} {table : Table} (placed : table.IsAt Known ⟨database, name⟩) :
      Serves Known (.scan database name) (.reading table)
  | finished {call : Call} {result : Except Failure Value} : Serves Known call (.finished result)

/-- A call goes through its stages. -/
theorem Serves.move {call : Call} {shared after : Shared} {stage next : Stage}
    (serves : Serves Known call stage) (clean : call.Clean)
    (placed : shared.store.catalog.Placed Known) (move : Move shared stage next after) :
    Serves Known call next := by
  cases serves with
  | begun =>
      cases clean with
      | insert cells =>
          cases move with
          | refuseInsert unknown => exact .finished
          | beginInsert known => exact .resolved (placed.resolve known)
      | scan =>
          cases move with
          | refuseScan unknown => exact .finished
          | beginScan known => exact .reading (placed.resolve known)
  | resolved here =>
      cases move
      exact .waiting here
  | waiting here =>
      cases move
      exact .holding here
  | holding here =>
      cases move
      exact .numbered here
  | numbered here =>
      cases move with
      | refuseRow refused => exact .leaving here
      | append appended => exact .appended here
  | appended here =>
      cases move with
      | refuseAdvance refused => exact .leaving here
      | advance advanced => exact .leaving here
  | leaving here =>
      cases move with
      | leaveFailed => exact .finished
      | leave => exact .finished
  | reading here =>
      cases move
      exact .finished
  | finished => cases move

/-- A move of a call that inserts or scans leaves the catalog as it is or moves an allocator on. -/
theorem Serves.catalog {call : Call} {shared after : Shared} {stage next : Stage}
    (serves : Serves Known call stage) (clean : call.Clean) (move : Move shared stage next after) :
    after.store.catalog = shared.store.catalog ∨
      ∃ ref allocator, after.store.catalog = shared.store.catalog.setAllocator ref allocator := by
  cases move with
  | advance advanced =>
      rw [Store.advance] at advanced
      split at advanced
      · cases advanced
      · cases advanced
        exact .inr ⟨_, _, rfl⟩
  | nextId | enter | make | refuseMake => cases serves <;> cases clean
  | _ => exact .inl rfl

end Stage

namespace Thread

/-- A thread is at one of its calls: those before it are over, those behind it are to come. -/
inductive Follows (Known : TableRef → Prop) (calls : List Call) : Thread → Prop
  | present {done pending : List Call} {call : Call} {stage : Stage}
      {results : List (Except Failure Value)} (calls_eq : calls = done ++ call :: pending)
      (size : done.length = results.length) (serves : stage.Serves Known call) :
      Follows Known calls ⟨stage, pending, results⟩

/-- A thread goes through its calls. -/
theorem Follows.move {calls : List Call} {shared after : Shared} {thread next : Thread}
    (follows : Follows Known calls thread) (clean : ∀ call ∈ calls, call.Clean)
    (placed : shared.store.catalog.Placed Known) (move : thread.Move shared next after) :
    Follows Known calls next := by
  cases follows with
  | @present done pending call stage results calls_eq size serves =>
      cases move with
      | @call result following pending _ =>
          have calls_split : calls = (done ++ [call]) ++ following :: pending := by
            rw [calls_eq, List.append_assoc, List.singleton_append]
          have size_next : (done ++ [call]).length = (results ++ [result]).length := by
            rw [List.length_append, List.length_append, size]
            rfl
          exact .present calls_split size_next .begun
      | stage move =>
          have call_clean : call.Clean := clean call (by simp [calls_eq])
          exact .present calls_eq size (serves.move call_clean placed move)

/-- The present call of a thread is at the position that the number of its results tells. -/
theorem Follows.getElem? {calls done pending : List Call} {call : Call}
    {results : List (Except Failure Value)} (calls_eq : calls = done ++ call :: pending)
    (size : done.length = results.length) : calls[results.length]? = some call := by
  rw [calls_eq, ← size, List.getElem?_append_right (Nat.le_refl _), Nat.sub_self]
  rfl

/-- Number of calls of which a thread has made a step. -/
def callsBegun (thread : Thread) : Nat :=
  match thread.stage with
  | .begun _ => thread.results.length
  | _ => thread.results.length + 1

theorem length_results_le (thread : Thread) : thread.results.length ≤ thread.callsBegun := by
  obtain ⟨stage, pending, results⟩ := thread
  cases stage <;> simp [callsBegun]

theorem callsBegun_le (thread : Thread) : thread.callsBegun ≤ thread.results.length + 1 := by
  obtain ⟨stage, pending, results⟩ := thread
  cases stage <;> simp [callsBegun]

theorem length_finishedResults_le (thread : Thread) :
    thread.finishedResults.length ≤ thread.callsBegun := by
  obtain ⟨stage, pending, results⟩ := thread
  cases stage <;> simp [finishedResults, callsBegun]

end Thread

namespace Crew

/-- A call, given by its thread and its position among the calls of the thread. -/
def call? (start : Crew) (thread position : Nat) : Option Call :=
  start.threads[thread]?.bind fun thread => thread.ahead[position]?

/-- A call, given in the same way, has made a step. -/
def HasBegun (crew : Crew) (thread position : Nat) : Prop :=
  ∃ worker, crew.threads[thread]? = some worker ∧ position < worker.callsBegun

/-- The calls of a crew insert clean values or scan. -/
def CleanCalls (start : Crew) : Prop :=
  ∀ thread ∈ start.threads, ∀ call ∈ thread.ahead, call.Clean

/-- A crew follows the calls that it had to make at the start. -/
structure Follows (Known : TableRef → Prop) (start crew : Crew) : Prop where
  placed : crew.shared.store.catalog.Placed Known
  databases : ∀ name, crew.shared.store.catalog.hasDatabase name =
    start.shared.store.catalog.hasDatabase name
  size : crew.threads.length = start.threads.length
  threads : ∀ (turn : Nat) (thread : Thread), crew.threads[turn]? = some thread →
    ∃ first : Thread, start.threads[turn]? = some first ∧ thread.Follows Known first.ahead

/-- A crew goes through its calls. -/
theorem Follows.change {start before after : Crew} (follows : Follows Known start before)
    (clean : start.CleanCalls) (change : Change before after) : Follows Known start after := by
  cases change with
  | nothing => exact follows
  | trouble => exact ⟨follows.placed, follows.databases, follows.size, follows.threads⟩
  | @thread turn mover next shared here move =>
      obtain ⟨first, first_here, mover_follows⟩ := follows.threads turn mover here
      have first_clean := clean first (List.mem_of_getElem? first_here)
      have next_follows := mover_follows.move first_clean follows.placed move
      have catalog : shared.store.catalog.Placed Known ∧
          ∀ name, shared.store.catalog.hasDatabase name =
            before.shared.store.catalog.hasDatabase name := by
        cases move with
        | call => exact ⟨follows.placed, fun name => rfl⟩
        | stage move =>
            cases mover_follows with
            | @present done _ call _ _ calls_eq size serves =>
                have call_clean : call.Clean := first_clean call (by simp [calls_eq])
                rcases serves.catalog call_clean move with same | ⟨ref, allocator, changed⟩
                · rw [same]
                  exact ⟨follows.placed, fun name => rfl⟩
                · rw [changed]
                  exact ⟨follows.placed.setAllocator ref allocator,
                    Catalog.hasDatabase_setAllocator _ ref allocator⟩
      refine ⟨catalog.1, fun name => (catalog.2 name).trans (follows.databases name),
        List.length_set.trans follows.size, fun other thread there => ?_⟩
      rw [getElem?_set_of_some here] at there
      split at there
      · rename_i same
        cases there
        exact ⟨first, same ▸ first_here, next_follows⟩
      · exact follows.threads other thread there

theorem Follows.runTicks {start crew : Crew} (follows : Follows Known start crew)
    (clean : start.CleanCalls) (ticks : List Tick) : Follows Known start (crew.runTicks ticks) :=
  runTicks_induction follows (fun _ _ follows change => follows.change clean change) ticks

/-! ## Scans -/

/-- The result is what a scan of a table gives that reads now. -/
def Reads (store : Store) (ref : TableRef) (result : Except Failure Value) : Prop :=
  (∃ error, store.catalog.resolve ref.database ref.table = .error error ∧
    result = .error (.store error)) ∨
  ∃ schema, result = ((store.storage.rows ref.path).map (.rows schema)).mapError .store

/-- How far a scan is. -/
inductive ScanStatus (Known : TableRef → Prop) (crew : Crew) (thread position : Nat)
    (ref : TableRef) (Read : Except Failure Value → Prop) : Prop
  | toCome {scanner : Thread} (here : crew.threads[thread]? = some scanner)
      (unbegun : scanner.callsBegun ≤ position)
  | reading {pending : List Call} {results : List (Except Failure Value)} {table : Table}
      (here : crew.threads[thread]? = some ⟨.reading table, pending, results⟩)
      (size : results.length = position) (placed : table.IsAt Known ref)
  | returned {result : Except Failure Value} (here : crew.result? thread position = some result)
      (read : Read result)

variable {start before after crew : Crew} {thread position : Nat} {ref : TableRef}
  {Read : Except Failure Value → Prop}

/-- A call that gets over has its result behind those before it. -/
theorem result?_set_finished {shared : Shared} {threads : List Thread} {mover : Thread}
    (here : threads[thread]? = some mover) (result : Except Failure Value) (pending : List Call)
    (results : List (Except Failure Value)) :
    result? ⟨shared, threads.set thread ⟨.finished result, pending, results⟩⟩ thread
      results.length = some result := by
  rw [result?, getElem?_set_of_some here, if_pos rfl]
  simp [Thread.finishedResults]

/-- A scan reads at one moment what is there. -/
theorem ScanStatus.change (status : ScanStatus Known before thread position ref Read)
    (follows : Follows Known start before)
    (scans : start.call? thread position = some (.scan ref.database ref.table))
    (reads : ∀ result, Reads before.shared.store ref result → Read result)
    (change : Change before after) : ScanStatus Known after thread position ref Read := by
  cases change with
  | nothing => exact status
  | trouble =>
      cases status with
      | toCome here unbegun => exact .toCome here unbegun
      | reading here size placed => exact .reading here size placed
      | returned here read => exact .returned here read
  | @thread turn mover next shared mover_here move =>
      have there {other : Thread} (here : before.threads[thread]? = some other)
          (apart : thread ≠ turn) : (before.threads.set turn next)[thread]? = some other := by
        rw [getElem?_set_of_some mover_here, if_neg apart]
        exact here
      cases status with
      | returned here read =>
          exact .returned (result?_of_change (.thread mover_here move) here) read
      | @toCome scanner here unbegun =>
          by_cases same : thread = turn
          · subst same
            rw [here, Option.some.injEq] at mover_here
            subst mover_here
            have next_here : (before.threads.set thread next)[thread]? = some next := by
              rw [getElem?_set_of_some here, if_pos rfl]
            obtain ⟨first, first_here, scanner_follows⟩ := follows.threads thread scanner here
            cases move with
            | call =>
                refine .toCome next_here ?_
                simpa [Thread.callsBegun] using unbegun
            | @stage stage next_stage pending results _ move =>
                have made := Thread.length_results_le ⟨stage, pending, results⟩
                have next_made := Thread.callsBegun_le ⟨next_stage, pending, results⟩
                dsimp only at made next_made
                by_cases early : results.length < position
                · exact .toCome next_here (by omega)
                · have position_eq : position = results.length := by omega
                  rw [call?, first_here, Option.bind_some, position_eq] at scans
                  rw [position_eq] at unbegun ⊢
                  cases scanner_follows with
                  | present calls_eq size serves =>
                      rw [Thread.Follows.getElem? calls_eq size, Option.some.injEq] at scans
                      subst scans
                      cases serves with
                      | begun =>
                          cases move with
                          | @refuseScan _ _ error unknown =>
                              refine .returned (result?_set_finished here _ pending results)
                                (reads _ (.inl ⟨error, unknown, rfl⟩))
                          | beginScan known =>
                              exact .reading next_here rfl (follows.placed.resolve known)
                      | reading | finished => exact absurd unbegun (Nat.not_succ_le_self _)
          · exact .toCome (there here same) unbegun
      | @reading pending results table here size placed =>
          by_cases same : thread = turn
          · subst same
            rw [here, Option.some.injEq] at mover_here
            subst mover_here
            cases move with
            | stage move =>
                cases move with
                | read =>
                    rw [← size]
                    refine .returned (result?_set_finished here _ pending results) (reads _ ?_)
                    exact .inr ⟨table.schema, by rw [placed.path_eq]⟩
          · exact .reading (there here same) size placed

/-- What a scan gives was there at some moment after the scan had begun. -/
theorem exists_moment_of_scan (follows : Follows Known start crew) (clean : start.CleanCalls)
    (scans : start.call? thread position = some (.scan ref.database ref.table))
    (unbegun : ¬crew.HasBegun thread position)
    {ticks : List Tick} {result : Except Failure Value}
    (returned : (crew.runTicks ticks).result? thread position = some result) :
    ∃ before, before <+: ticks ∧ Reads (crew.runTicks before).shared.store ref result := by
  let Read (result : Except Failure Value) : Prop :=
    ∃ before, before <+: ticks ∧ Reads (crew.runTicks before).shared.store ref result
  have status (before : List Tick) (early : before <+: ticks) :
      ScanStatus Known (crew.runTicks before) thread position ref Read := by
    induction before using List.reverseRecOn with
    | nil =>
        obtain ⟨first, first_here, -⟩ := Option.bind_eq_some_iff.1 scans
        obtain ⟨inside, -⟩ := List.getElem?_eq_some_iff.1 first_here
        rw [← follows.size] at inside
        have here := List.getElem?_eq_getElem inside
        exact .toCome here (Nat.le_of_not_lt fun begun => unbegun ⟨_, here, begun⟩)
    | append_singleton before tick ih =>
        have earlier : before <+: ticks := (List.prefix_append before [tick]).trans early
        rw [runTicks_concat]
        exact (ih earlier).change (follows.runTicks clean before) scans
          (fun result reads => ⟨before, earlier, reads⟩) (change_tick _ tick)
  cases status ticks (List.prefix_refl ticks) with
  | @toCome scanner here late =>
      rw [result?, here, Option.bind_some] at returned
      obtain ⟨inside, -⟩ := List.getElem?_eq_some_iff.1 returned
      have := scanner.length_finishedResults_le
      omega
  | reading here size =>
      rw [result?, here, Option.bind_some] at returned
      obtain ⟨inside, -⟩ := List.getElem?_eq_some_iff.1 returned
      exact absurd inside (by simp [Thread.finishedResults, size])
  | returned other_returned read =>
      rw [returned, Option.some.injEq] at other_returned
      exact other_returned ▸ read

end Crew
end FlatStore
