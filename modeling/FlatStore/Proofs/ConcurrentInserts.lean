import FlatStore.Proofs.Books
import FlatStore.Proofs.RecoveredTable

/-!
# Inserts side by side

Threads insert and scan in any order of their steps, and any append may find the disk full.  The
identities that they are told are the next ones of the table, without gaps and none twice, in the
order of the lines in the file, and a scan shows every row that was returned before it began.
-/

namespace FlatStore

/-- Every entry is one of a known database and names its table and the file of that name. -/
def Catalog.Consistent (catalog : Catalog) : Prop :=
  ∀ ref table, catalog.tables.find? ref = some table →
    catalog.hasDatabase ref.database = true ∧ table.ref = ref ∧ table.path = ref.path

/-- What is loaded is consistent. -/
theorem Store.consistent_of_load {before store : Store} (loaded : before.load = .ok store) :
    store.catalog.Consistent := by
  intro ref table found
  obtain ⟨text, -, -, ref_eq, path_eq⟩ := exists_text_of_load loaded found
  refine ⟨?_, ref_eq, path_eq⟩
  obtain ⟨storage, names, -, -, loads⟩ := load_eq_ok loaded
  have tables := loads.tables ref
  rw [found] at tables
  split at tables
  · rename_i member
    obtain ⟨database, listed, ref_member⟩ := List.mem_flatMap.1 member
    rw [Storage.database_of_mem_tablesIn ref_member]
    exact (loads.databases database).2 (.inl listed)
  · cases tables

namespace Crew

variable {Known : TableRef → Prop} {ref : TableRef} {content : Octets}

/-! ## The start -/

theorem exists_begun_of_mem {store : Store} {calls : List (List Call)} {thread : Thread}
    (member : thread ∈ (ofCalls store calls).threads) :
    ∃ call pending, call :: pending ∈ calls ∧ thread = ⟨.begun call, pending, []⟩ := by
  obtain ⟨list, list_member, made⟩ := List.mem_filterMap.1 member
  cases list with
  | nil => cases made
  | cons call pending =>
      cases made
      exact ⟨call, pending, list_member, rfl⟩

theorem cleanCalls_ofCalls {store : Store} {calls : List (List Call)}
    (clean : ∀ list ∈ calls, ∀ call ∈ list, call.Clean) : (ofCalls store calls).CleanCalls := by
  intro thread member call call_member
  obtain ⟨first, pending, list_member, rfl⟩ := exists_begun_of_mem member
  exact clean _ list_member call call_member

theorem locked?_ofCalls (store : Store) (calls : List (List Call)) (thread : Nat) :
    (ofCalls store calls).locked? thread = none := by
  rw [locked?]
  cases here : (ofCalls store calls).threads[thread]? with
  | none => rfl
  | some worker =>
      obtain ⟨call, pending, -, rfl⟩ := exists_begun_of_mem (List.mem_of_getElem? here)
      rfl

theorem exclusive_ofCalls (store : Store) (calls : List (List Call)) :
    Exclusive (ofCalls store calls) := by
  constructor
  · intro thread ref locked
    rw [locked?_ofCalls] at locked
    cases locked
  · intro thread other ref locked
    rw [locked?_ofCalls] at locked
    cases locked

theorem follows_ofCalls {store : Store} (placed : store.catalog.Placed Known)
    (calls : List (List Call)) : Follows Known (ofCalls store calls) (ofCalls store calls) where
  placed := placed
  databases _ := rfl
  size := rfl
  threads turn thread here := by
    obtain ⟨call, pending, -, rfl⟩ := exists_begun_of_mem (List.mem_of_getElem? here)
    exact ⟨_, here, .present (List.nil_append _).symm rfl .begun⟩

theorem returnedRows_ofCalls (store : Store) (calls : List (List Call)) (ref : TableRef) :
    returnedRows (ofCalls store calls) (ofCalls store calls) ref = [] := by
  rw [returnedRows, List.flatMap_eq_nil_iff]
  rintro ⟨first, thread⟩ member
  obtain ⟨call, pending, -, rfl⟩ := exists_begun_of_mem (List.of_mem_zip member).2
  exact congrArg _ List.zip_nil_right

/-- At the start nothing is written. -/
theorem books_ofCalls {store : Store} {table : Table}
    (found : store.catalog.tables.find? ref = some table)
    (stored : store.storage.contentAt ref.path = .ok content) (calls : List (List Call)) :
    Books (ofCalls store calls) (ofCalls store calls) ref content table.allocator.next [] []
      table.allocator.next where
  holds := ⟨stored.trans (congrArg Except.ok (List.append_nil content).symm), table, found, rfl⟩
  returned := by
    rw [returnedRows_ofCalls]
    exact List.Perm.refl []
  cells := by simp
  balance := by
    have idle := @Balance.idle (ofCalls store calls) (ofCalls store calls) ref
      table.allocator.next fun thread => by simp [locked?_ofCalls]
    simpa using idle

/-! ## Runs -/

/-- What the threads of a crew have done to a table: the identities begin with `first`, and the rows
in the file are those that were returned and at most one that is owed. -/
structure Account (start crew : Crew) (ref : TableRef) (content : Octets) (first : Int)
    (returned owed : List (List Text)) : Prop where
  /-- The lines of the rows stand in the file, with identities in order. -/
  file : crew.shared.store.storage.contentAt ref.path =
    .ok (content ++ Utf8.encode (linesOf (numberFrom first (returned ++ owed))))
  /-- The inserts that have returned have returned these rows. -/
  rows : (start.returnedRows crew ref).Perm (numberFrom first returned)
  /-- Their identities follow each other. -/
  identities : ((start.returnedRows crew ref).map NumberedRow.id).Perm
    ((List.range returned.length).map fun (n : Nat) => first + (n : Int))
  /-- One row is owed at most. -/
  owed_le_one : owed.length ≤ 1
  /-- The identities that are used up are those of rows in the file. -/
  current : ∃ table, crew.shared.store.catalog.tables.find? ref = some table ∧
    first + (returned.length : Int) ≤ table.allocator.next ∧
    table.allocator.next ≤ first + ((returned ++ owed).length : Int)
  /-- Nothing is owed if nobody has locked the table. -/
  idle : (∀ thread, crew.locked? thread ≠ some ref) → owed = []

theorem Books.account {start crew : Crew} {first current : Int} {written owed : List (List Text)}
    (books : Books start crew ref content first written owed current) :
    Account start crew ref content first written owed where
  file := books.holds.file
  rows := books.returned
  identities := by
    rw [← map_id_numberFrom]
    exact books.returned.map _
  owed_le_one := books.balance.bounds.1
  current := by
    obtain ⟨table, found, next_eq⟩ := books.holds.entry
    obtain ⟨-, above, below⟩ := books.balance.bounds
    refine ⟨table, found, ?_⟩
    rw [next_eq, List.length_append]
    omega
  idle := by
    intro nobody
    cases books.balance with
    | idle => rfl
    | @busy turn thread _ _ _ here locked =>
        refine absurd ?_ (nobody turn)
        rw [locked?, here, Option.bind_some, locked]

/-- A thread that has appended its row moves the allocator on. -/
theorem Books.advance {start crew : Crew} {first current : Int} {written owed : List (List Text)}
    {table : Table} {id : Int} {turn : Nat} {thread : Thread}
    (books : Books start crew ref content first written owed current) (exclusive : Exclusive crew)
    (here : crew.threads[turn]? = some thread) (stage : thread.stage = .appended table id)
    (placed : table.IsAt Known ref) : ∃ after, crew.shared.store.advance table id = .ok after := by
  have turn_locked : crew.locked? turn = some ref := by
    rw [locked?, here, Option.bind_some, stage, ← placed.ref_eq]
    rfl
  cases books.balance with
  | idle nobody => exact absurd turn_locked (nobody turn)
  | @busy holder _ _ _ _ holder_here holder_locked _ owes =>
      have holder_turn : holder = turn := by
        refine exclusive.one holder turn ref ?_ turn_locked
        rw [locked?, holder_here, Option.bind_some, holder_locked]
      rw [holder_turn, here, Option.some.injEq] at holder_here
      rw [← holder_here, stage] at owes
      have current_ok := crew.shared.store.advance_current table
      rw [Stage.next_allocatorOf placed books.holds] at current_ok
      cases owes
      exact ⟨_, current_ok⟩

/-- A row that was returned is among the returned rows. -/
theorem mem_returnedRows {start crew : Crew} {thread position : Nat} {values : List Text} {id : Int}
    (inserts : start.call? thread position = some (.insert ref.database ref.table values))
    (returned : crew.result? thread position = some (.ok (.id id))) :
    ⟨id, values⟩ ∈ start.returnedRows crew ref := by
  obtain ⟨first, first_here, call_here⟩ := Option.bind_eq_some_iff.1 inserts
  obtain ⟨worker, here, result_here⟩ := Option.bind_eq_some_iff.1 returned
  rw [returnedRows, List.mem_flatMap]
  refine ⟨(first, worker), ?_, ?_⟩
  · refine List.mem_of_getElem? (i := thread) ?_
    rw [List.getElem?_zip_eq_some]
    exact ⟨first_here, here⟩
  · refine List.mem_filterMap.2 ⟨(.insert ref.database ref.table values, .ok (.id id)), ?_, ?_⟩
    · refine List.mem_of_getElem? (i := position) ?_
      rw [List.getElem?_zip_eq_some]
      exact ⟨call_here, result_here⟩
    · exact if_pos rfl

/-- A scan shows a row, unless the file was no text to begin with, so that it can not be read. -/
def Shows (content : Octets) (row : NumberedRow) (result : Except Failure Value) : Prop :=
  (∃ schema rows, result = .ok (.rows schema rows) ∧ rowCells row ∈ rows) ∨
    (∃ failure, result = .error failure) ∧ ∀ text, content ≠ Utf8.encode text

/-- What a scan reads shows every row that has been returned. -/
theorem Books.shows {start crew : Crew} {first current : Int} {written owed : List (List Text)}
    {row : NumberedRow} {result : Except Failure Value}
    (books : Books start crew ref content first written owed current)
    (ends : Utf8.EndsLine content)
    (known : crew.shared.store.catalog.hasDatabase ref.database = true)
    (returned : row ∈ start.returnedRows crew ref)
    (reads : Reads crew.shared.store ref result) : Shows content row result := by
  rcases reads with ⟨error, unknown, -⟩ | ⟨schema, rfl⟩
  · obtain ⟨table, found, -⟩ := books.holds.entry
    rw [Catalog.resolve_eq_ok_iff.2 ⟨known, found⟩] at unknown
    cases unknown
  · have cells_clean : ∀ row ∈ numberFrom first (written ++ owed),
        ∀ value ∈ row.values, IsCell value :=
      fun row member => books.cells _ (mem_of_mem_numberFrom member)
    obtain ⟨before, read⟩ | ⟨⟨error, failed⟩, no_text⟩ :=
      Storage.rows_of_linesOf ends cells_clean books.holds.file
    · rw [read]
      refine .inl ⟨schema, _, rfl, List.mem_append_right _ (List.mem_map_of_mem ?_)⟩
      rw [numberFrom_append]
      exact List.mem_append_left _ (books.returned.subset returned)
    · rw [failed]
      exact .inr ⟨⟨_, rfl⟩, no_text⟩

/-- Threads insert clean rows and scan side by side.  At every moment of every run no allocator
refuses a row that was appended; the accounts of every table are settled, so that its identities
follow each other from the one that was current at the start, in the returns as in the file; and a
scan that begins later shows the rows that were returned. -/
theorem runTicks_inserts {store : Store} {calls : List (List Call)}
    (consistent : store.catalog.Consistent)
    (ended : ∀ ref table, store.catalog.tables.find? ref = some table →
      ∃ content, store.storage.contentAt table.path = .ok content ∧ Utf8.EndsLine content)
    (clean : ∀ list ∈ calls, ∀ call ∈ list, call.Clean) (ticks : List Tick) :
    (∀ thread ∈ ((ofCalls store calls).runTicks ticks).threads, ∀ table id,
      thread.stage = .appended table id → ∃ after,
        ((ofCalls store calls).runTicks ticks).shared.store.advance table id = .ok after) ∧
    (∀ ref table content, store.catalog.tables.find? ref = some table →
      store.storage.contentAt table.path = .ok content →
      (∃ returned owed, Account (ofCalls store calls) ((ofCalls store calls).runTicks ticks) ref
        content table.allocator.next returned owed) ∧
      ∀ inserter place values id scanner position late result,
        (ofCalls store calls).call? inserter place =
          some (.insert ref.database ref.table values) →
        (ofCalls store calls).call? scanner position = some (.scan ref.database ref.table) →
        ((ofCalls store calls).runTicks ticks).result? inserter place = some (.ok (.id id)) →
        ¬((ofCalls store calls).runTicks ticks).HasBegun scanner position →
        ((ofCalls store calls).runTicks (ticks ++ late)).result? scanner position = some result →
        Shows content ⟨id, values⟩ result) := by
  let Known (ref : TableRef) : Prop := ∃ table, store.catalog.tables.find? ref = some table
  let start := ofCalls store calls
  have placed : store.catalog.Placed Known := fun ref table found =>
    ⟨(consistent ref table found).2.1, (consistent ref table found).2.2, table, found⟩
  have clean_calls : start.CleanCalls := cleanCalls_ofCalls clean
  have follows := follows_ofCalls placed calls
  have exclusive := exclusive_ofCalls store calls
  have books (ticks : List Tick) {ref : TableRef} {table : Table} {content : Octets}
      (found : store.catalog.tables.find? ref = some table)
      (stored : store.storage.contentAt ref.path = .ok content) :
      ∃ written owed current, Books start (start.runTicks ticks) ref content
        table.allocator.next written owed current :=
    Books.runTicks ⟨[], [], _, books_ofCalls found stored calls⟩ exclusive follows clean_calls ticks
  constructor
  · intro thread member table id stage
    obtain ⟨turn, here⟩ := List.mem_iff_getElem?.1 member
    obtain ⟨first, -, thread_follows⟩ :=
      (follows.runTicks clean_calls ticks).threads turn thread here
    cases thread_follows with
    | present calls_eq size serves =>
        dsimp only at stage
        rw [stage] at serves
        cases serves with
        | appended table_at =>
            obtain ⟨entry, found⟩ := table_at.known
            obtain ⟨content, stored, -⟩ := ended _ entry found
            rw [(consistent _ entry found).2.2] at stored
            obtain ⟨written, owed, current, books⟩ := books ticks found stored
            exact books.advance (exclusive.runTicks ticks) here stage table_at
  · intro ref table content found stored
    rw [(consistent ref table found).2.2] at stored
    constructor
    · obtain ⟨written, owed, current, books⟩ := books ticks found stored
      exact ⟨written, owed, books.account⟩
    · intro inserter place values id scanner position late result inserts scans returned unbegun
        scanned
      have ends : Utf8.EndsLine content := by
        obtain ⟨other, other_stored, ends⟩ := ended ref table found
        rw [(consistent ref table found).2.2, stored, Except.ok.injEq] at other_stored
        exact other_stored ▸ ends
      -- At the moment of reading all that was returned by now is still returned.
      rw [runTicks_append] at scanned
      obtain ⟨between, -, reads⟩ := exists_moment_of_scan (follows.runTicks clean_calls ticks)
        clean_calls scans unbegun scanned
      have still_returned := mem_returnedRows inserts (result?_runTicks returned between)
      rw [← runTicks_append] at reads still_returned
      obtain ⟨written, owed, current, books⟩ := books (ticks ++ between) found stored
      refine books.shows ends ?_ still_returned reads
      rw [(follows.runTicks clean_calls (ticks ++ between)).databases]
      exact (consistent ref table found).1

/-! ## Two threads -/

/-- One thread inserts a row, the other one a row and then scans. -/
def sampleCalls : List (List Call) :=
  [[.insert "shop".toList "stock".toList ["y".toList]],
    [.insert "shop".toList "stock".toList ["z".toList], .scan "shop".toList "stock".toList]]

/-- The disk is full for the first thread, while the second one waits for the lock. -/
def sampleTicks : List Tick :=
  .troubles ⟨0, 1⟩ :: [0, 0, 0, 1, 1, 1, 0, 0, 0, 1, 1, 1, 1, 1].map .turn

/-- The two threads at a table of one row. -/
def sampleCrew : Crew := ofCalls (Store.sampleStore Store.endedText) sampleCalls

/-- The row that found the disk full has used up no identity, and a scan shows the other row. -/
theorem runTicks_inserts_fullDisk :
    ∃ returned owed result,
      Account sampleCrew (sampleCrew.runTicks sampleTicks) Store.sampleRef
        (Utf8.encode Store.endedText) 2 returned owed ∧
      (sampleCrew.runTicks (sampleTicks ++ [.turn 1, .turn 1, .turn 1])).result? 1 1 =
        some result ∧
      Shows (Utf8.encode Store.endedText) ⟨2, ["z".toList]⟩ result := by
  have consistent := Store.consistent_of_load Store.load_endedText
  have found : (Store.sampleStore Store.endedText).catalog.tables.find? Store.sampleRef =
      some Store.sampleTable := by
    decide +kernel
  have stored : (Store.sampleStore Store.endedText).storage.contentAt Store.sampleTable.path =
      .ok (Utf8.encode Store.endedText) :=
    eq_ok_of_toOption (by decide +kernel)
  have ended : ∀ ref table,
      (Store.sampleStore Store.endedText).catalog.tables.find? ref = some table →
      ∃ content, (Store.sampleStore Store.endedText).storage.contentAt table.path = .ok content ∧
        Utf8.EndsLine content := by
    intro ref table there
    have only : (Store.sampleStore Store.endedText).catalog.tables.keys = [Store.sampleRef] := by
      decide +kernel
    have member := Index.mem_keys_iff.2 (Option.isSome_iff_exists.2 ⟨table, there⟩)
    rw [only, List.mem_singleton] at member
    rw [member, found, Option.some.injEq] at there
    rw [← there]
    exact ⟨_, stored, by decide +kernel⟩
  have clean : ∀ list ∈ sampleCalls, ∀ call ∈ list, call.Clean := by
    simp only [sampleCalls, List.forall_mem_cons, List.not_mem_nil, false_implies, implies_true,
      and_true]
    exact ⟨.insert (by decide), .insert (by decide), .scan⟩
  have first_returned :
      ((sampleCrew.runTicks sampleTicks).result? 1 0).bind Except.toOption = some (.id 2) := by
    decide +kernel
  have begun : (sampleCrew.runTicks sampleTicks).threads.map Thread.callsBegun = [1, 1] := by
    decide +kernel
  have scan_returned : ((sampleCrew.runTicks (sampleTicks ++ [.turn 1, .turn 1, .turn 1])).result? 1
      1).isSome = true := by
    decide +kernel
  obtain ⟨-, accounts⟩ := runTicks_inserts consistent ended clean sampleTicks
  obtain ⟨⟨returned, owed, account⟩, scans⟩ :=
    accounts Store.sampleRef Store.sampleTable _ found stored
  obtain ⟨result, scanned⟩ := Option.isSome_iff_exists.1 scan_returned
  obtain ⟨first_result, first_here, first_ok⟩ := Option.bind_eq_some_iff.1 first_returned
  rw [eq_ok_of_toOption first_ok] at first_here
  have unbegun : ¬(sampleCrew.runTicks sampleTicks).HasBegun 1 1 := by
    rintro ⟨worker, here, later⟩
    have counted : ((sampleCrew.runTicks sampleTicks).threads.map Thread.callsBegun)[1]? =
        some worker.callsBegun := by
      rw [List.getElem?_map, here]
      rfl
    rw [begun] at counted
    have counted_one : 1 = worker.callsBegun := Option.some.inj counted
    omega
  exact ⟨returned, owed, result, account, scanned,
    scans 1 0 _ 2 1 1 _ result rfl rfl first_here unbegun scanned⟩

end Crew
end FlatStore
