import FlatStore.Proofs.Storage
import FlatStore.Proofs.Telemetry
import FlatStore.Store.Load

/-!
# What loading finds

Loading enters the databases that are listed and the tables of whose files a schema and all rows
can be read, each as it is found on disk, and it counts the files that it skips.
-/

namespace FlatStore
namespace Storage

/-- What loading learns about a table from its file; nothing if the file has to be skipped. -/
def table? (storage : Storage) (ref : TableRef) : Option Table :=
  match storage.readSchema ref.path, storage.rows ref.path with
  | .ok schema, .ok rows => some ⟨ref, ref.path, schema, .behind rows⟩
  | _, _ => none

/-- The tables that loading finds in a database: none if they can not be listed. -/
def tablesIn (storage : Storage) (database : Text) : List TableRef :=
  match storage.tablesOf database with
  | .ok refs => refs
  | .error _ => []

theorem database_of_mem_tablesIn {storage : Storage} {database : Text} {ref : TableRef}
    (member : ref ∈ storage.tablesIn database) : ref.database = database := by
  rw [tablesIn, tablesOf] at member
  split at member
  · rename_i refs listed
    split at listed
    · cases listed
    · split at listed
      · cases listed
      · cases listed
        obtain ⟨name, -, of_file⟩ := List.mem_filterMap.1 member
        exact (TableRef.fileName_of_ofFile? of_file).2
  · cases member

/-- An entry is what was read from the file. -/
theorem table?_eq_some_iff {storage : Storage} {ref : TableRef} {table : Table} :
    storage.table? ref = some table ↔
      ∃ schema rows, storage.readSchema ref.path = .ok schema ∧ storage.rows ref.path = .ok rows ∧
        table = ⟨ref, ref.path, schema, .behind rows⟩ := by
  rw [table?]
  cases storage.readSchema ref.path with
  | error error => simp
  | ok schema =>
      cases storage.rows ref.path with
      | error error => simp
      | ok rows => simp [eq_comm]

end Storage

namespace Store

variable (store : Store)

/-- How many table files were skipped so far. -/
def tablesSkipped : Nat := store.telemetry.metrics.tablesSkipped

/-- One store comes from another by entering some databases and loading some tables. -/
structure Loads (names : List Text) (refs : List TableRef) (before after : Store) : Prop where
  storage : after.storage = before.storage
  locks : after.locks = before.locks
  databases : ∀ name, after.catalog.hasDatabase name = true ↔
    name ∈ names ∨ before.catalog.hasDatabase name = true
  tables : ∀ ref, after.catalog.tables.find? ref =
    (if ref ∈ refs then before.storage.table? ref else none).or (before.catalog.tables.find? ref)
  skipped : after.tablesSkipped =
    before.tablesSkipped + refs.countP fun ref => (before.storage.table? ref).isNone

namespace Loads

variable {names moreNames : List Text} {refs moreRefs : List TableRef}
  {before between after : Store}

theorem refl (store : Store) : Loads [] [] store store where
  storage := rfl
  locks := rfl
  databases := by simp
  tables := by simp
  skipped := rfl

theorem trans (first : Loads names refs before between)
    (second : Loads moreNames moreRefs between after) :
    Loads (names ++ moreNames) (refs ++ moreRefs) before after where
  storage := second.storage.trans first.storage
  locks := second.locks.trans first.locks
  databases name := by
    rw [second.databases, first.databases, List.mem_append]
    constructor
    · rintro (new | old | known)
      · exact .inl (.inr new)
      · exact .inl (.inl old)
      · exact .inr known
    · rintro ((old | new) | known)
      · exact .inr (.inl old)
      · exact .inl new
      · exact .inr (.inr known)
  tables ref := by
    rw [second.tables, first.tables, first.storage]
    by_cases old : ref ∈ refs
    · by_cases new : ref ∈ moreRefs
      · simp only [old, new, List.mem_append, or_self, if_true]
        cases before.storage.table? ref <;> rfl
      · simp [old, new]
    · by_cases new : ref ∈ moreRefs <;> simp [old, new]
  skipped := by
    rw [second.skipped, first.skipped, first.storage, List.countP_append, Nat.add_assoc]

/-- Loading a family one by one. -/
theorem foldl {α : Type} (names : α → List Text) (refs : Storage → α → List TableRef)
    {act : Store → α → Store}
    (one : ∀ store item, Loads (names item) (refs store.storage item) store (act store item))
    (items : List α) (store : Store) :
    Loads (items.flatMap names) (items.flatMap (refs store.storage)) store
      (items.foldl act store) := by
  induction items generalizing store with
  | nil => exact refl store
  | cons item rest ih =>
      have first := one store item
      have others := ih (act store item)
      rw [first.storage] at others
      exact first.trans others

end Loads

/-! ## The parts of a load -/

variable {store} in
/-- A table without an entry is skipped. -/
private theorem Loads.of_skipped {ref : TableRef} {after : Store}
    (absent : store.storage.table? ref = none) (storage : after.storage = store.storage)
    (locks : after.locks = store.locks) (catalog : after.catalog = store.catalog)
    (skipped : after.tablesSkipped = store.tablesSkipped + 1) : Loads [] [ref] store after where
  storage := storage
  locks := locks
  databases := by simp [catalog]
  tables other := by
    simp only [catalog, List.mem_singleton]
    by_cases same : other = ref
    · simp [same, absent]
    · simp [same]
  skipped := by simp [skipped, absent]

variable {store} in
/-- A table with an entry is entered. -/
private theorem Loads.of_entered {ref : TableRef} {table : Table} {after : Store}
    (found : store.storage.table? ref = some table)
    (storage : after.storage = store.storage) (locks : after.locks = store.locks)
    (catalog : after.catalog = store.catalog.addTable table)
    (skipped : after.tablesSkipped = store.tablesSkipped) : Loads [] [ref] store after where
  storage := storage
  locks := locks
  databases := by simp [catalog, Catalog.hasDatabase, Catalog.addTable]
  tables other := by
    obtain ⟨schema, rows, -, -, rfl⟩ := Storage.table?_eq_some_iff.1 found
    simp only [catalog, Catalog.addTable, Index.find?_put, List.mem_singleton]
    by_cases same : other = ref
    · simp [same, found]
    · simp [same, Ne.symm same]
  skipped := by simp [skipped, found]

/-- Loading a table enters what is found in its file or skips it. -/
theorem loads_loadTable (ref : TableRef) : Loads [] [ref] store (store.loadTable ref) := by
  have recovered := store.storage.recover_eq ref.path
  rcases recovery : store.storage.recover ref.path with ⟨events, outcome⟩
  rw [recovery] at recovered
  dsimp only at recovered
  subst recovered
  rw [loadTable, recovery]
  cases schema : store.storage.readSchema ref.path with
  | error error =>
      have absent : store.storage.table? ref = none := by rw [Storage.table?, schema]
      refine .of_skipped absent ?_ ?_ ?_ ?_ <;> simp [tablesSkipped, count, log, note]
  | ok found =>
      cases rows : store.storage.rows ref.path with
      | error error =>
          have absent : store.storage.table? ref = none := by rw [Storage.table?, schema, rows]
          refine .of_skipped absent ?_ ?_ ?_ ?_ <;>
            simp [Except.map, tablesSkipped, count, log, note]
      | ok rows_found =>
          have entry : store.storage.table? ref =
              some ⟨ref, ref.path, found, .behind rows_found⟩ := by
            rw [Storage.table?, schema, rows]
          refine .of_entered entry ?_ ?_ ?_ ?_ <;> simp [Except.map, tablesSkipped]

theorem hasDatabase_addDatabase (catalog : Catalog) (name other : Text) :
    (catalog.addDatabase name).hasDatabase other = true ↔
      other = name ∨ catalog.hasDatabase other = true := by
  rw [Catalog.addDatabase]
  split
  · rename_i known
    constructor
    · exact .inr
    · rintro (rfl | h)
      · exact known
      · exact h
  · simp [Catalog.hasDatabase, or_comm]

theorem tables_addDatabase (catalog : Catalog) (name : Text) :
    (catalog.addDatabase name).tables = catalog.tables := by
  rw [Catalog.addDatabase]
  split <;> rfl

/-- Loading a database enters it and loads the tables that are listed in it. -/
theorem loads_loadDatabase (database : Text) :
    Loads [database] (store.storage.tablesIn database) store (store.loadDatabase database) := by
  let entered : Store := { store with catalog := store.catalog.addDatabase database }
  have enters : Loads [database] [] store entered :=
    { storage := rfl
      locks := rfl
      databases := fun name => by
        rw [List.mem_singleton]
        exact hasDatabase_addDatabase store.catalog database name
      tables := fun ref => by simp [entered, tables_addDatabase]
      skipped := rfl }
  rw [loadDatabase, Storage.tablesIn]
  cases store.storage.tablesOf database with
  | error reason =>
      exact
        { storage := rfl
          locks := rfl
          databases := enters.databases
          tables := enters.tables
          skipped := rfl }
  | ok refs =>
      have tables := Loads.foldl (fun _ => []) (fun _ ref => [ref]) loads_loadTable refs entered
      have none_more : refs.flatMap (fun _ => ([] : List Text)) = [] := by simp
      have each_ref : refs.flatMap (fun ref => [ref]) = refs := by simp
      have together := enters.trans tables
      rw [none_more, each_ref] at together
      exact together

/-- The store with all that a storage root holds, whose databases are given. -/
def enterAll (store : Store) (storage : Storage) (names : List Text) : Store :=
  let emptied := { store with storage, catalog := Catalog.empty, locks := Locks.none }
  let entered := (names.foldl loadDatabase (emptied.log (.loading storage.root))).countTables
  entered.log (.loaded entered.catalog.databases.length entered.catalog.tables.size)

/-- What a load does once its root directory is there and can be listed. -/
theorem load_eq_ok_iff {store loaded : Store} :
    store.load = .ok loaded ↔ ∃ storage names, store.storage.prepared = .ok storage ∧
      storage.databases [] = .ok names ∧ loaded = store.enterAll storage names := by
  constructor
  · intro h
    obtain ⟨emptied, reset_ok, entered⟩ := bind_eq_ok h
    obtain ⟨storage, prepared, rfl⟩ := map_eq_ok reset_ok
    obtain ⟨names, listed, rfl⟩ := map_eq_ok entered
    exact ⟨storage, names, prepared, listed, rfl⟩
  · rintro ⟨storage, names, prepared, listed, rfl⟩
    rw [load, reset, prepared]
    simp only [Except.map, Except.bind, loadDatabases, storage_log, listed]
    rfl

/-- A load enters the databases that are listed, with the tables in them. -/
theorem load_eq_ok {store loaded : Store} (h : store.load = .ok loaded) :
    ∃ storage names, store.storage.prepared = .ok storage ∧ storage.databases [] = .ok names ∧
      Loads names (names.flatMap storage.tablesIn)
        { store with storage, catalog := Catalog.empty, locks := Locks.none } loaded := by
  obtain ⟨storage, names, prepared, listed, rfl⟩ := load_eq_ok_iff.1 h
  have databases := Loads.foldl (fun name => [name]) Storage.tablesIn loads_loadDatabase names
    ({ store with storage, catalog := Catalog.empty, locks := Locks.none }.log
      (.loading storage.root))
  have each_name : names.flatMap (fun name => [name]) = names := by simp
  rw [each_name] at databases
  exact ⟨storage, names, prepared, listed,
    { storage := databases.storage
      locks := databases.locks
      databases := databases.databases
      tables := databases.tables
      skipped := databases.skipped }⟩

section Listed

variable {store : Store} {storage : Storage}

theorem loadDatabase_of_listed {database : Text} {refs : List TableRef}
    (stored : store.storage = storage) (listed : storage.tablesOf database = .ok refs) :
    store.loadDatabase database =
      refs.foldl loadTable { store with catalog := store.catalog.addDatabase database } := by
  rw [loadDatabase, stored, listed]

theorem loadDatabase_of_unlisted {database reason : Text} (stored : store.storage = storage)
    (unlisted : storage.tablesOf database = .error reason) :
    store.loadDatabase database =
      { store with catalog := store.catalog.addDatabase database }.log
        (.listingFailed database reason) := by
  rw [loadDatabase, stored, unlisted]

variable {names : List Text} (prepared : store.storage.prepared = .ok storage)
  (listed : storage.databases [] = .ok names)

include prepared listed

theorem load_of_listed : store.load = .ok (store.enterAll storage names) :=
  load_eq_ok_iff.2 ⟨storage, names, prepared, listed, rfl⟩

/-- A load succeeds if the root directory can be listed. -/
theorem exists_load : ∃ loaded, store.load = .ok loaded :=
  ⟨_, load_of_listed prepared listed⟩

end Listed

end Store
end FlatStore
