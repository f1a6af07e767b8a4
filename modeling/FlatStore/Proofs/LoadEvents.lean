import FlatStore.Proofs.Loading

/-!
# What a load logs

The events of a load are those of its databases one after the other, between the two that say that
it begins and that it is done.  A table that is learned of logs its recovered identity, and a table
file that is skipped logs why.
-/

namespace FlatStore

namespace Storage

/-- What is logged when a table file is looked at. -/
def tableEvents (storage : Storage) (ref : TableRef) : List Event :=
  match storage.readSchema ref.path with
  | .error error => [.tableSkipped ref error]
  | .ok _ =>
      match storage.recover ref.path with
      | (events, .error error) => events ++ [.tableSkipped ref error]
      | (events, .ok _) => events

/-- What is logged when a database is entered. -/
def databaseEvents (storage : Storage) (database : Text) : List Event :=
  match storage.tablesOf database with
  | .error reason => [.listingFailed database reason]
  | .ok refs => refs.flatMap storage.tableEvents

variable {storage : Storage} {ref : TableRef}

/-- A table that is learned of logs complaints about its rows and its next identity. -/
theorem tableEvents_of_table? {table : Table} (learned : storage.table? ref = some table) :
    ∃ complaints : List (Option Text), storage.tableEvents ref =
      complaints.map (.unreadableIdentity (stemOf (storage.nameAt ref.path))) ++
        [.identityRecovered (stemOf (storage.nameAt ref.path)) table.allocator.next] := by
  obtain ⟨schema, rows, header, data, rfl⟩ := table?_eq_some_iff.1 learned
  rw [Storage.rows, Scan.complete] at data
  split at data
  · rename_i whole
    cases data
    refine ⟨unreadableIdentities (storage.scan ref.path).rows, ?_⟩
    rw [tableEvents, header, recover]
    dsimp only
    rw [whole]
  · cases data

/-- A table file that is skipped logs complaints about its rows, as far as they were read, and the
reason. -/
theorem tableEvents_of_table?_eq_none (skipped : storage.table? ref = none) :
    ∃ (complaints : List (Option Text)) (error : StoreError), storage.tableEvents ref =
      complaints.map (.unreadableIdentity (stemOf (storage.nameAt ref.path))) ++
        [.tableSkipped ref error] := by
  rw [tableEvents]
  cases header : storage.readSchema ref.path with
  | error error => exact ⟨[], error, rfl⟩
  | ok schema =>
      rw [recover]
      dsimp only
      cases failure : (storage.scan ref.path).failure with
      | some error => exact ⟨unreadableIdentities (storage.scan ref.path).rows, error, rfl⟩
      | none =>
          have data : storage.rows ref.path = .ok (storage.scan ref.path).rows := by
            rw [rows, Scan.complete, failure]
          rw [table?, header, data] at skipped
          cases skipped

end Storage

namespace Store

/-- Between two stores these events were logged. -/
def Logged (events : List Event) (before after : Store) : Prop :=
  after.telemetry.notices = before.telemetry.notices ++ events.map (⟨·, none⟩)

namespace Logged

variable {events more : List Event} {before between after : Store}

theorem trans (first : Logged events before between) (second : Logged more between after) :
    Logged (events ++ more) before after := by
  rw [Logged, second, first, List.map_append, List.append_assoc]

theorem log (store : Store) (event : Event) : Logged [event] store (store.log event) := rfl

theorem logAll (store : Store) (events : List Event) :
    Logged events store (store.logAll events) := by
  rw [Logged, logAll_eq]

/-- Logging of a family one by one. -/
theorem foldl {α : Type} (events : Storage → α → List Event) {act : Store → α → Store}
    (keeps : ∀ store item, (act store item).storage = store.storage)
    (one : ∀ store item, Logged (events store.storage item) store (act store item))
    (items : List α) (store : Store) :
    Logged (items.flatMap (events store.storage)) store (items.foldl act store) := by
  induction items generalizing store with
  | nil => exact (List.append_nil _).symm
  | cons item rest ih =>
      have others := ih (act store item)
      rw [keeps] at others
      exact (one store item).trans others

end Logged

variable (store : Store)

theorem logged_loadTable (ref : TableRef) :
    Logged (store.storage.tableEvents ref) store (store.loadTable ref) := by
  rw [loadTable, Storage.tableEvents]
  cases store.storage.readSchema ref.path with
  | error error => exact Logged.log store (.tableSkipped ref error)
  | ok schema =>
      rcases store.storage.recover ref.path with ⟨events, error | allocator⟩
      · exact (Logged.logAll store events).trans (.log _ (.tableSkipped ref error))
      · exact Logged.logAll store events

theorem logged_loadDatabase (database : Text) :
    Logged (store.storage.databaseEvents database) store (store.loadDatabase database) := by
  rw [loadDatabase, Storage.databaseEvents]
  cases store.storage.tablesOf database with
  | error reason => exact Logged.log store (.listingFailed database reason)
  | ok refs =>
      exact Logged.foldl Storage.tableEvents (fun other ref => (other.loads_loadTable ref).storage)
        logged_loadTable refs { store with catalog := store.catalog.addDatabase database }

/-- All that a load logs. -/
theorem logged_load {store loaded : Store} (loads : store.load = .ok loaded) :
    ∃ names, loaded.storage.databases [] = .ok names ∧
      Logged (.loading loaded.storage.root :: names.flatMap loaded.storage.databaseEvents ++
        [.loaded loaded.catalog.databases.length loaded.catalog.tables.size]) store loaded := by
  obtain ⟨storage, names, prepares, listed, entered⟩ := load_eq_ok loads
  obtain rfl := Except.ok.inj ((load_of_listed prepares listed).symm.trans loads)
  rw [entered.storage]
  refine ⟨names, listed, ?_⟩
  let emptied : Store := { store with storage, catalog := Catalog.empty, locks := Locks.none }
  have begins := Logged.log emptied (.loading storage.root)
  have databases := Logged.foldl Storage.databaseEvents
    (fun other name => (other.loads_loadDatabase name).storage) logged_loadDatabase names
    (emptied.log (.loading storage.root))
  exact (begins.trans databases).trans (.log _ _)

end Store
end FlatStore
