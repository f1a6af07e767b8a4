import FlatStore.Catalog.Basic
import FlatStore.Catalog.Locks
import FlatStore.Disk.Storage
import FlatStore.Telemetry.Metrics
import FlatStore.Telemetry.Span

/-!
# The store

The storage root, the catalog of what is in it, the table locks, and the telemetry: what was
counted, logged and traced.  Telemetry is written and never read back, so it has no influence on
what the store does.
-/

namespace FlatStore

/-- What was counted, logged and traced. -/
structure Telemetry where
  metrics : Metrics
  notices : List Notice
  spans : List Span

/-- Nothing happened yet. -/
def Telemetry.none : Telemetry := ⟨Metrics.zero, [], []⟩

/-- The state of the store. -/
structure Store where
  storage : Storage
  catalog : Catalog
  locks : Locks
  telemetry : Telemetry

namespace Store

/-- The store over a storage root of which nothing is known. -/
def ofStorage (storage : Storage) : Store := ⟨storage, Catalog.empty, Locks.none, Telemetry.none⟩

/-! ## Telemetry -/

/-- Add a notice to the log. -/
def note (store : Store) (notice : Notice) : Store :=
  { store with telemetry.notices := store.telemetry.notices ++ [notice] }

/-- Log an event that belongs to no connection. -/
def log (store : Store) (event : Event) : Store := store.note ⟨event, none⟩

/-- Log events in order. -/
def logAll (store : Store) (events : List Event) : Store :=
  events.foldl (fun store event => store.log event) store

/-- The records of everything logged so far, and the store without its notices. -/
def takeRecords (store : Store) : List Record × Store :=
  (store.telemetry.notices.map Notice.record, { store with telemetry.notices := [] })

/-- Change the counters. -/
def count (store : Store) (change : Metrics → Metrics) : Store :=
  { store with telemetry.metrics := change store.telemetry.metrics }

/-- Record a finished span. -/
def trace (store : Store) (span : Span) : Store :=
  { store with telemetry.spans := store.telemetry.spans ++ [span] }

/-- Set the number of registered tables to what the catalog holds. -/
def countTables (store : Store) : Store :=
  store.count fun metrics => { metrics with tablesRegistered := store.catalog.tables.size }

@[simp]
theorem storage_note (store : Store) (notice : Notice) :
    (store.note notice).storage = store.storage := rfl

@[simp]
theorem catalog_note (store : Store) (notice : Notice) :
    (store.note notice).catalog = store.catalog := rfl

@[simp]
theorem locks_note (store : Store) (notice : Notice) :
    (store.note notice).locks = store.locks := rfl

@[simp]
theorem storage_log (store : Store) (event : Event) :
    (store.log event).storage = store.storage := rfl

@[simp]
theorem catalog_log (store : Store) (event : Event) :
    (store.log event).catalog = store.catalog := rfl

@[simp]
theorem locks_log (store : Store) (event : Event) : (store.log event).locks = store.locks := rfl

@[simp]
theorem storage_count (store : Store) (change : Metrics → Metrics) :
    (store.count change).storage = store.storage := rfl

@[simp]
theorem catalog_count (store : Store) (change : Metrics → Metrics) :
    (store.count change).catalog = store.catalog := rfl

@[simp]
theorem locks_count (store : Store) (change : Metrics → Metrics) :
    (store.count change).locks = store.locks := rfl

@[simp]
theorem storage_trace (store : Store) (span : Span) : (store.trace span).storage = store.storage :=
  rfl

@[simp]
theorem catalog_trace (store : Store) (span : Span) : (store.trace span).catalog = store.catalog :=
  rfl

@[simp]
theorem locks_trace (store : Store) (span : Span) : (store.trace span).locks = store.locks := rfl

/-! ## Locks -/

/-- Make sure that a table has a lock. -/
def registerLock (store : Store) (table : TableRef) : Store :=
  { store with locks := store.locks.register table }

/-- Take the lock of a table, which is free, and count the wait for it. -/
def hold (store : Store) (table : TableRef) : Store :=
  { store with locks := store.locks.put table true }.count fun metrics =>
    { metrics with lockWaits := metrics.lockWaits + 1 }

/-- Give the lock of a table back. -/
def release (store : Store) (table : TableRef) : Store :=
  { store with locks := store.locks.release table }

/-! ## Reading -/

/-- Look up a table and make a pass over its rows. -/
def scan (store : Store) (database name : Text) : Except StoreError (Schema × Scan) :=
  match store.catalog.resolve database name with
  | .error error => .error error
  | .ok table => .ok (table.schema, store.storage.scan table.path)

end Store
end FlatStore
