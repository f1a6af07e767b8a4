import FlatStore.Store.Basic

/-!
# Inserting rows

An insert takes the lock of its table, reads the current identity, appends the row and moves the
allocator on, in this order; a row that could not be appended leaves its identity to the next
insert.  The steps are definitions of their own, so that they can also be interleaved.
-/

namespace FlatStore
namespace Store

/-! ## The steps of an insert -/

/-- The allocator that a table has now. -/
def allocatorOf (store : Store) (table : Table) : Allocator :=
  ((store.catalog.tables.find? table.ref).getD table).allocator

/-- Append a row to the file of a table. -/
def appendRow (store : Store) (table : Table) (id : Int) (values : List Text) :
    Store × Except Failure Unit :=
  let (storage, outcome) := store.storage.appendRow table.path id values
  ({ store with storage }, outcome)

/-- Move the allocator of a table past an identity, which must be the current one. -/
def advance (store : Store) (table : Table) (id : Int) : Except Misuse Store :=
  match (store.allocatorOf table).advancePast id with
  | .error misuse => .error misuse
  | .ok allocator =>
      .ok { store with catalog := store.catalog.setAllocator table.ref allocator }

/-- Count an inserted row. -/
def countInserted (store : Store) : Store :=
  store.count fun metrics => { metrics with rowsInserted := metrics.rowsInserted + 1 }

/-! ## The whole insert -/

/-- What an insert does while it holds the lock of its table. -/
def appendNext (store : Store) (table : Table) (values : List Text) : Store × Except Failure Int :=
  let id := (store.allocatorOf table).next
  match store.appendRow table id values with
  | (store, .error failure) => (store, .error failure)
  | (store, .ok ()) =>
      match store.advance table id with
      | .error misuse => (store, .error (.misuse misuse))
      | .ok store => (store, .ok id)

/-- Append a row to a table, and give the identity it received. -/
def insert (store : Store) (database name : Text) (values : List Text) :
    Store × Except Failure Int :=
  match store.catalog.resolve database name with
  | .error error => (store, .error (.store error))
  | .ok table =>
      match ((store.registerLock table.ref).hold table.ref).appendNext table values with
      | (store, .error failure) => (store.release table.ref, .error failure)
      | (store, .ok id) => ((store.release table.ref).countInserted, .ok id)

/-- Use up the next identity of a table without writing a row. -/
def nextId (store : Store) (database name : Text) : Store × Except StoreError Int :=
  match store.catalog.tables.find? ⟨database, name⟩ with
  | none => (store, .error (.noIdentities database name))
  | some table =>
      let (id, allocator) := table.allocator.take
      ({ store with catalog := store.catalog.setAllocator table.ref allocator }, .ok id)

end Store
end FlatStore
