import FlatStore.Proofs.Storage
import FlatStore.Store.Insert

/-!
# What an insert does

An insert that succeeds appends the line of its row, with the current identity of the table, and
moves the allocator one step on.  An insert that fails changes nothing in the catalog: the identity
that it writes is the current one, so the allocator never refuses it.  Nor does it change a file;
but where the file of the table is gone, a new one is left when the line finds the disk full.
-/

namespace FlatStore

namespace Catalog

theorem resolve_eq_ok_iff {catalog : Catalog} {database name : Text} {table : Table} :
    catalog.resolve database name = .ok table ↔
      catalog.hasDatabase database = true ∧
        catalog.tables.find? ⟨database, name⟩ = some table := by
  rw [resolve]
  cases catalog.hasDatabase database with
  | false => simp
  | true => cases catalog.tables.find? ⟨database, name⟩ <;> simp

/-- A new allocator is all that changes, and only for its table. -/
theorem find?_setAllocator (catalog : Catalog) (ref other : TableRef) (allocator : Allocator) :
    (catalog.setAllocator ref allocator).tables.find? other =
      if ref = other then (catalog.tables.find? ref).map fun table => { table with allocator }
      else catalog.tables.find? other :=
  Index.find?_modify ..

@[simp]
theorem hasDatabase_setAllocator (catalog : Catalog) (ref : TableRef) (allocator : Allocator)
    (name : Text) :
    (catalog.setAllocator ref allocator).hasDatabase name = catalog.hasDatabase name := rfl

end Catalog

namespace Store

variable {store after : Store} {database name : Text} {values : List Text}

/-- The lock is of no concern to the rest. -/
theorem allocatorOf_hold (store : Store) (table : Table) :
    ((store.registerLock table.ref).hold table.ref).allocatorOf table = store.allocatorOf table :=
  rfl

theorem allocatorOf_of_find? {table entry : Table}
    (found : store.catalog.tables.find? table.ref = some entry) :
    store.allocatorOf table = entry.allocator := by
  rw [allocatorOf, found]
  rfl

/-- The allocator never refuses the current identity. -/
theorem advance_current (store : Store) (table : Table) :
    store.advance table (store.allocatorOf table).next =
      .ok { store with
        catalog := store.catalog.setAllocator table.ref (store.allocatorOf table).step } := by
  rw [advance, Allocator.advancePast_next]

/-- Under the lock an insert appends its row and then moves the allocator on. -/
theorem appendNext_eq (store : Store) (table : Table) (values : List Text) :
    store.appendNext table values =
      match store.storage.appendRow table.path (store.allocatorOf table).next values with
      | (storage, .error failure) => ({ store with storage }, .error failure)
      | (storage, .ok ()) =>
          ({ store with
            storage
            catalog := store.catalog.setAllocator table.ref (store.allocatorOf table).step },
            .ok (store.allocatorOf table).next) := by
  rw [appendNext, appendRow]
  rcases store.storage.appendRow table.path (store.allocatorOf table).next values with
    ⟨storage, failure | done⟩
  · rfl
  · have current := advance_current { store with storage } table
    have same : { store with storage }.allocatorOf table = store.allocatorOf table := rfl
    rw [same] at current
    dsimp only
    rw [current]

/-- What an insert that succeeds has done. -/
theorem insert_ok {id : Int} (h : store.insert database name values = (after, .ok id)) :
    ∃ table, store.catalog.resolve database name = .ok table ∧
      id = (store.allocatorOf table).next ∧
      store.storage.appendRow table.path id values = (after.storage, .ok ()) ∧
      after.catalog = store.catalog.setAllocator table.ref (store.allocatorOf table).step := by
  rw [insert] at h
  cases resolved : store.catalog.resolve database name with
  | error error =>
      rw [resolved] at h
      cases h
  | ok table =>
      rw [resolved] at h
      dsimp only at h
      rw [appendNext_eq, allocatorOf_hold] at h
      rcases appended : ((store.registerLock table.ref).hold table.ref).storage.appendRow table.path
        (store.allocatorOf table).next values with ⟨storage, failure | done⟩
      · rw [appended] at h
        cases h
      · rw [appended] at h
        cases h
        exact ⟨table, rfl, rfl, appended, rfl⟩

/-- An insert that fails changes nothing in the catalog, and what it does to the files is what its
append does. -/
theorem insert_error {failure : Failure}
    (h : store.insert database name values = (after, .error failure)) :
    after.catalog = store.catalog ∧ (store.storage.Spends after.storage ∨
      ∃ table place, store.catalog.resolve database name = .ok table ∧
        store.storage.LosesRow table.path (store.allocatorOf table).next values place ∧
        failure = .store (.file .appendRow .diskFull) ∧
        store.storage.Strands place after.storage) := by
  rw [insert] at h
  cases resolved : store.catalog.resolve database name with
  | error error =>
      rw [resolved] at h
      cases h
      exact ⟨rfl, .inl (.refl _)⟩
  | ok table =>
      rw [resolved] at h
      dsimp only at h
      rw [appendNext_eq, allocatorOf_hold] at h
      rcases appended : ((store.registerLock table.ref).hold table.ref).storage.appendRow table.path
        (store.allocatorOf table).next values with ⟨storage, other | done⟩
      · rw [appended] at h
        cases h
        refine ⟨rfl, (Storage.appendRow_error appended).imp_right ?_⟩
        rintro ⟨place, loses, same, strands⟩
        exact ⟨table, place, rfl, loses, same, strands⟩
      · rw [appended] at h
        cases h

/-- A row whose line is lost leaves its file behind, and nothing else has changed on disk. -/
theorem insert_of_losesRow {table : Table} {place : Place}
    (resolved : store.catalog.resolve database name = .ok table)
    (loses : store.storage.LosesRow table.path (store.allocatorOf table).next values place) :
    (store.insert database name values).2 = .error (.store (.file .appendRow .diskFull)) ∧
      (store.insert database name values).1.storage.tree =
        store.storage.tree.put place (.file []) := by
  have appended : ((store.registerLock table.ref).hold table.ref).storage.appendRow table.path
      (store.allocatorOf table).next values = _ := loses.appendRow_eq
  rw [insert, resolved]
  dsimp only
  rw [appendNext_eq, allocatorOf_hold, appended]
  exact ⟨rfl, rfl⟩

end Store
end FlatStore
