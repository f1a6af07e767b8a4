import FlatStore.Proofs.Storage
import FlatStore.Store.Create

/-!
# What a creation does

A creation that succeeds puts one new node into the tree and enters it in the catalog.  A creation
that fails changes nothing at all, unless the disk is full when the header of a new table is
written: then the empty file is left.
-/

namespace FlatStore
namespace Store

variable {store after : Store} {database name : Text} {columns : List Text}

/-- Making what is created changes the storage only. -/
theorem make_eq {creation : Creation} {outcome : Except StoreError Unit}
    (h : store.make creation = (after, outcome)) :
    after = { store with storage := after.storage } := by
  cases creation with
  | database name =>
      rw [make] at h
      split at h <;> cases h <;> rfl
  | table entry =>
      cases h
      rfl

theorem create_ok {creation : Creation} (h : store.create creation = (after, .ok ())) :
    store.checkNew creation = .ok () ∧ ∃ made, store.make creation = (made, .ok ()) ∧
      after = (made.enter creation).log creation.event := by
  rw [create] at h
  cases checked : store.checkNew creation with
  | error error =>
      rw [checked] at h
      cases h
  | ok done =>
      rw [checked] at h
      rcases making : store.make creation with ⟨made, error | done⟩
      · rw [making] at h
        cases h
      · rw [making] at h
        cases h
        exact ⟨rfl, made, rfl, rfl⟩

/-- A creation that fails has done nothing, or it has failed at making what is created. -/
theorem create_error {creation : Creation} {error : StoreError}
    (h : store.create creation = (after, .error error)) :
    after = store ∧ store.checkNew creation = .error error ∨
      store.checkNew creation = .ok () ∧ store.make creation = (after, .error error) := by
  rw [create] at h
  cases checked : store.checkNew creation with
  | error other =>
      rw [checked] at h
      cases h
      exact .inl ⟨rfl, rfl⟩
  | ok done =>
      rw [checked] at h
      rcases making : store.make creation with ⟨made, other | done⟩
      · rw [making] at h
        cases h
        exact .inr ⟨rfl, rfl⟩
      · rw [making] at h
        cases h

/-! ## Databases -/

/-- What the creation of a database that succeeds has done. -/
theorem createDatabase_ok (h : store.createDatabase name = (after, .ok ())) :
    isName name = true ∧ store.catalog.hasDatabase name = false ∧
      store.storage.createDatabase [name] = .ok after.storage ∧
      after.catalog = store.catalog.addDatabase name := by
  rw [createDatabase, Creation.ofDatabase, Catalog.checkDatabase] at h
  cases valid : isName name with
  | false =>
      rw [valid] at h
      cases h
  | true =>
      rw [valid] at h
      obtain ⟨checked, made, making, rfl⟩ := create_ok h
      rw [checkNew] at checked
      rw [make] at making
      cases known : store.catalog.hasDatabase name with
      | true =>
          rw [known] at checked
          cases checked
      | false =>
          cases created : store.storage.createDatabase [name] with
          | error error =>
              rw [created] at making
              cases making
          | ok storage =>
              rw [created] at making
              cases making
              exact ⟨rfl, rfl, rfl, rfl⟩

/-- The directory of a database is made or nothing is done. -/
theorem make_database_error {error : StoreError}
    (h : store.make (.database name) = (after, .error error)) : after = store := by
  rw [make] at h
  split at h
  · cases h
    rfl
  · cases h

theorem createDatabase_error {error : StoreError}
    (h : store.createDatabase name = (after, .error error)) : after = store := by
  rw [createDatabase] at h
  cases checked : Catalog.checkDatabase name with
  | error other =>
      rw [Creation.ofDatabase, checked] at h
      cases h
      rfl
  | ok done =>
      rw [Creation.ofDatabase, checked] at h
      rcases create_error h with ⟨same, -⟩ | ⟨-, failed⟩
      · exact same
      · exact make_database_error failed

/-! ## Tables -/

/-- The columns of a new table are names. -/
theorem isName_of_checkColumns {seen : List Text}
    (h : Catalog.checkColumns seen columns = .ok ()) :
    ∀ column ∈ columns, isName column = true := by
  induction columns generalizing seen with
  | nil => simp
  | cons column rest ih =>
      rw [Catalog.checkColumns] at h
      split at h
      · cases h
      · rename_i valid
        split at h
        · cases h
        · split at h
          · cases h
          · intro other member
            rcases List.mem_cons.1 member with rfl | member
            · simpa using valid
            · exact ih h other member

theorem checkTable_ok {catalog : Catalog} (h : catalog.checkTable database name columns = .ok ()) :
    catalog.hasDatabase database = true ∧ isName name = true ∧
      ∀ column ∈ columns, isName column = true := by
  rw [Catalog.checkTable] at h
  split at h
  · cases h
  · rename_i known
    split at h
    · cases h
    · rename_i valid
      split at h
      · cases h
      · exact ⟨by simpa using known, by simpa using valid, isName_of_checkColumns h⟩

/-- The entry of a new table. -/
def newTable (database name : Text) (columns : List Text) : Table :=
  ⟨⟨database, name⟩, TableRef.path ⟨database, name⟩, Schema.ofColumns columns, Allocator.first⟩

/-- A table that is not known has no entry. -/
theorem find?_of_checkNew {ref : TableRef}
    (checked : (if store.catalog.tables.contains ref then
      Except.error (StoreError.tableExists ref.table) else .ok ()) = .ok ()) :
    store.catalog.tables.find? ref = none := by
  split at checked
  · cases checked
  · rename_i new
    simpa [Index.contains] using new

/-- What the creation of a table that succeeds has done. -/
theorem createTable_ok (h : store.createTable database name columns = (after, .ok ())) :
    store.catalog.hasDatabase database = true ∧ isName name = true ∧
      (∀ column ∈ columns, isName column = true) ∧
      store.catalog.tables.find? ⟨database, name⟩ = none ∧
      store.storage.createTable (TableRef.path ⟨database, name⟩) (Schema.ofColumns columns) =
        (after.storage, .ok ()) ∧
      after.catalog = store.catalog.addTable (newTable database name columns) := by
  rw [createTable, Creation.ofTable] at h
  cases valid : store.catalog.checkTable database name columns with
  | error error =>
      rw [valid] at h
      cases h
  | ok done =>
      rw [valid] at h
      obtain ⟨known, is_name, columns_valid⟩ := checkTable_ok valid
      obtain ⟨checked, made, making, rfl⟩ := create_ok h
      rw [Creation.ofColumns, checkNew] at checked
      rw [Creation.ofColumns, make] at making
      dsimp only at checked making
      have absent : store.catalog.tables.find? ⟨database, name⟩ = none :=
        find?_of_checkNew checked
      rcases created : store.storage.createTable (TableRef.path ⟨database, name⟩)
        (Schema.ofColumns columns) with ⟨storage, error | made⟩
      · rw [created] at making
        cases making
      · rw [created] at making
        cases making
        exact ⟨known, is_name, columns_valid, absent, rfl, rfl⟩

/-- What is wrong when a new table loses its header: all checks are passed and its file can be
opened, but the disk is full. -/
structure LosesHeader (store : Store) (database name : Text) (columns : List Text)
    (place : Place) : Prop where
  checked : store.catalog.checkTable database name columns = .ok ()
  new : store.catalog.tables.find? ⟨database, name⟩ = none
  free : store.storage.FreeAt (TableRef.path ⟨database, name⟩) place
  full : store.storage.troubles.fullLines ≠ 0

/-- The creation of a table that fails has done nothing, or its file is left without the header. -/
theorem createTable_error {error : StoreError}
    (h : store.createTable database name columns = (after, .error error)) :
    after = store ∨ ∃ place, store.LosesHeader database name columns place ∧
      error = .file .createTable .diskFull ∧ after.catalog = store.catalog ∧
      store.storage.Strands place after.storage := by
  rw [createTable, Creation.ofTable] at h
  cases valid : store.catalog.checkTable database name columns with
  | error other =>
      rw [valid] at h
      cases h
      exact .inl rfl
  | ok done =>
      rw [valid] at h
      rcases create_error h with ⟨same, -⟩ | ⟨checked, failed⟩
      · exact .inl same
      · rw [Creation.ofColumns, checkNew] at checked
        rw [Creation.ofColumns, make] at failed
        dsimp only at checked failed
        rcases created : store.storage.createTable (TableRef.path ⟨database, name⟩)
          (Schema.ofColumns columns) with ⟨storage, other | made⟩
        · rw [created] at failed
          cases failed
          rcases Storage.createTable_error created with rfl | ⟨place, free, full, same, strands⟩
          · exact .inl rfl
          · exact .inr ⟨place, ⟨valid, find?_of_checkNew checked, free, full⟩, same, rfl, strands⟩
        · rw [created] at failed
          cases failed

/-- A table that loses its header is not entered, but its file is there. -/
theorem LosesHeader.createTable_eq {place : Place}
    (loses : store.LosesHeader database name columns place) :
    store.createTable database name columns =
      ({ store with storage := { store.storage.withStub place with
          troubles.fullLines := store.storage.troubles.fullLines - 1 } },
        .error (.file .createTable .diskFull)) := by
  have new : store.catalog.tables.contains ⟨database, name⟩ = false := by
    rw [Index.contains, loses.new]
    rfl
  rw [createTable, Creation.ofTable, loses.checked]
  change store.create (Creation.ofColumns database name columns) = _
  rw [create, Creation.ofColumns, checkNew]
  dsimp only
  rw [new, if_neg Bool.false_ne_true]
  dsimp only
  rw [make]
  dsimp only
  rw [Storage.createTable_of_full loses.free loses.full]

end Store
end FlatStore
