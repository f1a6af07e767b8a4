import FlatStore.Store.Basic

/-!
# Loading a store

At start the catalog is built from the storage tree: every directory directly below the root is a
database and every table file in it a table, whose schema comes from the header line and whose
allocator continues behind the greatest identity in the file.  A table that can not be read is
logged and skipped.  Only a root that is no directory, or in which nothing can be reached because of
the length of its path, keeps a store from being loaded.
-/

namespace FlatStore
namespace Store

/-- Enter a table file of a known database, or skip it. -/
def loadTable (store : Store) (ref : TableRef) : Store :=
  let skip (store : Store) (error : StoreError) : Store :=
    (store.log (.tableSkipped ref error)).count fun metrics =>
      { metrics with tablesSkipped := metrics.tablesSkipped + 1 }
  match store.storage.readSchema ref.path with
  | .error error => skip store error
  | .ok schema =>
      match store.storage.recover ref.path with
      | (events, .error error) => skip (store.logAll events) error
      | (events, .ok allocator) =>
          let store := store.logAll events
          { store with catalog := store.catalog.addTable ⟨ref, ref.path, schema, allocator⟩ }

/-- Enter a database with its tables; one that can not be listed is entered without tables. -/
def loadDatabase (store : Store) (database : Text) : Store :=
  let store := { store with catalog := store.catalog.addDatabase database }
  match store.storage.tablesOf database with
  | .error reason => store.log (.listingFailed database reason)
  | .ok refs => refs.foldl loadTable store

/-- Forget the catalog and the locks, and make sure that the root directory is there. -/
def reset (store : Store) : Except Refusal Store :=
  store.storage.prepared.map fun storage =>
    { store with storage, catalog := Catalog.empty, locks := Locks.none }

/-- Enter every database below the root. -/
def loadDatabases (store : Store) : Except Refusal Store :=
  let store := store.log (.loading store.storage.root)
  (store.storage.databases []).map fun names =>
    let store := (names.foldl loadDatabase store).countTables
    store.log (.loaded store.catalog.databases.length store.catalog.tables.size)

/-- Build the catalog from the storage tree. -/
def load (store : Store) : Except Refusal Store := store.reset.bind loadDatabases

end Store
end FlatStore
