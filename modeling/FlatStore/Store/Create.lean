import FlatStore.Store.Basic

/-!
# Creating databases and tables

A creation checks names without any lock; then, under the catalog lock, it looks for a duplicate,
creates the directory or file exclusively and registers it.  A name that is taken on disk but
not in the catalog is refused all the same.
-/

namespace FlatStore

/-- Something to be created, its names checked. -/
inductive Creation
  | database (name : Text)
  | table (entry : Table)
deriving DecidableEq, Repr

namespace Creation

/-- The path of what is created. -/
def path : Creation → Path
  | .database name => [name]
  | .table entry => entry.path

/-- What is logged about a creation. -/
def event : Creation → Event
  | .database name => .databaseCreated name
  | .table entry => .tableCreated entry.ref entry.schema.columns

/-- The creation of a table with the given columns behind the identity column. -/
def ofColumns (database name : Text) (columns : List Text) : Creation :=
  let ref : TableRef := ⟨database, name⟩
  .table ⟨ref, ref.path, Schema.ofColumns columns, Allocator.first⟩

/-- The creation of a database, if its name can be used. -/
def ofDatabase (name : Text) : Except StoreError Creation :=
  (Catalog.checkDatabase name).map fun _ => .database name

/-- The creation of a table, if its database is known and its names can be used. -/
def ofTable (catalog : Catalog) (database name : Text) (columns : List Text) :
    Except StoreError Creation :=
  (catalog.checkTable database name columns).map fun _ => ofColumns database name columns

end Creation

namespace Store

/-! ## The steps of a creation -/

/-- Refuse to create what the catalog knows. -/
def checkNew (store : Store) : Creation → Except StoreError Unit
  | .database name =>
      if store.catalog.hasDatabase name then .error (.databaseExists name) else .ok ()
  | .table entry =>
      if store.catalog.tables.contains entry.ref then .error (.tableExists entry.ref.table)
      else .ok ()

/-- Create the directory or the file. -/
def make (store : Store) : Creation → Store × Except StoreError Unit
  | .database name =>
      match store.storage.createDatabase [name] with
      | .error error => (store, .error error)
      | .ok storage => ({ store with storage }, .ok ())
  | .table entry =>
      let (storage, outcome) := store.storage.createTable entry.path entry.schema
      ({ store with storage }, outcome)

/-- Register what was created. -/
def enter (store : Store) : Creation → Store
  | .database name => { store with catalog := store.catalog.addDatabase name }
  | .table entry => ({ store with catalog := store.catalog.addTable entry }).countTables

/-! ## The whole creation -/

/-- Create and register something whose names are checked. -/
def create (store : Store) (creation : Creation) : Store × Except StoreError Unit :=
  match store.checkNew creation with
  | .error error => (store, .error error)
  | .ok () =>
      match store.make creation with
      | (store, .error error) => (store, .error error)
      | (store, .ok ()) => ((store.enter creation).log creation.event, .ok ())

/-- Create and register a database. -/
def createDatabase (store : Store) (name : Text) : Store × Except StoreError Unit :=
  match Creation.ofDatabase name with
  | .error error => (store, .error error)
  | .ok creation => store.create creation

/-- Create and register a table with the given columns behind the identity column. -/
def createTable (store : Store) (database name : Text) (columns : List Text) :
    Store × Except StoreError Unit :=
  match Creation.ofTable store.catalog database name columns with
  | .error error => (store, .error error)
  | .ok creation => store.create creation

end Store
end FlatStore
