import FlatStore.Catalog.Allocator
import FlatStore.Table.Name
import FlatStore.Table.Ref
import FlatStore.Table.Schema
import FlatStore.Error
import FlatStore.Index

/-!
# The catalog

The index of every known database and table.  A table's entry holds its file, its schema and its
allocator.
-/

namespace FlatStore

/-- What the catalog knows about a table. -/
structure Table where
  ref : TableRef
  /-- The table's file, from the storage root. -/
  path : Path
  schema : Schema
  allocator : Allocator
deriving DecidableEq, Repr

/-- Every known database and table. -/
structure Catalog where
  /-- The databases, in the order in which they became known. -/
  databases : List Text
  tables : Index TableRef Table

namespace Catalog

/-- Nothing is known. -/
def empty : Catalog := ⟨[], Index.empty⟩

/-- Whether a database is known. -/
def hasDatabase (catalog : Catalog) (name : Text) : Bool := catalog.databases.contains name

/-- The known databases in ascending order. -/
def databaseNames (catalog : Catalog) : List Text := catalog.databases.mergeSort Text.precedes

/-- The known tables of a database in ascending order. -/
def tableNames (catalog : Catalog) (database : Text) : Except StoreError (List Text) :=
  if catalog.hasDatabase database then
    .ok (((catalog.tables.keys.filter (·.database == database)).map TableRef.table).mergeSort
      Text.precedes)
  else .error (.noDatabase database)

/-- Look up a table. -/
def resolve (catalog : Catalog) (database name : Text) : Except StoreError Table :=
  if catalog.hasDatabase database then
    match catalog.tables.find? ⟨database, name⟩ with
    | some table => .ok table
    | none => .error (.noTable name)
  else .error (.noDatabase database)

/-- Make a database known. -/
def addDatabase (catalog : Catalog) (name : Text) : Catalog :=
  if catalog.hasDatabase name then catalog
  else { catalog with databases := catalog.databases ++ [name] }

/-- Enter a table. -/
def addTable (catalog : Catalog) (table : Table) : Catalog :=
  { catalog with tables := catalog.tables.put table.ref table }

/-- Give a known table another allocator. -/
def setAllocator (catalog : Catalog) (ref : TableRef) (allocator : Allocator) : Catalog :=
  { catalog with tables := catalog.tables.modify ref fun table => { table with allocator } }

/-- Check the columns of a new table, from left to right: each a name, none the identity column,
none twice. -/
def checkColumns (seen : List Text) : List Text → Except StoreError Unit
  | [] => .ok ()
  | column :: rest =>
      if !isName column then .error (.invalidName .column column)
      else if column = identityColumn then .error .identityGiven
      else if seen.contains column then .error (.duplicateColumn column)
      else checkColumns (column :: seen) rest

/-- What a new table must satisfy apart from being new. -/
def checkTable (catalog : Catalog) (database name : Text) (columns : List Text) :
    Except StoreError Unit :=
  if !catalog.hasDatabase database then .error (.noDatabase database)
  else if !isName name then .error (.invalidName .table name)
  else if columns.isEmpty then .error .noColumns
  else checkColumns [] columns

/-- What a new database must satisfy apart from being new. -/
def checkDatabase (name : Text) : Except StoreError Unit :=
  if isName name then .ok () else .error (.invalidName .database name)

end Catalog
end FlatStore
