import FlatStore.Proofs.Registration

/-!
# New tables

A new table is read back as it was created: its schema, no row, and after a load the same entry with
the first identity.  The names of the columns are the only guard of the header line, and they let a
line feed through at their ends, so this is so exactly if no column ends in one.
-/

namespace FlatStore

open Text

/-! ## Names -/

/-- A name holds characters of names, and a line feed at most. -/
theorem isNameChar_or_eq_of_mem {name : Text} (valid : isName name = true) {c : Char}
    (member : c ∈ name) : isNameChar c = true ∨ c = '\n' := by
  rw [isName, withoutLineFeed, Bool.and_eq_true, List.all_eq_true] at valid
  split at valid
  · rename_i last
    obtain ⟨front, rfl⟩ := List.getLast?_eq_some_iff.1 last
    rw [List.dropLast_concat] at valid
    rcases List.mem_append.1 member with here | here
    · exact .inl (valid.2 c here)
    · exact .inr (List.mem_singleton.1 here)
  · exact .inl (valid.2 c member)

/-- The file of a table whose name is valid can be called as it is. -/
theorem TableRef.isEntryName_of_isName {ref : TableRef} (valid : isName ref.table = true) :
    IsEntryName ref.fileName := by
  have absent {c : Char} (outside : isNameChar c = false) (other : c ≠ '\n') : c ∉ ref.table := by
    intro member
    rcases isNameChar_or_eq_of_mem valid member with inner | feed
    · rw [outside] at inner
      cases inner
    · exact other feed
  exact isEntryName_fileName_of_not_mem (absent (by decide) (by decide))
    (absent (by decide) (by decide))

/-- A new file in the directory of a database, under a name that is not too long. -/
theorem Tree.OnDisk.put_home {tree : Tree} (onDisk : tree.OnDisk) {ref : TableRef} (node : Node)
    (inside : tree.find? (Place.root.child ref.database) = some .directory)
    (entry : IsEntryName ref.fileName) (short : Utf8.size ref.fileName ≤ nameLimit)
    (free : tree.find? ref.home ≠ some .directory) : Tree.OnDisk (tree.put ref.home node) where
  rooted := onDisk.rooted.put_home node inside entry free
  short place there name member := by
    rw [Index.find?_put] at there
    split at there
    · rename_i here
      subst here
      rw [TableRef.home, Place.names_child, List.mem_append, List.mem_singleton] at member
      rcases member with member | rfl
      · exact onDisk.short (Place.root.child ref.database) (by rw [inside]; rfl) name member
      · exact short
    · exact onDisk.short place there name member

namespace Store

variable {store later loaded after : Store} {database name : Text} {columns : List Text}
  {ref : TableRef}

/-! ## Loading one table -/

/-- A file of a table stands in a directory below the root directory. -/
theorem root_of_find?_home {tree : Tree} (rooted : tree.Rooted)
    (there : (tree.find? ref.home).isSome = true) : tree.find? .root = some .directory := by
  have child_ne_root (directory : Place) (name : Text) : directory.child name ≠ .root :=
    fun same => by simpa using congrArg Place.names same
  have database := rooted.above ref.home there (child_ne_root _ _)
  rw [TableRef.home, Place.parent_child] at database
  have root := rooted.above _ (by rw [database]; rfl) (child_ne_root .root ref.database)
  rwa [Place.parent_child] at root

/-- A load enters a table that it looks at as it is found in its file. -/
theorem find?_of_load (onDisk : store.storage.tree.OnDisk) (loads : store.load = .ok loaded)
    {content : Octets} (offers : store.storage.OffersTable ref content) :
    loaded.catalog.tables.find? ref = store.storage.table? ref := by
  obtain ⟨storage, names, prepares, listed, entered⟩ := load_eq_ok loads
  have there : (store.storage.tree.find? ref.home).isSome = true := by rw [offers.stored]; rfl
  have root := root_of_find?_home onDisk.rooted there
  rw [Storage.prepared, root] at prepares
  cases prepares
  rw [entered.tables, if_pos ((Storage.mem_flatMap_tablesIn_iff onDisk root listed).2 ⟨_, offers⟩),
    Catalog.empty, Index.find?_empty, Option.or_none]

/-! ## What is read back -/

/-- The table is found in its file as it is entered, without any row. -/
structure ReadsBack (store : Store) (table : Table) : Prop where
  schema : store.storage.readSchema table.path = .ok table.schema
  no_row : store.storage.scan table.path = ⟨[], none⟩
  /-- A later load that can list the root and the database enters the table again, if its file is
  as it is now. -/
  entered : ∀ later : Store, later.storage.tree.OnDisk → Loadable later.storage →
    later.storage.Listable table.ref.database →
    later.storage.tree.find? table.ref.home = store.storage.tree.find? table.ref.home →
    ∃ loaded, later.load = .ok loaded ∧ loaded.catalog.tables.find? table.ref = some table

/-- A new file with plain columns is read as it was created. -/
theorem table?_of_header {storage : Storage}
    (stored : storage.contentAt (TableRef.path ⟨database, name⟩) =
      .ok (Utf8.encode (Schema.ofColumns columns).header))
    (plain : ∀ column ∈ columns, IsPlainName column) :
    storage.readSchema (TableRef.path ⟨database, name⟩) = .ok (Schema.ofColumns columns) ∧
      storage.scan (TableRef.path ⟨database, name⟩) = ⟨[], none⟩ ∧
      storage.table? ⟨database, name⟩ = some (newTable database name columns) := by
  have clean : ∀ column ∈ columns, IsCell column := fun column member =>
    (plain column member).isCell
  have schema : storage.readSchema (TableRef.path ⟨database, name⟩) =
      .ok (Schema.ofColumns columns) := by
    have header : (Reading.ofText (Schema.ofColumns columns).header).schema =
        .ok (Schema.ofColumns columns) := Reading.schema_ofText_header rfl clean
    rw [Storage.readSchema_of_text stored, header]
    rfl
  have no_row := Storage.scan_of_text stored
  rw [Reading.rows_ofText_header (Schema.isCell_ofColumns clean)] at no_row
  have rows : storage.rows (TableRef.path ⟨database, name⟩) = .ok [] := by
    rw [Storage.rows, no_row]
    rfl
  exact ⟨schema, no_row, Storage.table?_eq_some_iff.2 ⟨_, _, schema, rows, rfl⟩⟩

/-- A header with a line feed in it is cut there. -/
theorem not_mem_of_readSchema {storage : Storage} {path : Path}
    (stored : storage.contentAt path = .ok (Utf8.encode (Schema.ofColumns columns).header))
    (schema : storage.readSchema path = .ok (Schema.ofColumns columns)) :
    ∀ column ∈ columns, '\n' ∉ column := by
  intro column member feed
  have read := Storage.schema_of_readSchema stored schema
  obtain ⟨cells, -⟩ := Reading.schema_ofText_eq_ok_iff.1 read
  have here : column ∈ cellsOf (firstLine (Schema.ofColumns columns).header) := by
    rw [← cells]
    exact List.mem_cons_of_mem _ member
  cases isLine_firstLine _ '\n' (mem_of_mem_cutAt feed here)

/-- A new table is read back exactly if no column ends in a line feed.  Its own name may. -/
theorem readsBack_createTable_iff (onDisk : store.storage.tree.OnDisk)
    (inner : database ≠ Path.upward)
    (created : store.createTable database name columns = (after, .ok ())) :
    after.storage.tree.OnDisk ∧
      after.catalog.tables.find? ⟨database, name⟩ = some (newTable database name columns) ∧
      (after.ReadsBack (newTable database name columns) ↔
        ∀ column ∈ columns, column.getLast? ≠ some '\n') := by
  obtain ⟨-, is_name, columns_valid, -, made, catalog⟩ := createTable_ok created
  obtain ⟨place, ⟨-, leads, absent⟩, storage⟩ := Storage.createTable_ok made
  have here : place = TableRef.home ⟨database, name⟩ :=
    (TableRef.place_eq_of_resolve leads).trans (TableRef.place_of_ne_upward inner)
  subst here
  obtain ⟨directory, short⟩ := TableRef.directory_of_resolve inner leads
  have named : name ≠ [] := by
    rintro rfl
    cases is_name
  have stored := Storage.contentAt_of_createTable made
  have found : after.storage.tree.find? (TableRef.home ⟨database, name⟩) =
      some (.file (Utf8.encode (Schema.ofColumns columns).header)) := by
    rw [storage]
    exact Index.find?_put_self ..
  refine ⟨?_, ?_, fun back column member last => ?_, fun no_feed => ?_⟩
  · rw [storage]
    exact onDisk.put_home _ directory (TableRef.isEntryName_of_isName is_name) short
      (by simp [absent])
  · rw [catalog]
    exact Index.find?_put_self ..
  · exact not_mem_of_readSchema stored back.schema column member (List.mem_of_getLast? last)
  · have plain : ∀ column ∈ columns, IsPlainName column := fun column member =>
      isPlainName_of_isName (columns_valid column member) (no_feed column member)
    obtain ⟨schema, no_row, -⟩ := table?_of_header stored plain
    refine ⟨schema, no_row, fun later later_onDisk loadable listable same => ?_⟩
    obtain ⟨loaded, loads⟩ := (exists_load_iff later_onDisk).2 loadable
    have offers : later.storage.OffersTable ⟨database, name⟩
        (Utf8.encode (Schema.ofColumns columns).header) := ⟨listable, named, same.trans found⟩
    refine ⟨loaded, loads, (find?_of_load later_onDisk loads offers).trans ?_⟩
    exact (table?_of_header (offers.contentAt later_onDisk) plain).2.2

/-! ## One database -/

/-- A store with one database. -/
def shopStore : Store :=
  ((ofStorage ⟨"/data".toList, Tree.bare, Troubles.none, Index.empty⟩).createDatabase
    "shop".toList).1

/-- The name of the table itself may end in a line feed. -/
theorem readsBack_createTable_table :
    ∃ after, shopStore.createTable "shop".toList "stock\n".toList ["b-1".toList, "_".toList] =
        (after, .ok ()) ∧
      after.ReadsBack (newTable "shop".toList "stock\n".toList ["b-1".toList, "_".toList]) ∧
      ∃ loaded, after.load = .ok loaded ∧
        loaded.catalog.tables.find? ⟨"shop".toList, "stock\n".toList⟩ =
          some (newTable "shop".toList "stock\n".toList ["b-1".toList, "_".toList]) := by
  let after :=
    (shopStore.createTable "shop".toList "stock\n".toList ["b-1".toList, "_".toList]).1
  have made : (shopStore.createTable "shop".toList "stock\n".toList
      ["b-1".toList, "_".toList]).2 = .ok () := by decide +kernel
  have onDisk : shopStore.storage.tree.OnDisk := by decide +kernel
  have created : shopStore.createTable "shop".toList "stock\n".toList ["b-1".toList, "_".toList] =
      (after, .ok ()) := Prod.ext rfl made
  obtain ⟨onDisk_after, -, back_iff⟩ := readsBack_createTable_iff onDisk (by decide) created
  have back := back_iff.2 (by decide)
  have root : after.storage.tree.find? .root = some .directory := by decide +kernel
  have loadable : Loadable after.storage := ⟨fun content => by simp [root], by decide +kernel⟩
  have listable : after.storage.Listable "shop".toList := ⟨by decide +kernel, by decide +kernel⟩
  exact ⟨after, created, back, back.entered after onDisk_after loadable listable rfl⟩

/-- A line feed at the end of a column makes a row of the columns behind it. -/
theorem not_readsBack_createTable_column :
    (shopStore.createTable "shop".toList "stock".toList ["a\n".toList, "b".toList]).2 = .ok () ∧
      (shopStore.createTable "shop".toList "stock".toList
        ["a\n".toList, "b".toList]).1.storage.readSchema ["shop".toList, "stock.tsv".toList] =
          .ok (Schema.ofColumns ["a".toList]) ∧
      (shopStore.createTable "shop".toList "stock".toList
        ["a\n".toList, "b".toList]).1.storage.scan ["shop".toList, "stock.tsv".toList] =
          ⟨[[[], "b".toList]], none⟩ ∧
      ¬(shopStore.createTable "shop".toList "stock".toList ["a\n".toList, "b".toList]).1.ReadsBack
        (newTable "shop".toList "stock".toList ["a\n".toList, "b".toList]) := by
  have schema : (shopStore.createTable "shop".toList "stock".toList
      ["a\n".toList, "b".toList]).1.storage.readSchema ["shop".toList, "stock.tsv".toList] =
        .ok (Schema.ofColumns ["a".toList]) := by decide +kernel
  refine ⟨by decide +kernel, schema, by decide +kernel, fun back => ?_⟩
  have same := schema.symm.trans back.schema
  rw [Except.ok.injEq] at same
  exact absurd same (by decide)

end Store
end FlatStore
