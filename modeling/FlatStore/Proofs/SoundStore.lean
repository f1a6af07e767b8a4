import FlatStore.Proofs.Executing
import FlatStore.Proofs.Listing
import FlatStore.Proofs.Plans

/-!
# Sound stores

A store is sound if its catalog is an image of its tree: every database has its directory, every
table has its file, the text of the file fits the entry of the table, and nothing else is in the
tree.  No line of text is about to find the disk full, so none is going to be lost.  What it means
to fit is left open; the effects of command lines keep every relation that holds of new tables and
is kept by appended rows.
-/

namespace FlatStore

theorem IsPlainName.ne_upward {name : Text} (plain : IsPlainName name) : name ≠ Path.upward := by
  rintro rfl
  cases plain.2 '.' (by decide)

namespace Store

/-- A database with its directory. -/
structure SoundDatabase (storage : Storage) (name : Text) : Prop where
  /-- The name leads straight down. -/
  plain : IsPlainName name
  leads : storage.tree.resolve [name] = .ok (Place.root.child name)
  short : storage.isTooLong [name] = false
  directory : storage.tree.find? (Place.root.child name) = some .directory

/-- A table with its file. -/
structure SoundTable (Fits : Table → Text → Prop) (storage : Storage) (ref : TableRef)
    (table : Table) : Prop where
  ref_eq : table.ref = ref
  path_eq : table.path = ref.path
  plain : IsPlainName ref.table
  leads : storage.tree.resolve ref.path = .ok ref.place
  short : storage.isTooLong ref.path = false
  file : ∃ text, storage.tree.find? ref.place = some (.file (Utf8.encode text)) ∧ Fits table text

/-- The catalog is an image of the tree. -/
structure Sound (Fits : Table → Text → Prop) (store : Store) : Prop where
  root : store.storage.tree.find? .root = some .directory
  short : store.storage.isTooLong [] = false
  listable : ∀ database, store.storage.unlistable.find? database = none
  /-- There is room on the disk, though appends may be made to fail. -/
  spared : store.storage.troubles.fullLines = 0
  databases : ∀ name, store.catalog.hasDatabase name = true → SoundDatabase store.storage name
  tables : ∀ ref table, store.catalog.tables.find? ref = some table →
    store.catalog.hasDatabase ref.database = true ∧ SoundTable Fits store.storage ref table
  nothing_else : ∀ place, (store.storage.tree.find? place).isSome = true → place = .root ∨
    (∃ name, store.catalog.hasDatabase name = true ∧ place = Place.root.child name) ∨
    ∃ ref table, store.catalog.tables.find? ref = some table ∧ place = ref.place

/-- New tables fit, and they go on to fit when allowed rows are appended. -/
structure Keeps (Fits : Table → Text → Prop) (Allowed : List Text → Prop) : Prop where
  new : ∀ database name columns, (∀ column ∈ columns, IsPlainName column) →
    Fits (newTable database name columns) (Schema.ofColumns columns).header
  /-- A row with the current identity fits behind what fitted. -/
  row : ∀ table text values, Fits table text → Allowed values →
    Numeral.write? table.allocator.next = some (Numeral.integer table.allocator.next) →
    Fits { table with allocator := table.allocator.step }
      (text ++ lineOf (Numeral.integer table.allocator.next :: values))

variable {Fits : Table → Text → Prop} {Allowed : List Text → Prop}

/-! ## New nodes -/

theorem SoundDatabase.put {storage : Storage} {name : Text} (sound : SoundDatabase storage name)
    {place : Place} (node : Node) (free : storage.tree.find? place ≠ some .directory) :
    SoundDatabase (storage.withTree (storage.tree.put place node)) name where
  plain := sound.plain
  leads := Tree.resolve_put node free sound.leads
  short := sound.short
  directory := Tree.directory_put node free sound.directory

/-- A node elsewhere does not touch a table. -/
theorem SoundTable.put {storage : Storage} {ref : TableRef} {table : Table}
    (sound : SoundTable Fits storage ref table) {place : Place} (node : Node)
    (free : storage.tree.find? place ≠ some .directory) (apart : place ≠ ref.place) :
    SoundTable Fits (storage.withTree (storage.tree.put place node)) ref table where
  ref_eq := sound.ref_eq
  path_eq := sound.path_eq
  plain := sound.plain
  leads := Tree.resolve_put node free sound.leads
  short := sound.short
  file := by
    obtain ⟨text, found, fits⟩ := sound.file
    exact ⟨text, (Index.find?_put_of_ne apart).trans found, fits⟩

theorem SoundTable.content {storage : Storage} {ref : TableRef} {table : Table}
    (sound : SoundTable Fits storage ref table) :
    ∃ text, storage.contentAt ref.path = .ok (Utf8.encode text) ∧ Fits table text := by
  obtain ⟨text, found, fits⟩ := sound.file
  exact ⟨text, Storage.contentAt_eq_ok_iff.2
    ⟨sound.short, Tree.read_eq_ok_iff.2 ⟨ref.place, sound.leads, found⟩⟩, fits⟩

/-! ## Effects -/

variable {before after : Store}

theorem SoundDatabase.congr {storage : Storage} {name : Text} (sound : SoundDatabase storage name)
    (troubles : Troubles) : SoundDatabase { storage with troubles } name :=
  ⟨sound.plain, sound.leads, sound.short, sound.directory⟩

theorem SoundTable.congr {storage : Storage} {ref : TableRef} {table : Table}
    (sound : SoundTable Fits storage ref table) (troubles : Troubles) :
    SoundTable Fits { storage with troubles } ref table :=
  ⟨sound.ref_eq, sound.path_eq, sound.plain, sound.leads, sound.short, sound.file⟩

/-- Soundness is about the tree and the catalog. -/
theorem Sound.congr (sound : Sound Fits before)
    (storage_eq : after.storage = { before.storage with troubles := after.storage.troubles })
    (spared : after.storage.troubles.fullLines = 0)
    (catalog_eq : after.catalog = before.catalog) : Sound Fits after := by
  obtain ⟨storage, catalog, locks, telemetry⟩ := after
  dsimp only at storage_eq spared catalog_eq
  generalize storage.troubles = troubles at storage_eq spared
  subst storage_eq catalog_eq
  exact
    { root := sound.root
      short := sound.short
      listable := sound.listable
      spared
      databases := fun name known => (sound.databases name known).congr troubles
      tables := fun ref table found =>
        ⟨(sound.tables ref table found).1, (sound.tables ref table found).2.congr troubles⟩
      nothing_else := sound.nothing_else }

/-- A new database keeps a store sound. -/
theorem Sound.database {name : Text} (sound : Sound Fits before) (plain : IsPlainName name)
    (created : before.storage.createDatabase [name] = .ok after.storage)
    (catalog_eq : after.catalog = before.catalog.addDatabase name) : Sound Fits after := by
  obtain ⟨storage, catalog, locks, telemetry⟩ := after
  dsimp only at created catalog_eq
  obtain ⟨place, ⟨short, leads, absent⟩, rfl⟩ := Storage.createDatabase_ok created
  obtain rfl := Tree.resolve_singleton plain.ne_upward leads
  subst catalog_eq
  have free : before.storage.tree.find? (Place.root.child name) ≠ some .directory := by
    rw [absent]
    exact nofun
  exact
    { root := Tree.directory_put _ free sound.root
      short := sound.short
      listable := sound.listable
      spared := sound.spared
      databases := fun other known => by
        rcases (hasDatabase_addDatabase before.catalog name other).1 known with rfl | known
        · exact ⟨plain, Tree.resolve_put _ free leads, short, Index.find?_put_self ..⟩
        · exact (sound.databases other known).put _ free
      tables := fun ref table found => by
        rw [tables_addDatabase] at found
        obtain ⟨known, entry⟩ := sound.tables ref table found
        refine ⟨(hasDatabase_addDatabase before.catalog name ref.database).2 (.inr known),
          entry.put _ free ?_⟩
        intro same
        obtain ⟨text, there, -⟩ := entry.file
        rw [← same, absent] at there
        cases there
      nothing_else := fun place there => by
        dsimp only [Storage.withTree] at there ⊢
        rw [Index.find?_put] at there
        split at there
        · rename_i here
          exact .inr (.inl ⟨name, (hasDatabase_addDatabase ..).2 (.inl rfl), here.symm⟩)
        · rcases sound.nothing_else place there with root | ⟨other, known, here⟩ | table
          · exact .inl root
          · exact .inr (.inl ⟨other, (hasDatabase_addDatabase ..).2 (.inr known), here⟩)
          · rw [tables_addDatabase]
            exact .inr (.inr table) }

/-- A new table keeps a store sound. -/
theorem Sound.table {table : Table} (sound : Sound Fits before) (ref : TableRef)
    (known : before.catalog.hasDatabase ref.database = true) (plain : IsPlainName ref.table)
    (ref_eq : table.ref = ref) (path_eq : table.path = ref.path)
    (fits : Fits table table.schema.header)
    (created : before.storage.createTable ref.path table.schema = (after.storage, .ok ()))
    (catalog_eq : after.catalog = before.catalog.addTable table) : Sound Fits after := by
  obtain ⟨storage, catalog, locks, telemetry⟩ := after
  dsimp only at created catalog_eq
  obtain ⟨place, ⟨short, leads, absent⟩, rfl⟩ := Storage.createTable_ok created
  obtain rfl := TableRef.place_eq_of_resolve leads
  subst catalog_eq ref_eq
  have free : before.storage.tree.find? table.ref.place ≠ some .directory := by
    rw [absent]
    exact nofun
  exact
    { root := Tree.directory_put _ free sound.root
      short := sound.short
      listable := sound.listable
      spared := sound.spared
      databases := fun name known => (sound.databases name known).put _ free
      tables := fun other entry found => by
        rw [Catalog.addTable, Index.find?_put] at found
        split at found
        · rename_i same
          cases found
          subst same
          exact ⟨known, rfl, path_eq, plain, Tree.resolve_put _ free leads, short,
            table.schema.header, Index.find?_put_self .., fits⟩
        · rename_i apart
          obtain ⟨known_other, sound_other⟩ := sound.tables other entry found
          exact ⟨known_other, sound_other.put _ free fun same =>
            apart (TableRef.place_injective same)⟩
      nothing_else := fun place there => by
        dsimp only [Storage.withTree] at there ⊢
        rw [Index.find?_put] at there
        split at there
        · rename_i here
          exact .inr (.inr ⟨table.ref, table, Index.find?_put_self .., here.symm⟩)
        · rcases sound.nothing_else place there with root | database | ⟨other, entry, found, here⟩
          · exact .inl root
          · exact .inr (.inl database)
          · by_cases same : table.ref = other
            · exact .inr (.inr ⟨table.ref, table, Index.find?_put_self .., by rw [here, same]⟩)
            · exact .inr (.inr ⟨other, entry, (Index.find?_put_of_ne same).trans found, here⟩) }

/-- A row that fits keeps a store sound. -/
theorem Sound.row {ref : TableRef} {table : Table} {values : List Text}
    (sound : Sound Fits before) (found : before.catalog.tables.find? ref = some table)
    (fits : ∀ text, Fits table text →
      Numeral.write? table.allocator.next = some (Numeral.integer table.allocator.next) →
      Fits { table with allocator := table.allocator.step }
        (text ++ lineOf (Numeral.integer table.allocator.next :: values)))
    (appended : before.storage.appendRow ref.path table.allocator.next values =
      (after.storage, .ok ()))
    (catalog_eq : after.catalog = before.catalog.setAllocator ref table.allocator.step) :
    Sound Fits after := by
  obtain ⟨storage, catalog, locks, telemetry⟩ := after
  dsimp only at appended catalog_eq
  obtain ⟨line, tree, line_eq, short, extended, rfl⟩ := Storage.appendRow_ok appended
  obtain ⟨written, rfl⟩ := Storage.rowLine?_eq_some line_eq
  obtain ⟨known, entry⟩ := sound.tables ref table found
  obtain ⟨text, there, text_fits⟩ := entry.file
  rw [Tree.append_of_find? entry.leads there, Except.ok.injEq, ← Utf8.encode_append] at extended
  subst extended catalog_eq
  have free : before.storage.tree.find? ref.place ≠ some .directory := by
    rw [there]
    exact nofun
  exact
    { root := Tree.directory_put _ free sound.root
      short := sound.short
      listable := sound.listable
      spared := sound.spared
      databases := fun name known => (sound.databases name known).put _ free
      tables := fun other other_entry found_other => by
        rw [Catalog.find?_setAllocator] at found_other
        split at found_other
        · rename_i same
          subst same
          rw [found, Option.map_some, Option.some.injEq] at found_other
          subst found_other
          exact ⟨known, entry.ref_eq, entry.path_eq, entry.plain,
            Tree.resolve_put _ free entry.leads, short, _, Index.find?_put_self ..,
            fits text text_fits written⟩
        · rename_i apart
          obtain ⟨known_other, sound_other⟩ := sound.tables other other_entry found_other
          exact ⟨known_other, sound_other.put _ free fun same =>
            apart (TableRef.place_injective same)⟩
      nothing_else := fun place there_after => by
        dsimp only [Storage.withTree] at there_after ⊢
        have kept : ∀ other entry, before.catalog.tables.find? other = some entry →
            ∃ entry, (before.catalog.setAllocator ref table.allocator.step).tables.find? other =
              some entry := by
          intro other entry found_other
          rw [Catalog.find?_setAllocator]
          split
          · rw [found]
            exact ⟨_, rfl⟩
          · exact ⟨entry, found_other⟩
        rw [Index.find?_put] at there_after
        split at there_after
        · rename_i here
          obtain ⟨entry_after, found_after⟩ := kept ref table found
          exact .inr (.inr ⟨ref, entry_after, found_after, here.symm⟩)
        · rcases sound.nothing_else place there_after with
            root | database | ⟨other, entry, found_other, here⟩
          · exact .inl root
          · exact .inr (.inl database)
          · obtain ⟨entry_after, found_after⟩ := kept other entry found_other
            exact .inr (.inr ⟨other, entry_after, found_after, here⟩) }

end Store
end FlatStore
