import FlatStore.Proofs.TreeOnDisk

/-!
# What is registered

A load registers the directories below the root as databases, and in those that can be listed every
table file that is a text whose first line begins with the identity column.  The first line gives
the schema and the first cells of the other lines the next identity.  Every other table file is
skipped and counted, and no content whatsoever keeps a store from being loaded.
-/

namespace FlatStore

open Text

/-! ## The content of a table file -/

namespace Text

/-- What stands before the first line end, or all of the text if it has none. -/
def firstLine (text : Text) : Text := text.takeWhile fun c => !isLineEnd c

/-- The first line of a text is the first of its lines. -/
theorem headD_lines (text : Text) : (lines true text).headD [] = firstLine text := by
  induction text with
  | nil => rfl
  | cons c rest ih =>
      cases inner : isLineEnd c with
      | false =>
          rw [lines_cons inner, firstLine, List.takeWhile_cons_of_pos (by simp [inner]),
            ← firstLine,
            ← ih]
          cases lines true rest <;> rfl
      | true =>
          rw [firstLine, List.takeWhile_cons_of_neg (by simp [inner])]
          rw [isLineEnd, Bool.or_eq_true, decide_eq_true_eq, decide_eq_true_eq] at inner
          rcases inner with rfl | rfl
          · by_cases feed : rest.head? = some '\n'
            · obtain ⟨more, rfl⟩ := List.head?_eq_some_iff.1 feed
              rw [lines_carriageReturn_lineFeed]
              rfl
            · rw [lines_carriageReturn feed]
              rfl
          · rw [lines_lineFeed]
            rfl

theorem isLine_firstLine (text : Text) : IsLine (firstLine text) := fun c member => by
  simpa using List.mem_takeWhile_imp member

end Text

/-- A line with something in its first cell that is not blank is not blank. -/
theorem isBlankText_eq_false_of_cell {line cell : Text} {c : Char} (member : cell ∈ cellsOf line)
    (here : c ∈ cell) (ink : isBlank c = false) : isBlankText line = false :=
  isBlankText_eq_false_of_mem (mem_of_mem_cutAt here member) ink

/-- A header line stands for its cells if the first one is the identity column. -/
theorem Schema.ofHeader_eq_ok_iff {line : Text} (isLine : IsLine line) {schema : Schema} :
    Schema.ofHeader (some line) = .ok schema ↔
      schema.columns = cellsOf line ∧ (cellsOf line).head? = some identityColumn := by
  rw [Schema.ofHeader, trimLineEnd_of_isLine isLine]
  obtain ⟨first, rest, cells⟩ := List.exists_cons_of_ne_nil (cutAt_ne_nil cellMark line)
  rw [← cellsOf] at cells
  dsimp only
  rw [cells, List.headD_cons, List.head?_cons, Option.some.injEq]
  by_cases identity : first = identityColumn
  · have ink : isBlankText line = false :=
      isBlankText_eq_false_of_cell (c := 'i') (by rw [cells]; exact List.mem_cons_self)
        (by rw [identity]; decide) (by decide)
    obtain ⟨columns⟩ := schema
    simp [ink, identity, eq_comm]
  · simp only [identity, if_false, and_false, iff_false]
    split <;> simp

namespace Reading

/-- A text has a schema if its first line begins with the identity column. -/
theorem schema_ofText_eq_ok_iff {text : Text} {schema : Schema} :
    (ofText text).schema = .ok schema ↔ schema.columns = cellsOf (firstLine text) ∧
      (cellsOf (firstLine text)).head? = some identityColumn := by
  rw [schema_ofText, ← Schema.ofHeader_eq_ok_iff (isLine_firstLine text), ← headD_lines]
  cases Text.lines true text with
  | nil => exact iff_of_false (by simp [Schema.ofHeader]) fun h => by cases h
  | cons line rest => rfl

end Reading

/-! ## The next identity -/

/-- The identity follows the greatest one of some rows; rows without one do not count. -/
structure IsBehind (rows : List (List Text)) (next : Int) : Prop where
  one_le : 1 ≤ next
  above : ∀ cells ∈ rows, ∀ id, identity? cells = some id → id < next
  /-- There is no gap. -/
  least : next = 1 ∨ ∃ cells ∈ rows, identity? cells = some (next - 1)

/-- The greatest identity is zero or found. -/
theorem exists_highestIdentity (rows : List (List Text)) :
    highestIdentity rows = 0 ∨ ∃ cells ∈ rows, identity? cells = some (highestIdentity rows) := by
  induction rows with
  | nil => exact .inl rfl
  | cons cells rest ih =>
      have rest_nonneg := highestIdentity_nonneg rest
      rw [highestIdentity]
      by_cases later : (identity? cells).getD 0 ≤ highestIdentity rest
      · rw [Int.max_eq_right later]
        rcases ih with zero | ⟨other, member, found⟩
        · exact .inl zero
        · exact .inr ⟨other, List.mem_cons_of_mem _ member, found⟩
      · rw [Int.max_eq_left (by omega)]
        cases found : identity? cells with
        | none =>
            rw [found, Option.getD_none] at later
            omega
        | some id => exact .inr ⟨cells, List.mem_cons_self, found⟩

/-- The allocator behind some rows is the only one that follows them. -/
theorem isBehind_iff {rows : List (List Text)} {next : Int} :
    IsBehind rows next ↔ next = (Allocator.behind rows).next := by
  have next_behind : (Allocator.behind rows).next = highestIdentity rows + 1 := rfl
  rw [next_behind]
  constructor
  · rintro ⟨one_le, above, least⟩
    have reached : next ≤ highestIdentity rows + 1 := by
      rcases least with rfl | ⟨cells, member, found⟩
      · have := highestIdentity_nonneg rows
        omega
      · have := le_highestIdentity member found
        omega
    rcases exists_highestIdentity rows with zero | ⟨cells, member, found⟩
    · omega
    · have := above cells member _ found
      omega
  · rintro rfl
    refine ⟨?_, ?_, ?_⟩
    · have := highestIdentity_nonneg rows
      omega
    · intro cells member id found
      have := le_highestIdentity member found
      omega
    · rcases exists_highestIdentity rows with zero | ⟨cells, member, found⟩
      · exact .inl (by omega)
      · exact .inr ⟨cells, member, by rw [found]; congr 1; omega⟩

/-! ## One table -/

/-- What a text says about a table if it is the content of its file. -/
structure Depicts (text : Text) (ref : TableRef) (table : Table) : Prop where
  ref_eq : table.ref = ref
  path_eq : table.path = ref.path
  identity_first : (cellsOf (firstLine text)).head? = some identityColumn
  columns : table.schema.columns = cellsOf (firstLine text)
  /-- The other lines count, unless they are blank. -/
  next : IsBehind (rowsOf ((lines true text).drop 1)) table.allocator.next

namespace Storage

/-- A table file that a load looks at: its database can be listed. -/
structure OffersTable (storage : Storage) (ref : TableRef) (content : Octets) : Prop where
  listable : storage.Listable ref.database
  /-- A suffix alone is no name of a table file. -/
  named : ref.table ≠ []
  stored : storage.tree.find? ref.home = some (.file content)

variable {storage : Storage} {ref : TableRef} {content : Octets} {table : Table}

theorem OffersTable.contentAt (offers : storage.OffersTable ref content)
    (onDisk : storage.tree.OnDisk) : storage.contentAt ref.path = .ok content := by
  have there : (storage.tree.find? ref.home).isSome = true := by rw [offers.stored]; rfl
  exact contentAt_eq_ok_iff.2 ⟨offers.listable.short.2 ref.fileName there,
    Tree.read_eq_ok_iff.2 ⟨ref.home, onDisk.resolve_child there, offers.stored⟩⟩

/-- A load learns of a table exactly if its file is a text that depicts it. -/
theorem table?_eq_some_iff_depicts (offers : storage.OffersTable ref content)
    (onDisk : storage.tree.OnDisk) :
    storage.table? ref = some table ↔
      ∃ text, content = Utf8.encode text ∧ Depicts text ref table := by
  have stored := offers.contentAt onDisk
  rw [table?_eq_some_iff]
  constructor
  · rintro ⟨schema, rows, header, data, rfl⟩
    obtain ⟨text, stored_text, rfl⟩ := exists_text_of_rows data
    rw [stored, Except.ok.injEq] at stored_text
    subst stored_text
    obtain ⟨columns, identity_first⟩ :=
      Reading.schema_ofText_eq_ok_iff.1 (schema_of_readSchema stored header)
    exact ⟨text, rfl, rfl, rfl, identity_first, columns, isBehind_iff.2 rfl⟩
  · rintro ⟨text, rfl, depicts⟩
    obtain ⟨table_ref, path, schema, allocator⟩ := table
    have header := Reading.schema_ofText_eq_ok_iff.2 ⟨depicts.columns, depicts.identity_first⟩
    have next := isBehind_iff.1 depicts.next
    refine ⟨schema, _, ?_, rows_of_text stored, ?_⟩
    · rw [readSchema_of_text stored, header]
      rfl
    · obtain ⟨rfl, rfl⟩ : table_ref = ref ∧ path = ref.path := ⟨depicts.ref_eq, depicts.path_eq⟩
      obtain ⟨next_id, one_le⟩ := allocator
      cases next
      rfl

/-- What a load learns of the table files that it looks at. -/
theorem table?_of_offersTable_iff (onDisk : storage.tree.OnDisk) :
    (∃ content, storage.OffersTable ref content) ∧ storage.table? ref = some table ↔
      ∃ text, storage.OffersTable ref (Utf8.encode text) ∧ Depicts text ref table := by
  constructor
  · rintro ⟨⟨content, offers⟩, learned⟩
    obtain ⟨text, rfl, depicts⟩ := (table?_eq_some_iff_depicts offers onDisk).1 learned
    exact ⟨text, offers, depicts⟩
  · rintro ⟨text, offers, depicts⟩
    exact ⟨⟨_, offers⟩, (table?_eq_some_iff_depicts offers onDisk).2 ⟨text, rfl, depicts⟩⟩

/-- The tables that are found in all databases are the table files that a load looks at. -/
theorem mem_flatMap_tablesIn_iff (onDisk : storage.tree.OnDisk)
    (root : storage.tree.find? .root = some .directory) {names : List Text}
    (listed : storage.databases [] = .ok names) :
    ref ∈ names.flatMap storage.tablesIn ↔ ∃ content, storage.OffersTable ref content := by
  rw [List.mem_flatMap]
  constructor
  · rintro ⟨database, member, here⟩
    have found := (mem_databases_iff onDisk root listed).1 member
    obtain ⟨rfl, named, listable, content, stored⟩ := (mem_tablesIn_iff onDisk found).1 here
    exact ⟨content, listable, named, stored⟩
  · rintro ⟨content, listable, named, stored⟩
    -- The file stands in a directory, which is that of its database.
    have found : storage.tree.find? (Place.root.child ref.database) = some .directory := by
      have above := onDisk.rooted.above ref.home (by rw [stored]; rfl) fun same => by
        simpa [TableRef.home] using congrArg Place.names same
      rwa [TableRef.home, Place.parent_child] at above
    exact ⟨ref.database, (mem_databases_iff onDisk root listed).2 found,
      (mem_tablesIn_iff onDisk found).2 ⟨rfl, named, listable, content, stored⟩⟩

theorem nodup_flatMap_tablesIn (onDisk : storage.tree.OnDisk)
    (root : storage.tree.find? .root = some .directory) {names : List Text}
    (listed : storage.databases [] = .ok names) : (names.flatMap storage.tablesIn).Nodup := by
  rw [List.nodup_flatMap]
  refine ⟨fun name member =>
      nodup_tablesIn onDisk ((mem_databases_iff onDisk root listed).1 member),
    (nodup_databases onDisk root listed).imp ?_⟩
  intro name other apart ref here there
  exact apart ((database_of_mem_tablesIn here).symm.trans (database_of_mem_tablesIn there))

end Storage

/-! ## Whole loads -/

namespace Store

/-- Number of the tables that are counted as registered. -/
def tablesRegistered (store : Store) : Nat := store.telemetry.metrics.tablesRegistered

/-- What a load has made of a store. -/
structure Registers (before after : Store) : Prop where
  /-- Every file and directory is as it was; the root directory may be new. -/
  nodes : ∀ place, after.storage.tree.find? place =
    if place = .root then some .directory else before.storage.tree.find? place
  storage : after.storage = before.storage.withTree after.storage.tree
  databases : ∀ name, after.catalog.hasDatabase name = true ↔
    after.storage.tree.find? (Place.root.child name) = some .directory
  tables : ∀ ref table, after.catalog.tables.find? ref = some table ↔
    ∃ text, after.storage.OffersTable ref (Utf8.encode text) ∧ Depicts text ref table
  /-- The table files that were not registered are counted. -/
  skipped : ∃ others : List TableRef, others.Nodup ∧
    (∀ ref, ref ∈ others ↔ (∃ content, after.storage.OffersTable ref content) ∧
      after.catalog.tables.find? ref = none) ∧
    after.tablesSkipped = before.tablesSkipped + others.length
  registered : ∃ refs : List TableRef, refs.Nodup ∧
    (∀ ref, ref ∈ refs ↔ ∃ table, after.catalog.tables.find? ref = some table) ∧
    after.tablesRegistered = refs.length

/-- What keeps a store from being loaded is not what its files hold: the root is a file, or the path
of the root or of something directly below it is too long. -/
structure Loadable (storage : Storage) : Prop where
  root : ∀ content, storage.tree.find? .root ≠ some (.file content)
  short : storage.ShortBelow .root

/-! ## The root directory -/

end Store

namespace Storage

variable {storage after : Storage}

/-- The root directory is there after it was prepared, and nothing else has changed. -/
theorem prepared_eq_ok (prepares : storage.prepared = .ok after) :
    after = storage.withTree after.tree ∧ ∀ place, after.tree.find? place =
      if place = .root then some .directory else storage.tree.find? place := by
  rw [prepared] at prepares
  split at prepares
  · cases prepares
    refine ⟨rfl, fun place => ?_⟩
    rw [withTree, Index.find?_put]
    simp [eq_comm]
  · rename_i there
    cases prepares
    refine ⟨rfl, fun place => ?_⟩
    split
    · rename_i here
      rw [here, there]
    · rfl
  · cases prepares

theorem exists_prepared_iff :
    (∃ after, storage.prepared = .ok after) ↔
      ∀ content, storage.tree.find? .root ≠ some (.file content) := by
  rw [prepared]
  split <;> rename_i found <;> simp [found]

theorem onDisk_of_prepared (onDisk : storage.tree.OnDisk)
    (prepares : storage.prepared = .ok after) :
    after.tree.OnDisk where
  rooted := (rooted_of_prepared onDisk.rooted prepares).1
  short place there := by
    rw [(prepared_eq_ok prepares).2] at there
    split at there
    · rename_i here
      subst here
      simp
    · exact onDisk.short place there

/-- The paths are as long as before. -/
theorem shortBelow_root_of_prepared (prepares : storage.prepared = .ok after) :
    after.ShortBelow .root ↔ storage.ShortBelow .root := by
  obtain ⟨same, nodes⟩ := prepared_eq_ok prepares
  have child_ne_root (name : Text) : Place.root.child name ≠ .root := fun same => by
    simpa using congrArg Place.names same
  have too_long (path : Path) : after.isTooLong path = storage.isTooLong path := by
    rw [same]
    rfl
  simp only [ShortBelow, nodes, child_ne_root, if_false, too_long]

end Storage

namespace Store

variable {store loaded : Store}

/-- A load succeeds exactly if the root directory is there or can be made, and can be listed. -/
theorem exists_load_iff (onDisk : store.storage.tree.OnDisk) :
    (∃ loaded, store.load = .ok loaded) ↔ Loadable store.storage := by
  constructor
  · rintro ⟨loaded, loads⟩
    obtain ⟨storage, names, prepares, listed, -⟩ := load_eq_ok loads
    have root := (Storage.rooted_of_prepared onDisk.rooted prepares).2
    have short :=
      ((Storage.databases_eq_ok_iff (Storage.onDisk_of_prepared onDisk prepares) root).1 listed).1
    exact ⟨Storage.exists_prepared_iff.1 ⟨storage, prepares⟩,
      (Storage.shortBelow_root_of_prepared prepares).1 short⟩
  · rintro ⟨no_file, short⟩
    obtain ⟨storage, prepares⟩ := Storage.exists_prepared_iff.2 no_file
    have root := (Storage.rooted_of_prepared onDisk.rooted prepares).2
    have short_after := (Storage.shortBelow_root_of_prepared prepares).2 short
    exact exists_load prepares
      ((Storage.databases_eq_ok_iff (Storage.onDisk_of_prepared onDisk prepares) root).2
        ⟨short_after, rfl⟩)

/-- At the end of a load the registered tables are counted. -/
theorem tablesRegistered_of_load (loads : store.load = .ok loaded) :
    loaded.tablesRegistered = loaded.catalog.tables.size := by
  rw [load] at loads
  obtain ⟨emptied, -, entered⟩ := bind_eq_ok loads
  obtain ⟨names, -, rfl⟩ := map_eq_ok entered
  rfl

/-- A load registers what is there. -/
theorem registers_of_load (onDisk : store.storage.tree.OnDisk) (loads : store.load = .ok loaded) :
    store.Registers loaded := by
  obtain ⟨storage, names, prepares, listed, entered⟩ := load_eq_ok loads
  obtain ⟨storage_eq, nodes⟩ := Storage.prepared_eq_ok prepares
  have onDisk_after := Storage.onDisk_of_prepared onDisk prepares
  have root := (Storage.rooted_of_prepared onDisk.rooted prepares).2
  have kept : loaded.storage = storage := entered.storage
  have offered (ref : TableRef) : ref ∈ names.flatMap storage.tablesIn ↔
      ∃ content, storage.OffersTable ref content :=
    Storage.mem_flatMap_tablesIn_iff onDisk_after root listed
  have tables (ref : TableRef) : loaded.catalog.tables.find? ref =
      if ref ∈ names.flatMap storage.tablesIn then storage.table? ref else none := by
    have found := entered.tables ref
    rwa [Catalog.empty, Index.find?_empty, Option.or_none] at found
  rw [← kept] at storage_eq nodes onDisk_after root listed tables offered
  refine ⟨nodes, storage_eq, fun name => ?_, fun ref table => ?_, ?_, ?_⟩
  · rw [entered.databases, Storage.mem_databases_iff onDisk_after root listed]
    simp [Catalog.hasDatabase, Catalog.empty]
  · rw [tables ref, Option.ite_none_right_eq_some, offered,
      Storage.table?_of_offersTable_iff onDisk_after]
  · refine ⟨(names.flatMap loaded.storage.tablesIn).filter fun ref =>
      (loaded.storage.table? ref).isNone, ?_, ?_, ?_⟩
    · exact (Storage.nodup_flatMap_tablesIn onDisk_after root listed).filter _
    · intro ref
      rw [List.mem_filter, tables, ← offered]
      refine and_congr_right fun member => ?_
      rw [if_pos member, Option.isNone_iff_eq_none]
    · rw [← List.countP_eq_length_filter, kept]
      exact entered.skipped
  · exact ⟨loaded.catalog.tables.keys, loaded.catalog.tables.nodup_keys, fun ref => by
      rw [Index.mem_keys_iff, Option.isSome_iff_exists], by
      rw [tablesRegistered_of_load loads, Index.keys, List.length_map]
      rfl⟩

/-- Loading a store over a tree of directories and files with any names and any content registers
what is there, and only a root that can not be reached or listed keeps it from that. -/
theorem load_registers (onDisk : store.storage.tree.OnDisk) :
    ((∃ loaded, store.load = .ok loaded) ↔ Loadable store.storage) ∧
      ∀ loaded, store.load = .ok loaded → store.Registers loaded :=
  ⟨exists_load_iff onDisk, fun _ loads => registers_of_load onDisk loads⟩

/-! ## A mixed tree -/

/-- Two databases, of which one can not be listed; the other one holds a table whose last line is
not ended and a file that is no text to its end. -/
def mixedStorage : Storage :=
  let shop := Place.root.child "shop".toList
  let locked := Place.root.child "locked".toList
  let tree := (Tree.bare.put shop .directory).put locked .directory
  let tree := tree.put (shop.child "stock.tsv".toList)
    (.file (Utf8.encode "id\ta\r\n7\tx\n \nsix\n12".toList))
  let tree := tree.put (shop.child "torn.tsv".toList)
    (.file (Utf8.encode "id\n".toList ++ [0xC3]))
  let tree := tree.put (locked.child "stock.tsv".toList) (.file (Utf8.encode "id\n".toList))
  ⟨"/data".toList, tree, Troubles.none, Index.empty.put "locked".toList "injected".toList⟩

theorem children_mixed : mixedStorage.children [] = .ok ["locked".toList, "shop".toList] := by
  have names : mixedStorage.tree.childNames .root = ["locked".toList, "shop".toList] :=
    Tree.childNames_eq (by decide +kernel) (by decide +kernel)
  exact Storage.children_of_childNames rfl rfl names rfl (by decide +kernel)

theorem children_mixed_shop :
    mixedStorage.children ["shop".toList] = .ok ["stock.tsv".toList, "torn.tsv".toList] := by
  have names : mixedStorage.tree.childNames (Place.root.child "shop".toList) =
      ["stock.tsv".toList, "torn.tsv".toList] :=
    Tree.childNames_eq (by decide +kernel) (by decide +kernel)
  exact Storage.children_of_childNames rfl rfl names rfl (by decide +kernel)

theorem children_mixed_locked :
    mixedStorage.children ["locked".toList] = .ok ["stock.tsv".toList] := by
  have names : mixedStorage.tree.childNames (Place.root.child "locked".toList) =
      ["stock.tsv".toList] :=
    Tree.childNames_eq (by decide +kernel) (by decide +kernel)
  exact Storage.children_of_childNames rfl rfl names rfl (by decide +kernel)

/-- The one table that can be used is registered behind its greatest identity, and the one file that
is torn is skipped. -/
theorem load_registers_mixed :
    mixedStorage.tree.OnDisk ∧ ∃ loaded, (ofStorage mixedStorage).load = .ok loaded ∧
      (ofStorage mixedStorage).Registers loaded ∧
      loaded.catalog.databases = ["locked".toList, "shop".toList] ∧
      loaded.catalog.tables.values.map (fun table => (table.ref.text, table.allocator.next)) =
        [("shop.stock".toList, 13)] ∧
      loaded.tablesSkipped = 1 ∧ loaded.tablesRegistered = 1 := by
  have onDisk : mixedStorage.tree.OnDisk := by decide +kernel
  obtain ⟨loadable_iff, registers⟩ := @load_registers (ofStorage mixedStorage) onDisk
  have listed : mixedStorage.databases [] = .ok ["locked".toList, "shop".toList] :=
    Storage.databases_of_children children_mixed
  have locked : mixedStorage.tablesOf "locked".toList = .error "injected".toList := rfl
  have shop := Storage.tablesOf_of_children rfl children_mixed_shop
  have seen : (ofStorage mixedStorage).load.toOption.map (fun loaded =>
      (loaded.catalog.databases,
        loaded.catalog.tables.values.map fun table => (table.ref.text, table.allocator.next),
        loaded.tablesSkipped, loaded.tablesRegistered)) =
      some (["locked".toList, "shop".toList], [("shop.stock".toList, 13)], 1, 1) := by
    rw [load_of_listed rfl listed, enterAll]
    simp only [List.foldl_cons, List.foldl_nil]
    rw [loadDatabase_of_unlisted ?_ locked, loadDatabase_of_listed ?_ shop]
    · decide +kernel
    · rfl
    · rfl
  obtain ⟨loaded, loads, same⟩ := Option.map_eq_some_iff.1 seen
  have loads := eq_ok_of_toOption loads
  simp only [Prod.mk.injEq] at same
  exact ⟨onDisk, loaded, loads, registers loaded loads, same⟩

end Store
end FlatStore
