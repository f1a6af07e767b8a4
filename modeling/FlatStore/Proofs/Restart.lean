import FlatStore.Proofs.Reachable

/-!
# Restarting

A store that is loaded from what a run of commands left on disk knows the same databases and the
same tables as the store at the end of the run, each with the same file, schema and next identity.
The only condition is that no row holds a line end.
-/

namespace FlatStore
namespace Store

/-- An insert that succeeds gives values without line ends. -/
def CleanInserts (line : Text) (result : Except Failure Answer) : Prop :=
  ∀ table values id, Plan.read line = .ok (.insert table values) →
    result = .ok (.inserted table id) → ∀ value ∈ values, '\n' ∉ value ∧ '\r' ∉ value

/-- The text holds the schema of a table, ends a line, and its greatest identity is the one before
the next. -/
structure Recorded (table : Table) (text : Text) : Prop where
  schema : (Reading.ofText text).schema = .ok table.schema
  ends : text.EndsLine
  /-- The allocator stands behind the rows. -/
  next : highestIdentity (Reading.ofText text).rows + 1 = table.allocator.next

/-- Clean rows are recorded. -/
theorem keeps_recorded : Keeps Recorded fun values => ∀ value ∈ values, IsCell value where
  new database name columns plain :=
    { schema := Reading.schema_ofText_header rfl fun column member => (plain column member).isCell
      ends := endsLine_lineOf _
      next := by
        rw [Reading.rows_ofText_header
          (Schema.isCell_ofColumns fun column member => (plain column member).isCell)]
        rfl }
  row table text values recorded clean written :=
    { schema := by
        rw [Reading.schema_ofText_append recorded.ends (head?_lineOf_integer _ _)]
        exact recorded.schema
      ends := (Text.endsLine_append (by simp [lineOf])).2 (endsLine_lineOf _)
      next := by
        have positive := table.allocator.one_le_next
        have old := recorded.next
        rw [Reading.rows_ofText_append_row recorded.ends _ clean,
          highestIdentity_append_row written (by omega), Allocator.next_step]
        omega }

/-- The stores that clean runs lead to are recorded on disk. -/
theorem sound_recorded {store : Store} (reachable : Reachable CleanInserts store) :
    Sound Recorded store := by
  refine reachable.sound keeps_recorded fun line result clean table values id read inserted => ?_
  intro value member
  obtain ⟨no_feed, no_return⟩ := clean table values id read inserted value member
  exact ⟨((Plan.fits_of_read read).2 value member).1, no_feed, no_return⟩

/-! ## What is found on disk -/

section Found

variable {Fits : Table → Text → Prop} {store : Store}

theorem Sound.place_eq (sound : Sound Fits store) {ref : TableRef} {table : Table}
    (found : store.catalog.tables.find? ref = some table) :
    ref.place = (Place.root.child ref.database).child ref.fileName :=
  TableRef.place_of_ne_upward
    (sound.databases ref.database (sound.tables ref table found).1).plain.ne_upward

/-- Below the root there are the databases. -/
theorem Sound.below_root (sound : Sound Fits store) {name : Text}
    (there : (store.storage.tree.find? (Place.root.child name)).isSome = true) :
    store.catalog.hasDatabase name = true := by
  rcases sound.nothing_else _ there with root | ⟨other, known, here⟩ | ⟨ref, table, found, here⟩
  · have depths := congrArg Place.depth root
    cases depths
  · rw [Place.child_injective here]
    exact known
  · rw [sound.place_eq found] at here
    have depths := congrArg Place.depth here
    cases depths

/-- Below a database there are its tables. -/
theorem Sound.below_database (sound : Sound Fits store) {database name : Text}
    (there : (store.storage.tree.find? ((Place.root.child database).child name)).isSome = true) :
    ∃ ref table, store.catalog.tables.find? ref = some table ∧ ref.database = database ∧
      ref.fileName = name := by
  rcases sound.nothing_else _ there with root | ⟨other, known, here⟩ | ⟨ref, table, found, here⟩
  · have depths := congrArg Place.depth root
    cases depths
  · have depths := congrArg Place.depth here
    cases depths
  · rw [sound.place_eq found] at here
    have names := congrArg Place.names here
    simp only [Place.names_child, Place.names_root, List.nil_append, List.singleton_append,
      List.cons.injEq, and_true] at names
    exact ⟨ref, table, found, names.1.symm, names.2.symm⟩

/-- The databases are listed. -/
theorem Sound.databases_listed (sound : Sound Fits store) :
    ∃ names, store.storage.databases [] = .ok names ∧
      ∀ name, name ∈ names ↔ store.catalog.hasDatabase name = true := by
  have each_short : ∀ name, (store.storage.tree.find? (Place.root.child name)).isSome = true →
      store.storage.isTooLong ([] ++ [name]) = false := fun name there =>
    (sound.databases name (sound.below_root there)).short
  have children := Storage.children_of_directory rfl sound.root sound.short each_short
  refine ⟨_, Storage.databases_of_children children, fun name => ?_⟩
  rw [List.mem_filter, Tree.mem_childNames]
  constructor
  · rintro ⟨there, -⟩
    exact sound.below_root there
  · intro known
    have database := sound.databases name known
    refine ⟨?_, Tree.isDirectory_of_find? database.leads database.directory⟩
    rw [database.directory]
    rfl

/-- The tables of a database are listed. -/
theorem Sound.mem_tablesIn (sound : Sound Fits store) {database : Text}
    (known : store.catalog.hasDatabase database = true) {ref : TableRef} :
    ref ∈ store.storage.tablesIn database ↔
      ref.database = database ∧ ∃ table, store.catalog.tables.find? ref = some table := by
  have sound_database := sound.databases database known
  have each_short : ∀ name,
      (store.storage.tree.find? ((Place.root.child database).child name)).isSome = true →
      store.storage.isTooLong ([database] ++ [name]) = false := by
    intro name there
    obtain ⟨other, table, found, rfl, rfl⟩ := sound.below_database there
    exact (sound.tables other table found).2.short
  have children := Storage.children_of_directory sound_database.leads sound_database.directory
    sound_database.short each_short
  rw [Storage.tablesIn_of_children (sound.listable database) children, List.mem_filterMap]
  constructor
  · rintro ⟨name, member, of_file⟩
    obtain ⟨file_eq, database_eq⟩ := TableRef.fileName_of_ofFile? of_file
    obtain ⟨other, table, found, other_database, other_file⟩ :=
      sound.below_database (Tree.mem_childNames.1 (List.mem_filter.1 member).1)
    have same : other = ref := by
      obtain ⟨other_name, other_table⟩ := other
      obtain ⟨ref_name, ref_table⟩ := ref
      rw [TableRef.mk.injEq]
      exact ⟨other_database.trans database_eq.symm,
        TableRef.fileName_injective (other_file.trans file_eq.symm)⟩
    exact ⟨database_eq, table, same ▸ found⟩
  · rintro ⟨rfl, table, found⟩
    have entry := (sound.tables ref table found).2
    obtain ⟨text, there, -⟩ := entry.file
    refine ⟨ref.fileName, List.mem_filter.2 ⟨Tree.mem_childNames.2 ?_, ?_⟩,
      TableRef.ofFile?_fileName ref entry.plain.1⟩
    · rw [← sound.place_eq found, there]
      rfl
    · have of_file : TableRef.ofFile? [] ref.fileName = some ⟨[], ref.table⟩ :=
        TableRef.ofFile?_fileName ⟨[], ref.table⟩ entry.plain.1
      rw [Bool.and_eq_true, of_file]
      exact ⟨Tree.isFile_of_find? entry.leads there, rfl⟩

end Found

/-! ## What is loaded -/

/-- What is found in the file of a recorded table is its entry. -/
theorem table?_of_recorded {store : Store} (sound : Sound Recorded store) {ref : TableRef}
    {table : Table} (found : store.catalog.tables.find? ref = some table) :
    store.storage.table? ref = some table := by
  obtain ⟨-, entry⟩ := sound.tables ref table found
  obtain ⟨text, stored, recorded⟩ := entry.content
  have schema : store.storage.readSchema ref.path = .ok table.schema := by
    rw [Storage.readSchema_of_text stored, recorded.schema]
    rfl
  refine Storage.table?_eq_some_iff.2 ⟨_, _, schema, Storage.rows_of_text stored, ?_⟩
  have allocator_eq : table.allocator = .behind (Reading.ofText text).rows := by
    rw [Allocator.mk.injEq]
    exact recorded.next.symm
  rw [← allocator_eq, ← entry.path_eq, ← entry.ref_eq]

/-- Loading what a run left on disk gives the catalog that the run ended with. -/
theorem load_eq_live {store : Store} (reachable : Reachable CleanInserts store) :
    ∃ loaded, (ofStorage store.storage).load = .ok loaded ∧
      loaded.storage = store.storage ∧
      (∀ name, loaded.catalog.hasDatabase name = store.catalog.hasDatabase name) ∧
      (∀ ref, loaded.catalog.tables.find? ref = store.catalog.tables.find? ref) ∧
      loaded.tablesSkipped = 0 := by
  have sound := sound_recorded reachable
  obtain ⟨names, listed, mem_names⟩ := sound.databases_listed
  have prepared : (ofStorage store.storage).storage.prepared = .ok store.storage := by
    rw [ofStorage, Storage.prepared, sound.root]
  obtain ⟨loaded, loads_ok⟩ := exists_load prepared listed
  obtain ⟨storage, other_names, prepared_eq, listed_eq, loads⟩ := load_eq_ok loads_ok
  rw [prepared, Except.ok.injEq] at prepared_eq
  subst prepared_eq
  rw [listed, Except.ok.injEq] at listed_eq
  subst listed_eq
  have mem_refs {ref : TableRef} : ref ∈ names.flatMap store.storage.tablesIn ↔
      ∃ table, store.catalog.tables.find? ref = some table := by
    rw [List.mem_flatMap]
    constructor
    · rintro ⟨database, member, listed_ref⟩
      exact ((sound.mem_tablesIn ((mem_names database).1 member)).1 listed_ref).2
    · rintro ⟨table, found⟩
      have known := (sound.tables ref table found).1
      exact ⟨ref.database, (mem_names _).2 known, (sound.mem_tablesIn known).2 ⟨rfl, table, found⟩⟩
  refine ⟨loaded, loads_ok, loads.storage, fun name => ?_, fun ref => ?_, ?_⟩
  · have known := loads.databases name
    rw [mem_names] at known
    rw [Bool.eq_iff_iff, known]
    simp [Catalog.empty, Catalog.hasDatabase]
  · rw [loads.tables ref]
    cases found : store.catalog.tables.find? ref with
    | none =>
        have absent : ref ∉ names.flatMap store.storage.tablesIn := by
          intro member
          obtain ⟨table, there⟩ := mem_refs.1 member
          rw [found] at there
          cases there
        rw [if_neg absent]
        rfl
    | some table =>
        rw [if_pos (mem_refs.2 ⟨table, found⟩), table?_of_recorded sound found]
        rfl
  · rw [loads.skipped]
    have none_skipped : (names.flatMap store.storage.tablesIn).countP
        (fun ref => (store.storage.table? ref).isNone) = 0 := by
      rw [List.countP_eq_zero]
      intro ref member
      obtain ⟨table, found⟩ := mem_refs.1 member
      rw [table?_of_recorded sound found]
      exact Bool.false_ne_true
    rw [none_skipped]
    rfl

/-- The values that a plan inserts. -/
def insertedValues : Plan → List Text
  | .insert _ values => values
  | _ => []

/-- A table with one row is loaded with the identity behind that row. -/
theorem load_eq_live_one_row :
    ∃ loaded,
      (ofStorage (afterLines (creatingLines "stock".toList ++
        ["INSERT INTO stock VALUES (bolt)".toList])).storage).load = .ok loaded ∧
      (loaded.catalog.tables.find? ⟨"shop".toList, "stock".toList⟩).map
        (fun table => table.allocator.next) = some 2 := by
  have clean : ∀ line ∈ creatingLines "stock".toList ++ ["INSERT INTO stock VALUES (bolt)".toList],
      ∀ result, CleanInserts line result := by
    intro line member result table values id read _
    have values_clean : ∀ line ∈ creatingLines "stock".toList ++
        ["INSERT INTO stock VALUES (bolt)".toList],
        ∀ plan ∈ (Plan.read line).toOption, ∀ value ∈ insertedValues plan,
          '\n' ∉ value ∧ '\r' ∉ value := by
      decide +kernel
    refine values_clean line member (.insert table values) ?_
    rw [read]
    rfl
  obtain ⟨loaded, loads_ok, -, -, tables, -⟩ := load_eq_live (reachable_afterLines clean)
  refine ⟨loaded, loads_ok, ?_⟩
  rw [tables]
  decide +kernel

end Store
end FlatStore
