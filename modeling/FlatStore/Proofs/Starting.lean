import FlatStore.Proofs.LoadEvents
import FlatStore.Proofs.NameCounts
import FlatStore.Proofs.Registration
import FlatStore.Proofs.WrittenRecords
import FlatStore.Server.Program

/-!
# Starting over any files

Whatever the files below a data directory hold, loading them succeeds, and what is logged on the way
can be written, with one exception: a recovered identity may have too many digits.  It is recorded
at the lowest level only, so a server is built at every other level.
-/

namespace FlatStore

/-! ## The events of the tables -/

namespace Storage

variable {storage : Storage} {database : Text} {event : Event}

theorem mem_databaseEvents_iff : event ∈ storage.databaseEvents database ↔
    (∃ reason, storage.tablesOf database = .error reason ∧ event = .listingFailed database reason) ∨
      ∃ ref ∈ storage.tablesIn database, event ∈ storage.tableEvents ref := by
  rw [databaseEvents, tablesIn]
  cases storage.tablesOf database with
  | error reason => simp
  | ok refs => simp

theorem mem_tableEvents_of_table? {ref : TableRef} {table : Table}
    (learned : storage.table? ref = some table) :
    .identityRecovered (stemOf (storage.nameAt ref.path)) table.allocator.next ∈
      storage.tableEvents ref := by
  obtain ⟨complaints, events⟩ := tableEvents_of_table? learned
  rw [events]
  exact List.mem_append_right _ (List.mem_singleton_self _)

/-- What a table logs are texts, apart from its next identity. -/
theorem ofTexts_or_of_mem_tableEvents {ref : TableRef} (member : event ∈ storage.tableEvents ref) :
    event.OfTexts ∨ ∃ name table, storage.table? ref = some table ∧
      event = .identityRecovered name table.allocator.next := by
  cases learned : storage.table? ref with
  | some table =>
      obtain ⟨complaints, events⟩ := tableEvents_of_table? learned
      rw [events, List.mem_append, List.mem_map, List.mem_singleton] at member
      rcases member with ⟨cell, -, rfl⟩ | rfl
      · exact .inl (.unreadableIdentity ..)
      · exact .inr ⟨_, table, rfl, rfl⟩
  | none =>
      obtain ⟨complaints, error, events⟩ := tableEvents_of_table?_eq_none learned
      rw [events, List.mem_append, List.mem_map, List.mem_singleton] at member
      rcases member with ⟨cell, -, rfl⟩ | rfl
      · exact .inl (.unreadableIdentity ..)
      · exact .inl (.tableSkipped ..)

/-- A table file logs that it is skipped if and only if nothing is learned from it. -/
theorem tableSkipped_mem_tableEvents_iff {ref other : TableRef} :
    (∃ error, .tableSkipped ref error ∈ storage.tableEvents other) ↔
      other = ref ∧ storage.table? ref = none := by
  constructor
  · rintro ⟨error, member⟩
    cases learned : storage.table? other with
    | some table =>
        obtain ⟨complaints, events⟩ := tableEvents_of_table? learned
        simp [events] at member
    | none =>
        obtain ⟨complaints, reason, events⟩ := tableEvents_of_table?_eq_none learned
        have same : ref = other ∧ error = reason := by simpa [events] using member
        exact ⟨same.1.symm, same.1 ▸ learned⟩
  · rintro ⟨rfl, skipped⟩
    obtain ⟨complaints, error, events⟩ := tableEvents_of_table?_eq_none skipped
    rw [events]
    exact ⟨error, List.mem_append_right _ (List.mem_singleton_self _)⟩

end Storage

/-! ## What is counted -/

namespace Store

theorem databases_loadTable (store : Store) (ref : TableRef) :
    (store.loadTable ref).catalog.databases = store.catalog.databases := by
  rw [loadTable]
  cases store.storage.readSchema ref.path with
  | error error => rfl
  | ok schema =>
      rcases store.storage.recover ref.path with ⟨events, error | allocator⟩
      · simp
      · simp [Catalog.addTable]

/-- A database is entered once. -/
theorem nodup_databases_loadDatabase {store : Store} (nodup : store.catalog.databases.Nodup)
    (database : Text) : (store.loadDatabase database).catalog.databases.Nodup := by
  have entered : (store.catalog.addDatabase database).databases.Nodup := by
    rw [Catalog.addDatabase]
    split
    · exact nodup
    · rename_i unknown
      have new : database ∉ store.catalog.databases := by
        simpa [Catalog.hasDatabase] using unknown
      exact List.nodup_append.2 ⟨nodup, List.nodup_singleton _, by
        rintro name here _ (member : _ ∈ [database]) rfl
        exact new (List.mem_singleton.1 member ▸ here)⟩
  have tables (refs : List TableRef) (other : Store) :
      (refs.foldl loadTable other).catalog.databases = other.catalog.databases := by
    induction refs generalizing other with
    | nil => rfl
    | cons ref rest ih => exact (ih _).trans (other.databases_loadTable ref)
  rw [loadDatabase]
  cases store.storage.tablesOf database with
  | error reason => exact entered
  | ok refs =>
      dsimp only
      rwa [tables]

theorem nodup_databases_of_load {store loaded : Store} (loads : store.load = .ok loaded) :
    loaded.catalog.databases.Nodup := by
  have foldl (names : List Text) {other : Store} (nodup : other.catalog.databases.Nodup) :
      (names.foldl loadDatabase other).catalog.databases.Nodup := by
    induction names generalizing other with
    | nil => exact nodup
    | cons name rest ih => exact ih (nodup_databases_loadDatabase nodup name)
  obtain ⟨storage, names, -, -, rfl⟩ := load_eq_ok_iff.1 loads
  exact foldl names List.nodup_nil

variable {store loaded : Store}

theorem onDisk_of_load (onDisk : store.storage.tree.OnDisk) (loads : store.load = .ok loaded) :
    loaded.storage.tree.OnDisk := by
  obtain ⟨storage, names, prepares, -, entered⟩ := load_eq_ok loads
  rw [entered.storage]
  exact Storage.onDisk_of_prepared onDisk prepares

/-- There are not too many databases and tables on a disk for their numbers to be written. -/
theorem isWritable_loaded_of_load (onDisk : store.storage.tree.OnDisk)
    (loads : store.load = .ok loaded) :
    (Event.loaded loaded.catalog.databases.length loaded.catalog.tables.size).IsWritable := by
  have registers := registers_of_load onDisk loads
  have onDisk_after := onDisk_of_load onDisk loads
  rw [Event.isWritable_loaded]
  constructor
  · refine Numeral.isWritable_of_shortNames (nodup_databases_of_load loads)
      (fun name => (name, [])) (fun _ _ same => (Prod.mk.inj same).1) fun name member => ?_
    have found := (registers.databases name).1 (List.contains_iff_mem.2 member)
    have short := onDisk_after.short _ (by rw [found]; rfl) name (by simp)
    exact ⟨short, Nat.zero_le _⟩
  · have size : loaded.catalog.tables.size = loaded.catalog.tables.keys.length := by
      rw [Index.size, Index.keys, List.length_map]
    rw [size]
    refine Numeral.isWritable_of_shortNames loaded.catalog.tables.nodup_keys
      (fun ref => (ref.database, ref.fileName)) ?_ fun ref member => ?_
    · rintro ⟨database, table⟩ ⟨other_database, other_table⟩ same
      obtain ⟨rfl, files⟩ := Prod.mk.inj same
      obtain rfl := TableRef.fileName_injective files
      rfl
    · obtain ⟨table, found⟩ := Option.isSome_iff_exists.1 (Index.mem_keys_iff.1 member)
      obtain ⟨text, offers, -⟩ := (registers.tables ref table).1 found
      have short := onDisk_after.short ref.home (by rw [offers.stored]; rfl)
      exact ⟨short _ (by simp [TableRef.home]), short _ (by simp [TableRef.home])⟩

/-! ## The events of a load -/

/-- The events of the first load of a store: those of the table files that it looks at and some that
are texts or hold numbers that are small. -/
structure FirstLoad (loaded : Store) (events : List Event) : Prop where
  notices : loaded.telemetry.notices = events.map (⟨·, none⟩)
  mem_of_offers : ∀ {ref content event}, loaded.storage.OffersTable ref content →
    event ∈ loaded.storage.tableEvents ref → event ∈ events
  of_mem : ∀ {event}, event ∈ events →
    (∃ ref content, loaded.storage.OffersTable ref content ∧
      event ∈ loaded.storage.tableEvents ref) ∨
    event.IsWritable ∧ ∀ ref error, event ≠ .tableSkipped ref error

theorem exists_firstLoad (onDisk : store.storage.tree.OnDisk)
    (silent : store.telemetry.notices = []) (loads : store.load = .ok loaded) :
    ∃ events, FirstLoad loaded events := by
  have root : loaded.storage.tree.find? .root = some .directory := by
    rw [(registers_of_load onDisk loads).nodes, if_pos rfl]
  have counted := isWritable_loaded_of_load onDisk loads
  obtain ⟨names, listed, logged⟩ := logged_load loads
  rw [Logged, silent, List.nil_append] at logged
  have offered {ref : TableRef} : ref ∈ names.flatMap loaded.storage.tablesIn ↔
      ∃ content, loaded.storage.OffersTable ref content :=
    Storage.mem_flatMap_tablesIn_iff (onDisk_of_load onDisk loads) root listed
  refine ⟨_, logged, fun offers member => ?_, fun member => ?_⟩
  · obtain ⟨name, known, here⟩ := List.mem_flatMap.1 (offered.2 ⟨_, offers⟩)
    refine List.mem_append_left _ (List.mem_cons_of_mem _ (List.mem_flatMap.2 ⟨name, known, ?_⟩))
    exact Storage.mem_databaseEvents_iff.2 (.inr ⟨_, here, member⟩)
  · rw [List.mem_append, List.mem_cons, List.mem_flatMap, List.mem_singleton] at member
    rcases member with (rfl | ⟨name, known, member⟩) | rfl
    · exact .inr ⟨(Event.OfTexts.loading _).isWritable, fun _ _ => Event.noConfusion⟩
    · rcases Storage.mem_databaseEvents_iff.1 member with ⟨reason, -, rfl⟩ | ⟨ref, here, member⟩
      · exact .inr ⟨(Event.OfTexts.listingFailed ..).isWritable, fun _ _ => Event.noConfusion⟩
      · obtain ⟨content, offers⟩ := offered.1 (List.mem_flatMap.2 ⟨name, known, here⟩)
        exact .inl ⟨ref, content, offers, member⟩
    · exact .inr ⟨counted, fun _ _ => Event.noConfusion⟩

/-- At the lowest level what was logged can be written if every table that can be used has a next
identity that can be written, and at the other levels it always can. -/
theorem FirstLoad.canWrite_iff {events : List Event} (first : FirstLoad loaded events)
    (onDisk : loaded.storage.tree.OnDisk) (threshold : Level) :
    (Logger.mk threshold []).canWrite loaded.takeRecords.1 = true ↔
      (threshold = .debug → ∀ ref text table, loaded.storage.OffersTable ref (Utf8.encode text) →
        Depicts text ref table → Numeral.isWritable table.allocator.next = true) := by
  rw [takeRecords, first.notices, Logger.canWrite_iff]
  constructor
  · rintro writable rfl ref text table offers depicts
    have learned := (Storage.table?_eq_some_iff_depicts offers onDisk).2 ⟨text, rfl, depicts⟩
    have logged := first.mem_of_offers offers (Storage.mem_tableEvents_of_table? learned)
    exact Event.isWritable_identityRecovered.1 (writable _ logged (Nat.zero_le _))
  · intro writable event member reached
    -- A recovered identity is the only number without a bound, and the lowest level alone keeps it.
    rcases first.of_mem member with ⟨ref, content, offers, here⟩ | ⟨other, -⟩
    · rcases Storage.ofTexts_or_of_mem_tableEvents here with texts | ⟨name, table, learned, rfl⟩
      · exact texts.isWritable
      · obtain ⟨text, rfl, depicts⟩ :=
          (Storage.table?_eq_some_iff_depicts offers onDisk).1 learned
        have lowest : threshold = .debug := by
          cases threshold with
          | debug => rfl
          | _ => cases reached
        exact Event.isWritable_identityRecovered.2 (writable lowest ref text table offers depicts)
    · exact other

/-- It is logged of a table file that it is skipped if nothing is learned from it. -/
theorem FirstLoad.tableSkipped_iff {events : List Event} (first : FirstLoad loaded events)
    (ref : TableRef) :
    (∃ error, ⟨.tableSkipped ref error, none⟩ ∈ loaded.telemetry.notices) ↔
      (∃ content, loaded.storage.OffersTable ref content) ∧ loaded.storage.table? ref = none := by
  have noted (event : Event) : ⟨event, none⟩ ∈ loaded.telemetry.notices ↔ event ∈ events := by
    rw [first.notices]
    simp
  simp only [noted]
  constructor
  · rintro ⟨error, member⟩
    rcases first.of_mem member with ⟨other, content, offers, here⟩ | ⟨-, apart⟩
    · obtain ⟨rfl, skipped⟩ := Storage.tableSkipped_mem_tableEvents_iff.1 ⟨error, here⟩
      exact ⟨⟨content, offers⟩, skipped⟩
    · exact absurd rfl (apart ref error)
  · rintro ⟨⟨content, offers⟩, skipped⟩
    obtain ⟨error, here⟩ := Storage.tableSkipped_mem_tableEvents_iff.2 ⟨rfl, skipped⟩
    exact ⟨error, first.mem_of_offers offers here⟩

end Store

/-! ## Building a server -/

namespace Program

variable {settings : Settings} {tree : Tree}

/-- What there is in a server that was built over a data directory. -/
structure Ready (settings : Settings) (tree : Tree) (server : Server) : Prop where
  files : server.store.storage = storage settings tree
  /-- The databases, and the tables whose files are texts that depict them. -/
  registers : (Store.ofStorage (storage settings tree)).Registers server.store
  /-- It was logged of the other table files that they are skipped, and of no others. -/
  explained : ∀ ref,
    (∃ error, ⟨.tableSkipped ref error, none⟩ ∈ server.store.telemetry.notices) ↔
      (∃ content, (storage settings tree).OffersTable ref content) ∧
        server.store.catalog.tables.find? ref = none

theorem storage_of_load (root : tree.find? .root = some .directory) {loaded : Store}
    (loads : (Store.ofStorage (storage settings tree)).load = .ok loaded) :
    loaded.storage = storage settings tree := by
  obtain ⟨after, names, prepares, -, entered⟩ := Store.load_eq_ok loads
  have prepared : (storage settings tree).prepared = .ok (storage settings tree) := by
    rw [Storage.prepared, storage, root]
  rw [entered.storage]
  exact Except.ok.inj (prepares.symm.trans prepared)

theorem ready_of_load (onDisk : tree.OnDisk) (root : tree.find? .root = some .directory)
    {loaded : Store} (loads : (Store.ofStorage (storage settings tree)).load = .ok loaded) :
    Ready settings tree (Server.ofStore loaded settings.query.strictColumns
      settings.server.idleTimeout) where
  files := storage_of_load root loads
  registers := Store.registers_of_load onDisk loads
  explained ref := by
    have kept := storage_of_load root loads
    have registers := @Store.registers_of_load (.ofStorage (storage settings tree)) _ onDisk loads
    obtain ⟨events, first⟩ :=
      @Store.exists_firstLoad (.ofStorage (storage settings tree)) _ onDisk rfl loads
    -- What is registered and what is learned from a file that is looked at are the same.
    have learned (table : Table) : loaded.catalog.tables.find? ref = some table ↔
        (∃ content, loaded.storage.OffersTable ref content) ∧
          loaded.storage.table? ref = some table := by
      rw [registers.tables, Storage.table?_of_offersTable_iff (kept ▸ onDisk)]
    refine (first.tableSkipped_iff ref).trans ?_
    rw [← kept]
    refine and_congr_right fun offered => ?_
    rw [Option.eq_none_iff_forall_ne_some, Option.eq_none_iff_forall_ne_some]
    simp [Server.ofStore, learned, offered]

theorem store_of_build {server : Server} (built : build settings tree = .ok server)
    {loaded : Store} (loads : (Store.ofStorage (storage settings tree)).load = .ok loaded) :
    server.store = loaded := by
  rw [build, loads] at built
  dsimp only at built
  split at built
  · cases built
    rfl
  · cases built

theorem ready_of_build (onDisk : tree.OnDisk) (root : tree.find? .root = some .directory)
    {server : Server} (built : build settings tree = .ok server) :
    Ready settings tree server := by
  cases loads : (Store.ofStorage (storage settings tree)).load with
  | error refusal =>
      rw [build, loads] at built
      cases built
  | ok loaded =>
      have ready := ready_of_load onDisk root loads
      rw [build, loads] at built
      dsimp only at built
      split at built
      · cases built
        exact ready
      · cases built

section Listable

variable (onDisk : tree.OnDisk) (root : tree.find? .root = some .directory)
  (short : (storage settings tree).ShortBelow .root)

include onDisk root short

/-- A data directory is loaded, so only what is logged decides if there is a server. -/
theorem exists_load : ∃ loaded, (Store.ofStorage (storage settings tree)).load = .ok loaded ∧
    build settings tree = if (logger settings).canWrite loaded.takeRecords.1 then
      .ok (Server.ofStore loaded settings.query.strictColumns settings.server.idleTimeout)
      else .error .record := by
  have loadable : Store.Loadable (storage settings tree) := by
    refine ⟨fun content there => ?_, short⟩
    rw [storage, root] at there
    cases there
  obtain ⟨loaded, loads⟩ :=
    (@Store.exists_load_iff (.ofStorage (storage settings tree)) onDisk).2 loadable
  exact ⟨loaded, loads, by rw [build, loads]⟩

theorem exists_build_iff : (∃ server, build settings tree = .ok server) ↔
    (settings.observability.logLevel = .debug → ∀ ref text table,
      (storage settings tree).OffersTable ref (Utf8.encode text) → Depicts text ref table →
      Numeral.isWritable table.allocator.next = true) := by
  obtain ⟨loaded, loads, builds⟩ := exists_load onDisk root short
  have kept := storage_of_load root loads
  obtain ⟨events, first⟩ :=
    @Store.exists_firstLoad (.ofStorage (storage settings tree)) _ onDisk rfl loads
  have writes := first.canWrite_iff (kept ▸ onDisk) settings.observability.logLevel
  rw [kept] at writes
  rw [← writes, builds]
  by_cases written : (logger settings).canWrite loaded.takeRecords.1 = true
  · rw [if_pos written]
    exact iff_of_true ⟨_, rfl⟩ written
  · rw [if_neg written]
    exact iff_of_false nofun written

theorem eq_record_of_build {failure : StartFailure}
    (failed : build settings tree = .error failure) : failure = .record := by
  obtain ⟨loaded, -, builds⟩ := exists_load onDisk root short
  rw [builds] at failed
  split at failed <;> cases failed
  rfl

end Listable

/-- A server is built over any files in a data directory that is there and can be listed, unless all
levels are logged and a table has a next identity with too many digits. -/
theorem build_iff (onDisk : tree.OnDisk) (root : tree.find? .root = some .directory)
    (short : (storage settings tree).ShortBelow .root) :
    ((∃ server, build settings tree = .ok server) ↔
      (settings.observability.logLevel = .debug → ∀ ref text table,
        (storage settings tree).OffersTable ref (Utf8.encode text) → Depicts text ref table →
        Numeral.isWritable table.allocator.next = true)) ∧
    (∀ server, build settings tree = .ok server → Ready settings tree server) ∧
    ∀ failure, build settings tree = .error failure → failure = .record :=
  ⟨exists_build_iff onDisk root short, fun _ => ready_of_build onDisk root,
    fun _ => eq_record_of_build onDisk root short⟩

/-! ## Two data directories -/

/-- Settings with a level from which on records are kept. -/
def sampleSettings (level : Level) : Settings where
  storage := ⟨.ofText "/data".toList, .fsync⟩
  server := ⟨"127.0.0.1".toList, 7070, none⟩
  query := ⟨false⟩
  observability := ⟨level, .json, none, none, none, "tabstore".toList⟩

/-- A file that is no text to its end is skipped, which is logged, and the others are served. -/
theorem build_iff_mixed :
    let tree := Store.mixedStorage.tree
    tree.OnDisk ∧ tree.find? .root = some .directory ∧
      (storage (sampleSettings .info) tree).ShortBelow .root ∧
      ∃ server, build (sampleSettings .info) tree = .ok server ∧
        Ready (sampleSettings .info) tree server ∧
        server.store.catalog.tables.keys.map TableRef.text =
          ["locked.stock".toList, "shop.stock".toList] ∧
        server.store.telemetry.notices.map (fun notice => notice.event.level) =
          [.info, .debug, .warning, .debug, .error, .info] := by
  let start := Store.ofStorage (storage (sampleSettings .info) Store.mixedStorage.tree)
  have onDisk : Store.mixedStorage.tree.OnDisk := by decide +kernel
  have root : Store.mixedStorage.tree.find? .root = some .directory := by decide +kernel
  have root_children : start.storage.children [] = _ := Store.children_mixed
  have listed : start.storage.databases [] = .ok ["locked".toList, "shop".toList] :=
    Storage.databases_of_children root_children
  have locked_children : start.storage.children ["locked".toList] = _ := Store.children_mixed_locked
  have locked := Storage.tablesOf_of_children rfl locked_children
  have shop_children : start.storage.children ["shop".toList] = _ := Store.children_mixed_shop
  have shop := Storage.tablesOf_of_children rfl shop_children
  have short : start.storage.ShortBelow .root :=
    ((@Storage.databases_eq_ok_iff start.storage onDisk root _).1 listed).1
  obtain ⟨builds, ready, -⟩ := @build_iff (sampleSettings .info) _ onDisk root short
  obtain ⟨server, built⟩ := builds.2 fun lowest => by cases lowest
  have seen : start.load.toOption.map (fun store =>
      (store.catalog.tables.keys.map TableRef.text,
        store.telemetry.notices.map fun notice => notice.event.level)) =
      some (["locked.stock".toList, "shop.stock".toList],
        [.info, .debug, .warning, .debug, .error, .info]) := by
    rw [Store.load_of_listed rfl listed, Store.enterAll]
    simp only [List.foldl_cons, List.foldl_nil]
    rw [Store.loadDatabase_of_listed ?_ locked, Store.loadDatabase_of_listed ?_ shop]
    · decide +kernel
    · rfl
    · rfl
  obtain ⟨loaded, loads, same⟩ := Option.map_eq_some_iff.1 seen
  have store_eq := store_of_build built (eq_ok_of_toOption loads)
  refine ⟨onDisk, root, short, server, built, ready server built, ?_⟩
  rw [store_eq]
  exact Prod.mk.inj same

section Limit

variable (text : Text)

theorem shortBelow_sample : (Store.sampleStorage text).ShortBelow .root :=
  ((Storage.databases_eq_ok_iff (Store.onDisk_sample text) rfl).1 (Store.databases_sample text)).1

theorem offersTable_sample :
    (Store.sampleStorage text).OffersTable Store.sampleRef (Utf8.encode text) := by
  have found : Store.sampleRef ∈ (Store.sampleStorage text).tablesIn "shop".toList := by
    rw [Store.tablesIn_sample]
    exact List.mem_singleton_self _
  obtain ⟨-, named, listable, -⟩ :=
    (Storage.mem_tablesIn_iff (Store.onDisk_sample text) rfl).1 found
  exact ⟨listable, named, rfl⟩

end Limit

/-- With the greatest identity in a file no server is built at the lowest level of records. -/
theorem not_build_greatest :
    let tree := (Store.sampleStorage Store.greatestText).tree
    tree.OnDisk ∧ tree.find? .root = some .directory ∧
      (storage (sampleSettings .debug) tree).ShortBelow .root ∧
      build (sampleSettings .debug) tree = .error .record := by
  have onDisk := Store.onDisk_sample Store.greatestText
  have short : (storage (sampleSettings .debug)
      (Store.sampleStorage Store.greatestText).tree).ShortBelow .root :=
    shortBelow_sample Store.greatestText
  obtain ⟨text, offers, depicts⟩ := (Storage.table?_of_offersTable_iff onDisk).1
    ⟨⟨_, offersTable_sample Store.greatestText⟩, Store.table?_greatest⟩
  refine ⟨onDisk, rfl, short, ?_⟩
  cases built : build (sampleSettings .debug) (Store.sampleStorage Store.greatestText).tree with
  | error failure => rw [eq_record_of_build onDisk rfl short built]
  | ok server =>
      have writable :=
        (exists_build_iff onDisk rfl short).1 ⟨server, built⟩ rfl _ text _ offers depicts
      rw [Store.isWritable_greatestTable] at writable
      cases writable

end Program
end FlatStore
