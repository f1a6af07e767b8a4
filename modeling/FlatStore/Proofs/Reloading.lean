import FlatStore.Proofs.Restart

/-!
# Loading sound stores anew

A sound store can be loaded from its own files at any time, if the files give back the schemas of
its tables.  The store that is loaded is sound again and knows the same databases and tables; only
the allocators are those that are found behind the rows on disk.
-/

namespace FlatStore
namespace Store

/-- The entry of a table as its file gives it back: with the allocator behind the rows. -/
def recovered (table : Table) (text : Text) : Table :=
  { table with allocator := .behind (Reading.ofText text).rows }

/-- A text that fits a table holds its schema, and still fits with the recovered allocator. -/
structure Recovers (Fits : Table → Text → Prop) : Prop where
  schema : ∀ table text, Fits table text → (Reading.ofText text).schema = .ok table.schema
  fits : ∀ table text, Fits table text → Fits (recovered table text) text

variable {Fits : Table → Text → Prop} {store : Store}

/-- What is found in the file of a sound table is its entry as it is recovered. -/
theorem SoundTable.exists_recovered {storage : Storage} {ref : TableRef} {table : Table}
    (entry : SoundTable Fits storage ref table) (recovers : Recovers Fits) :
    ∃ text, Fits table text ∧ storage.table? ref = some (recovered table text) ∧
      SoundTable Fits storage ref (recovered table text) := by
  obtain ⟨text, there, fits⟩ := entry.file
  have stored : storage.contentAt ref.path = .ok (Utf8.encode text) :=
    Storage.contentAt_eq_ok_iff.2
      ⟨entry.short, Tree.read_eq_ok_iff.2 ⟨ref.place, entry.leads, there⟩⟩
  have schema : storage.readSchema ref.path = .ok table.schema := by
    rw [Storage.readSchema_of_text stored, recovers.schema table text fits]
    rfl
  refine ⟨text, fits, ?_, ?_⟩
  · refine Storage.table?_eq_some_iff.2 ⟨_, _, schema, Storage.rows_of_text stored, ?_⟩
    rw [recovered, ← entry.path_eq, ← entry.ref_eq]
  · exact
      { ref_eq := entry.ref_eq
        path_eq := entry.path_eq
        plain := entry.plain
        leads := entry.leads
        short := entry.short
        file := ⟨text, there, recovers.fits table text fits⟩ }

/-- The tables that are listed in the databases of a sound store are those that it knows. -/
theorem Sound.mem_listed (sound : Sound Fits store) {names : List Text}
    (mem_names : ∀ name, name ∈ names ↔ store.catalog.hasDatabase name = true) {ref : TableRef} :
    ref ∈ names.flatMap store.storage.tablesIn ↔
      ∃ table, store.catalog.tables.find? ref = some table := by
  rw [List.mem_flatMap]
  constructor
  · rintro ⟨database, member, listed⟩
    exact ((sound.mem_tablesIn ((mem_names database).1 member)).1 listed).2
  · rintro ⟨table, found⟩
    have known := (sound.tables ref table found).1
    exact ⟨ref.database, (mem_names _).2 known, (sound.mem_tablesIn known).2 ⟨rfl, table, found⟩⟩

/-- One store is what another one gives when it is loaded from its files. -/
structure Reloads (Fits : Table → Text → Prop) (before after : Store) : Prop where
  storage : after.storage = before.storage
  databases : ∀ name, after.catalog.hasDatabase name = before.catalog.hasDatabase name
  /-- Every table is found with what can be recovered from its file. -/
  tables : ∀ ref table, before.catalog.tables.find? ref = some table →
    ∃ text, Fits table text ∧
      after.catalog.tables.find? ref = some (recovered table text) ∧
      SoundTable Fits before.storage ref (recovered table text)
  /-- No table is found that was not there. -/
  absent : ∀ ref, before.catalog.tables.find? ref = none → after.catalog.tables.find? ref = none

/-- A sound store can be loaded from its files. -/
theorem Sound.exists_reload (sound : Sound Fits store) (recovers : Recovers Fits) :
    ∃ loaded, store.load = .ok loaded ∧ Reloads Fits store loaded := by
  obtain ⟨names, listed, mem_names⟩ := sound.databases_listed
  have prepared : store.storage.prepared = .ok store.storage := by
    rw [Storage.prepared, sound.root]
  obtain ⟨loaded, loads_ok⟩ := exists_load prepared listed
  obtain ⟨storage, other_names, prepared_eq, listed_eq, loads⟩ := load_eq_ok loads_ok
  rw [prepared, Except.ok.injEq] at prepared_eq
  subst prepared_eq
  rw [listed, Except.ok.injEq] at listed_eq
  subst listed_eq
  refine ⟨loaded, loads_ok, loads.storage, fun name => ?_, fun ref table found => ?_,
    fun ref missing => ?_⟩
  · have known := loads.databases name
    rw [mem_names] at known
    rw [Bool.eq_iff_iff, known]
    simp [Catalog.empty, Catalog.hasDatabase]
  · obtain ⟨text, fits, on_disk, entry⟩ :=
      (sound.tables ref table found).2.exists_recovered recovers
    refine ⟨text, fits, ?_, entry⟩
    rw [loads.tables ref, if_pos ((sound.mem_listed mem_names).2 ⟨table, found⟩), on_disk]
    rfl
  · have not_listed : ref ∉ names.flatMap store.storage.tablesIn := by
      intro member
      obtain ⟨table, found⟩ := (sound.mem_listed mem_names).1 member
      rw [missing] at found
      cases found
    rw [loads.tables ref, if_neg not_listed]
    rfl

/-- A store that is loaded from the files of a sound store is sound. -/
theorem Reloads.sound {before after : Store} (reloads : Reloads Fits before after)
    (sound : Sound Fits before) : Sound Fits after where
  root := by rw [reloads.storage]; exact sound.root
  short := by rw [reloads.storage]; exact sound.short
  listable := by rw [reloads.storage]; exact sound.listable
  spared := by rw [reloads.storage]; exact sound.spared
  databases name known := by
    rw [reloads.databases] at known
    rw [reloads.storage]
    exact sound.databases name known
  tables ref table found := by
    cases found_before : before.catalog.tables.find? ref with
    | none =>
        rw [reloads.absent ref found_before] at found
        cases found
    | some old =>
        obtain ⟨text, -, found_after, entry⟩ := reloads.tables ref old found_before
        rw [found, Option.some.injEq] at found_after
        subst found_after
        rw [reloads.storage, reloads.databases]
        exact ⟨(sound.tables ref old found_before).1, entry⟩
  nothing_else place there := by
    rw [reloads.storage] at there
    rcases sound.nothing_else place there with root | ⟨name, known, here⟩ | ⟨ref, old, found, here⟩
    · exact .inl root
    · exact .inr (.inl ⟨name, (reloads.databases name).trans known, here⟩)
    · obtain ⟨text, -, found_after, -⟩ := reloads.tables ref old found
      exact .inr (.inr ⟨ref, recovered old text, found_after, here⟩)

end Store
end FlatStore
