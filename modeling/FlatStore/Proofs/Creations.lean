import FlatStore.Proofs.Calls

/-!
# Creations step by step

What a creation finds out, does and enters in its single steps, when other calls make steps in
between.  Whatever step is made, the files of tables get longer at most, and a catalog to which only
what is new is entered keeps all that it knows.
-/

namespace FlatStore

/-! ## What is created -/

/-- What a creation makes known. -/
inductive Target
  | database (name : Text)
  | table (ref : TableRef)
deriving DecidableEq, Repr

/-- What a creation makes known. -/
def Creation.target : Creation → Target
  | .database name => .database name
  | .table entry => .table entry.ref

namespace Catalog

/-- A database or table is known. -/
def Knows (catalog : Catalog) : Target → Prop
  | .database name => catalog.hasDatabase name = true
  | .table ref => ∃ table, catalog.tables.find? ref = some table

/-- One catalog keeps all that another one knows; only allocators move on. -/
structure Extends (before after : Catalog) : Prop where
  databases : ∀ name, before.hasDatabase name = true → after.hasDatabase name = true
  tables : ∀ ref table, before.tables.find? ref = some table →
    ∃ now, after.tables.find? ref = some now ∧ now.ref = table.ref ∧ now.path = table.path ∧
      now.schema = table.schema ∧ table.allocator.next ≤ now.allocator.next

variable {before between after catalog : Catalog} {target : Target}

theorem Extends.refl (catalog : Catalog) : catalog.Extends catalog where
  databases _ known := known
  tables _ table found := ⟨table, found, rfl, rfl, rfl, Int.le_refl _⟩

theorem Extends.trans (first : before.Extends between) (second : between.Extends after) :
    before.Extends after where
  databases name known := second.databases name (first.databases name known)
  tables ref table found := by
    obtain ⟨middle, middle_found, ref_eq, path_eq, schema_eq, grows⟩ := first.tables ref table found
    obtain ⟨now, now_found, now_ref, now_path, now_schema, now_grows⟩ :=
      second.tables ref middle middle_found
    exact ⟨now, now_found, now_ref.trans ref_eq, now_path.trans path_eq,
      now_schema.trans schema_eq, Int.le_trans grows now_grows⟩

theorem Extends.knows (kept : before.Extends after) (known : before.Knows target) :
    after.Knows target := by
  cases target with
  | database name => exact kept.databases name known
  | table ref =>
      obtain ⟨table, found⟩ := known
      obtain ⟨now, now_found, -⟩ := kept.tables ref table found
      exact ⟨now, now_found⟩

theorem knows_setAllocator {ref : TableRef} {allocator : Allocator} :
    (catalog.setAllocator ref allocator).Knows target ↔ catalog.Knows target := by
  cases target with
  | database name => rw [Knows, Knows, hasDatabase_setAllocator]
  | table other =>
      rw [Knows, Knows, find?_setAllocator]
      split
      · rename_i same
        subst same
        simp
      · rfl

/-- A step of an allocator keeps everything. -/
theorem extends_setAllocator {ref : TableRef} {allocator : Allocator}
    (steps : ∀ table, catalog.tables.find? ref = some table → allocator = table.allocator.step) :
    catalog.Extends (catalog.setAllocator ref allocator) where
  databases name known := known
  tables other table found := by
    rw [find?_setAllocator]
    split
    · rename_i same
      subst same
      rw [found, Option.map_some]
      refine ⟨_, rfl, rfl, rfl, rfl, ?_⟩
      rw [steps table found, Allocator.next_step]
      omega
    · exact ⟨table, found, rfl, rfl, rfl, Int.le_refl _⟩

end Catalog

namespace Store

variable {store : Store} {creation : Creation} {target : Target}

theorem checkNew_eq_ok_iff :
    store.checkNew creation = .ok () ↔ ¬store.catalog.Knows creation.target := by
  cases creation with
  | database name =>
      rw [checkNew, Creation.target, Catalog.Knows]
      split <;> simp [*]
  | table entry =>
      rw [checkNew, Creation.target, Catalog.Knows, ← Option.isSome_iff_exists, Index.contains]
      split <;> simp [*]

theorem knows_enter :
    (store.enter creation).catalog.Knows target ↔
      target = creation.target ∨ store.catalog.Knows target := by
  cases creation with
  | database name =>
      rw [catalog_enter_database]
      cases target with
      | database other =>
          rw [Catalog.Knows, hasDatabase_addDatabase, Creation.target, Target.database.injEq]
          rfl
      | table ref =>
          rw [Catalog.Knows, tables_addDatabase, Creation.target]
          simp [Catalog.Knows]
  | table entry =>
      rw [catalog_enter_table]
      cases target with
      | database other =>
          simp [Creation.target, Catalog.Knows, Catalog.addTable, Catalog.hasDatabase]
      | table ref =>
          rw [Catalog.Knows, Catalog.addTable, Index.find?_put, Creation.target, Target.table.injEq]
          split
          · rename_i same
            simp [same]
          · rename_i apart
            simp [Ne.symm apart, Catalog.Knows]

theorem storage_enter : (store.enter creation).storage = store.storage := by
  cases creation <;> rfl

/-- What is new is entered beside the tables that are known. -/
theorem find?_enter (new : ¬store.catalog.Knows creation.target) {ref : TableRef} {table : Table}
    (found : store.catalog.tables.find? ref = some table) :
    (store.enter creation).catalog.tables.find? ref = some table := by
  cases creation with
  | database name => rwa [catalog_enter_database, tables_addDatabase]
  | table entry =>
      rw [catalog_enter_table, Catalog.addTable, Index.find?_put_of_ne, found]
      rintro rfl
      exact new ⟨table, found⟩

/-- What is new is entered without harm to what is known. -/
theorem extends_enter (new : ¬store.catalog.Knows creation.target) :
    store.catalog.Extends (store.enter creation).catalog where
  databases name known := (@knows_enter store creation (.database name)).2 (.inr known)
  tables _ table found := ⟨table, find?_enter new found, rfl, rfl, rfl, Int.le_refl _⟩

/-- A duplicate in the catalog is told as such. -/
theorem kind_of_checkNew {error : StoreError} (refused : store.checkNew creation = .error error) :
    error.kind = .alreadyExists := by
  cases creation <;> rw [checkNew] at refused <;> split at refused <;> cases refused <;> rfl

/-- So is a duplicate on disk; everything else is the operating system's. -/
theorem kind_of_make {after : Store} {error : StoreError}
    (refused : store.make creation = (after, .error error)) :
    error.kind = .alreadyExists ∨ error.kind = .ioFailure := by
  cases creation with
  | database name =>
      rw [make, Storage.createDatabase] at refused
      repeat' split at refused
      all_goals cases refused
      · rename_i created
        split at created <;> cases created
        · exact .inl rfl
        · exact .inr rfl
  | table entry =>
      have failed : (store.storage.createTable entry.path entry.schema).2 = .error error :=
        congrArg Prod.snd refused
      rw [Storage.createTable] at failed
      split at failed
      · rename_i opens
        cases failed
        rw [Storage.openNew] at opens
        split at opens <;> cases opens
        · exact .inl rfl
        · exact .inr rfl
      · obtain ⟨trouble, rfl⟩ := Storage.writeLine_eq_error (Prod.ext rfl failed)
        exact .inr rfl

end Store

/-! ## Files -/

namespace Storage

variable {storage after : Storage} {path : Path} {content : Octets}

/-- The file at a path begins with some octets. -/
def BeginsWith (storage : Storage) (path : Path) (octets : Octets) : Prop :=
  ∃ more, storage.contentAt path = .ok (octets ++ more)

theorem beginsWith_of_content (h : storage.contentAt path = .ok content) :
    storage.BeginsWith path content :=
  ⟨[], h.trans (congrArg Except.ok (List.append_nil content).symm)⟩

end Storage

/-- What is created leaves the files alone that are there. -/
theorem Store.contentAt_make {store after : Store} {creation : Creation}
    {outcome : Except StoreError Unit} {path : Path} {content : Octets}
    (made : store.make creation = (after, outcome))
    (before : store.storage.contentAt path = .ok content) :
    after.storage.contentAt path = .ok content := by
  cases creation with
  | database name =>
      rw [make] at made
      split at made
      · cases made
        exact before
      · rename_i storage created
        cases made
        obtain ⟨place, free, rfl⟩ := Storage.createDatabase_ok created
        exact Storage.contentAt_put_of_absent _ free.absent before
  | table entry =>
      rcases created : store.storage.createTable entry.path entry.schema with
        ⟨storage, error | done⟩
      · rw [make, created] at made
        cases made
        exact Storage.contentAt_of_createTable_error created before
      · rw [make, created] at made
        cases made
        obtain ⟨place, free, rfl⟩ := Storage.createTable_ok created
        exact Storage.contentAt_put_of_absent _ free.absent before

namespace Stage

variable {call : Call} {shared after : Shared} {stage next : Stage} {ref : TableRef}
  {content : Octets}

/-- A move leaves the file of a table as it is or appends the line of a row to it. -/
inductive FileMove (ref : TableRef) (content : Octets) : Stage → Stage → Octets → Prop
  | same {stage next : Stage} : FileMove ref content stage next content
  | append {table : Table} {values : List Text} {id : Int} (here : table.ref = ref) :
      FileMove ref content (.numbered table values id) (.appended table id)
        (content ++ Utf8.encode (lineOf (Numeral.integer id :: values)))

theorem Move.file (move : Move shared stage next after) (suits : stage.Suits call)
    (before : shared.store.storage.contentAt ref.path = .ok content) :
    ∃ now, FileMove ref content stage next now ∧
      after.store.storage.contentAt ref.path = .ok now := by
  cases move with
  | refuseRow refused =>
      exact ⟨content, .same, Storage.contentAt_of_appendRow_error refused before⟩
  | @append table values id storage appended =>
      cases suits with
      | numbered names =>
          rw [names.path_eq, ← names.ref_eq] at appended
          by_cases here : table.ref = ref
          · rw [here] at appended
            exact ⟨_, .append here, Storage.contentAt_of_appendRow before appended⟩
          · exact ⟨content, .same, Storage.contentAt_appendRow_of_ne here before appended⟩
  | nextId taken =>
      refine ⟨content, .same, ?_⟩
      rw [Store.nextId] at taken
      split at taken <;> cases taken <;> exact before
  | advance advanced =>
      obtain ⟨-, rfl⟩ := Store.advance_ok advanced
      exact ⟨content, .same, before⟩
  | refuseMake made | make made => exact ⟨content, .same, Store.contentAt_make made before⟩
  | enter => exact ⟨content, .same, by rw [Store.storage_enter]; exact before⟩
  | _ => exact ⟨content, .same, before⟩

/-- Files of tables get longer at most. -/
theorem Move.beginsWith (move : Move shared stage next after) (suits : stage.Suits call)
    (before : shared.store.storage.BeginsWith ref.path content) :
    after.store.storage.BeginsWith ref.path content := by
  obtain ⟨more, before⟩ := before
  obtain ⟨now, file, stored⟩ := move.file suits before
  cases file with
  | same => exact ⟨more, stored⟩
  | append => exact ⟨_, stored.trans (congrArg Except.ok (List.append_assoc ..))⟩

/-- A catalog keeps what it knows if only new things are entered. -/
theorem CatalogMove.kept {catalog : Catalog} (moved : CatalogMove shared stage catalog)
    (new : ∀ creation, stage = .entering creation →
      ¬shared.store.catalog.Knows creation.target) : shared.store.catalog.Extends catalog := by
  cases moved with
  | same => exact .refl _
  | advance steps => exact Catalog.extends_setAllocator steps
  | enter here => exact Store.extends_enter (new _ here)

/-- A catalog learns nothing but what is entered. -/
theorem CatalogMove.knows {catalog : Catalog} {target : Target}
    (moved : CatalogMove shared stage catalog) (known : catalog.Knows target) :
    shared.store.catalog.Knows target ∨
      ∃ creation, stage = .entering creation ∧ target = creation.target := by
  cases moved with
  | same => exact .inl known
  | advance => exact .inl (Catalog.knows_setAllocator.1 known)
  | enter here =>
      rcases Store.knows_enter.1 known with same | old
      · exact .inr ⟨_, here, same⟩
      · exact .inl old

end Stage
end FlatStore
