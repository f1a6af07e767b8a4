import FlatStore.Proofs.Failing
import FlatStore.Proofs.Growth

/-!
# Commands on one table

A command that creates, extends or reads a table looks at one place of the tree and at one entry of
the catalog, and it changes no others.  So its result, and what it leaves behind there, are the same
on stores that are alike at this table, whatever else they hold.
-/

namespace FlatStore

/-! ## One place of the tree -/

theorem TableRef.home_injective {ref other : TableRef} (same : ref.home = other.home) :
    ref = other := by
  obtain ⟨database, table⟩ := ref
  obtain ⟨otherDatabase, otherTable⟩ := other
  have names := congrArg Place.names same
  simp only [home, Place.names_child, Place.names_root, List.nil_append, List.cons_append,
    List.cons.injEq, and_true] at names
  obtain ⟨rfl, files⟩ := names
  obtain rfl : table = otherTable := fileName_injective files
  rfl

/-- The file of a table in a directory is found at its home, if the names are not too long. -/
theorem Tree.look_path {tree : Tree} {ref : TableRef} (root : tree.find? .root = some .directory)
    (inside : tree.find? (Place.root.child ref.database) = some .directory)
    (entry : IsEntryName ref.database) :
    tree.look ref.path =
      if Utf8.size ref.database ≤ nameLimit ∧ Utf8.size ref.fileName ≤ nameLimit then
        .ok (ref.home, tree.find? ref.home)
      else .error .nameTooLong := by
  rw [look, resolve, TableRef.path, walk, root]
  dsimp only
  rw [if_neg entry.2.2.1]
  by_cases short : Utf8.size ref.database ≤ nameLimit
  · rw [if_pos short, walk, inside]
    dsimp only
    rw [if_neg ref.fileName_ne_upward]
    by_cases short_file : Utf8.size ref.fileName ≤ nameLimit
    · rw [if_pos short_file, if_pos ⟨short, short_file⟩]
      rfl
    · rw [if_neg short_file, if_neg fun both => short_file both.2]
      rfl
  · rw [if_neg short, if_neg fun both => short both.1]
    rfl

namespace Storage

variable {left right : Storage} {path : Path}

/-- Storages that are shown alike and in which the same is found by a path. -/
structure AlikeAt (path : Path) (left right : Storage) : Prop where
  root : left.root = right.root
  look : left.tree.look path = right.tree.look path

namespace AlikeAt

variable (alike : AlikeAt path left right)

include alike

theorem shown : left.shown path = right.shown path := by
  rw [Storage.shown, Storage.shown, alike.root]

theorem isTooLong : left.isTooLong path = right.isTooLong path := by
  rw [Storage.isTooLong, Storage.isTooLong, alike.shown]

theorem refused (task : FileTask) (refusal : Refusal) :
    left.refused task path refusal = right.refused task path refusal := by
  rw [Storage.refused, Storage.refused, alike.shown]

/-- The same rows are read. -/
theorem scan : left.scan path = right.scan path := by
  have read : left.reach path left.tree.read = right.reach path right.tree.read := by
    rw [reach, reach, alike.isTooLong, Tree.read, Tree.read, alike.look]
  rw [Storage.scan, Storage.scan, read]
  cases right.reach path right.tree.read with
  | error refusal =>
      dsimp only
      rw [alike.refused]
  | ok content => rfl

/-- A new file is opened in both storages, or refused with the same error. -/
theorem openNew : (left.openNew path).map (fun _ => ()) = (right.openNew path).map fun _ => () := by
  have name : left.nameAt path = right.nameAt path := by rw [nameAt, nameAt, alike.root]
  rw [Storage.openNew, Storage.openNew, reach, reach, alike.isTooLong]
  cases right.isTooLong path with
  | true =>
      rw [if_pos rfl, if_pos rfl]
      dsimp only
      rw [alike.refused]
  | false =>
      rw [if_neg Bool.false_ne_true, if_neg Bool.false_ne_true, Tree.createFile, Tree.createFile,
        alike.look]
      rcases right.tree.look path with refusal | ⟨place, _ | node⟩
      · cases refusal <;> simp only [name, alike.refused]
      · rfl
      · dsimp only
        rw [name]

/-- A file is opened in both storages to extend it, or refused with the same error. -/
theorem openToExtend :
    (left.openToExtend path).map (fun _ => ()) = (right.openToExtend path).map fun _ => () := by
  rw [Storage.openToExtend, Storage.openToExtend, reach, reach, alike.isTooLong, Tree.append,
    Tree.append, alike.look]
  cases right.isTooLong path with
  | true =>
      rw [if_pos rfl, if_pos rfl]
      dsimp only
      rw [alike.refused]
  | false =>
      rw [if_neg Bool.false_ne_true, if_neg Bool.false_ne_true]
      rcases right.tree.look path with refusal | ⟨place, _ | _ | content⟩
      · dsimp only
        rw [alike.refused]
      · rfl
      · dsimp only
        rw [alike.refused]
      · rfl

variable (spared : left.troubles = .none) (spared_too : right.troubles = .none)

include spared spared_too

/-- A table is created in both storages, or refused with the same error. -/
theorem createTable (schema : Schema) :
    (left.createTable path schema).2 = (right.createTable path schema).2 := by
  rw [createTable_snd (by rw [spared]; rfl), createTable_snd (by rw [spared_too]; rfl),
    alike.openNew]

/-- A row is appended in both storages, or refused with the same error. -/
theorem appendRow (id : Int) (values : List Text) :
    (left.appendRow path id values).2 = (right.appendRow path id values).2 := by
  rw [appendRow_snd spared, appendRow_snd spared_too, alike.openToExtend]

end AlikeAt
end Storage
/-! ## One entry of the catalog -/

/-- The table that a command names. -/
def Plan.table? : Plan → Option Text
  | .createTable name _ | .insert name _ | .select name _ _ => some name
  | .createDatabase _ | .use _ => none

namespace Catalog

variable {left right : Catalog} {database name : Text}

theorem resolve_congr (known : left.hasDatabase database = right.hasDatabase database)
    (entry : left.tables.find? ⟨database, name⟩ = right.tables.find? ⟨database, name⟩) :
    left.resolve database name = right.resolve database name := by
  rw [resolve, resolve, known, entry]

theorem checkTable_congr (known : left.hasDatabase database = right.hasDatabase database)
    (columns : List Text) :
    left.checkTable database name columns = right.checkTable database name columns := by
  rw [checkTable, checkTable, known]

end Catalog

namespace Store

/-- Two stores are alike at a table: its database, its entry and what stands at its home. -/
structure AlikeAt (ref : TableRef) (left right : Store) : Prop where
  root : left.storage.root = right.storage.root
  node : left.storage.tree.find? ref.home = right.storage.tree.find? ref.home
  known : left.catalog.hasDatabase ref.database = right.catalog.hasDatabase ref.database
  entry : left.catalog.tables.find? ref = right.catalog.tables.find? ref

variable {left right : Store} {ref : TableRef}

/-- In the directory of a known database the same is found. -/
theorem AlikeAt.storage (alike : AlikeAt ref left right) (housed : Housed left)
    (housed_too : Housed right) (known : right.catalog.hasDatabase ref.database = true) :
    Storage.AlikeAt ref.path left.storage right.storage where
  root := alike.root
  look := by
    have known_too : left.catalog.hasDatabase ref.database = true := alike.known.trans known
    rw [Tree.look_path housed.root (housed.databases _ known_too) (housed.isEntryName known_too),
      Tree.look_path housed_too.root (housed_too.databases _ known) (housed_too.isEntryName known),
      alike.node]

theorem AlikeAt.resolve (alike : AlikeAt ref left right) :
    left.catalog.resolve ref.database ref.table = right.catalog.resolve ref.database ref.table :=
  Catalog.resolve_congr alike.known alike.entry

/-! ## Results -/

/-- A creation fails if there is one already or something can not be made. -/
theorem create_snd (store : Store) (creation : Creation) :
    (store.create creation).2 =
      (store.checkNew creation).bind fun _ => (store.make creation).2 := by
  rw [create]
  cases store.checkNew creation with
  | error error => rfl
  | ok done =>
      dsimp only
      rcases store.make creation with ⟨made, error | done⟩ <;> rfl

/-- An insert fails if its table is unknown or the row can not be appended. -/
theorem insert_snd (store : Store) (database name : Text) (values : List Text) :
    (store.insert database name values).2 =
      ((store.catalog.resolve database name).mapError .store).bind fun table =>
        (store.storage.appendRow table.path (store.allocatorOf table).next values).2.map fun _ =>
          (store.allocatorOf table).next := by
  rw [insert]
  cases store.catalog.resolve database name with
  | error error => rfl
  | ok table =>
      dsimp only
      rw [appendNext_eq, allocatorOf_hold]
      change _ = (store.storage.appendRow table.path _ values).2.map _
      have storage : ((store.registerLock table.ref).hold table.ref).storage = store.storage := rfl
      rw [storage]
      rcases store.storage.appendRow table.path (store.allocatorOf table).next values with
        ⟨storage, failure | done⟩ <;> rfl

namespace AlikeAt

variable (alike : AlikeAt ref left right) (housed : Housed left) (housed_too : Housed right)

include alike housed housed_too

/-- Selecting from the table ends alike. -/
theorem select (strict : Bool) (requested : Option (List Text)) :
    left.select strict ref.database ref.table requested =
      right.select strict ref.database ref.table requested := by
  have scan : left.scan ref.database ref.table = right.scan ref.database ref.table := by
    rw [Store.scan, Store.scan, alike.resolve]
    cases resolved : right.catalog.resolve ref.database ref.table with
    | error error => rfl
    | ok table =>
        obtain ⟨known, registered⟩ := Catalog.resolve_eq_ok_iff.1 resolved
        obtain ⟨-, -, path_eq, -⟩ := housed_too.tables ref table registered
        dsimp only
        rw [path_eq, (alike.storage housed housed_too known).scan]
  rw [Store.select, Store.select, scan]

variable (spared : left.storage.troubles = .none) (spared_too : right.storage.troubles = .none)

include spared spared_too

/-- Creating the table ends alike. -/
theorem createTable (columns : List Text) :
    (left.createTable ref.database ref.table columns).2 =
      (right.createTable ref.database ref.table columns).2 := by
  rw [Store.createTable, Store.createTable, Creation.ofTable, Creation.ofTable,
    Catalog.checkTable_congr alike.known]
  cases valid : right.catalog.checkTable ref.database ref.table columns with
  | error error => rfl
  | ok done =>
      have storage := alike.storage housed housed_too (checkTable_ok valid).1
      change (left.create (Creation.ofColumns ref.database ref.table columns)).2 =
        (right.create (Creation.ofColumns ref.database ref.table columns)).2
      have new : left.checkNew (Creation.ofColumns ref.database ref.table columns) =
          right.checkNew (Creation.ofColumns ref.database ref.table columns) := by
        rw [Creation.ofColumns, checkNew, checkNew, Index.contains, Index.contains, alike.entry]
      rw [create_snd, create_snd, new, Creation.ofColumns, make, make]
      dsimp only
      rw [storage.createTable spared spared_too]

/-- Inserting into the table ends alike. -/
theorem insert (values : List Text) :
    (left.insert ref.database ref.table values).2 =
      (right.insert ref.database ref.table values).2 := by
  rw [insert_snd, insert_snd, alike.resolve]
  cases resolved : right.catalog.resolve ref.database ref.table with
  | error error => rfl
  | ok table =>
      obtain ⟨known, registered⟩ := Catalog.resolve_eq_ok_iff.1 resolved
      obtain ⟨-, ref_eq, path_eq, -⟩ := housed_too.tables ref table registered
      have storage := alike.storage housed housed_too known
      have allocator : left.allocatorOf table = right.allocatorOf table := by
        rw [allocatorOf, allocatorOf, ref_eq, alike.entry]
      change ((left.storage.appendRow table.path _ values).2.map _ : Except Failure Int) =
        (right.storage.appendRow table.path _ values).2.map _
      rw [allocator, path_eq, storage.appendRow spared spared_too]

/-- A command on the table ends alike. -/
theorem run {plan : Plan} (addressed : plan.table? = some ref.table) {session : Session}
    (selected : session.database = some ref.database) (strict : Bool) :
    (plan.run strict left session).result = (plan.run strict right session).result := by
  obtain ⟨id, chosen⟩ := session
  obtain rfl : chosen = some ref.database := selected
  cases plan with
  | createDatabase | use => cases addressed
  | createTable name columns =>
      cases addressed
      change ((left.createTable ref.database ref.table columns).2.mapError _).map _ =
        ((right.createTable ref.database ref.table columns).2.mapError _).map _
      rw [alike.createTable housed housed_too spared spared_too]
  | insert name values =>
      cases addressed
      change (Plan.runInsert left ref.database ref.table values).2 =
        (Plan.runInsert right ref.database ref.table values).2
      rw [Plan.runInsert, Plan.runInsert, alike.resolve]
      cases right.catalog.resolve ref.database ref.table with
      | error error => rfl
      | ok table =>
          dsimp only
          split
          · dsimp only
            rw [alike.insert housed housed_too spared spared_too values]
          · rfl
  | select name requested ignored =>
      cases addressed
      change (Plan.runSelect strict left ref.database ref.table requested ignored).2 =
        (Plan.runSelect strict right ref.database ref.table requested ignored).2
      rw [runSelect_snd, runSelect_snd, alike.select housed housed_too]

end AlikeAt

/-! ## What is left behind -/

end Store

/-- A table as it is stored and known. -/
structure TableState where
  /-- What stands at its home. -/
  node : Option Node
  /-- Its entry in the catalog. -/
  entry : Option Table

/-- What a command leaves behind of its table, by its result. -/
def Plan.leaves (ref : TableRef) : Plan → Except Failure Answer → TableState → TableState
  | .createTable _ columns, .ok (.tableCreated _), _ =>
      ⟨some (.file (Utf8.encode (Schema.ofColumns columns).header)),
        some (Store.newTable ref.database ref.table columns)⟩
  | .insert _ values, .ok (.inserted _ _), ⟨some (.file content), some table⟩ =>
      ⟨some (.file (content ++
          Utf8.encode (lineOf (Numeral.integer table.allocator.next :: values)))),
        some { table with allocator := table.allocator.step }⟩
  | _, _, state => state

namespace Store

/-- A table as a store has it. -/
def tableState (store : Store) (ref : TableRef) : TableState :=
  ⟨store.storage.tree.find? ref.home, store.catalog.tables.find? ref⟩

/-- Nothing but the home and the entry of one table has changed. -/
structure ChangesOnly (ref : TableRef) (before after : Store) : Prop where
  storage : after.storage = { before.storage with
    tree := after.storage.tree, troubles := after.storage.troubles }
  nodes : ∀ place, place ≠ ref.home →
    after.storage.tree.find? place = before.storage.tree.find? place
  databases : after.catalog.databases = before.catalog.databases
  entries : ∀ other, other ≠ ref →
    after.catalog.tables.find? other = before.catalog.tables.find? other

variable {session : Session} {line : Text} {before after : Store} {result : Except Failure Answer}
  {plan : Plan} {ref : TableRef}

/-- A line changes the tree of the storage at most, and the troubles to come. -/
theorem Effect.storage (effect : Effect session line before after result) :
    after.storage = { before.storage with
      tree := after.storage.tree, troubles := after.storage.troubles } := by
  cases effect with
  | nothing spends catalog quiet =>
      rw [spends.tree_eq]
      exact spends.same
  | database read valid new created catalog =>
      obtain ⟨place, -, stored⟩ := Storage.createDatabase_ok created
      rw [stored]
      rfl
  | table read selected known valid columns_valid new created catalog =>
      obtain ⟨place, -, stored⟩ := Storage.createTable_ok created
      rw [stored]
      rfl
  | row read selected resolved fits appended catalog =>
      obtain ⟨written, tree, -, -, -, stored⟩ := Storage.appendRow_ok appended
      rw [stored]
      rfl
  | stranded loses strands catalog => exact strands.storage_eq

/-- A command that gives no notice of a change leaves its table as it was. -/
theorem leaves_of_quiet (quiet : ∀ answer, result = .ok answer →
      (∃ name, answer = .selected name) ∨ ∃ columns rows, answer = .read columns rows)
    (state : TableState) : plan.leaves ref result state = state := by
  cases result with
  | error failure => cases plan <;> rfl
  | ok answer =>
      rcases quiet answer rfl with ⟨name, rfl⟩ | ⟨columns, rows, rfl⟩ <;> cases plan <;> rfl

/-- A new node at the home of a table and a new entry change nothing else. -/
theorem tableState_of_put {node : Node}
    (tree : after.storage.tree = before.storage.tree.put ref.home node) :
    after.tableState ref = ⟨some node, after.catalog.tables.find? ref⟩ ∧
      ∀ place, place ≠ ref.home →
        after.storage.tree.find? place = before.storage.tree.find? place := by
  refine ⟨?_, fun place other => ?_⟩
  · rw [tableState, tree, Index.find?_put_self]
  · rw [tree, Index.find?_put_of_ne (Ne.symm other)]

/-- A command on a table changes nothing else, and what it leaves behind there follows from what was
there and from its result. -/
theorem Grows.confined (grows : Grows session line before after result)
    (storage : after.storage = { before.storage with
      tree := after.storage.tree, troubles := after.storage.troubles })
    (read : Plan.read line = .ok plan) (addressed : plan.table? = some ref.table)
    (selected : session.database = some ref.database) :
    ChangesOnly ref before after ∧
      after.tableState ref = plan.leaves ref result (before.tableState ref) := by
  cases grows with
  | nothing tree catalog quiet =>
      refine ⟨⟨storage, fun _ _ => by rw [tree], by rw [catalog], fun _ _ => by rw [catalog]⟩, ?_⟩
      rw [leaves_of_quiet quiet, tableState, tableState, tree, catalog]
  | directory read_too =>
      cases read.symm.trans read_too
      cases addressed
  | @file database name columns read_too selected_too known plain inside free tree catalog =>
      cases read.symm.trans read_too
      cases addressed
      cases selected.symm.trans selected_too
      obtain ⟨state, nodes⟩ := tableState_of_put tree
      refine ⟨⟨storage, nodes, by rw [catalog]; rfl, fun other apart => ?_⟩, ?_⟩
      · rw [catalog]
        exact Index.find?_put_of_ne (Ne.symm apart)
      · rw [state, catalog, Catalog.addTable, newTable, Index.find?_put_self]
        rfl
  | @row database name values table content read_too selected_too registered found tree catalog =>
      cases read.symm.trans read_too
      cases addressed
      cases selected.symm.trans selected_too
      obtain ⟨state, nodes⟩ := tableState_of_put tree
      refine ⟨⟨storage, nodes, by rw [catalog]; rfl, fun other apart => ?_⟩, ?_⟩
      · rw [catalog, Catalog.find?_setAllocator, if_neg (Ne.symm apart)]
      · rw [state, catalog, Catalog.find?_setAllocator, if_pos rfl, registered, tableState, found,
          registered]
        rfl

end Store
end FlatStore
