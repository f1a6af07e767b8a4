import FlatStore.Proofs.Services
import FlatStore.Proofs.SoundStore
import Mathlib.Data.List.Induction

/-!
# Storage that only grows

Between outside changes the storage tree is changed by lines only, and by each in one of three ways:
a new empty directory directly below the root, a new file with its header line directly in the
directory of a database, or one more row at the end of the file of a registered table.  There is one
exception: a new file is left without its header if the header finds the disk full.  Over a whole
run no octet is changed or removed, files that belong to no registered table stay as they are, and
nothing is created anywhere else.
-/

namespace FlatStore

/-! ## Trees as they are on disk -/

/-- What a node can be called: something without slashes and null characters that leads straight
down. -/
def IsEntryName (name : Text) : Prop :=
  name ≠ [] ∧ name ≠ ['.'] ∧ name ≠ Path.upward ∧ '/' ∉ name ∧ '\x00' ∉ name

instance (name : Text) : Decidable (IsEntryName name) :=
  inferInstanceAs (Decidable (_ ∧ _))

theorem IsPlainName.isEntryName {name : Text} (plain : IsPlainName name) : IsEntryName name := by
  have absent {c : Char} (outer : isNameChar c = false) : c ∉ name := fun member => by
    rw [plain.2 c member] at outer
    cases outer
  refine ⟨plain.1, ?_, plain.ne_upward, absent (by decide), absent (by decide)⟩
  rintro rfl
  exact absent (c := '.') (by decide) (by simp)

/-- With its ending a name without slashes and null characters can name a file. -/
theorem TableRef.isEntryName_fileName_of_not_mem {ref : TableRef} (no_slash : '/' ∉ ref.table)
    (no_null : '\x00' ∉ ref.table) : IsEntryName ref.fileName := by
  refine ⟨?_, ?_, ref.fileName_ne_upward, ?_, ?_⟩
  · simp [fileName, suffix]
  · intro same
    have lengths := congrArg List.length same
    rw [fileName, List.length_append] at lengths
    have suffix_length : suffix.length = 4 := rfl
    have point_length : ['.'].length = 1 := rfl
    omega
  · rw [fileName, List.mem_append, not_or]
    exact ⟨no_slash, by decide⟩
  · rw [fileName, List.mem_append, not_or]
    exact ⟨no_null, by decide⟩

/-- With its ending a plain name is still a name. -/
theorem TableRef.isEntryName_fileName {ref : TableRef} (plain : IsPlainName ref.table) :
    IsEntryName ref.fileName := by
  obtain ⟨-, -, -, no_slash, no_null⟩ := plain.isEntryName
  exact isEntryName_fileName_of_not_mem no_slash no_null

namespace Tree

theorem isDirectory_iff {tree : Tree} {path : Path} :
    tree.isDirectory path = true ↔
      ∃ place, tree.resolve path = .ok place ∧ tree.find? place = some .directory := by
  constructor
  · intro h
    rw [isDirectory] at h
    split at h
    · rename_i place found
      exact ⟨place, look_eq_ok_iff.1 found⟩
    · cases h
  · rintro ⟨place, leads, found⟩
    exact isDirectory_of_find? leads found

/-- Every node stands in a directory and has a name that a node can have. -/
structure Rooted (tree : Tree) : Prop where
  names : ∀ place, (tree.find? place).isSome = true → ∀ name ∈ place.names, IsEntryName name
  above : ∀ place, (tree.find? place).isSome = true → place ≠ .root →
    tree.find? place.parent = some .directory

instance (tree : Tree) : Decidable tree.Rooted :=
  decidable_of_iff
    (∀ place ∈ tree.keys, (∀ name ∈ place.names, IsEntryName name) ∧
      (place ≠ .root → tree.find? place.parent = some .directory))
    ⟨fun each =>
      ⟨fun place there => (each place (Index.mem_keys_iff.2 there)).1,
        fun place there => (each place (Index.mem_keys_iff.2 there)).2⟩,
    fun rooted place member =>
      ⟨rooted.names place (Index.mem_keys_iff.1 member),
        rooted.above place (Index.mem_keys_iff.1 member)⟩⟩

variable {tree : Tree}

/-- A new node in a directory. -/
theorem Rooted.put (rooted : tree.Rooted) {directory : Place} {name : Text} (node : Node)
    (inside : tree.find? directory = some .directory) (entry : IsEntryName name)
    (free : tree.find? (directory.child name) ≠ some .directory) :
    Rooted (tree.put (directory.child name) node) where
  names place there := by
    rw [Index.find?_put] at there
    split at there
    · rename_i here
      subst here
      intro other member
      rw [Place.names_child, List.mem_append, List.mem_singleton] at member
      rcases member with member | rfl
      · exact rooted.names directory (by rw [inside]; rfl) other member
      · exact entry
    · exact rooted.names place there
  above place there not_root := by
    refine directory_put node free ?_
    rw [Index.find?_put] at there
    split at there
    · rename_i here
      rw [← here, Place.parent_child]
      exact inside
    · exact rooted.above place there not_root

/-- Where a node stands, a node stands on every part of the way. -/
theorem Rooted.isSome_of_holds (rooted : tree.Rooted) {above place : Place}
    (holds : above.holds place = true) (there : (tree.find? place).isSome = true) :
    (tree.find? above).isSome = true := by
  obtain ⟨rest, names⟩ := Place.holds_iff.1 holds
  -- One step up at a time: the directory above the node stands, and is nearer to `above`.
  induction rest using List.reverseRecOn generalizing place with
  | nil =>
      obtain rfl : above = place := Place.ext_names (by simpa using names)
      exact there
  | append_singleton rest name ih =>
      have not_root : place ≠ .root := by
        rintro rfl
        simp at names
      have parent := rooted.above place there not_root
      have parent_names : above.names ++ rest = place.parent.names := by
        rw [Place.names_parent, ← names, ← List.append_assoc, List.dropLast_concat]
      have held : above.holds place.parent = true := Place.holds_iff.2 ⟨rest, parent_names⟩
      exact ih held (by rw [parent]; rfl) parent_names

end Tree

/-- The place of a table file directly in the directory of its database. -/
def TableRef.home (ref : TableRef) : Place := (Place.root.child ref.database).child ref.fileName

/-- A new file in the directory of a database. -/
theorem Tree.Rooted.put_home {tree : Tree} (rooted : tree.Rooted) {ref : TableRef} (node : Node)
    (inside : tree.find? (Place.root.child ref.database) = some .directory)
    (entry : IsEntryName ref.fileName) (free : tree.find? ref.home ≠ some .directory) :
    Rooted (tree.put ref.home node) :=
  rooted.put node inside entry free

theorem TableRef.place_eq_home {ref : TableRef} (entry : IsEntryName ref.database) :
    ref.place = ref.home :=
  place_of_ne_upward entry.2.2.1

namespace Store

variable {session : Session} {line : Text} {before between after : Store}

/-! ## One line -/

/-- What a line does to the tree, by its result. -/
inductive Grows (session : Session) (line : Text) (before after : Store) :
    Except Failure Answer → Prop
  | nothing {result : Except Failure Answer}
      (tree : after.storage.tree = before.storage.tree) (catalog : after.catalog = before.catalog)
      (quiet : ∀ answer, result = .ok answer →
        (∃ name, answer = .selected name) ∨ ∃ columns rows, answer = .read columns rows) :
      Grows session line before after result
  /-- A directory with nothing in it. -/
  | directory {name : Text} (read : Plan.read line = .ok (.createDatabase name))
      (plain : IsPlainName name)
      (free : ∀ place, (Place.root.child name).holds place = true →
        before.storage.tree.find? place = none)
      (tree : after.storage.tree = before.storage.tree.put (Place.root.child name) .directory)
      (catalog : after.catalog = before.catalog.addDatabase name) :
      Grows session line before after (.ok (.databaseCreated name))
  /-- A file with its header line in the directory of the selected database. -/
  | file {database name : Text} {columns : List Text}
      (read : Plan.read line = .ok (.createTable name columns))
      (selected : session.database = some database)
      (known : before.catalog.hasDatabase database = true) (plain : IsPlainName name)
      (inside : before.storage.tree.find? (Place.root.child database) = some .directory)
      (free : before.storage.tree.find? (TableRef.home ⟨database, name⟩) = none)
      (tree : after.storage.tree = before.storage.tree.put (TableRef.home ⟨database, name⟩)
        (.file (Utf8.encode (Schema.ofColumns columns).header)))
      (catalog : after.catalog = before.catalog.addTable (newTable database name columns)) :
      Grows session line before after (.ok (.tableCreated name))
  /-- The line of a row at the end of the file of a registered table. -/
  | row {database name : Text} {values : List Text} {table : Table} {content : Octets}
      (read : Plan.read line = .ok (.insert name values))
      (selected : session.database = some database)
      (registered : before.catalog.tables.find? ⟨database, name⟩ = some table)
      (found : before.storage.tree.find? (TableRef.home ⟨database, name⟩) = some (.file content))
      (tree : after.storage.tree = before.storage.tree.put (TableRef.home ⟨database, name⟩)
        (.file (content ++ Utf8.encode (lineOf (Numeral.integer table.allocator.next :: values)))))
      (catalog : after.catalog =
        before.catalog.setAllocator ⟨database, name⟩ table.allocator.step) :
      Grows session line before after (.ok (.inserted name table.allocator.next))

/-- What a line leaves behind whose header finds the disk full: a file in the directory of the
selected database that is empty and belongs to no table. -/
inductive LeavesStub (session : Session) (line : Text) (before after : Store) :
    Except Failure Answer → Prop
  | file {database name : Text} {columns : List Text}
      (read : Plan.read line = .ok (.createTable name columns))
      (selected : session.database = some database)
      (known : before.catalog.hasDatabase database = true) (plain : IsPlainName name)
      (inside : before.storage.tree.find? (Place.root.child database) = some .directory)
      (free : before.storage.tree.find? (TableRef.home ⟨database, name⟩) = none)
      (tree : after.storage.tree =
        before.storage.tree.put (TableRef.home ⟨database, name⟩) (.file []))
      (catalog : after.catalog = before.catalog) :
      LeavesStub session line before after (.error (.store (.file .createTable .diskFull)))

/-- What the catalog knows stands at its place in the tree. -/
structure Housed (store : Store) : Prop where
  root : store.storage.tree.find? .root = some .directory
  rooted : store.storage.tree.Rooted
  databases : ∀ name, store.catalog.hasDatabase name = true →
    store.storage.tree.find? (Place.root.child name) = some .directory
  tables : ∀ ref table, store.catalog.tables.find? ref = some table →
    store.catalog.hasDatabase ref.database = true ∧ table.ref = ref ∧ table.path = ref.path ∧
      ∃ content, store.storage.tree.find? ref.home = some (.file content)

/-- A known database is called as a node can be called. -/
theorem Housed.isEntryName {store : Store} (housed : Housed store) {name : Text}
    (known : store.catalog.hasDatabase name = true) : IsEntryName name :=
  housed.rooted.names (Place.root.child name) (by rw [housed.databases name known]; rfl) name
    (by simp)

/-- The path of a table in a known database leads to its home. -/
theorem Housed.eq_home {store : Store} (housed : Housed store) {ref : TableRef} {place : Place}
    (known : store.catalog.hasDatabase ref.database = true)
    (leads : store.storage.tree.resolve ref.path = .ok place) : place = ref.home :=
  (TableRef.place_eq_of_resolve leads).trans (TableRef.place_eq_home (housed.isEntryName known))

/-- What a line does to housed files and databases.  A line of text that is lost there is the header
of a new table, since the rows of a table find its file. -/
theorem Effect.grows_or_leavesStub {result : Except Failure Answer} (housed : Housed before)
    (effect : Effect session line before after result) :
    Grows session line before after result ∨
      (∃ place task, LosesLine before session line place task) ∧
        LeavesStub session line before after result := by
  cases effect with
  | nothing spends catalog quiet => exact .inl (.nothing spends.tree_eq catalog quiet)
  | @database name read valid new created catalog =>
      have plain : IsPlainName name := isPlainName_of_isWord valid (Plan.fits_of_read read)
      obtain ⟨place, ⟨-, leads, free⟩, stored⟩ := Storage.createDatabase_ok created
      obtain rfl := Tree.resolve_singleton plain.ne_upward leads
      refine .inl (.directory read plain (fun place below => ?_) (by rw [stored]; rfl) catalog)
      by_contra there
      -- Otherwise something would stand at the new directory, too.
      have above := housed.rooted.isSome_of_holds below (Option.isSome_iff_ne_none.2 there)
      rw [free] at above
      cases above
  | @table database name columns read selected known valid columns_valid new created catalog =>
      have plain : IsPlainName name := isPlainName_of_isWord valid (Plan.fits_of_read read).1
      obtain ⟨place, ⟨-, leads, free⟩, stored⟩ := Storage.createTable_ok created
      obtain rfl : place = TableRef.home ⟨database, name⟩ := housed.eq_home known leads
      exact .inl (.file read selected known plain (housed.databases database known) free
        (by rw [stored]; rfl) catalog)
  | @row database name values table read selected resolved fits appended catalog =>
      obtain ⟨known, registered⟩ := Catalog.resolve_eq_ok_iff.1 resolved
      obtain ⟨-, ref_eq, path_eq, content, found⟩ := housed.tables _ table registered
      have current : before.allocatorOf table = table.allocator :=
        allocatorOf_of_find? (by rw [ref_eq]; exact registered)
      rw [current, path_eq] at appended
      rw [current, ref_eq] at catalog
      rw [current]
      obtain ⟨written, tree, is_line, -, extended, stored⟩ := Storage.appendRow_ok appended
      obtain ⟨-, rfl⟩ := Storage.rowLine?_eq_some is_line
      obtain ⟨place, -, leads, -⟩ := Tree.append_eq_ok extended
      obtain rfl : place = TableRef.home ⟨database, name⟩ := housed.eq_home known leads
      rw [Tree.append_of_find? leads found, Except.ok.injEq] at extended
      exact .inl (.row read selected registered found (by rw [stored, ← extended]; rfl) catalog)
  | @stranded place task loses strands catalog =>
      refine .inr ⟨⟨place, task, loses⟩, ?_⟩
      cases loses with
      | @header database name columns read selected loses =>
          obtain ⟨known, valid, -⟩ := checkTable_ok loses.checked
          have plain : IsPlainName name := isPlainName_of_isWord valid (Plan.fits_of_read read).1
          obtain rfl : place = TableRef.home ⟨database, name⟩ :=
            housed.eq_home known loses.free.leads
          exact .file read selected known plain (housed.databases database known)
            loses.free.absent strands.tree_eq catalog
      | @row database name values entry read selected resolved fits loses =>
          obtain ⟨known, registered⟩ := Catalog.resolve_eq_ok_iff.1 resolved
          obtain ⟨-, -, path_eq, content, found⟩ := housed.tables _ entry registered
          have leads := loses.free.leads
          rw [path_eq] at leads
          have here : place = TableRef.home ⟨database, name⟩ := housed.eq_home known leads
          rw [← here, loses.free.absent] at found
          cases found

/-- A line grows if no line of text is lost. -/
theorem Effect.grows {result : Except Failure Answer} (housed : Housed before)
    (effect : Effect session line before after result)
    (kept : ∀ place task, ¬LosesLine before session line place task) :
    Grows session line before after result :=
  (effect.grows_or_leavesStub housed).resolve_right fun ⟨⟨place, task, loses⟩, _⟩ =>
    kept place task loses

/-- Where a line of text is lost, a file is left that no growth leaves behind. -/
theorem LosesLine.not_grows {strict : Bool} {place : Place} {task : FileTask}
    (loses : LosesLine before session line place task) :
    ¬Grows session line before (before.execute strict session line).store
      (before.execute strict session line).result := by
  rw [(loses.execute_eq strict).1]
  intro grows
  cases grows with
  | nothing same catalog quiet => exact loses.tree_ne strict same

/-! ## Growth -/

/-- The nodes that lines create. -/
inductive Created : Place → Node → Prop
  | directory {name : Text} (plain : IsPlainName name) : Created (Place.root.child name) .directory
  | file {ref : TableRef} (database : IsEntryName ref.database) (plain : IsPlainName ref.table)
      (content : Octets) : Created ref.home (.file content)

/-- One store comes from another by growing. -/
structure Grown (before after : Store) : Prop where
  directories : ∀ place, before.storage.tree.find? place = some .directory →
    after.storage.tree.find? place = some .directory
  /-- A file is extended at most, and only the file of a registered table. -/
  files : ∀ place content, before.storage.tree.find? place = some (.file content) →
    after.storage.tree.find? place = some (.file content) ∨
      ∃ ref table added, before.catalog.tables.find? ref = some table ∧ place = ref.home ∧
        after.storage.tree.find? place = some (.file (content ++ added))
  created : ∀ place node, before.storage.tree.find? place = none →
    after.storage.tree.find? place = some node → Created place node
  /-- Nothing that is there becomes the file of a new table. -/
  registered : ∀ ref table, after.catalog.tables.find? ref = some table →
    (∃ old, before.catalog.tables.find? ref = some old ∧ table.ref = old.ref ∧
      table.path = old.path) ∨ before.storage.tree.find? ref.home = none

theorem Grown.of_same (tree : after.storage.tree = before.storage.tree)
    (catalog : after.catalog = before.catalog) : Grown before after where
  directories place found := by rw [tree, found]
  files place content found := .inl (by rw [tree, found])
  created place node absent found := by
    rw [tree, absent] at found
    cases found
  registered ref table found := .inl ⟨table, by rw [← catalog, found], rfl, rfl⟩

/-- A new node where nothing was. -/
theorem Grown.of_created {place : Place} {node : Node}
    (free : before.storage.tree.find? place = none)
    (tree : after.storage.tree = before.storage.tree.put place node) (created : Created place node)
    (registered : ∀ ref table, after.catalog.tables.find? ref = some table →
      before.catalog.tables.find? ref = some table ∨ ref.home = place) : Grown before after where
  directories other found := by
    rw [tree]
    exact Tree.directory_put node (by simp [free]) found
  files other content found := by
    refine .inl ?_
    rw [tree, Index.find?_put_of_ne, found]
    rintro rfl
    rw [free] at found
    cases found
  created other new absent found := by
    rw [tree, Index.find?_put] at found
    split at found
    · rename_i here
      cases found
      exact here ▸ created
    · rw [absent] at found
      cases found
  registered ref table found := by
    rcases registered ref table found with old | here
    · exact .inl ⟨table, old, rfl, rfl⟩
    · exact .inr (here ▸ free)

/-- More octets at the end of the file of a registered table. -/
theorem Grown.of_extended {ref : TableRef} {table : Table} {content added : Octets}
    {allocator : Allocator} (registered : before.catalog.tables.find? ref = some table)
    (found : before.storage.tree.find? ref.home = some (.file content))
    (tree : after.storage.tree = before.storage.tree.put ref.home (.file (content ++ added)))
    (catalog : after.catalog = before.catalog.setAllocator ref allocator) : Grown before after where
  directories other there := by
    rw [tree]
    exact Tree.directory_put _ (by simp [found]) there
  files other old there := by
    rw [tree, Index.find?_put]
    split
    · rename_i here
      rw [← here, found] at there
      cases there
      exact .inr ⟨ref, table, added, registered, here.symm, rfl⟩
    · exact .inl there
  created other new absent there := by
    rw [tree, Index.find?_put] at there
    split at there
    · rename_i here
      rw [← here, found] at absent
      cases absent
    · rw [absent] at there
      cases there
  registered other entry there := by
    rw [catalog, Catalog.find?_setAllocator] at there
    split at there
    · rename_i here
      rw [registered] at there
      cases there
      exact .inl ⟨table, here ▸ registered, rfl, rfl⟩
    · exact .inl ⟨entry, there, rfl, rfl⟩

theorem Grown.trans (first : Grown before between) (second : Grown between after) :
    Grown before after where
  directories place found := second.directories place (first.directories place found)
  files place content found := by
    rcases first.files place content found with
      same | ⟨ref, table, added, registered, here, extended⟩
    · rcases second.files place content same with
        same | ⟨ref, table, added, registered, here, extended⟩
      · exact .inl same
      · rcases first.registered ref table registered with ⟨old, registered, -, -⟩ | free
        · exact .inr ⟨ref, old, added, registered, here, extended⟩
        · -- A table that was registered meanwhile has a new file, and this one is old.
          rw [← here, found] at free
          cases free
    · rcases second.files place _ extended with same | ⟨_, _, more, -, -, extended⟩
      · exact .inr ⟨ref, table, added, registered, here, same⟩
      · exact .inr ⟨ref, table, added ++ more, registered, here, by
          rw [extended, List.append_assoc]⟩
  created place node absent found := by
    rcases there : between.storage.tree.find? place with _ | middle
    · exact second.created place node there found
    · have new := first.created place middle absent there
      cases middle with
      | directory =>
          rw [second.directories place there] at found
          cases found
          exact new
      | file content =>
          cases new with
          | file database plain content =>
              rcases second.files _ content there with same | ⟨_, _, added, -, -, extended⟩
              · rw [same] at found
                cases found
                exact .file database plain content
              · rw [extended] at found
                cases found
                exact .file database plain _
  registered ref table found := by
    rcases second.registered ref table found with ⟨middle, registered, ref_eq, path_eq⟩ | free
    · rcases first.registered ref middle registered with ⟨old, old_found, old_ref, old_path⟩ | free
      · exact .inl ⟨old, old_found, ref_eq.trans old_ref, path_eq.trans old_path⟩
      · exact .inr free
    · refine .inr ?_
      rcases there : before.storage.tree.find? ref.home with _ | _ | content
      · rfl
      · rw [first.directories _ there] at free
        cases free
      · rcases first.files _ content there with same | ⟨_, _, _, -, -, extended⟩
        · rw [same] at free
          cases free
        · rw [extended] at free
          cases free

/-- A line lets a store grow. -/
theorem Grows.grown {result : Except Failure Answer} (housed : Housed before)
    (grows : Grows session line before after result) : Grown before after := by
  cases grows with
  | nothing tree catalog _ => exact .of_same tree catalog
  | @directory name read plain free tree catalog =>
      have absent : before.storage.tree.find? (Place.root.child name) = none :=
        free _ (Place.holds_iff.2 (List.prefix_refl _))
      refine .of_created absent tree (.directory plain) ?_
      intro ref table found
      rw [catalog, tables_addDatabase] at found
      exact .inl found
  | @file database name columns read selected known plain inside free tree catalog =>
      refine .of_created free tree (.file (housed.isEntryName known) plain _) ?_
      intro ref table found
      rw [catalog, Catalog.addTable, Index.find?_put] at found
      split at found
      · rename_i here
        exact .inr (here ▸ rfl)
      · exact .inl found
  | row read selected registered found tree catalog =>
      exact .of_extended registered found tree catalog

/-- A file without its header grows a store, too. -/
theorem LeavesStub.grown {result : Except Failure Answer} (housed : Housed before)
    (leaves : LeavesStub session line before after result) : Grown before after := by
  cases leaves with
  | file read selected known plain inside free tree catalog =>
      refine .of_created free tree (.file (housed.isEntryName known) plain []) ?_
      rw [catalog]
      exact fun ref table found => .inl found

/-! ## Growing on -/

/-- What was housed stays so when the tree grows and new entries are housed, too. -/
theorem Housed.of_grown (housed : Housed before) (grown : Grown before after)
    (rooted : after.storage.tree.Rooted)
    (kept : ∀ name, before.catalog.hasDatabase name = true →
      after.catalog.hasDatabase name = true)
    (databases : ∀ name, after.catalog.hasDatabase name = true →
      before.catalog.hasDatabase name = true ∨
        after.storage.tree.find? (Place.root.child name) = some .directory)
    (tables : ∀ ref table, after.catalog.tables.find? ref = some table →
      (∃ old, before.catalog.tables.find? ref = some old ∧ table.ref = old.ref ∧
        table.path = old.path) ∨
      after.catalog.hasDatabase ref.database = true ∧ table.ref = ref ∧ table.path = ref.path ∧
        ∃ content, after.storage.tree.find? ref.home = some (.file content)) : Housed after where
  root := grown.directories _ housed.root
  rooted := rooted
  databases name known :=
    (databases name known).elim (fun old => grown.directories _ (housed.databases name old)) id
  tables ref table found := by
    rcases tables ref table found with ⟨old, found_old, ref_eq, path_eq⟩ | new
    · obtain ⟨known, old_ref, old_path, content, stored⟩ := housed.tables ref old found_old
      refine ⟨kept _ known, ref_eq.trans old_ref, path_eq.trans old_path, ?_⟩
      rcases grown.files _ content stored with same | ⟨_, _, _, -, -, extended⟩
      · exact ⟨_, same⟩
      · exact ⟨_, extended⟩
    · exact new

/-- It matters only where things stand and what is known. -/
theorem Housed.congr (housed : Housed before) (tree : after.storage.tree = before.storage.tree)
    (catalog : after.catalog = before.catalog) : Housed after where
  root := by rw [tree]; exact housed.root
  rooted := by rw [tree]; exact housed.rooted
  databases := by rw [tree, catalog]; exact housed.databases
  tables := by rw [tree, catalog]; exact housed.tables

/-- A line keeps everything housed. -/
theorem Grows.housed {result : Except Failure Answer} (housed : Housed before)
    (grows : Grows session line before after result) : Housed after := by
  have grown := grows.grown housed
  cases grows with
  | nothing tree catalog _ => exact housed.congr tree catalog
  | @directory name read plain free tree catalog =>
      have absent : before.storage.tree.find? (Place.root.child name) = none :=
        free _ (Place.holds_iff.2 (List.prefix_refl _))
      refine housed.of_grown grown ?_ ?_ ?_ ?_
      · rw [tree]
        exact housed.rooted.put _ housed.root plain.isEntryName (by simp [absent])
      · intro other known
        rw [catalog, hasDatabase_addDatabase]
        exact .inr known
      · intro other known
        rw [catalog, hasDatabase_addDatabase] at known
        rcases known with rfl | old
        · exact .inr (by rw [tree]; exact Index.find?_put_self ..)
        · exact .inl old
      · rw [catalog, tables_addDatabase]
        exact fun ref table found => .inl ⟨table, found, rfl, rfl⟩
  | @file database name columns read selected known plain inside free tree catalog =>
      refine housed.of_grown grown ?_ ?_ ?_ ?_
      · rw [tree]
        exact housed.rooted.put_home _ inside (TableRef.isEntryName_fileName plain) (by simp [free])
      · rw [catalog]
        exact fun _ => id
      · rw [catalog]
        exact fun _ => .inl
      · intro ref table found
        rw [catalog, Catalog.addTable, Index.find?_put] at found
        split at found
        · rename_i here
          cases found
          subst here
          exact .inr ⟨by rw [catalog]; exact known, rfl, rfl, _, by
            rw [tree]; exact Index.find?_put_self ..⟩
        · exact .inl ⟨table, found, rfl, rfl⟩
  | @row database name values table content read selected registered found tree catalog =>
      obtain ⟨known, -, -, -⟩ := housed.tables _ _ registered
      have entry : IsEntryName (TableRef.fileName ⟨database, name⟩) :=
        housed.rooted.names _ (by rw [found]; rfl) _ (by simp [TableRef.home])
      refine housed.of_grown grown ?_ ?_ ?_ ?_
      · rw [tree]
        exact housed.rooted.put_home _ (housed.databases database known) entry (by simp [found])
      · rw [catalog]
        exact fun _ => id
      · rw [catalog]
        exact fun _ => .inl
      · intro ref entry found
        rw [catalog, Catalog.find?_setAllocator] at found
        split at found
        · rename_i here
          rw [registered] at found
          cases found
          subst here
          exact .inl ⟨table, registered, rfl, rfl⟩
        · exact .inl ⟨entry, found, rfl, rfl⟩

/-- So does a file without its header. -/
theorem LeavesStub.housed {result : Except Failure Answer} (housed : Housed before)
    (leaves : LeavesStub session line before after result) : Housed after := by
  have grown := leaves.grown housed
  cases leaves with
  | file read selected known plain inside free tree catalog =>
      refine housed.of_grown grown ?_ ?_ ?_ ?_
      · rw [tree]
        exact housed.rooted.put_home _ inside (TableRef.isEntryName_fileName plain) (by simp [free])
      · rw [catalog]
        exact fun _ => id
      · rw [catalog]
        exact fun _ => .inl
      · rw [catalog]
        exact fun ref table found => .inl ⟨table, found, rfl, rfl⟩

/-- Whatever a line does, everything stays housed and the store has grown. -/
theorem Effect.housed_grown {result : Except Failure Answer} (housed : Housed before)
    (effect : Effect session line before after result) : Housed after ∧ Grown before after := by
  rcases effect.grows_or_leavesStub housed with grows | ⟨-, leaves⟩
  · exact ⟨grows.housed housed, grows.grown housed⟩
  · exact ⟨leaves.housed housed, leaves.grown housed⟩

/-! ## Loading -/

end Store

/-- Preparing creates the root directory at most. -/
theorem Storage.rooted_of_prepared {storage after : Storage} (rooted : storage.tree.Rooted)
    (prepared : storage.prepared = .ok after) :
    after.tree.Rooted ∧ after.tree.find? .root = some .directory := by
  rw [Storage.prepared] at prepared
  split at prepared
  · rename_i absent
    cases prepared
    refine ⟨⟨fun place there => ?_, fun place there not_root => ?_⟩, Index.find?_put_self ..⟩
    · by_cases here : Place.root = place
      · subst here
        simp
      · rw [Storage.withTree, Index.find?_put_of_ne here] at there
        exact rooted.names place there
    · rw [Storage.withTree, Index.find?_put_of_ne (Ne.symm not_root)] at there
      exact Tree.directory_put _ (by simp [absent]) (rooted.above place there not_root)
  · rename_i there
    cases prepared
    exact ⟨rooted, there⟩
  · cases prepared

/-- The databases that are listed are directories below the root. -/
theorem Storage.directory_of_mem_databases {storage : Storage} {names : List Text} {name : Text}
    (rooted : storage.tree.Rooted) (root : storage.tree.find? .root = some .directory)
    (listed : storage.databases [] = .ok names) (member : name ∈ names) :
    storage.tree.find? (Place.root.child name) = some .directory := by
  cases children : storage.children [] with
  | error refused =>
      obtain ⟨path, refusal⟩ := refused
      rw [Storage.databases, children] at listed
      dsimp only at listed
      split at listed
      · cases listed
      · cases listed
        cases member
  | ok found =>
      rw [Storage.databases_of_children children, Except.ok.injEq] at listed
      rw [← listed, List.mem_filter] at member
      obtain ⟨-, in_root, -⟩ := Storage.children_eq_ok_iff.1 children
      rw [Tree.list_of_directory rfl root, Except.ok.injEq] at in_root
      rw [← in_root, Tree.mem_childNames] at member
      obtain ⟨there, directory⟩ := member
      have entry := rooted.names _ there name (by simp)
      obtain ⟨place, leads, found⟩ := Tree.isDirectory_iff.1 directory
      rwa [Tree.resolve_singleton entry.2.2.1 leads] at found

namespace Store

/-- What a load finds is housed. -/
theorem housed_of_load {storage : Storage} {store : Store} (rooted : storage.tree.Rooted)
    (loaded : (ofStorage storage).load = .ok store) : Housed store := by
  obtain ⟨prepared, names, prepares, listed, loads⟩ := load_eq_ok loaded
  obtain ⟨rooted, root⟩ := Storage.rooted_of_prepared rooted prepares
  have databases : ∀ name, store.catalog.hasDatabase name = true →
      prepared.tree.find? (Place.root.child name) = some .directory := fun name known => by
    rcases (loads.databases name).1 known with member | known
    · exact Storage.directory_of_mem_databases rooted root listed member
    · cases known
  refine ⟨?_, ?_, ?_, fun ref table found => ?_⟩
  · rw [loads.storage]
    exact root
  · rw [loads.storage]
    exact rooted
  · rw [loads.storage]
    exact databases
  · obtain ⟨text, stored, -, ref_eq, path_eq⟩ := exists_text_of_load loaded found
    have known : store.catalog.hasDatabase ref.database = true := by
      rw [loads.tables] at found
      split at found
      · rename_i member
        obtain ⟨name, listed_name, listed_in⟩ := List.mem_flatMap.1 member
        rw [← Storage.database_of_mem_tablesIn listed_in] at listed_name
        exact (loads.databases ref.database).2 (.inl listed_name)
      · cases found
    have entry : IsEntryName ref.database :=
      rooted.names _ (by rw [databases _ known]; rfl) _ (by simp)
    obtain ⟨-, readable⟩ := Storage.contentAt_eq_ok_iff.1 stored
    obtain ⟨place, leads, there⟩ := Tree.read_eq_ok_iff.1 readable
    rw [TableRef.place_eq_of_resolve leads, TableRef.place_eq_home entry] at there
    exact ⟨known, ref_eq, path_eq, _, there⟩

end Store

namespace Service

/-- From outside nothing is changed but the troubles in store: the disk may be filled. -/
def DiskFills (before after : Storage) : Prop :=
  after = { before with troubles := after.troubles }

variable {start service later : Service} {session : Session} {line : Text}

/-- Whatever lines lead to is housed and has grown. -/
theorem Leads.housed_grown (housed : start.store.Housed) (leads : Leads DiskFills start service) :
    service.store.Housed ∧ start.store.Grown service.store := by
  induction leads with
  | refl => exact ⟨housed, .of_same rfl rfl⟩
  | @command service _ strict number line ih =>
      obtain ⟨housed_service, grown⟩ := ih
      obtain ⟨housed_after, grown_on⟩ :=
        (Store.execute_effect service.store strict (service.session number) line).housed_grown
          housed_service
      exact ⟨housed_after, grown.trans grown_on⟩
  | @outside service _ storage permitted ih =>
      obtain ⟨housed_service, grown⟩ := ih
      have tree : storage.tree = service.store.storage.tree := by rw [permitted]
      exact ⟨housed_service.congr tree rfl, grown.trans (.of_same tree rfl)⟩
  | telemetry _ _ ih => exact ⟨ih.1.congr rfl rfl, ih.2.trans (.of_same rfl rfl)⟩

/-- Whatever lines of any sessions are executed on a store that was loaded, each of them changes the
tree in one of three ways at most, exactly if no line of text is lost for which a file was opened;
otherwise an empty file is left in the directory of a database.  Over the whole run the tree only
grows. -/
theorem storage_grows_iff {storage : Storage} {store : Store} (rooted : storage.tree.Rooted)
    (loaded : (Store.ofStorage storage).load = .ok store)
    (leads : Leads DiskFills (ofStore store) service) :
    (∀ strict number line,
      (Store.Grows (service.session number) line service.store
          (service.execute strict number line).1.store (service.execute strict number line).2 ↔
        ∀ place task, ¬Store.LosesLine service.store (service.session number) line place task) ∧
      (∀ place task, Store.LosesLine service.store (service.session number) line place task →
        Store.LeavesStub (service.session number) line service.store
          (service.execute strict number line).1.store (service.execute strict number line).2)) ∧
    ∀ later, Leads DiskFills service later → service.store.Grown later.store := by
  have housed := (leads.housed_grown (Store.housed_of_load rooted loaded)).1
  refine ⟨fun strict number line => ⟨⟨fun grows place task loses => loses.not_grows grows, ?_⟩,
    fun place task loses => ?_⟩, fun later leads => (leads.housed_grown housed).2⟩
  · exact (Store.execute_effect service.store strict (service.session number) line).grows housed
  · have effect := Store.execute_effect service.store strict (service.session number) line
    exact ((effect.grows_or_leavesStub housed).resolve_left loses.not_grows).2

/-- A line that inserts a row into the table of the sample. -/
def sampleLine : Text := "INSERT INTO stock VALUES (y)".toList

/-- The file of the sample grows by one row, as long as there is room on the disk. -/
theorem storage_grows_sample :
    Store.Grows (usedService.session 1) sampleLine usedService.store
        (usedService.execute false 1 sampleLine).1.store (.ok (.inserted "stock".toList 2)) ∧
      (Store.sampleStore Store.endedText).Grown (usedService.execute false 1 sampleLine).1.store ∧
      (usedService.execute false 1 sampleLine).1.store.storage.tree.find? Store.sampleRef.home =
        some (.file (Utf8.encode (Store.endedText ++ "2\ty\n".toList))) := by
  have rooted : (Store.sampleStorage Store.endedText).tree.Rooted := by decide +kernel
  have used : Leads DiskFills (ofStore (Store.sampleStore Store.endedText)) usedService :=
    .command .refl false 1 "USE shop".toList
  have inserted : (usedService.execute false 1 sampleLine).2 = .ok (.inserted "stock".toList 2) :=
    eq_ok_of_toOption (by decide +kernel)
  have room : usedService.store.storage.troubles.fullLines = 0 := by decide +kernel
  have grows := ((storage_grows_iff rooted Store.load_endedText used).1 false 1 sampleLine).1.2
    fun place task loses => loses.full room
  rw [inserted] at grows
  exact ⟨grows, (storage_grows_iff rooted Store.load_endedText .refl).2 _ (.command used false 1 _),
    by decide +kernel⟩

/-- A header that finds the disk full: the line fails, and it changes the tree in a way that is none
of the three. -/
theorem storage_grows_header :
    let store := Store.sampleStore Store.endedText
    let service := troubledService ⟨0, 1⟩
    (Store.sampleStorage Store.endedText).tree.Rooted ∧
      (Store.ofStorage (Store.sampleStorage Store.endedText)).load = .ok store ∧
      Leads DiskFills (ofStore store) service ∧
      ∃ after, service.execute false 1 strandedLine =
          (after, .error (.store (.file .createTable .diskFull))) ∧
        service.store.storage.tree.find? strandedRef.home = none ∧
        after.store.storage.tree.find? strandedRef.home = some (.file []) ∧
        ¬Store.Grows (service.session 1) strandedLine service.store after.store
          (.error (.store (.file .createTable .diskFull))) := by
  have absent : (troubledService ⟨0, 1⟩).store.storage.tree.find? strandedRef.home = none := by
    decide +kernel
  have stub : ((troubledService ⟨0, 1⟩).execute false 1 strandedLine).1.store.storage.tree.find?
      strandedRef.home = some (.file []) := by
    decide +kernel
  refine ⟨by decide +kernel, Store.load_endedText,
    .outside (.command .refl false 1 "USE shop".toList) rfl, _,
    Prod.ext rfl (eq_error_of_error? (by decide +kernel)), absent, stub, fun grows => ?_⟩
  cases grows with
  | nothing tree catalog quiet =>
      rw [tree, absent] at stub
      cases stub

end Service
end FlatStore
