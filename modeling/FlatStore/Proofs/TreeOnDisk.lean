import FlatStore.Proofs.Growth
import Mathlib.Data.List.Nodup

/-!
# Trees on disk

In a tree as it is on a disk the names of a node lead to the node, whatever it is.  So a listing
that is not refused shows every node of a directory.
-/

namespace FlatStore
namespace Tree

/-- A tree that a disk can hold: it is rooted, and no name is too long. -/
structure OnDisk (tree : Tree) : Prop where
  rooted : tree.Rooted
  short : ∀ place, (tree.find? place).isSome = true → ∀ name ∈ place.names,
    Utf8.size name ≤ nameLimit

instance (tree : Tree) : Decidable tree.OnDisk :=
  decidable_of_iff
    (tree.Rooted ∧ ∀ place ∈ tree.keys, ∀ name ∈ place.names, Utf8.size name ≤ nameLimit)
    ⟨fun both => ⟨both.1, fun place there => both.2 place (Index.mem_keys_iff.2 there)⟩,
      fun onDisk => ⟨onDisk.rooted, fun place member =>
        onDisk.short place (Index.mem_keys_iff.1 member)⟩⟩

variable {tree : Tree} {place directory : Place} {path : Path} {name : Text}

/-- A way can be gone in two parts. -/
theorem walk_append (early late : Path) :
    walk tree place (early ++ late) =
      (walk tree place early).bind fun between => walk tree between late := by
  induction early generalizing place with
  | nil => rfl
  | cons name early ih =>
      rw [List.cons_append, walk, walk]
      cases tree.find? place with
      | none => rfl
      | some node =>
          cases node with
          | file content => rfl
          | directory =>
              dsimp only
              split
              · exact ih
              · split
                · exact ih
                · rfl

/-- A name in a directory leads to its place. -/
theorem walk_singleton (found : tree.find? directory = some .directory)
    (inner : name ≠ Path.upward) (short : Utf8.size name ≤ nameLimit) :
    walk tree directory [name] = .ok (directory.child name) := by
  rw [walk, found]
  dsimp only
  rw [if_neg inner, if_pos short, walk]

/-- The names of a node lead to it. -/
theorem OnDisk.resolve_names (onDisk : tree.OnDisk) (there : (tree.find? place).isSome = true) :
    tree.resolve place.names = .ok place := by
  -- One step up at a time: the directory above is reached by the names before the last.
  induction names : place.names using List.reverseRecOn generalizing place with
  | nil =>
      obtain rfl : place = .root := Place.ext_names names
      rfl
  | append_singleton early name ih =>
      have not_root : place ≠ .root := by
        rintro rfl
        simp at names
      have above := onDisk.rooted.above place there not_root
      have above_names : place.parent.names = early := by
        rw [Place.names_parent, names, List.dropLast_concat]
      have place_eq : place = place.parent.child name :=
        Place.ext_names (by rw [Place.names_child, above_names, names])
      have member : name ∈ place.names := by rw [names]; simp
      have early_leads := ih (by rw [above]; rfl) above_names
      rw [resolve] at early_leads ⊢
      rw [walk_append, early_leads, Except.bind,
        walk_singleton above (onDisk.rooted.names place there name member).2.2.1
          (onDisk.short place there name member), ← place_eq]

theorem OnDisk.resolve_child (onDisk : tree.OnDisk)
    (there : (tree.find? (directory.child name)).isSome = true) :
    tree.resolve (directory.names ++ [name]) = .ok (directory.child name) :=
  onDisk.resolve_names there

theorem isFile_iff :
    tree.isFile path = true ↔
      ∃ place content, tree.resolve path = .ok place ∧
        tree.find? place = some (.file content) := by
  constructor
  · intro h
    rw [isFile] at h
    split at h
    · rename_i place content found
      exact ⟨place, content, look_eq_ok_iff.1 found⟩
    · cases h
  · rintro ⟨place, content, leads, found⟩
    exact isFile_of_find? leads found

/-- A node in a directory is a directory if its path leads to one. -/
theorem OnDisk.isDirectory_child_iff (onDisk : tree.OnDisk)
    (there : (tree.find? (directory.child name)).isSome = true) :
    tree.isDirectory (directory.names ++ [name]) = true ↔
      tree.find? (directory.child name) = some .directory := by
  rw [isDirectory_iff, onDisk.resolve_child there]
  simp

theorem OnDisk.isFile_child_iff (onDisk : tree.OnDisk)
    (there : (tree.find? (directory.child name)).isSome = true) :
    tree.isFile (directory.names ++ [name]) = true ↔
      ∃ content, tree.find? (directory.child name) = some (.file content) := by
  rw [isFile_iff, onDisk.resolve_child there]
  simp

/-- Every name is listed once. -/
theorem nodup_childNames (tree : Tree) (directory : Place) : (tree.childNames directory).Nodup := by
  rw [childNames, (List.mergeSort_perm _ _).nodup_iff]
  refine List.Nodup.filterMap ?_ tree.nodup_keys
  intro place other name here there
  rw [Option.mem_def, Place.childName?_eq_some_iff] at here there
  rw [here, there]

end Tree

namespace Storage

variable {storage : Storage} {database : Text}

/-- No path that is looked at when a directory is listed is too long. -/
def ShortBelow (storage : Storage) (directory : Place) : Prop :=
  storage.isTooLong directory.names = false ∧
    ∀ name, (storage.tree.find? (directory.child name)).isSome = true →
      storage.isTooLong (directory.names ++ [name]) = false

instance (storage : Storage) (directory : Place) : Decidable (storage.ShortBelow directory) :=
  decidable_of_iff (storage.isTooLong directory.names = false ∧
      ∀ name ∈ storage.tree.childNames directory,
        storage.isTooLong (directory.names ++ [name]) = false)
    (and_congr_right' (forall_congr' fun _ => imp_congr_left Tree.mem_childNames))

/-- A directory can be listed exactly if no path is too long for it. -/
theorem children_eq_ok_iff_shortBelow {directory : Place} (onDisk : storage.tree.OnDisk)
    (found : storage.tree.find? directory = some .directory) {names : List Text} :
    storage.children directory.names = .ok names ↔
      storage.ShortBelow directory ∧ names = storage.tree.childNames directory := by
  have listed : storage.tree.list directory.names = .ok (storage.tree.childNames directory) :=
    Tree.list_of_directory (onDisk.resolve_names (by rw [found]; rfl)) found
  rw [children_eq_ok_iff, listed, Except.ok.injEq]
  constructor
  · rintro ⟨short, rfl, each_short⟩
    exact ⟨⟨short, fun name there => each_short name (Tree.mem_childNames.2 there)⟩, rfl⟩
  · rintro ⟨⟨short, each_short⟩, rfl⟩
    exact ⟨short, rfl, fun name member => each_short name (Tree.mem_childNames.1 member)⟩

/-- Only the length of a path keeps a directory from being listed. -/
theorem refusal_of_children {directory : Place} (onDisk : storage.tree.OnDisk)
    (found : storage.tree.find? directory = some .directory) {path : Path} {refusal : Refusal}
    (refused : storage.children directory.names = .error (path, refusal)) :
    refusal = .nameTooLong := by
  have listed : storage.tree.list directory.names = .ok (storage.tree.childNames directory) :=
    Tree.list_of_directory (onDisk.resolve_names (by rw [found]; rfl)) found
  rw [children, reach, listed] at refused
  split at refused
  · rename_i long
    split at long
    · cases long
      cases refused
      rfl
    · cases long
  · split at refused
    · cases refused
      rfl
    · cases refused

/-- The databases that are listed are the directories directly below the root. -/
theorem databases_eq_ok_iff (onDisk : storage.tree.OnDisk)
    (root : storage.tree.find? .root = some .directory) {names : List Text} :
    storage.databases [] = .ok names ↔ storage.ShortBelow .root ∧
      names = (storage.tree.childNames .root).filter fun name =>
        storage.tree.isDirectory [name] := by
  have children_iff (names : List Text) :=
    @children_eq_ok_iff_shortBelow storage _ onDisk root names
  rw [databases]
  cases children : storage.children [] with
  | ok found =>
      obtain ⟨short, rfl⟩ := (children_iff found).1 children
      simp [short, eq_comm]
  | error refused =>
      obtain ⟨path, refusal⟩ := refused
      obtain rfl := refusal_of_children onDisk root children
      refine iff_of_false (by simp) ?_
      rintro ⟨short, -⟩
      have listed := (children_iff _).2 ⟨short, rfl⟩
      rw [Place.names_root, children] at listed
      cases listed

theorem mem_databases_iff (onDisk : storage.tree.OnDisk)
    (root : storage.tree.find? .root = some .directory) {names : List Text} {name : Text}
    (listed : storage.databases [] = .ok names) :
    name ∈ names ↔ storage.tree.find? (Place.root.child name) = some .directory := by
  obtain ⟨-, rfl⟩ := (databases_eq_ok_iff onDisk root).1 listed
  rw [List.mem_filter, Tree.mem_childNames]
  constructor
  · rintro ⟨there, is_directory⟩
    exact (onDisk.isDirectory_child_iff there).1 is_directory
  · intro found
    have there : (storage.tree.find? (Place.root.child name)).isSome = true := by rw [found]; rfl
    exact ⟨there, (onDisk.isDirectory_child_iff there).2 found⟩

theorem nodup_databases (onDisk : storage.tree.OnDisk)
    (root : storage.tree.find? .root = some .directory) {names : List Text}
    (listed : storage.databases [] = .ok names) : names.Nodup := by
  obtain ⟨-, rfl⟩ := (databases_eq_ok_iff onDisk root).1 listed
  exact (Tree.nodup_childNames _ _).filter _

/-- A database can be listed if nothing is wrong with it and no path is too long for it. -/
structure Listable (storage : Storage) (database : Text) : Prop where
  fine : storage.unlistable.find? database = none
  short : storage.ShortBelow (Place.root.child database)

theorem tablesIn_of_listable (onDisk : storage.tree.OnDisk)
    (found : storage.tree.find? (Place.root.child database) = some .directory)
    (listable : storage.Listable database) :
    storage.tablesIn database =
      ((storage.tree.childNames (Place.root.child database)).filter fun name =>
        storage.tree.isFile ([database] ++ [name]) &&
          (TableRef.ofFile? [] name).isSome).filterMap (TableRef.ofFile? database) :=
  tablesIn_of_children listable.fine
    ((children_eq_ok_iff_shortBelow onDisk found).2 ⟨listable.short, rfl⟩)

theorem tablesIn_of_not_listable (onDisk : storage.tree.OnDisk)
    (found : storage.tree.find? (Place.root.child database) = some .directory)
    (unlistable : ¬storage.Listable database) : storage.tablesIn database = [] := by
  rw [tablesIn, tablesOf]
  cases fine : storage.unlistable.find? database with
  | some reason => rfl
  | none =>
      cases children : storage.children [database] with
      | error refused => simp [tableFiles, children, Except.map]
      | ok names =>
          have short := ((children_eq_ok_iff_shortBelow onDisk found).1 children).1
          exact absurd ⟨fine, short⟩ unlistable

end Storage

theorem TableRef.table_ne_nil_of_ofFile? {database file : Text} {ref : TableRef}
    (h : ofFile? database file = some ref) : ref.table ≠ [] := by
  rw [ofFile?, Option.ite_none_right_eq_some, Bool.and_eq_true] at h
  obtain ⟨⟨-, some_stem⟩, same⟩ := h
  cases same
  simpa using some_stem

namespace Storage

variable {storage : Storage} {database : Text}

/-- The tables that are found in the directory of a database are those of its table files, unless it
can not be listed. -/
theorem mem_tablesIn_iff (onDisk : storage.tree.OnDisk)
    (found : storage.tree.find? (Place.root.child database) = some .directory) {ref : TableRef} :
    ref ∈ storage.tablesIn database ↔
      ref.database = database ∧ ref.table ≠ [] ∧ storage.Listable database ∧
        ∃ content, storage.tree.find? ref.home = some (.file content) := by
  by_cases listable : storage.Listable database
  · rw [tablesIn_of_listable onDisk found listable, List.mem_filterMap]
    constructor
    · rintro ⟨name, member, of_file⟩
      obtain ⟨listed, kept⟩ := List.mem_filter.1 member
      obtain ⟨is_file, -⟩ := Bool.and_eq_true_iff.1 kept
      obtain ⟨rfl, rfl⟩ := TableRef.fileName_of_ofFile? of_file
      exact ⟨rfl, TableRef.table_ne_nil_of_ofFile? of_file, listable,
        (onDisk.isFile_child_iff (Tree.mem_childNames.1 listed)).1 is_file⟩
    · rintro ⟨rfl, some_stem, -, content, stored⟩
      have there : (storage.tree.find? ref.home).isSome = true := by rw [stored]; rfl
      have is_table := TableRef.ofFile?_fileName ⟨[], ref.table⟩ some_stem
      have is_file : storage.tree.isFile ([ref.database] ++ [ref.fileName]) = true :=
        (onDisk.isFile_child_iff there).2 ⟨content, stored⟩
      refine ⟨ref.fileName, List.mem_filter.2 ⟨Tree.mem_childNames.2 there, ?_⟩,
        TableRef.ofFile?_fileName ref some_stem⟩
      rw [is_file, Bool.true_and]
      exact Option.isSome_iff_exists.2 ⟨_, is_table⟩
  · rw [tablesIn_of_not_listable onDisk found listable]
    simp [listable]

/-- Every table is found once. -/
theorem nodup_tablesIn (onDisk : storage.tree.OnDisk)
    (found : storage.tree.find? (Place.root.child database) = some .directory) :
    (storage.tablesIn database).Nodup := by
  by_cases listable : storage.Listable database
  · rw [tablesIn_of_listable onDisk found listable]
    refine List.Nodup.filterMap ?_ ((Tree.nodup_childNames _ _).filter _)
    intro file other ref here there
    rw [← (TableRef.fileName_of_ofFile? here).1, ← (TableRef.fileName_of_ofFile? there).1]
  · rw [tablesIn_of_not_listable onDisk found listable]
    exact List.nodup_nil

end Storage
end FlatStore
