import FlatStore.Proofs.Loading

/-!
# Listing

The names that are listed in a directory are those of the nodes directly below it.  So the databases
that loading finds are the directories below the root, and the tables of a database are the files in
its directory whose names are those of table files.
-/

namespace FlatStore

namespace Place

/-- A place is below a directory exactly if it is the place of a name in it. -/
theorem childName?_eq_some_iff {directory place : Place} {name : Text} :
    directory.childName? place = some name ↔ place = directory.child name := by
  constructor
  · intro h
    rw [childName?, Option.ite_none_right_eq_some, Bool.and_eq_true, decide_eq_true_eq,
      holds_iff] at h
    obtain ⟨⟨depth, rest, begins⟩, last⟩ := h
    have one_more : rest.length = 1 := by
      have lengths := congrArg List.length begins
      rw [List.length_append, ← directory.depth_eq, ← place.depth_eq] at lengths
      omega
    obtain ⟨only, rfl⟩ := List.length_eq_one_iff.1 one_more
    rw [← begins, List.getLast?_concat, Option.some.injEq] at last
    ext1
    rw [← begins, names_child, last]
  · rintro rfl
    exact childName?_child directory name

theorem child_injective {directory : Place} {name other : Text}
    (same : directory.child name = directory.child other) : name = other := by
  have names := congrArg Place.names same
  rw [names_child, names_child] at names
  exact List.singleton_inj.1 (List.append_cancel_left names)

end Place

namespace Text

theorem precedes_cons_cons {c d : Char} {left right : Text} :
    precedes (c :: left) (d :: right) = true ↔
      c.toNat < d.toNat ∨ c = d ∧ precedes left right = true := by
  rw [precedes]
  split
  · rename_i same
    simp [same]
  · rename_i differ
    simp [differ]

/-! The texts are in a linear order. -/

theorem precedes_total (left right : Text) :
    precedes left right = true ∨ precedes right left = true := by
  induction left generalizing right with
  | nil => exact .inl rfl
  | cons c left ih =>
      cases right with
      | nil => exact .inr rfl
      | cons d right =>
          rw [precedes_cons_cons, precedes_cons_cons]
          rcases Nat.lt_trichotomy c.toNat d.toNat with less | same | more
          · exact .inl (.inl less)
          · have same := Char.toNat_inj.1 same
            exact (ih right).imp (fun first => .inr ⟨same, first⟩)
              fun second => .inr ⟨same.symm, second⟩
          · exact .inr (.inl more)

theorem precedes_trans {left middle right : Text} (first : precedes left middle = true)
    (second : precedes middle right = true) : precedes left right = true := by
  induction left generalizing middle right with
  | nil => rfl
  | cons c left ih =>
      cases middle with
      | nil => cases first
      | cons d middle =>
          cases right with
          | nil => cases second
          | cons e right =>
              rw [precedes_cons_cons] at first second ⊢
              rcases first with less | ⟨rfl, first⟩
              · rcases second with less_too | ⟨rfl, -⟩
                · exact .inl (Nat.lt_trans less less_too)
                · exact .inl less
              · rcases second with less | ⟨rfl, second⟩
                · exact .inl less
                · exact .inr ⟨rfl, ih first second⟩

theorem precedes_antisymm {left right : Text} (first : precedes left right = true)
    (second : precedes right left = true) : left = right := by
  induction left generalizing right with
  | nil =>
      cases right with
      | nil => rfl
      | cons d right => cases second
  | cons c left ih =>
      cases right with
      | nil => cases first
      | cons d right =>
          rw [precedes_cons_cons] at first second
          rcases first with less | ⟨rfl, first⟩
          · rcases second with more | ⟨rfl, -⟩ <;> omega
          · rcases second with more | ⟨-, second⟩
            · omega
            · rw [ih first second]

end Text

namespace Tree

variable {tree : Tree} {path : Path}

/-- There is one order in which the names in a directory can be listed. -/
theorem childNames_eq {directory : Place} {names : List Text}
    (there : (tree.keys.filterMap directory.childName?).Perm names)
    (ascending : names.Pairwise fun name other => Text.precedes name other = true) :
    tree.childNames directory = names := by
  rw [childNames]
  have sorted := @List.pairwise_mergeSort _ Text.precedes (fun _ _ _ => Text.precedes_trans)
    (fun name other => Bool.or_eq_true_iff.2 (Text.precedes_total name other))
    (tree.keys.filterMap directory.childName?)
  exact List.Perm.eq_of_pairwise (fun _ _ _ _ => Text.precedes_antisymm) sorted ascending
    ((List.mergeSort_perm ..).trans there)

/-- The names in a directory are those of the nodes below it. -/
theorem mem_childNames {directory : Place} {name : Text} :
    name ∈ tree.childNames directory ↔ (tree.find? (directory.child name)).isSome = true := by
  rw [childNames, (List.mergeSort_perm _ _).mem_iff, List.mem_filterMap, ← Index.mem_keys_iff]
  constructor
  · rintro ⟨place, key, here⟩
    rw [← Place.childName?_eq_some_iff.1 here]
    exact key
  · intro key
    exact ⟨directory.child name, key, Place.childName?_child directory name⟩

theorem list_of_directory {place : Place} (leads : tree.resolve path = .ok place)
    (found : tree.find? place = some .directory) :
    tree.list path = .ok (tree.childNames place) := by
  rw [list, look_eq_ok_iff.2 ⟨leads, found⟩]

theorem isDirectory_of_find? {place : Place} (leads : tree.resolve path = .ok place)
    (found : tree.find? place = some .directory) : tree.isDirectory path = true := by
  rw [isDirectory, look_eq_ok_iff.2 ⟨leads, found⟩]

theorem isFile_of_find? {place : Place} {content : Octets} (leads : tree.resolve path = .ok place)
    (found : tree.find? place = some (.file content)) : tree.isFile path = true := by
  rw [isFile, look_eq_ok_iff.2 ⟨leads, found⟩]

end Tree

namespace Storage

variable {storage : Storage} {path : Path}

theorem children_eq_ok_iff {names : List Text} :
    storage.children path = .ok names ↔
      storage.isTooLong path = false ∧ storage.tree.list path = .ok names ∧
        ∀ name ∈ names, storage.isTooLong (path ++ [name]) = false := by
  constructor
  · intro h
    rw [children] at h
    split at h
    · cases h
    · rename_i found reached
      split at h
      · cases h
      · rename_i none_long
        cases h
        rw [List.find?_eq_none] at none_long
        obtain ⟨short, listed⟩ := reach_eq_ok_iff.1 reached
        exact ⟨short, listed, fun name member => Bool.eq_false_iff.2 (none_long name member)⟩
  · rintro ⟨short, listed, each_short⟩
    have none_long : (names.find? fun name => storage.isTooLong (path ++ [name])) = none := by
      rw [List.find?_eq_none]
      intro name member
      rw [each_short name member]
      exact Bool.false_ne_true
    rw [children, reach_eq_ok_iff.2 ⟨short, listed⟩]
    dsimp only
    rw [none_long]

theorem children_of_childNames {place : Place} {names : List Text}
    (leads : storage.tree.resolve path = .ok place)
    (found : storage.tree.find? place = some .directory)
    (listed : storage.tree.childNames place = names) (short : storage.isTooLong path = false)
    (each_short : ∀ name ∈ names, storage.isTooLong (path ++ [name]) = false) :
    storage.children path = .ok names := by
  subst listed
  exact children_eq_ok_iff.2 ⟨short, Tree.list_of_directory leads found, each_short⟩

/-- The nodes of a directory can be listed if no path to one of them is too long. -/
theorem children_of_directory {place : Place} (leads : storage.tree.resolve path = .ok place)
    (found : storage.tree.find? place = some .directory) (short : storage.isTooLong path = false)
    (each_short : ∀ name, (storage.tree.find? (place.child name)).isSome = true →
      storage.isTooLong (path ++ [name]) = false) :
    storage.children path = .ok (storage.tree.childNames place) :=
  children_of_childNames leads found rfl short fun name member =>
    each_short name (Tree.mem_childNames.1 member)

theorem databases_of_children {names : List Text} (h : storage.children path = .ok names) :
    storage.databases path =
      .ok (names.filter fun name => storage.tree.isDirectory (path ++ [name])) := by
  rw [databases, h]

section Tables

variable {database : Text} {names : List Text}
  (listable : storage.unlistable.find? database = none)
  (h : storage.children [database] = .ok names)

include listable h

theorem tablesOf_of_children :
    storage.tablesOf database = .ok ((names.filter fun name =>
      storage.tree.isFile ([database] ++ [name]) &&
        (TableRef.ofFile? [] name).isSome).filterMap (TableRef.ofFile? database)) := by
  rw [tablesOf, listable]
  dsimp only
  rw [tableFiles, h]
  rfl

/-- The tables that are found in a database are those of its files. -/
theorem tablesIn_of_children :
    storage.tablesIn database = (names.filter fun name =>
      storage.tree.isFile ([database] ++ [name]) &&
        (TableRef.ofFile? [] name).isSome).filterMap (TableRef.ofFile? database) := by
  rw [tablesIn, tablesOf_of_children listable h]

end Tables

end Storage
end FlatStore
