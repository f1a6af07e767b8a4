import FlatStore.Disk.Tree
import FlatStore.Table.Ref

/-!
# Trees that grow

Where a path leads depends on the directories only.  So writing a file leaves every path where it
was, and a new node takes no path away.  The file of a table has a place of its own.
-/

namespace FlatStore
namespace Tree

/-! ## Paths -/

/-- A way stays open as long as its directories stay. -/
theorem walk_mono {tree other : Tree}
    (directories : ∀ place, tree.find? place = some .directory →
      other.find? place = some .directory)
    {place target : Place} {path : Path} (h : walk tree place path = .ok target) :
    walk other place path = .ok target := by
  fun_induction walk tree place path with
  | case1 => exact h
  | case2 => cases h
  | case3 => cases h
  | case4 place rest found ih =>
      rw [walk, directories place found]
      exact ih h
  | case5 place name rest found inner short ih =>
      rw [walk, directories place found]
      dsimp only
      rw [if_neg inner, if_pos short]
      exact ih h
  | case6 => cases h

/-- A path leads to the same place as long as its directories stay. -/
theorem resolve_mono {tree other : Tree}
    (directories : ∀ place, tree.find? place = some .directory →
      other.find? place = some .directory)
    {path : Path} {target : Place} (h : resolve tree path = .ok target) :
    resolve other path = .ok target :=
  walk_mono directories h

/-- A node where no directory was takes no directory away. -/
theorem directory_put {tree : Tree} {place : Place} (node : Node)
    (free : tree.find? place ≠ some .directory) {other : Place}
    (found : tree.find? other = some .directory) :
    (tree.put place node).find? other = some .directory := by
  rw [Index.find?_put_of_ne, found]
  rintro rfl
  exact free found

theorem resolve_put {tree : Tree} {place : Place} (node : Node)
    (free : tree.find? place ≠ some .directory) {path : Path} {target : Place}
    (h : resolve tree path = .ok target) : resolve (tree.put place node) path = .ok target :=
  resolve_mono (fun _ => directory_put node free) h

/-- A single name leads below the root, unless it leads upwards. -/
theorem resolve_singleton {tree : Tree} {name : Text} {place : Place}
    (inner : name ≠ Path.upward) (h : resolve tree [name] = .ok place) :
    place = Place.root.child name := by
  rw [resolve, walk] at h
  split at h
  · cases h
  · cases h
  · rw [if_neg inner] at h
    split at h
    · cases h
      rfl
    · cases h

/-! ## Reading -/

theorem look_eq_ok_iff {tree : Tree} {path : Path} {place : Place} {node : Option Node} :
    look tree path = .ok (place, node) ↔
      resolve tree path = .ok place ∧ tree.find? place = node := by
  rw [look]
  cases resolve tree path with
  | error refusal => simp [Except.map]
  | ok target =>
      simp only [Except.map, Except.ok.injEq, Prod.mk.injEq]
      constructor
      · rintro ⟨rfl, found⟩
        exact ⟨rfl, found⟩
      · rintro ⟨rfl, found⟩
        exact ⟨rfl, found⟩

/-- A file can be read where a path leads to it. -/
theorem read_eq_ok_iff {tree : Tree} {path : Path} {content : Octets} :
    read tree path = .ok content ↔
      ∃ place, resolve tree path = .ok place ∧ tree.find? place = some (.file content) := by
  constructor
  · intro h
    rw [read] at h
    split at h
    · cases h
    · cases h
    · cases h
    · rename_i place _ found
      cases h
      exact ⟨place, look_eq_ok_iff.1 found⟩
  · rintro ⟨place, leads, found⟩
    rw [read, look_eq_ok_iff.2 ⟨leads, found⟩]

/-! ## Writing -/

/-- A file that can be read can be extended. -/
theorem append_of_find? {tree : Tree} {path : Path} {place : Place} {content : Octets}
    (leads : resolve tree path = .ok place) (found : tree.find? place = some (.file content))
    (octets : Octets) :
    append tree path octets = .ok (tree.put place (.file (content ++ octets))) := by
  rw [append, look_eq_ok_iff.2 ⟨leads, found⟩]

/-- An extended file is read with what was added. -/
theorem read_of_append {tree after : Tree} {path : Path} {content octets : Octets}
    (read_before : read tree path = .ok content) (h : append tree path octets = .ok after) :
    read after path = .ok (content ++ octets) := by
  obtain ⟨place, leads, found⟩ := read_eq_ok_iff.1 read_before
  rw [append_of_find? leads found, Except.ok.injEq] at h
  subst h
  exact read_eq_ok_iff.2 ⟨place, resolve_put _ (by simp [found]) leads, Index.find?_put_self ..⟩

/-- Files at other places are read as before. -/
theorem read_put_of_ne {tree : Tree} {place other : Place} {path : Path} {content : Octets}
    (node : Node) (free : tree.find? place ≠ some .directory)
    (leads : resolve tree path = .ok other) (apart : place ≠ other)
    (read_before : read tree path = .ok content) :
    read (tree.put place node) path = .ok content := by
  obtain ⟨target, leads_target, found⟩ := read_eq_ok_iff.1 read_before
  rw [leads, Except.ok.injEq] at leads_target
  subst leads_target
  refine read_eq_ok_iff.2 ⟨other, resolve_put node free leads, ?_⟩
  rw [Index.find?_put_of_ne apart, found]

/-- What creating a file does. -/
theorem createFile_eq_ok_iff {tree after : Tree} {path : Path} {content : Octets} :
    createFile tree path content = .ok after ↔
      ∃ place, resolve tree path = .ok place ∧ tree.find? place = none ∧
        after = tree.put place (.file content) := by
  constructor
  · intro h
    rw [createFile] at h
    split at h
    · cases h
    · cases h
    · rename_i place found
      cases h
      exact ⟨place, (look_eq_ok_iff.1 found).1, (look_eq_ok_iff.1 found).2, rfl⟩
  · rintro ⟨place, leads, absent, rfl⟩
    rw [createFile, look_eq_ok_iff.2 ⟨leads, absent⟩]

/-- What creating a directory does. -/
theorem makeDirectory_eq_ok_iff {tree after : Tree} {path : Path} :
    makeDirectory tree path = .ok after ↔
      ∃ place, resolve tree path = .ok place ∧ tree.find? place = none ∧
        after = tree.put place .directory := by
  constructor
  · intro h
    rw [makeDirectory] at h
    split at h
    · cases h
    · cases h
    · rename_i place found
      cases h
      exact ⟨place, (look_eq_ok_iff.1 found).1, (look_eq_ok_iff.1 found).2, rfl⟩
  · rintro ⟨place, leads, absent, rfl⟩
    rw [makeDirectory, look_eq_ok_iff.2 ⟨leads, absent⟩]

end Tree

/-! ## The places of tables -/

namespace TableRef

theorem fileName_ne_upward (ref : TableRef) : ref.fileName ≠ Path.upward := by
  intro same
  have lengths := congrArg List.length same
  rw [fileName, List.length_append] at lengths
  have suffix_length : suffix.length = 4 := rfl
  have upward_length : Path.upward.length = 2 := rfl
  omega

theorem fileName_injective {ref other : TableRef} (same : ref.fileName = other.fileName) :
    ref.table = other.table :=
  List.append_cancel_right same

/-- The place of the file of a table.  A database may be called like the way upwards. -/
def place (ref : TableRef) : Place :=
  if ref.database = Path.upward then Place.root.child ref.fileName
  else (Place.root.child ref.database).child ref.fileName

theorem place_of_ne_upward {ref : TableRef} (inner : ref.database ≠ Path.upward) :
    ref.place = (Place.root.child ref.database).child ref.fileName :=
  if_neg inner

/-- The path of a table leads nowhere but to its place. -/
theorem place_eq_of_resolve {tree : Tree} {ref : TableRef} {target : Place}
    (h : tree.resolve ref.path = .ok target) : target = ref.place := by
  have parent_root : Place.root.parent = Place.root := rfl
  rw [Tree.resolve, path, Tree.walk] at h
  split at h
  · cases h
  · cases h
  · split at h
    · rename_i upward
      rw [Tree.walk, parent_root] at h
      split at h
      · cases h
      · cases h
      · rw [if_neg ref.fileName_ne_upward] at h
        split at h
        · cases h
          rw [place, if_pos upward]
        · cases h
    · rename_i inner
      split at h
      · rw [Tree.walk] at h
        split at h
        · cases h
        · cases h
        · rw [if_neg ref.fileName_ne_upward] at h
          split at h
          · cases h
            rw [place_of_ne_upward inner]
          · cases h
      · cases h

/-- The path of a table goes through the directory of its database. -/
theorem directory_of_resolve {tree : Tree} {ref : TableRef} {target : Place}
    (inner : ref.database ≠ Path.upward) (leads : tree.resolve ref.path = .ok target) :
    tree.find? (Place.root.child ref.database) = some .directory ∧
      Utf8.size ref.fileName ≤ Tree.nameLimit := by
  rw [Tree.resolve, path, Tree.walk] at leads
  split at leads
  · cases leads
  · cases leads
  · rw [if_neg inner] at leads
    split at leads
    · rw [Tree.walk] at leads
      split at leads
      · cases leads
      · cases leads
      · rename_i directory
        rw [if_neg ref.fileName_ne_upward] at leads
        split at leads
        · rename_i short
          exact ⟨directory, short⟩
        · cases leads
    · cases leads

/-- No two tables share a place. -/
theorem place_injective {ref other : TableRef} (same : ref.place = other.place) : ref = other := by
  have names := congrArg Place.names same
  obtain ⟨database, table⟩ := ref
  obtain ⟨otherDatabase, otherTable⟩ := other
  rw [place, place] at names
  split at names
  · rename_i upward
    split at names
    · rename_i otherUpward
      simp only [Place.names_child, Place.names_root, List.nil_append, List.cons.injEq,
        and_true] at names
      rw [mk.injEq]
      exact ⟨upward.trans otherUpward.symm, fileName_injective names⟩
    · simp at names
  · split at names
    · simp at names
    · simp only [Place.names_child, Place.names_root, List.nil_append, List.singleton_append,
        List.cons.injEq, and_true] at names
      rw [mk.injEq]
      exact ⟨names.1, fileName_injective names.2⟩

end TableRef
end FlatStore
