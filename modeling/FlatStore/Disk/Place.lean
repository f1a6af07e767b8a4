import FlatStore.Disk.Path

/-!
# Places

Where a path leads: the names on the straight way from the root of a tree.  Their number is kept
beside them and compared first, so that places of different depth are told apart at once.  A place
is its names: everything else follows from them.
-/

namespace FlatStore

/-- The straight way from the root of a tree. -/
structure Place where
  depth : Nat
  names : Path
  depth_eq : depth = names.length
deriving DecidableEq, Repr

namespace Place

/-- Places with the same names are the same. -/
@[ext]
theorem ext_names {left right : Place} (h : left.names = right.names) : left = right := by
  obtain ⟨_, _, rfl⟩ := left
  obtain ⟨_, _, rfl⟩ := right
  cases h
  rfl

/-- The place at the end of a straight way. -/
def ofNames (names : Path) : Place := ⟨names.length, names, rfl⟩

/-- The root of the tree. -/
def root : Place := ofNames []

/-- The place of a name in a directory. -/
def child (place : Place) (name : Text) : Place :=
  ⟨place.depth + 1, place.names ++ [name], by simp [place.depth_eq]⟩

/-- The directory above a place; above the root there is only the root. -/
def parent (place : Place) : Place :=
  ⟨place.depth - 1, place.names.dropLast, by simp [place.depth_eq]⟩

/-- Whether a place is the other one or lies on the way to it. -/
def holds (place other : Place) : Bool :=
  place.depth ≤ other.depth && place.names.isPrefixOf other.names

/-- A place as it is seen from one that holds it. -/
def seenFrom (place above : Place) : Place := ofNames (place.names.drop above.depth)

/-- Where a place seen from another one is. -/
def append (place branch : Place) : Place := ofNames (place.names ++ branch.names)

/-- The name of a place directly below a directory. -/
def childName? (directory place : Place) : Option Text :=
  if place.depth = directory.depth + 1 && directory.holds place then place.names.getLast?
  else none

@[simp]
theorem names_ofNames (names : Path) : (ofNames names).names = names := rfl

@[simp]
theorem names_root : root.names = [] := rfl

@[simp]
theorem names_child (place : Place) (name : Text) :
    (place.child name).names = place.names ++ [name] := rfl

@[simp]
theorem names_parent (place : Place) : place.parent.names = place.names.dropLast := rfl

@[simp]
theorem names_append (place branch : Place) :
    (place.append branch).names = place.names ++ branch.names := rfl

@[simp]
theorem parent_child (place : Place) (name : Text) : (place.child name).parent = place := by
  ext1
  simp

theorem holds_iff {place other : Place} :
    place.holds other = true ↔ place.names <+: other.names := by
  rw [holds, Bool.and_eq_true, List.isPrefixOf_iff_prefix, decide_eq_true_eq, place.depth_eq,
    other.depth_eq]
  exact ⟨And.right, fun h => ⟨h.length_le, h⟩⟩

/-- A branch seen from the place where it is put is the branch. -/
@[simp]
theorem seenFrom_append (place branch : Place) : (place.append branch).seenFrom place = branch := by
  ext1
  simp [seenFrom, place.depth_eq]

@[simp]
theorem childName?_child (place : Place) (name : Text) :
    place.childName? (place.child name) = some name := by
  simp [childName?, holds, child]

end Place
end FlatStore
