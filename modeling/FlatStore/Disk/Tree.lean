import FlatStore.Disk.Place
import FlatStore.Disk.WrittenPath
import FlatStore.Index

/-!
# Trees of files

A tree of directories and files as a map from places to nodes.  An operation takes a path, finds the
place to which it leads and either takes full effect there or is refused without effect; only an
operation on several nodes may stop in the middle.  At a written path an operation is refused before
it begins if the path can not be followed.
-/

namespace FlatStore

/-- What stands at a place. -/
inductive Node
  | directory
  | file (content : Octets)
deriving DecidableEq, Repr

/-- A tree of directories and files. -/
abbrev Tree := Index Place Node

namespace Tree

/-- The tree of an empty root directory. -/
def bare : Tree := Index.empty.put .root .directory

/-- The greatest number of octets of a name. -/
def nameLimit : Nat := 255

/-- How many names a path may have from the first missing directory on if they are to be created. -/
def missingLimit : Nat := 985

/-- Go from the directory at `place` along the names of `path` to another place.  All but the last
name must lead to directories; above the root there is only the root. -/
def walk (tree : Tree) (place : Place) : Path → Except Refusal Place
  | [] => .ok place
  | name :: rest =>
      match tree.find? place with
      | none => .error .notFound
      | some (.file _) => .error .notDirectory
      | some .directory =>
          if name = Path.upward then walk tree place.parent rest
          else if Utf8.size name ≤ nameLimit then walk tree (place.child name) rest
          else .error .nameTooLong

/-- The place to which a path leads. -/
def resolve (tree : Tree) (path : Path) : Except Refusal Place := walk tree .root path

/-- The place to which a path leads, and what stands there, if anything does. -/
def look (tree : Tree) (path : Path) : Except Refusal (Place × Option Node) :=
  (resolve tree path).map fun place => (place, tree.find? place)

/-- The content of a file. -/
def read (tree : Tree) (path : Path) : Except Refusal Octets :=
  match look tree path with
  | .error refusal => .error refusal
  | .ok (_, none) => .error .notFound
  | .ok (_, some .directory) => .error .isDirectory
  | .ok (_, some (.file content)) => .ok content

/-- Create a file where nothing stands yet. -/
def createFile (tree : Tree) (path : Path) (content : Octets) : Except Refusal Tree :=
  match look tree path with
  | .error refusal => .error refusal
  | .ok (_, some _) => .error .exists
  | .ok (place, none) => .ok (tree.put place (.file content))

/-- Extend a file, which begins empty if it is missing. -/
def append (tree : Tree) (path : Path) (octets : Octets) : Except Refusal Tree :=
  match look tree path with
  | .error refusal => .error refusal
  | .ok (_, some .directory) => .error .isDirectory
  | .ok (place, some (.file content)) => .ok (tree.put place (.file (content ++ octets)))
  | .ok (place, none) => .ok (tree.put place (.file octets))

/-- Write a file, replacing its content if it is there. -/
def write (tree : Tree) (path : Path) (content : Octets) : Except Refusal Tree :=
  match look tree path with
  | .error refusal => .error refusal
  | .ok (_, some .directory) => .error .isDirectory
  | .ok (place, _) => .ok (tree.put place (.file content))

/-- Create a directory where nothing stands yet. -/
def makeDirectory (tree : Tree) (path : Path) : Except Refusal Tree :=
  match look tree path with
  | .error refusal => .error refusal
  | .ok (_, some _) => .error .exists
  | .ok (place, none) => .ok (tree.put place .directory)

/-- Remove everything below a place and then what the path to it leads to.  A path that goes through
something below the place leads nowhere any more when that is gone. -/
def remove (tree : Tree) (path : Path) : Tree × Except Refusal Unit :=
  match look tree path with
  | .error refusal => (tree, .error refusal)
  | .ok (_, none) => (tree, .error .notFound)
  | .ok (place, some _) =>
      let emptied := tree.restrict fun other => other = place || !place.holds other
      match resolve emptied path with
      | .error refusal => (emptied, .error refusal)
      | .ok _ => (emptied.restrict (· ≠ place), .ok ())

/-- The names of the nodes directly below a place, in ascending order. -/
def childNames (tree : Tree) (directory : Place) : List Text :=
  (tree.keys.filterMap directory.childName?).mergeSort Text.precedes

/-- The names of the nodes in a directory, in ascending order. -/
def list (tree : Tree) (path : Path) : Except Refusal (List Text) :=
  match look tree path with
  | .error refusal => .error refusal
  | .ok (_, none) => .error .notFound
  | .ok (_, some (.file _)) => .error .notDirectory
  | .ok (place, some .directory) => .ok (childNames tree place)

/-- Whether a path leads to a directory. -/
def isDirectory (tree : Tree) (path : Path) : Bool :=
  match look tree path with
  | .ok (_, some .directory) => true
  | _ => false

/-- Whether a path leads to a file. -/
def isFile (tree : Tree) (path : Path) : Bool :=
  match look tree path with
  | .ok (_, some (.file _)) => true
  | _ => false

/-- Go from the directory at `place` along the names of `path` and create the directories that are
missing.  Nothing is created if too many names are left at the first one that is missing.  A file in
the way is refused as no directory, or as something that is there already if it is the last name or
directories have been created before it. -/
def makeOnwards (tree : Tree) (place : Place) (begun : Bool) :
    Path → Tree × Except PathFault Unit
  | [] => (tree, .ok ())
  | name :: rest =>
      let next := place.child name
      if name = Path.upward then makeOnwards tree place.parent begun rest
      else if nameLimit < Utf8.size name then (tree, .error (.refused .nameTooLong))
      else
        match tree.find? next with
        | none =>
            if !begun && missingLimit ≤ rest.length then (tree, .error .tooDeep)
            else makeOnwards (tree.put next .directory) next true rest
        | some .directory => makeOnwards tree next begun rest
        | some (.file _) =>
            let refusal := if begun || rest.isEmpty then .exists else .notDirectory
            (tree, .error (.refused refusal))

/-- Create a directory and those on the way to it, as far as they are missing. -/
def makeDirectories (tree : Tree) (path : Path) : Tree × Except PathFault Unit :=
  match tree.find? .root with
  | none =>
      if missingLimit ≤ path.length then (tree, .error .tooDeep)
      else makeOnwards (tree.put .root .directory) .root true path
  | some .directory => makeOnwards tree .root false path
  | some (.file _) =>
      (tree, .error (.refused (if path.isEmpty then .exists else .notDirectory)))

/-! ## Written paths -/

/-- Do something where a written path leads, seen from a working directory. -/
def atWritten {α : Type} (working : Path) (written : WrittenPath)
    (act : Path → Except Refusal α) : Except PathFault α :=
  match written.fault? with
  | some fault => .error fault
  | none => (act (written.startingAt working)).mapError .refused

/-- Create the directory to which a written path leads and those on the way to it. -/
def makeWritten (tree : Tree) (working : Path) (written : WrittenPath) :
    Tree × Except PathFault Unit :=
  match written.fault? with
  | some fault => (tree, .error fault)
  | none => makeDirectories tree (written.startingAt working)

/-- Do something at a file after the directories above it have been created. -/
def depositWritten (tree : Tree) (working : Path) (written : WrittenPath)
    (act : Tree → Path → Except Refusal Tree) : Tree × Except PathFault Unit :=
  match makeWritten tree working written.parent with
  | (tree, .error fault) => (tree, .error fault)
  | (tree, .ok ()) =>
      match atWritten working written (act tree) with
      | .error fault => (tree, .error fault)
      | .ok tree => (tree, .ok ())

/-! ## Parts of a tree -/

/-- The tree below a place, seen as a tree of its own. -/
def below (tree : Tree) (place : Place) : Tree :=
  Index.ofList (tree.entries.filterMap fun entry =>
    if place.holds entry.1 then some (entry.1.seenFrom place, entry.2) else none)

/-- Put a tree in the place of everything at and below a place. -/
def graft (tree : Tree) (place : Place) (branch : Tree) : Tree :=
  branch.entries.foldl (fun tree entry => tree.put (place.append entry.1) entry.2)
    (tree.restrict fun other => !place.holds other)

end Tree
end FlatStore
