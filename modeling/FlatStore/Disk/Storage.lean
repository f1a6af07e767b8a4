import FlatStore.Catalog.Allocator
import FlatStore.Disk.Tree
import FlatStore.Table.File
import FlatStore.Table.Ref
import FlatStore.Telemetry.Event

/-!
# Storage

The storage root on disk: a tree of files with the text by which its root is shown, together with
the troubles that are in store for it.  Table files are created, read and extended through it, and
what the operating system refuses becomes an error of the store.  A file is opened before a line is
written to it.  Each of these steps takes full effect or none, but a file that was created by being
opened is still there when its line finds the disk full.
-/

namespace FlatStore

/-- What will go wrong when files are written. -/
@[ext]
structure Troubles where
  /-- How many of the next appends are made to fail before they do anything. -/
  failingAppends : Nat
  /-- How many of the next lines to be written find the disk full. -/
  fullLines : Nat
deriving DecidableEq, Repr

/-- Nothing will go wrong. -/
def Troubles.none : Troubles := ⟨0, 0⟩

/-- The storage root. -/
structure Storage where
  /-- How the root directory is shown in messages. -/
  root : Text
  tree : Tree
  troubles : Troubles
  /-- Databases whose files can not be listed, with the reason. -/
  unlistable : Index Text Text

/-- A failure of an operation that writes an identity. -/
inductive Failure
  | store (error : StoreError)
  /-- The identity has too many digits to be written. -/
  | unwritable
  /-- The path of the file holds the null character. -/
  | nullCharacter
  | misuse (cause : Misuse)
deriving DecidableEq, Repr

/-- The wording of a failure. -/
def Failure.message : Failure → Text
  | .store error => error.reason
  | .unwritable => Numeral.tooLongMessage
  | .nullCharacter => nullCharacterMessage
  | .misuse cause => cause.message

/-- A file name without its last suffix; a point in the first or last place begins none. -/
def stemOf (fileName : Text) : Text :=
  let suffix := fileName.reverse.takeWhile (· != '.')
  match fileName.reverse.drop suffix.length with
  | _ :: stem => if suffix.isEmpty || stem.isEmpty then fileName else stem.reverse
  | [] => fileName

namespace Storage

/-- A path below the root as it is shown. -/
def shown (storage : Storage) (path : Path) : Text :=
  let below := Text.join ['/'] path
  if path.isEmpty then storage.root
  else if storage.root = ['.'] then below
  else if storage.root.getLast? = some '/' then storage.root ++ below
  else storage.root ++ '/' :: below

/-- How a pass over the rows of a table file is shown. -/
def scanText (storage : Storage) (path : Path) : Text :=
  "RowScan(".toList ++ storage.shown path ++ [')']

/-- The error that a refusal causes. -/
def refused (storage : Storage) (task : FileTask) (path : Path) (refusal : Refusal) : StoreError :=
  .file task (.refused refusal (storage.shown path))

/-- The name at the end of a path below the root, which may be that of the root. -/
def nameAt (storage : Storage) (path : Path) : Text :=
  Path.lastName (Path.ofText storage.root ++ path)

/-- Whether the written form of a path below the root is too long. -/
def isTooLong (storage : Storage) (path : Path) : Bool :=
  Path.lengthLimit < Utf8.size (storage.shown path)

/-- Do something at a path below the root, unless its written form is too long. -/
def reach {α : Type} (storage : Storage) (path : Path) (act : Path → Except Refusal α) :
    Except Refusal α :=
  if storage.isTooLong path then .error .nameTooLong else act path

/-! ## Reading -/

/-- The schema in the header of a table file. -/
def readSchema (storage : Storage) (path : Path) : Except StoreError Schema :=
  match storage.reach path storage.tree.read with
  | .error refusal => .error (storage.refused .readHeader path refusal)
  | .ok content => (Reading.ofOctets content).schema.mapError .header

/-- One pass over the rows of a table file. -/
def scan (storage : Storage) (path : Path) : Scan :=
  match storage.reach path storage.tree.read with
  | .error refusal => ⟨[], some (storage.refused .readData path refusal)⟩
  | .ok content => .ofReading (Reading.ofOctets content)

/-- The rows of a table file. -/
def rows (storage : Storage) (path : Path) : Except StoreError (List (List Text)) :=
  (storage.scan path).complete

/-- Recover the allocator of a table file, with what is logged on the way. -/
def recover (storage : Storage) (path : Path) : List Event × Except StoreError Allocator :=
  let scan := storage.scan path
  let table := stemOf (storage.nameAt path)
  let complaints := (unreadableIdentities scan.rows).map (Event.unreadableIdentity table)
  match scan.failure with
  | some error => (complaints, .error error)
  | none =>
      let allocator := Allocator.behind scan.rows
      (complaints ++ [.identityRecovered table allocator.next], .ok allocator)

/-! ## Writing -/

/-- The storage with another tree. -/
def withTree (storage : Storage) (tree : Tree) : Storage := { storage with tree }

/-- The storage with a root directory, which is created if it is missing. -/
def prepared (storage : Storage) : Except Refusal Storage :=
  match storage.tree.find? .root with
  | none => .ok (storage.withTree (storage.tree.put .root .directory))
  | some .directory => .ok storage
  | some (.file _) => .error .exists

/-- Open a new table file, which is empty at first. -/
def openNew (storage : Storage) (path : Path) : Except StoreError Storage :=
  match storage.reach path (storage.tree.createFile · []) with
  | .ok tree => .ok (storage.withTree tree)
  | .error .exists => .error (.tableExists (stemOf (storage.nameAt path)))
  | .error refusal => .error (storage.refused .createTable path refusal)

/-- Open a file to extend it; one that is missing is created and empty at first. -/
def openToExtend (storage : Storage) (path : Path) : Except StoreError Storage :=
  match storage.reach path (storage.tree.append · []) with
  | .ok tree => .ok (storage.withTree tree)
  | .error refusal => .error (storage.refused .appendRow path refusal)

/-- Write a line at the end of a file that was opened for a task. -/
def writeLine (storage : Storage) (task : FileTask) (path : Path) (line : Text) :
    Storage × Except StoreError Unit :=
  match storage.troubles.fullLines with
  | left + 1 => ({ storage with troubles.fullLines := left }, .error (.file task .diskFull))
  | 0 =>
      match storage.tree.append path (Utf8.encode line) with
      | .ok tree => (storage.withTree tree, .ok ())
      | .error refusal => (storage, .error (storage.refused task path refusal))

/-- Create a table file: open it and write its header line. -/
def createTable (storage : Storage) (path : Path) (schema : Schema) :
    Storage × Except StoreError Unit :=
  match storage.openNew path with
  | .error error => (storage, .error error)
  | .ok opened => opened.writeLine .createTable path schema.header

/-- Create the directory of a database. -/
def createDatabase (storage : Storage) (path : Path) : Except StoreError Storage :=
  match storage.reach path storage.tree.makeDirectory with
  | .ok tree => .ok (storage.withTree tree)
  | .error .exists => .error (.databaseExists (storage.nameAt path))
  | .error refusal => .error (storage.refused .createDatabase path refusal)

/-- Append a row to a table file: write the row out, open the file and write the line to it.  A row
that can not be written out is found before the path is looked at. -/
def appendRow (storage : Storage) (path : Path) (id : Int) (values : List Text) :
    Storage × Except Failure Unit :=
  match storage.troubles.failingAppends with
  | left + 1 =>
      ({ storage with troubles.failingAppends := left },
        .error (.store (.file .appendRow .diskFull)))
  | 0 =>
      match rowLine? id values with
      | none => (storage, .error .unwritable)
      | some line =>
          if path.any (·.contains '\x00') then (storage, .error .nullCharacter)
          else
            match storage.openToExtend path with
            | .error error => (storage, .error (.store error))
            | .ok opened =>
                let (written, outcome) := opened.writeLine .appendRow path line
                (written, outcome.mapError .store)

/-! ## Listing -/

/-- A refusal with the path that was refused. -/
abbrev RefusedPath := Path × Refusal

/-- The names of the nodes directly below a path, in ascending order.  Each node is looked at by its
whole path, so that one whose written form is too long keeps the others from being listed. -/
def children (storage : Storage) (path : Path) : Except RefusedPath (List Text) :=
  match storage.reach path storage.tree.list with
  | .error refusal => .error (path, refusal)
  | .ok names =>
      match names.find? fun name => storage.isTooLong (path ++ [name]) with
      | some name => .error (path ++ [name], .nameTooLong)
      | none => .ok names

/-- The directories directly below a path, in ascending order; none if the path is no directory. -/
def databases (storage : Storage) (path : Path) : Except Refusal (List Text) :=
  match storage.children path with
  | .ok names => .ok (names.filter fun name => storage.tree.isDirectory (path ++ [name]))
  | .error (_, refusal) => if refusal = .nameTooLong then .error refusal else .ok []

/-- The names of the table files directly below a path, in ascending order. -/
def tableFiles (storage : Storage) (path : Path) : Except RefusedPath (List Text) :=
  (storage.children path).map fun names => names.filter fun name =>
    storage.tree.isFile (path ++ [name]) && (TableRef.ofFile? [] name).isSome

/-- The tables whose files stand in the directory of a database, or why they can not be listed. -/
def tablesOf (storage : Storage) (database : Text) : Except Text (List TableRef) :=
  match storage.unlistable.find? database with
  | some reason => .error reason
  | none =>
      match storage.tableFiles [database] with
      | .error (path, refusal) => .error (refusal.message (storage.shown path))
      | .ok names => .ok (names.filterMap (TableRef.ofFile? database))

end Storage
end FlatStore
