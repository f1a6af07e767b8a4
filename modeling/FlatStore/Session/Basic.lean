import FlatStore.Text.Basic

/-!
# Sessions and answers

A session remembers the database that its last successful `USE` selected.  An answer is what a
command that succeeded gives back.
-/

namespace FlatStore

/-- What a client's commands have in common. -/
structure Session where
  id : Nat
  database : Option Text
deriving DecidableEq, Repr

/-- A session that has selected no database. -/
def Session.fresh (id : Nat) : Session := ⟨id, none⟩

/-- The outcome of a command that succeeded. -/
inductive Answer
  | databaseCreated (database : Text)
  | tableCreated (table : Text)
  | selected (database : Text)
  | inserted (table : Text) (id : Int)
  /-- Rows were read, each with one value for every column. -/
  | read (columns : List Text) (rows : List (List Text))
deriving DecidableEq, Repr

namespace Answer

/-- The words that acknowledge a command; a selection of rows has none. -/
def message : Answer → Text
  | .databaseCreated database => "Database ".toList ++ database ++ " created".toList
  | .tableCreated table => "Table ".toList ++ table ++ " created".toList
  | .selected database => "Using ".toList ++ database
  | .inserted table _ => "Data inserted into table ".toList ++ table
  | .read _ _ => []

/-- The rows that were read, if rows were asked for. -/
def rows? : Answer → Option (List (List Text))
  | .read _ rows => some rows
  | _ => none

end Answer
end FlatStore
