import FlatStore.Text.Quoted

/-!
# Schemas and rows

A schema is the list of a table's column names, the identity column first; cells are opaque text.
When a stored header repeats a name, the name stands for its last position.
-/

namespace FlatStore

/-- The name of the identity column. -/
def identityColumn : Text := "id".toList

/-- The columns of a table in stored order. -/
structure Schema where
  /-- Column names, the identity column first. -/
  columns : List Text
deriving DecidableEq, Repr

namespace Schema

/-- The schema of a new table: the identity column in front of the given ones. -/
def ofColumns (columns : List Text) : Schema := ⟨identityColumn :: columns⟩

/-- The columns that an insert gives values for. -/
def valueColumns (schema : Schema) : List Text := schema.columns.drop 1

/-- The last position of a name in a list. -/
def lastPosition? (name : Text) : List Text → Option Nat
  | [] => none
  | first :: rest =>
      match lastPosition? name rest with
      | some position => some (position + 1)
      | none => if first = name then some 0 else none

/-- The position of a column. -/
def position? (schema : Schema) (name : Text) : Option Nat := lastPosition? name schema.columns

/-- Number of columns. -/
def size (schema : Schema) : Nat := schema.columns.length

@[simp]
theorem columns_ofColumns (columns : List Text) :
    (ofColumns columns).columns = identityColumn :: columns := rfl

@[simp]
theorem valueColumns_ofColumns (columns : List Text) : (ofColumns columns).valueColumns = columns :=
  rfl

theorem lastPosition?_isSome_iff {name : Text} {columns : List Text} :
    (lastPosition? name columns).isSome ↔ name ∈ columns := by
  induction columns with
  | nil => simp [lastPosition?]
  | cons first rest ih =>
      rw [lastPosition?]
      split
      · rename_i found
        simp [ih.1 (by simp [found])]
      · rename_i absent
        have : name ∉ rest := fun member => by simpa [absent] using ih.2 member
        by_cases here : first = name
        · simp [here]
        · simp [here, this, Ne.symm here]

/-- A position found by name holds that name. -/
theorem getElem?_lastPosition {name : Text} {columns : List Text} {position : Nat}
    (h : lastPosition? name columns = some position) : columns[position]? = some name := by
  induction columns generalizing position with
  | nil => simp [lastPosition?] at h
  | cons first rest ih =>
      rw [lastPosition?] at h
      split at h
      · rename_i found
        cases h
        simpa using ih found
      · split at h
        · cases h
          simp_all
        · cases h

end Schema

/-- A row as it is shown: its columns with their values. -/
structure Row where
  columns : List Text
  /-- The values of the columns, in the same order. -/
  values : List Text
deriving DecidableEq, Repr

namespace Row

/-- Columns and quoted values in round brackets; what has no partner is left out. -/
def text (row : Row) : Text :=
  let pairs :=
    row.columns.zipWith (fun column value => column ++ '=' :: Text.quoted value) row.values
  "Row(".toList ++ Text.join [',', ' '] pairs ++ [')']

end Row
end FlatStore
