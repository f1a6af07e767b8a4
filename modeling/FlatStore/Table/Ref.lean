import FlatStore.Disk.Path

/-!
# Table references

A table is addressed by its name together with the database that owns it.  The reference fixes the
file of the table: `<database>/<table>.tsv` below the storage root.
-/

namespace FlatStore

/-- A table name with the database that owns it. -/
structure TableRef where
  database : Text
  table : Text
deriving DecidableEq, Repr

namespace TableRef

/-- How a table file's name ends. -/
def suffix : Text := ".tsv".toList

/-- Database and table with a point between. -/
def text (ref : TableRef) : Text := ref.database ++ '.' :: ref.table

/-- The name of the table's file. -/
def fileName (ref : TableRef) : Text := ref.table ++ suffix

/-- The table's file, from the storage root. -/
def path (ref : TableRef) : Path := [ref.database, ref.fileName]

/-- The table that a file of a database holds: its name must have something before the suffix. -/
def ofFile? (database fileName : Text) : Option TableRef :=
  let stem := fileName.take (fileName.length - suffix.length)
  if suffix.isSuffixOf fileName && !stem.isEmpty then some ⟨database, stem⟩ else none

theorem fileName_of_ofFile? {database file : Text} {ref : TableRef}
    (h : ofFile? database file = some ref) : ref.fileName = file ∧ ref.database = database := by
  simp only [ofFile?, Option.ite_none_right_eq_some, Option.some.injEq, Bool.and_eq_true,
    List.isSuffixOf_iff_suffix] at h
  obtain ⟨⟨⟨stem, rfl⟩, _⟩, rfl⟩ := h
  simp [fileName]

theorem ofFile?_fileName (ref : TableRef) (h : ref.table ≠ []) :
    ofFile? ref.database ref.fileName = some ref := by
  simp [ofFile?, fileName, h]

end TableRef
end FlatStore
