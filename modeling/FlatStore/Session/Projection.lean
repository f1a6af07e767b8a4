import FlatStore.Table.File
import FlatStore.Telemetry.Event

/-!
# Projections

A selection names columns in an order of its own.  A name that the table does not have is an error
when columns are strict, and otherwise it is dropped.  A row that is too short has empty values.
-/

namespace FlatStore

/-- The columns of a result with their positions in the stored rows. -/
structure Projection where
  /-- Names in the order of the request. -/
  columns : List Text
  positions : List Nat
deriving DecidableEq, Repr

namespace Projection

/-- All columns of a schema. -/
def whole (schema : Schema) : Projection := ⟨schema.columns, List.range schema.size⟩

/-- The requested columns that a schema has, in the order of the request. -/
def known (schema : Schema) (requested : List Text) : Projection :=
  ⟨requested.filter fun column => (schema.position? column).isSome,
    requested.filterMap schema.position?⟩

/-- The requested columns that a schema does not have. -/
def missing (schema : Schema) (requested : List Text) : List Text :=
  requested.filter fun column => (schema.position? column).isNone

/-- Find the requested columns of a table, with what is logged about the dropped ones. -/
def find (strict : Bool) (schema : Schema) (table : Text) :
    Option (List Text) → List Event × Except StoreError Projection
  | none => ([], .ok (whole schema))
  | some requested =>
      match strict, missing schema requested with
      | true, column :: _ => ([], .error (.noColumn column table))
      | _, dropped => (dropped.map (Event.columnDropped table), .ok (known schema requested))

/-- The values of a stored row at the positions of the columns. -/
def values (projection : Projection) (cells : List Text) : List Text :=
  projection.positions.map fun position => (cells[position]?).getD []

/-- The rows of a pass over a table.  Without any column the table is not read. -/
def rows (projection : Projection) (scan : Scan) : Except StoreError (List (List Text)) :=
  if projection.positions.isEmpty then .ok []
  else scan.complete.map fun rows => rows.map projection.values

@[simp]
theorem length_columns_known (schema : Schema) (requested : List Text) :
    (known schema requested).columns.length = (known schema requested).positions.length := by
  simp only [known]
  induction requested with
  | nil => rfl
  | cons column rest ih =>
      cases h : schema.position? column <;> simp [h, ih]

/-- A value that is shown is empty or a cell. -/
theorem mem_of_mem_values {projection : Projection} {cells : List Text} {value : Text}
    (member : value ∈ projection.values cells) : value = [] ∨ value ∈ cells := by
  obtain ⟨position, -, rfl⟩ := List.mem_map.1 member
  cases found : cells[position]? with
  | none => exact .inl rfl
  | some cell => exact .inr (List.mem_of_getElem? found)

end Projection
end FlatStore
