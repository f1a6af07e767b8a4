import FlatStore.Error
import FlatStore.Table.Schema
import FlatStore.Text.Blank
import FlatStore.Text.Cut

/-!
# Table files

A table file is a header line with the column names and one line for each row, cells parted by
tabs and the row's identity in the first cell.  Cells are written as they are: a tab or a line end
in a cell is read back as structure.  Reading skips the header line and the blank lines.
-/

namespace FlatStore

/-- What parts the cells of a line. -/
def cellMark : Char := '\t'

/-- The line that cells are written as. -/
def lineOf (cells : List Text) : Text := Text.join [cellMark] cells ++ ['\n']

/-- The cells of a line. -/
def cellsOf (line : Text) : List Text := Text.cutAt cellMark line

/-- The header line of a schema. -/
def Schema.header (schema : Schema) : Text := lineOf schema.columns

/-- The line of a row, unless its identity has too many digits to be written. -/
def rowLine? (id : Int) (values : List Text) : Option Text :=
  (Numeral.write? id).map fun numeral => lineOf (numeral :: values)

/-- The schema that a header line stands for. -/
def Schema.ofHeader : Option Text → Except HeaderFlaw Schema
  | none => .error .missing
  | some line =>
      let line := Text.trimLineEnd line
      if Text.isBlankText line then .error .empty
      else
        let cells := cellsOf line
        let first := cells.headD []
        if first = identityColumn then .ok ⟨cells⟩ else .error (.notIdentity first)

namespace Reading

/-- The header line, if a first line is settled. -/
def header? (reading : Reading) : Option Text := reading.lines.head?

/-- The schema of a table file. -/
def schema (reading : Reading) : Except HeaderFlaw Schema :=
  match reading.header?, reading.failure with
  | none, some failure => .error (.undecodable failure)
  | line, _ => Schema.ofHeader line

/-- The rows whose lines are settled. -/
def rows (reading : Reading) : List (List Text) :=
  ((reading.lines.drop 1).filter fun line => !Text.isBlankText line).map cellsOf

end Reading

/-- One pass over the rows of a table file: the rows that were delivered, and what ended the pass
early. -/
structure Scan where
  rows : List (List Text)
  /-- Why there are no more. -/
  failure : Option StoreError
deriving DecidableEq, Repr

namespace Scan

/-- The pass over a file that was opened. -/
def ofReading (reading : Reading) : Scan :=
  ⟨reading.rows, reading.failure.map .undecodableData⟩

/-- All rows, if the pass reached the end. -/
def complete (scan : Scan) : Except StoreError (List (List Text)) :=
  match scan.failure with
  | none => .ok scan.rows
  | some error => .error error

end Scan
end FlatStore
