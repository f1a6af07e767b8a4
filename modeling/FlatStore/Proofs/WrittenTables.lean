import FlatStore.Proofs.NumberedRows
import FlatStore.Proofs.Outcome

/-!
# Tables that are written and read

A table file with clean columns to which clean rows are appended is read back as the columns and the
rows, each with its identity, in the order in which they were written.  Each append extends the file
by one line, and no line is dropped or cut on the way back, whatever the identities are and however
many cells there are.
-/

namespace FlatStore

open Text

/-- Behind lines of rows no line feed comes first. -/
theorem head?_linesOf (rows : List NumberedRow) : (linesOf rows).head? ≠ some '\n' := by
  cases rows with
  | nil => nofun
  | cons row rest =>
      rw [linesOf, List.flatMap_cons, List.head?_append_of_ne_nil _ (by simp [lineOf]), rowCells]
      exact head?_lineOf_integer row.id row.values

namespace Storage

/-- Append rows one after the other, up to the first one that can not be appended. -/
def appendRows (storage : Storage) (path : Path) :
    List NumberedRow → Storage × Except Failure Unit
  | [] => (storage, .ok ())
  | row :: rest =>
      match storage.appendRow path row.id row.values with
      | (after, .error failure) => (after, .error failure)
      | (after, .ok ()) => after.appendRows path rest

variable {storage created after : Storage} {path : Path} {content : Octets}
  {rows : List NumberedRow}

/-- A row is appended to a file that is there, if nothing goes wrong and its identity can be
written. -/
theorem exists_appendRow {id : Int} (values : List Text) (room : storage.troubles = .none)
    (no_null : path.any (·.contains '\x00') = false)
    (writable : (Numeral.write? id).isSome = true)
    (stored : storage.contentAt path = .ok content) :
    ∃ after, storage.appendRow path id values = (after, .ok ()) ∧ after.troubles = .none := by
  obtain ⟨numeral, written⟩ := Option.isSome_iff_exists.1 writable
  have line : rowLine? id values = some (lineOf (numeral :: values)) := by
    rw [rowLine?, written]
    rfl
  obtain ⟨short, read⟩ := contentAt_eq_ok_iff.1 stored
  obtain ⟨place, leads, found⟩ := Tree.read_eq_ok_iff.1 read
  obtain ⟨tree, extended⟩ : ∃ tree, storage.tree.append path
      (Utf8.encode (lineOf (numeral :: values))) = .ok tree :=
    ⟨_, Tree.append_of_find? leads found _⟩
  exact ⟨storage.withTree tree, appendRow_of_append room no_null line short extended, room⟩

/-- Nothing but troubles, a null character in the path or an identity that can not be written keeps
rows from being appended to a file that is there. -/
theorem exists_appendRows (room : storage.troubles = .none)
    (no_null : path.any (·.contains '\x00') = false)
    (writable : ∀ row ∈ rows, (Numeral.write? row.id).isSome = true)
    (stored : storage.contentAt path = .ok content) :
    ∃ after, storage.appendRows path rows = (after, .ok ()) := by
  induction rows generalizing storage content with
  | nil => exact ⟨storage, rfl⟩
  | cons row rest ih =>
      obtain ⟨between, appended, still_room⟩ :=
        exists_appendRow row.values room no_null (writable row List.mem_cons_self) stored
      obtain ⟨after, others⟩ := ih still_room
        (fun other member => writable other (List.mem_cons_of_mem _ member))
        (contentAt_of_appendRow stored appended)
      refine ⟨after, ?_⟩
      rw [appendRows, appended]
      exact others

/-- Appending rows extends the file by their lines. -/
theorem contentAt_of_appendRows (stored : storage.contentAt path = .ok content)
    (appended : storage.appendRows path rows = (after, .ok ())) :
    after.contentAt path = .ok (content ++ Utf8.encode (linesOf rows)) := by
  induction rows generalizing storage content with
  | nil =>
      cases appended
      rw [stored]
      simp [linesOf]
  | cons row rest ih =>
      rw [appendRows] at appended
      split at appended
      · cases appended
      · rename_i between first
        rw [ih (contentAt_of_appendRow stored first) appended, List.append_assoc,
          ← Utf8.encode_append]
        rfl

/-- What is written to a new table file, clean columns and clean rows, is what is read from it, and
all of it is written if nothing goes wrong and the identities can be written. -/
theorem read_appendRows {columns : List Text}
    (made : storage.createTable path (Schema.ofColumns columns) = (created, .ok ()))
    (clean_columns : ∀ column ∈ columns, IsCell column)
    (clean : ∀ row ∈ rows, ∀ value ∈ row.values, IsCell value) :
    (∀ after, created.appendRows path rows = (after, .ok ()) →
      after.readSchema path = .ok ⟨identityColumn :: columns⟩ ∧
        after.scan path =
          ⟨rows.map fun row => Numeral.integer row.id :: row.values, none⟩) ∧
    (storage.troubles = .none → path.any (·.contains '\x00') = false →
      (∀ row ∈ rows, (Numeral.write? row.id).isSome = true) →
        ∃ after, created.appendRows path rows = (after, .ok ())) := by
  have header_stored := contentAt_of_createTable made
  refine ⟨fun after appended => ?_, fun room no_null writable => ?_⟩
  · have stored := contentAt_of_appendRows header_stored appended
    rw [← Utf8.encode_append] at stored
    have ends : EndsLine (Schema.ofColumns columns).header := endsLine_lineOf _
    have header : (Reading.ofText (Schema.ofColumns columns).header).schema =
        .ok (Schema.ofColumns columns) := Reading.schema_ofText_header rfl clean_columns
    constructor
    · rw [readSchema_of_text stored, Reading.schema_ofText_append ends (head?_linesOf rows),
        header]
      rfl
    · rw [scan_of_text stored, Reading.rows_ofText_append_linesOf ends clean,
        Reading.rows_ofText_header (Schema.isCell_ofColumns clean_columns)]
      rfl
  · have created_room : created.troubles = .none := by
      obtain ⟨place, -, rfl⟩ := createTable_ok made
      exact room
    exact exists_appendRows created_room no_null writable header_stored

/-- Cells that are empty or blank are read back as well, and so are rows without values and
identities that are not positive. -/
theorem read_appendRows_blank :
    ∃ created after : Storage,
      createTable ⟨"/data".toList, Tree.bare, Troubles.none, Index.empty⟩ ["t.tsv".toList]
        (Schema.ofColumns [[], "\u00a0".toList]) = (created, .ok ()) ∧
      created.appendRows ["t.tsv".toList] [⟨0, []⟩, ⟨-3, [[], " ".toList, []]⟩] = (after, .ok ()) ∧
      after.readSchema ["t.tsv".toList] = .ok ⟨["id".toList, [], "\u00a0".toList]⟩ ∧
      after.scan ["t.tsv".toList] = ⟨[["0".toList], ["-3".toList, [], " ".toList, []]], none⟩ := by
  obtain ⟨created, made⟩ : ∃ created,
      createTable ⟨"/data".toList, Tree.bare, Troubles.none, Index.empty⟩ ["t.tsv".toList]
        (Schema.ofColumns [[], "\u00a0".toList]) = (created, .ok ()) :=
    ⟨_, Prod.ext rfl (eq_ok_of_toOption (by decide +kernel))⟩
  have clean : ∀ row ∈ [(⟨0, []⟩ : NumberedRow), ⟨-3, [[], " ".toList, []]⟩],
      ∀ value ∈ row.values, IsCell value := by decide
  have writable : ∀ row ∈ [(⟨0, []⟩ : NumberedRow), ⟨-3, [[], " ".toList, []]⟩],
      (Numeral.write? row.id).isSome = true := by decide
  obtain ⟨reads, appends⟩ := read_appendRows made (by decide) clean
  obtain ⟨after, appended⟩ := appends rfl (by decide) writable
  obtain ⟨schema, scanned⟩ := reads after appended
  exact ⟨created, after, made, appended, schema, scanned.trans (by decide)⟩

end Storage
end FlatStore
