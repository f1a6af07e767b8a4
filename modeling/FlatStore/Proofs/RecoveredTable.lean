import FlatStore.Proofs.Inserting
import FlatStore.Proofs.Loading
import FlatStore.Proofs.Outcome

/-!
# Inserting into recovered tables

Loading accepts every file whose header and rows can be read, also one whose last line is not ended,
as a write that was cut short leaves it.  An insert adds its row to such a table exactly if the last
line of the file is ended: behind an unfinished line the new row and the line become one.
-/

namespace FlatStore
namespace Storage

/-- A row was added behind the rows of a table file, and the schema stayed as it was. -/
def AddsRow (before after : Storage) (path : Path) (row : List Text) : Prop :=
  after.readSchema path = before.readSchema path ∧
    ∃ rows, before.rows path = .ok rows ∧ after.rows path = .ok (rows ++ [row])

/-- An append to a file that can be read adds its row exactly if the last line is ended. -/
theorem addsRow_iff_endsLine {storage after : Storage} {path : Path} {text : Text} {id : Int}
    {values : List Text} (stored : storage.contentAt path = .ok (Utf8.encode text))
    (some_char : text ≠ []) (clean : ∀ value ∈ values, IsCell value)
    (appended : storage.appendRow path id values = (after, .ok ())) :
    storage.AddsRow after path (Numeral.integer id :: values) ↔ text.EndsLine := by
  have extended : after.contentAt path =
      .ok (Utf8.encode (text ++ lineOf (Numeral.integer id :: values))) := by
    rw [Utf8.encode_append]
    exact contentAt_of_appendRow stored appended
  rw [AddsRow, rows_of_text stored, rows_of_text extended, readSchema_of_text stored,
    readSchema_of_text extended]
  constructor
  · rintro ⟨-, rows, before, behind⟩
    cases before
    rw [Except.ok.injEq] at behind
    by_cases ends : text.EndsLine
    · exact ends
    · exact absurd behind (Reading.rows_ofText_append_row_ne some_char ends id clean)
  · intro ends
    refine ⟨?_, _, rfl, ?_⟩
    · rw [Reading.schema_ofText_append ends (head?_lineOf_integer id values)]
    · rw [Reading.rows_ofText_append_row ends id clean]

end Storage

namespace Store

variable {before store after : Store} {ref : TableRef} {table : Table}

/-- A table that was loaded is the entry of its file. -/
theorem table?_of_load (loaded : before.load = .ok store)
    (registered : store.catalog.tables.find? ref = some table) :
    store.storage.table? ref = some table := by
  obtain ⟨storage, names, -, -, loads⟩ := load_eq_ok loaded
  have found := loads.tables ref
  rw [registered] at found
  rw [loads.storage]
  split at found
  · cases entry : storage.table? ref with
    | none =>
        rw [entry] at found
        cases found
    | some other =>
        rw [entry] at found
        exact found.symm
  · cases found

/-- The file of a table that was loaded is a text with a header. -/
theorem exists_text_of_load (loaded : before.load = .ok store)
    (registered : store.catalog.tables.find? ref = some table) :
    ∃ text, store.storage.contentAt ref.path = .ok (Utf8.encode text) ∧ text ≠ [] ∧
      table.ref = ref ∧ table.path = ref.path := by
  obtain ⟨schema, rows, header, data, rfl⟩ :=
    Storage.table?_eq_some_iff.1 (table?_of_load loaded registered)
  obtain ⟨text, stored, -⟩ := Storage.exists_text_of_rows data
  have some_char : text ≠ [] :=
    Reading.ne_nil_of_schema_ofText (Storage.schema_of_readSchema stored header)
  exact ⟨text, stored, some_char, rfl, rfl⟩

/-- An insert into a table that was loaded adds its row exactly if the file ended a line. -/
theorem insert_addsRow_iff {values : List Text} {id : Int} (loaded : before.load = .ok store)
    (registered : store.catalog.tables.find? ref = some table)
    (clean : ∀ value ∈ values, IsCell value)
    (inserted : store.insert ref.database ref.table values = (after, .ok id)) :
    ∃ content, store.storage.contentAt table.path = .ok content ∧
      (store.storage.AddsRow after.storage table.path (Numeral.integer id :: values) ↔
        Utf8.EndsLine content) := by
  obtain ⟨text, stored, some_char, ref_eq, path_eq⟩ := exists_text_of_load loaded registered
  obtain ⟨entry, resolved, -, appended, -⟩ := insert_ok inserted
  have same : entry = table := by
    have found := (Catalog.resolve_eq_ok_iff.1 resolved).2
    rw [registered] at found
    exact (Option.some.inj found).symm
  rw [same, path_eq] at appended
  rw [path_eq]
  refine ⟨_, stored, ?_⟩
  rw [Utf8.endsLine_encode_iff]
  exact Storage.addsRow_iff_endsLine stored some_char clean appended

/-! ## A file of one row -/

/-- A storage root with one database and one table file in it. -/
def sampleStorage (text : Text) : Storage :=
  ⟨"/data".toList,
    (Tree.bare.put (Place.root.child "shop".toList) .directory).put
      ((Place.root.child "shop".toList).child "stock.tsv".toList) (.file (Utf8.encode text)),
    Troubles.none, Index.empty⟩

/-- The one table of a sample. -/
def sampleRef : TableRef := ⟨"shop".toList, "stock".toList⟩

/-- The store that is loaded from a sample. -/
def sampleStore (text : Text) : Store :=
  match (ofStorage (sampleStorage text)).load with
  | .ok store => store
  | .error _ => ofStorage (sampleStorage text)

theorem load_sample {text : Text}
    (succeeds : (ofStorage (sampleStorage text)).load.toOption.isSome = true) :
    (ofStorage (sampleStorage text)).load = .ok (sampleStore text) := by
  obtain ⟨store, loaded⟩ := exists_ok_of_isSome succeeds
  rw [sampleStore, loaded]

/-- A file whose last line is ended. -/
def endedText : Text := "id\ta\n1\tx\n".toList

/-- The same file, its last line not ended. -/
def unfinishedText : Text := "id\ta\n1\tx".toList

/-- What is known about the table of either file. -/
def sampleTable : Table :=
  ⟨sampleRef, sampleRef.path, ⟨["id".toList, "a".toList]⟩, ⟨2, by decide⟩⟩

/-- A row is inserted into a sample. -/
def sampleInsert (text : Text) : Store × Except Failure Int :=
  (sampleStore text).insert sampleRef.database sampleRef.table ["y".toList]

theorem load_endedText :
    (ofStorage (sampleStorage endedText)).load = .ok (sampleStore endedText) :=
  load_sample (by decide +kernel)

/-- Into the ended file the row goes as it should. -/
theorem insert_addsRow_endedText :
    (sampleStore endedText).storage.AddsRow (sampleInsert endedText).1.storage sampleTable.path
      ["2".toList, "y".toList] := by
  have registered : (sampleStore endedText).catalog.tables.find? sampleRef = some sampleTable := by
    decide +kernel
  have inserted : sampleInsert endedText = ((sampleInsert endedText).1, .ok 2) :=
    Prod.ext rfl (eq_ok_of_toOption (by decide +kernel))
  have kept : (sampleStore endedText).storage.contentAt sampleTable.path =
      .ok (Utf8.encode endedText) :=
    eq_ok_of_toOption (by decide +kernel)
  obtain ⟨content, stored, added⟩ :=
    insert_addsRow_iff load_endedText registered (by decide) inserted
  rw [kept] at stored
  cases stored
  exact added.2 (by decide)

/-- Into the unfinished file a row is inserted with success, and it is lost: its identity and its
value are read as a part of the row before. -/
theorem insert_merges_unfinishedText :
    ∃ (before store after : Store) (table : Table), before.load = .ok store ∧
      store.catalog.tables.find? sampleRef = some table ∧
      store.insert sampleRef.database sampleRef.table ["y".toList] = (after, .ok 2) ∧
      store.storage.rows table.path = .ok [["1".toList, "x".toList]] ∧
      after.storage.rows table.path = .ok [["1".toList, "x2".toList, "y".toList]] ∧
      ¬store.storage.AddsRow after.storage table.path ["2".toList, "y".toList] := by
  have loaded :
      (ofStorage (sampleStorage unfinishedText)).load = .ok (sampleStore unfinishedText) :=
    load_sample (by decide +kernel)
  have registered :
      (sampleStore unfinishedText).catalog.tables.find? sampleRef = some sampleTable := by
    decide +kernel
  have inserted : sampleInsert unfinishedText = ((sampleInsert unfinishedText).1, .ok 2) :=
    Prod.ext rfl (eq_ok_of_toOption (by decide +kernel))
  have old_rows : (sampleStore unfinishedText).storage.rows sampleTable.path =
      .ok [["1".toList, "x".toList]] :=
    eq_ok_of_toOption (by decide +kernel)
  have new_rows : (sampleInsert unfinishedText).1.storage.rows sampleTable.path =
      .ok [["1".toList, "x2".toList, "y".toList]] :=
    eq_ok_of_toOption (by decide +kernel)
  refine ⟨_, sampleStore unfinishedText, (sampleInsert unfinishedText).1, sampleTable, loaded,
    registered, inserted, old_rows, new_rows, ?_⟩
  rintro ⟨-, rows, before, behind⟩
  rw [old_rows] at before
  rw [new_rows] at behind
  cases before
  rw [Except.ok.injEq] at behind
  exact absurd behind (by decide)

end Store
end FlatStore
