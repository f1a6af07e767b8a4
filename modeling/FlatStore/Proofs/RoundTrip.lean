import FlatStore.Proofs.Reachable

/-!
# From an insert to a selection

A selection of all columns behind an insert gives the rows that it gave before and, behind them,
what is read from the line of the new row.  That is the new row exactly if none of its values holds
a carriage return, which is read as the end of a line.
-/

namespace FlatStore

/-! ## Projections -/

namespace Projection

/-- A row with a value for each column is shown as it is. -/
theorem values_whole {schema : Schema} {cells : List Text} (size : cells.length = schema.size) :
    (whole schema).values cells = cells := by
  apply List.ext_getElem
  · simp [values, whole, size]
  · intro position before behind
    simp [values, whole, behind]

end Projection

/-- A schema that is read has columns. -/
theorem columns_ne_nil_of_schema {text : Text} {schema : Schema}
    (h : (Reading.ofText text).schema = .ok schema) : schema.columns ≠ [] := by
  rw [Reading.schema_ofText] at h
  generalize (Text.lines true text).head? = header at h
  unfold Schema.ofHeader at h
  split at h
  · cases h
  · dsimp only at h
    split at h
    · cases h
    · split at h
      · cases h
        exact Text.cutAt_ne_nil _ _
      · cases h

namespace Store

/-! ## Selections -/

/-- What a selection of all columns gives. -/
theorem execute_selectAll {store : Store} {session : Session} {table : Table} {text : Text}
    (strict : Bool) (ref : TableRef) (selected : session.database = some ref.database)
    (resolved : store.catalog.resolve ref.database ref.table = .ok table)
    (stored : store.storage.contentAt table.path = .ok (Utf8.encode text))
    (some_column : table.schema.columns ≠ []) (plain : IsPlainName ref.table)
    (apart : ¬"FROM".toList <:+: ref.table) :
    (store.execute strict session (Plan.selectAll ref.table)).result =
      .ok (.read table.schema.columns
        ((Reading.ofText text).rows.map (Projection.whole table.schema).values)) := by
  have scanned : store.scan ref.database ref.table =
      .ok (table.schema, ⟨(Reading.ofText text).rows, none⟩) := by
    rw [scan, resolved, ← Storage.scan_of_text stored]
  have positions : (Projection.whole table.schema).positions.isEmpty = false := by
    rw [List.isEmpty_eq_false_iff, Projection.whole]
    simpa [Schema.size] using some_column
  have projected : (Projection.whole table.schema).rows ⟨(Reading.ofText text).rows, none⟩ =
      .ok ((Reading.ofText text).rows.map (Projection.whole table.schema).values) := by
    rw [Projection.rows, positions]
    rfl
  rw [execute, Plan.read_selectAll plain apart]
  simp only [Plan.run, selected, Plan.runSelect, scanned, Projection.find, projected]
  rfl

/-! ## Inserts -/

/-- The text holds the schema of a table and ends a line. -/
structure Readable (table : Table) (text : Text) : Prop where
  schema : (Reading.ofText text).schema = .ok table.schema
  ends : text.EndsLine

/-- Whatever the values are, what is read stays readable. -/
theorem keeps_readable : Keeps Readable fun _ => True where
  new database name columns plain :=
    ⟨Reading.schema_ofText_header rfl fun column member => (plain column member).isCell,
      endsLine_lineOf _⟩
  row table text values readable _ written :=
    ⟨(Reading.schema_ofText_append readable.ends (head?_lineOf_integer _ _)).trans readable.schema,
      (Text.endsLine_append (by simp [lineOf])).2 (endsLine_lineOf _)⟩

/-- What is shown of the line of a row: all columns of the rows that are read from it. -/
def shownOfLine (schema : Schema) (id : Int) (values : List Text) : List (List Text) :=
  (rowsOf (Text.lines true (lineOf (Numeral.integer id :: values)))).map
    (Projection.whole schema).values

/-- The line of a row is shown as the row exactly if no value holds a carriage return. -/
theorem shownOfLine_eq_iff {schema : Schema} {id : Int} {values : List Text}
    (fits : (Numeral.integer id :: values).length = schema.size)
    (inner : ∀ value ∈ values, '\t' ∉ value ∧ '\n' ∉ value) :
    shownOfLine schema id values = [Numeral.integer id :: values] ↔
      ∀ value ∈ values, '\r' ∉ value := by
  rw [shownOfLine]
  constructor
  · intro shown value member
    have here : Numeral.integer id :: values ∈ [Numeral.integer id :: values] :=
      List.mem_singleton_self _
    rw [← shown] at here
    obtain ⟨cells, read, same⟩ := List.mem_map.1 here
    have shown_value : value ∈ (Projection.whole schema).values cells := by
      rw [same]
      exact List.mem_cons_of_mem _ member
    rcases Projection.mem_of_mem_values shown_value with rfl | cell
    · simp
    · have clean := isCell_of_mem_rowsOf (fun line => Text.isLine_of_mem_lines) read cell
      exact clean.2.2
  · intro no_return
    rw [rowsOf_lines_lineOf id fun value member =>
      ⟨(inner value member).1, (inner value member).2, no_return value member⟩]
    rw [List.map_singleton, Projection.values_whole fits]

/-- The lines that a connection delivers have no line feed in them. -/
def Delivered (line : Text) (_ : Except Failure Answer) : Prop := '\n' ∉ line

/-- A selection behind an insert shows what was shown before it and, behind that, the line of the
row: as the row that was inserted exactly if no value holds a carriage return. -/
theorem select_behind_insert {store : Store} {strict : Bool} {session reader : Session}
    {line name : Text} {values : List Text} {id : Int} (reachable : Reachable Delivered store)
    (no_feed : '\n' ∉ line) (read : Plan.read line = .ok (.insert name values))
    (inserted : (store.execute strict session line).result = .ok (.inserted name id))
    (same_database : reader.database = session.database) (apart : ¬"FROM".toList <:+: name) :
    ∃ schema rows,
      (store.execute strict reader (Plan.selectAll name)).result =
        .ok (.read schema.columns rows) ∧
      ((store.execute strict session line).store.execute strict reader
        (Plan.selectAll name)).result =
          .ok (.read schema.columns (rows ++ shownOfLine schema id values)) ∧
      (shownOfLine schema id values = [Numeral.integer id :: values] ↔
        ∀ value ∈ values, '\r' ∉ value) := by
  have sound : Sound Readable store :=
    reachable.sound keeps_readable fun _ _ _ _ _ _ _ _ => trivial
  have effect := execute_effect store strict session line
  generalize (store.execute strict session line).store = after at effect ⊢
  rw [inserted] at effect
  cases effect with
  | nothing storage catalog quiet =>
      obtain ⟨other, none_selected⟩ | ⟨columns, rows, none_read⟩ := quiet _ rfl
      · cases none_selected
      · cases none_read
  | @row database _ other_values entry other_read selected resolved fits appended catalog =>
      rw [read] at other_read
      cases other_read
      obtain ⟨known, found⟩ := Catalog.resolve_eq_ok_iff.1 resolved
      obtain ⟨-, sound_entry⟩ := sound.tables _ entry found
      obtain ⟨text, stored, readable⟩ := sound_entry.content
      rw [← sound_entry.path_eq] at stored
      have some_column := columns_ne_nil_of_schema readable.schema
      have stored_after := Storage.contentAt_of_appendRow stored appended
      rw [← Utf8.encode_append] at stored_after
      -- The entry behind the insert differs in its allocator only.
      have resolved_after : after.catalog.resolve database name =
          .ok { entry with allocator := (store.allocatorOf entry).step } := by
        have found_entry : store.catalog.tables.find? entry.ref = some entry := by
          rw [sound_entry.ref_eq]
          exact found
        rw [catalog]
        refine Catalog.resolve_eq_ok_iff.2 ⟨known, ?_⟩
        rw [Catalog.find?_setAllocator, if_pos sound_entry.ref_eq, found_entry]
        rfl
      have reader_selected : reader.database = some database := same_database.trans selected
      refine ⟨entry.schema, _, execute_selectAll strict ⟨database, name⟩ reader_selected resolved
        stored some_column sound_entry.plain apart, ?_, ?_⟩
      · rw [execute_selectAll strict ⟨database, name⟩ reader_selected resolved_after
          stored_after some_column sound_entry.plain apart,
          Reading.rows_ofText_append readable.ends (head?_lineOf_integer _ _), List.map_append]
        rfl
      · have size : (Numeral.integer (store.allocatorOf entry).next :: values).length =
            entry.schema.size := by
          have columns_pos := List.length_pos_iff.2 some_column
          rw [Schema.valueColumns, List.length_drop] at fits
          rw [List.length_cons, Schema.size]
          omega
        refine shownOfLine_eq_iff size fun value member => ?_
        obtain ⟨no_tab, inside⟩ := (Plan.fits_of_read read).2 value member
        exact ⟨no_tab, fun feed => no_feed (inside _ feed)⟩

/-- A row of one word is shown as it was inserted. -/
theorem select_behind_insert_word :
    ∃ columns rows,
      ((afterLines (creatingLines "stock".toList)).execute false sampleSession
        (Plan.selectAll "stock".toList)).result = .ok (.read columns rows) ∧
      (((afterLines (creatingLines "stock".toList)).execute false sampleSession
        "INSERT INTO stock VALUES (bolt)".toList).store.execute false sampleSession
        (Plan.selectAll "stock".toList)).result =
          .ok (.read columns (rows ++ [["1".toList, "bolt".toList]])) := by
  have delivered : ∀ line ∈ creatingLines "stock".toList, '\n' ∉ line := by decide +kernel
  have read : Plan.read "INSERT INTO stock VALUES (bolt)".toList =
      .ok (.insert "stock".toList ["bolt".toList]) :=
    eq_ok_of_toOption (by decide +kernel)
  have inserted : ((afterLines (creatingLines "stock".toList)).execute false sampleSession
      "INSERT INTO stock VALUES (bolt)".toList).result = .ok (.inserted "stock".toList 1) :=
    eq_ok_of_toOption (by decide +kernel)
  have apart : ¬"FROM".toList <:+: "stock".toList := by decide +kernel
  obtain ⟨schema, rows, before, behind, exact_row⟩ :=
    select_behind_insert (reachable_afterLines fun line member _ => delivered line member)
      (by decide +kernel) read inserted rfl apart
  rw [exact_row.2 (by decide +kernel)] at behind
  exact ⟨schema.columns, rows, before, behind⟩

/-! ## What is not shown -/

/-- A selection behind an insert gives what it gave before, and the row. -/
def ShowsRow (store : Store) (session : Session) (line name : Text) (row : List Text) : Prop :=
  ∃ columns rows,
    (store.execute false session (Plan.selectAll name)).result = .ok (.read columns rows) ∧
    ((store.execute false session line).store.execute false session
      (Plan.selectAll name)).result = .ok (.read columns (rows ++ [row]))

/-- A carriage return in a value is let in and read back as the end of a row, and a table whose name
holds a keyword takes rows but can not be selected from. -/
theorem not_showsRow :
    (∃ store line values id, Reachable Delivered store ∧ '\n' ∉ line ∧
      Plan.read line = .ok (.insert "stock".toList values) ∧
      (store.execute false sampleSession line).result = .ok (.inserted "stock".toList id) ∧
      ¬ShowsRow store sampleSession line "stock".toList (Numeral.integer id :: values)) ∧
    ∃ store line values id, Reachable Delivered store ∧ '\n' ∉ line ∧
      (∀ value ∈ values, '\r' ∉ value) ∧
      Plan.read line = .ok (.insert "xFROMy".toList values) ∧
      (store.execute false sampleSession line).result = .ok (.inserted "xFROMy".toList id) ∧
      ¬ShowsRow store sampleSession line "xFROMy".toList (Numeral.integer id :: values) := by
  constructor
  · have delivered : ∀ line ∈ creatingLines "stock".toList, '\n' ∉ line := by decide +kernel
    refine ⟨_, "INSERT INTO stock VALUES (x\ry)".toList, ["x\ry".toList], 1,
      reachable_afterLines fun line member _ => delivered line member, by decide +kernel,
      eq_ok_of_toOption (by decide +kernel), eq_ok_of_toOption (by decide +kernel), ?_⟩
    rintro ⟨columns, rows, before, behind⟩
    have shown_before : ((afterLines (creatingLines "stock".toList)).execute false sampleSession
        (Plan.selectAll "stock".toList)).result = .ok (.read ["id".toList, "a".toList] []) :=
      eq_ok_of_toOption (by decide +kernel)
    have shown_behind : (((afterLines (creatingLines "stock".toList)).execute false sampleSession
        "INSERT INTO stock VALUES (x\ry)".toList).store.execute false sampleSession
        (Plan.selectAll "stock".toList)).result = .ok (.read ["id".toList, "a".toList]
          [["1".toList, "x".toList], ["y".toList, []]]) :=
      eq_ok_of_toOption (by decide +kernel)
    rw [shown_before] at before
    rw [shown_behind] at behind
    cases before
    cases behind
  · have delivered : ∀ line ∈ creatingLines "xFROMy".toList, '\n' ∉ line := by decide +kernel
    refine ⟨_, "INSERT INTO xFROMy VALUES (bolt)".toList, ["bolt".toList], 1,
      reachable_afterLines fun line member _ => delivered line member, by decide +kernel,
      by decide +kernel, eq_ok_of_toOption (by decide +kernel),
      eq_ok_of_toOption (by decide +kernel), ?_⟩
    rintro ⟨columns, rows, before, -⟩
    have refused : ((afterLines (creatingLines "xFROMy".toList)).execute false sampleSession
        (Plan.selectAll "xFROMy".toList)).result.toOption = none := by
      decide +kernel
    rw [before] at refused
    cases refused

end Store
end FlatStore
