import FlatStore.Proofs.Creating
import FlatStore.Proofs.Projections
import Mathlib.Data.List.Nodup

/-!
# All columns by name

To name all columns of a table in their stored order is the same as to select all columns exactly if
no name occurs twice in the header, for a name stands for one position.  In the header of a table
that was created no name does; a load accepts headers in which one does, and then some content of
the file tells the two selections apart: a row with a mark at the position for which no name stands.
-/

namespace FlatStore

open Text

/-! ## Distinct names -/

namespace Schema

variable {schema : Schema}

/-- Every name stands for its own position exactly if no name occurs twice. -/
theorem nodup_iff_position? :
    schema.columns.Nodup ↔
      ∀ position (inside : position < schema.columns.length),
        schema.position? schema.columns[position] = some position := by
  constructor
  · intro distinct position inside
    obtain ⟨found, stands, name⟩ := exists_position_of_mem (List.getElem_mem inside)
    obtain ⟨found_inside, same⟩ := List.getElem?_eq_some_iff.1 name
    rw [stands, (List.Nodup.getElem_inj_iff distinct).1 same]
  · intro own
    rw [List.nodup_iff_injective_get]
    intro left right same
    have positions := congrArg schema.position? same
    rw [List.get_eq_getElem, List.get_eq_getElem, own left left.isLt, own right right.isLt,
      Option.some.injEq] at positions
    exact Fin.ext positions

end Schema

namespace Projection

variable {schema : Schema}

/-- All columns by name are all columns if no name occurs twice. -/
theorem known_columns_eq_whole (distinct : schema.columns.Nodup) :
    known schema schema.columns = whole schema := by
  have own := Schema.nodup_iff_position?.1 distinct
  have each : schema.columns.map schema.position? = (List.range schema.size).map some := by
    refine List.ext_getElem (by simp [Schema.size]) fun position inside _ => ?_
    rw [List.length_map] at inside
    simp [own position inside]
  have positions : schema.columns.filterMap schema.position? = List.range schema.size := by
    calc
      schema.columns.filterMap schema.position?
        = (schema.columns.map schema.position?).filterMap id := by rw [List.filterMap_map]; rfl
      _ = List.range schema.size := by rw [each, List.filterMap_map]; simp
  have columns : (known schema schema.columns).columns = schema.columns := by
    rw [columns_known]
    exact List.filter_eq_self.2 fun column member => decide_eq_true member
  rw [whole, Projection.mk.injEq]
  exact ⟨columns, positions⟩

end Projection

namespace Catalog

/-- The columns of a new table are distinct, and none is the identity column. -/
theorem nodup_of_checkColumns {seen columns : List Text}
    (valid : checkColumns seen columns = .ok ()) :
    columns.Nodup ∧ ∀ column ∈ columns, column ≠ identityColumn ∧ column ∉ seen := by
  induction columns generalizing seen with
  | nil => simp
  | cons column rest ih =>
      rw [checkColumns] at valid
      split at valid
      · cases valid
      · split at valid
        · cases valid
        · rename_i own
          split at valid
          · cases valid
          · rename_i new
            obtain ⟨distinct, others⟩ := ih valid
            have first : column ∉ seen := by simpa using new
            have apart : column ∉ rest := fun member =>
              (others column member).2 List.mem_cons_self
            refine ⟨List.nodup_cons.2 ⟨apart, distinct⟩, fun other member => ?_⟩
            rcases List.mem_cons.1 member with rfl | member
            · exact ⟨own, first⟩
            · obtain ⟨given, behind⟩ := others other member
              exact ⟨given, fun early => behind (List.mem_cons_of_mem _ early)⟩

end Catalog

namespace Store

variable {store after : Store} {database name : Text} {entry : Table} {columns : List Text}

/-- No name occurs twice in the header of a table that was created. -/
theorem nodup_of_createTable (created : store.createTable database name columns = (after, .ok ())) :
    (Schema.ofColumns columns).columns.Nodup := by
  rw [createTable, Creation.ofTable] at created
  cases valid : store.catalog.checkTable database name columns with
  | error error =>
      rw [valid] at created
      cases created
  | ok done =>
      rw [Catalog.checkTable] at valid
      split at valid
      · cases valid
      · split at valid
        · cases valid
        · split at valid
          · cases valid
          · obtain ⟨distinct, others⟩ := Catalog.nodup_of_checkColumns valid
            exact List.nodup_cons.2 ⟨fun member => (others _ member).1 rfl, distinct⟩

end Store

/-! ## Files of one row -/

/-- The cells of a row with a mark at one position. -/
def markedRow (position : Nat) : List Text := List.replicate position [] ++ [['x']]

/-- The text of a file with one row. -/
def textOfRow (cells : List Text) : Text := lineOf [identityColumn] ++ lineOf cells

/-- The mark stands at its position only. -/
theorem eq_of_getElem?_markedRow {position other : Nat}
    (mark : ((markedRow position)[other]?).getD [] = ['x']) : other = position := by
  rw [markedRow] at mark
  rcases Nat.lt_trichotomy other position with before | here | behind
  · rw [List.getElem?_append_left (by simpa using before)] at mark
    simp [before] at mark
  · exact here
  · rw [List.getElem?_eq_none (by simp; omega)] at mark
    cases mark

theorem getElem?_markedRow (position : Nat) : (markedRow position)[position]? = some ['x'] := by
  rw [markedRow, List.getElem?_append_right (by simp)]
  simp

theorem rows_textOfRow_markedRow (position : Nat) :
    (Reading.ofText (textOfRow (markedRow position))).rows = [markedRow position] := by
  have clean : ∀ cell ∈ markedRow position, IsCell cell := by
    intro cell member
    rcases List.mem_append.1 member with blank | mark
    · rw [List.eq_of_mem_replicate blank]
      decide
    · rw [List.mem_singleton.1 mark]
      decide
  have header : IsLine (join [cellMark] [identityColumn]) := isLine_join (by decide)
  have ink : isBlankText (join [cellMark] (markedRow position)) = false :=
    isBlankText_eq_false_of_mem (c := 'x')
      (mem_join_of_mem (List.mem_append_right _ List.mem_cons_self) List.mem_cons_self) (by decide)
  have lines : lines true (textOfRow (markedRow position)) =
      [join [cellMark] [identityColumn], join [cellMark] (markedRow position)] := by
    rw [textOfRow, lineOf, List.append_assoc, List.singleton_append,
      lines_append_lineFeed header, lines_lineOf clean]
  rw [Reading.rows, Reading.lines_ofText, lines]
  change rowsOf [join [cellMark] (markedRow position)] = _
  rw [rowsOf_singleton, ink, cellsOf_join (by simp [markedRow]) clean]
  rfl

/-! ## All columns by name -/

namespace Store

variable {store : Store} {database name : Text} {entry : Table}

/-- Distinct columns by name are all columns. -/
theorem select_listed (resolved : store.catalog.resolve database name = .ok entry)
    (distinct : entry.schema.columns.Nodup) (strict : Bool) :
    store.select strict database name (some entry.schema.columns) =
      store.select strict database name none := by
  have none_unknown : entry.schema.columns.find? (· ∉ entry.schema.columns) = none := by simp
  have listed : (Projection.find strict entry.schema name (some entry.schema.columns)).2 =
      .ok (Projection.whole entry.schema) := by
    rw [← Projection.known_columns_eq_whole distinct]
    cases strict with
    | false => rfl
    | true => rw [Projection.find_strict, none_unknown]
  rw [select_of_resolve resolved, select_of_resolve resolved, listed]
  rfl

/-- All columns by name, in a file of one row. -/
theorem select_listed_of_row (resolved : store.catalog.resolve database name = .ok entry)
    (some_column : entry.schema.columns ≠ []) {cells : List Text}
    (rows : store.storage.rows entry.path = .ok [cells]) :
    store.select false database name (some entry.schema.columns) =
      .ok (.read entry.schema.columns
        [entry.schema.columns.map (entry.schema.valueIn cells)]) := by
  have all_known : entry.schema.columns.filter (· ∈ entry.schema.columns) =
      entry.schema.columns := by simp
  have some_known : entry.schema.columns.filter (· ∈ entry.schema.columns) ≠ [] := by
    rw [all_known]
    exact some_column
  rw [select_lenient_of_known resolved some_known, all_known, rows]
  rfl

/-- All columns, in a file of one row. -/
theorem select_whole_of_row (resolved : store.catalog.resolve database name = .ok entry)
    (some_column : entry.schema.columns ≠ []) {cells : List Text}
    (rows : store.storage.rows entry.path = .ok [cells]) :
    store.select false database name none =
      .ok (.read entry.schema.columns [(Projection.whole entry.schema).values cells]) := by
  have some_position : (Projection.whole entry.schema).positions.isEmpty = false := by
    simpa [Projection.whole, Schema.size] using some_column
  rw [Storage.rows] at rows
  rw [select_of_resolve resolved]
  change ((Projection.whole entry.schema).rows _).map _ = _
  rw [Projection.rows, some_position, rows]
  rfl

/-- If the columns by name are all columns in a file of one row with a mark, then the name at the
position of the mark stands for this position. -/
theorem position?_of_select_listed (resolved : store.catalog.resolve database name = .ok entry)
    {position : Nat} (inside : position < entry.schema.columns.length)
    (stored : store.storage.contentAt entry.path =
      .ok (Utf8.encode (textOfRow (markedRow position))))
    (agree : store.select false database name (some entry.schema.columns) =
      store.select false database name none) :
    entry.schema.position? entry.schema.columns[position] = some position := by
  have member := List.getElem_mem inside
  obtain ⟨found, stands, -⟩ := Schema.exists_position_of_mem member
  have rows : store.storage.rows entry.path = .ok [markedRow position] := by
    rw [Storage.rows_of_text stored, rows_textOfRow_markedRow]
  rw [select_listed_of_row resolved (List.ne_nil_of_mem member) rows,
    select_whole_of_row resolved (List.ne_nil_of_mem member) rows, Except.ok.injEq,
    Answer.read.injEq, List.cons.injEq] at agree
  have at_position := congrArg (·[position]?) agree.2.1
  have here : ((Projection.whole entry.schema).values (markedRow position))[position]? =
      some ['x'] := by
    simp [Projection.values, Projection.whole, Schema.size, inside, getElem?_markedRow]
  have mark : ((markedRow position)[found]?).getD [] = ['x'] := by
    rw [here, List.getElem?_map, List.getElem?_eq_getElem inside, Option.map_some,
      Schema.valueIn, stands] at at_position
    exact Option.some.inj at_position
  rw [stands, eq_of_getElem?_markedRow mark]

/-- If the columns by name are all columns whatever the file holds, then they are distinct. -/
theorem nodup_of_select_listed (resolved : store.catalog.resolve database name = .ok entry)
    {content : Octets} (stored : store.storage.contentAt entry.path = .ok content)
    (agree : ∀ octets tree, store.storage.tree.write entry.path octets = .ok tree →
      ({ store with storage := store.storage.withTree tree } : Store).select false database name
          (some entry.schema.columns) =
        ({ store with storage := store.storage.withTree tree } : Store).select false database name
          none) : entry.schema.columns.Nodup := by
  refine Schema.nodup_iff_position?.2 fun position inside => ?_
  obtain ⟨tree, written, holds⟩ :=
    Storage.exists_write stored (Utf8.encode (textOfRow (markedRow position)))
  have found : ({ store with storage := store.storage.withTree tree } : Store).catalog.resolve
      database name = .ok entry := resolved
  exact position?_of_select_listed found inside holds (agree _ tree written)

/-- A selection of all columns by name gives the same as one of all columns in either mode and
whatever is stored, if no name occurs twice.  If one does, they differ for some content of the
table's file.  In the header of a table that was created no name occurs twice. -/
theorem select_listed_iff {session : Session} (selected : session.database = some database)
    (resolved : store.catalog.resolve database name = .ok entry) (ignored : Text) :
    let select (storage : Storage) (strict : Bool) (columns : Option (List Text)) :=
      ((Plan.select name columns ignored).run strict { store with storage } session).result
    (entry.schema.columns.Nodup → ∀ storage strict,
        select storage strict (some entry.schema.columns) = select storage strict none) ∧
      (∀ content, store.storage.contentAt entry.path = .ok content →
        ((∀ octets tree, store.storage.tree.write entry.path octets = .ok tree → ∀ strict,
            select (store.storage.withTree tree) strict (some entry.schema.columns) =
              select (store.storage.withTree tree) strict none) ↔
          entry.schema.columns.Nodup)) ∧
      ∀ (before : Store) (columns : List Text),
        before.createTable database name columns = (store, .ok ()) →
        entry.schema.columns.Nodup := by
  simp only [Plan.result_select selected]
  have listed (distinct : entry.schema.columns.Nodup) (storage : Storage) (strict : Bool) :
      (({ store with storage } : Store).select strict database name
          (some entry.schema.columns)).mapError Failure.store =
        (({ store with storage } : Store).select strict database name none).mapError .store := by
    have found : ({ store with storage } : Store).catalog.resolve database name = .ok entry :=
      resolved
    rw [select_listed found distinct]
  refine ⟨listed, fun content stored => ⟨fun agree => ?_, fun distinct octets tree _ strict =>
    listed distinct _ strict⟩, fun before columns created => ?_⟩
  · refine nodup_of_select_listed resolved stored fun octets tree written => ?_
    exact mapError_injective (fun _ _ => Failure.store.inj) (agree octets tree written false)
  · obtain ⟨-, -, -, -, -, catalog⟩ := createTable_ok created
    have found := (Catalog.resolve_eq_ok_iff.1 resolved).2
    rw [catalog, Catalog.addTable, newTable, Index.find?_put_self] at found
    rw [← Option.some.inj found]
    exact nodup_of_createTable created

/-- In a table with distinct columns all columns by name are all columns, in either mode. -/
theorem select_listed_distinct :
    let select (strict : Bool) (columns : Option (List Text)) : Except Failure Answer :=
      ((Plan.select sampleRef.table columns []).run strict (sampleStore endedText)
        sampleSession).result
    sampleTable.schema.columns.Nodup ∧
      select true (some ["id".toList, "a".toList]) = select true none ∧
      select false (some ["id".toList, "a".toList]) = select false none := by
  have selected : sampleSession.database = some sampleRef.database := rfl
  have resolved : (sampleStore endedText).catalog.resolve sampleRef.database sampleRef.table =
      .ok sampleTable := eq_ok_of_toOption (by decide +kernel)
  have distinct : sampleTable.schema.columns.Nodup := by decide
  have listed := (select_listed_iff selected resolved []).1 distinct (sampleStore endedText).storage
  exact ⟨distinct, listed true, listed false⟩

/-- A file whose header names two columns the same. -/
def repeatedText : Text := "id\ta\ta\n1\tx\ty\n".toList

/-- What is known about the table of the file. -/
def repeatedTable : Table :=
  { sampleTable with schema := ⟨["id".toList, "a".toList, "a".toList]⟩ }

/-- The file is loaded, and the first of its two columns can not be selected by its name. -/
theorem select_listed_ne_repeated :
    (ofStorage (sampleStorage repeatedText)).load = .ok (sampleStore repeatedText) ∧
      (sampleStore repeatedText).catalog.resolve sampleRef.database sampleRef.table =
        .ok repeatedTable ∧
      ((Plan.select sampleRef.table none []).run false
          (sampleStore repeatedText) sampleSession).result =
        .ok (.read repeatedTable.schema.columns [["1".toList, "x".toList, "y".toList]]) ∧
      ((Plan.select sampleRef.table (some repeatedTable.schema.columns) []).run false
          (sampleStore repeatedText) sampleSession).result =
        .ok (.read repeatedTable.schema.columns [["1".toList, "y".toList, "y".toList]]) :=
  ⟨load_sample (by decide +kernel), eq_ok_of_toOption (by decide +kernel),
    eq_ok_of_toOption (by decide +kernel), eq_ok_of_toOption (by decide +kernel)⟩

end Store
end FlatStore
