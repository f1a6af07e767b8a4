import FlatStore.Proofs.Failing
import FlatStore.Proofs.Reachable
import FlatStore.Proofs.RecoveredTable

/-!
# Projections

A selection shows the columns that it names and the table has, in the order of the request and as
often as they are named; each row shows its values in these columns.  Strict and lenient selections
differ in one thing only: the first unknown column makes a strict one fail.
-/

namespace FlatStore

/-! ## Values -/

namespace Schema

variable {schema : Schema}

/-- The value of a column in a stored row: the cell at its position, or nothing if the row is too
short. -/
def valueIn (schema : Schema) (cells : List Text) (column : Text) : Text :=
  ((schema.position? column).bind (cells[·]?)).getD []

theorem isSome_position?_iff {column : Text} :
    (schema.position? column).isSome = true ↔ column ∈ schema.columns :=
  lastPosition?_isSome_iff

theorem position?_eq_none_iff {column : Text} :
    schema.position? column = none ↔ column ∉ schema.columns := by
  rw [← isSome_position?_iff, Option.not_isSome_iff_eq_none]

/-- A column has a position, at which its name stands. -/
theorem exists_position_of_mem {column : Text} (member : column ∈ schema.columns) :
    ∃ position, schema.position? column = some position ∧
      schema.columns[position]? = some column := by
  obtain ⟨position, found⟩ := Option.isSome_iff_exists.1 (isSome_position?_iff.2 member)
  exact ⟨position, found, getElem?_lastPosition found⟩

end Schema

namespace Projection

variable {schema : Schema} {requested : List Text} {table : Text}

theorem columns_known (schema : Schema) (requested : List Text) :
    (known schema requested).columns = requested.filter (· ∈ schema.columns) :=
  List.filter_congr fun column _ => by
    rw [Bool.eq_iff_iff, Schema.isSome_position?_iff, decide_eq_true_eq]

theorem missing_eq (schema : Schema) (requested : List Text) :
    missing schema requested = requested.filter (· ∉ schema.columns) :=
  List.filter_congr fun column _ => by
    rw [Bool.eq_iff_iff, Option.isNone_iff_eq_none, Schema.position?_eq_none_iff,
      decide_eq_true_eq]

/-- A row shows its values in the columns that are known. -/
theorem values_known (schema : Schema) (requested : List Text) (cells : List Text) :
    (known schema requested).values cells =
      (known schema requested).columns.map (schema.valueIn cells) := by
  simp only [values, known]
  induction requested with
  | nil => rfl
  | cons column rest ih =>
      cases found : schema.position? column with
      | none => simpa [found] using ih
      | some position => simpa [found, Schema.valueIn] using ih

theorem isEmpty_positions_known (schema : Schema) (requested : List Text) :
    (known schema requested).positions.isEmpty = (known schema requested).columns.isEmpty := by
  rw [Bool.eq_iff_iff, List.isEmpty_iff_length_eq_zero, List.isEmpty_iff_length_eq_zero,
    length_columns_known]

/-- Without its unknown names a request has the same projection. -/
theorem known_filter (schema : Schema) (requested : List Text) :
    known schema (requested.filter (· ∈ schema.columns)) = known schema requested := by
  have positions : (requested.filter (· ∈ schema.columns)).filterMap schema.position? =
      requested.filterMap schema.position? := by
    rw [List.filterMap_filter]
    refine List.filterMap_congr fun column _ => ?_
    by_cases member : column ∈ schema.columns
    · rw [if_pos (decide_eq_true member)]
    · rw [if_neg (by simpa using member), Schema.position?_eq_none_iff.2 member]
  have columns : (known schema (requested.filter (· ∈ schema.columns))).columns =
      (known schema requested).columns := by
    rw [columns_known, columns_known, List.filter_filter]
    exact List.filter_congr fun column _ => Bool.and_self _
  rw [Projection.mk.injEq]
  exact ⟨columns, positions⟩

/-! ## Strict and lenient requests -/

theorem find_lenient (schema : Schema) (table : Text) (requested : List Text) :
    (find false schema table (some requested)).2 = .ok (known schema requested) := rfl

/-- A strict request fails with its first unknown column. -/
theorem find_strict (schema : Schema) (table : Text) (requested : List Text) :
    (find true schema table (some requested)).2 =
      match requested.find? (· ∉ schema.columns) with
      | some column => .error (.noColumn column table)
      | none => .ok (known schema requested) := by
  rw [find.eq_def, ← List.head?_filter]
  dsimp only
  rw [missing_eq]
  cases requested.filter (· ∉ schema.columns) <;> rfl

end Projection

/-! ## Selections -/

namespace Plan

/-- A selection in the database of its session. -/
theorem result_select {store : Store} {strict : Bool} {session : Session} {database name : Text}
    {columns : Option (List Text)} {ignored : Text} (selected : session.database = some database) :
    ((Plan.select name columns ignored).run strict store session).result =
      (store.select strict database name columns).mapError .store := by
  obtain ⟨id, chosen⟩ := session
  obtain rfl : chosen = some database := selected
  exact Store.runSelect_snd

end Plan

namespace Store

variable {store : Store} {database name : Text} {entry : Table}

/-- A selection from a table that is found. -/
theorem select_of_resolve (resolved : store.catalog.resolve database name = .ok entry)
    (strict : Bool) (requested : Option (List Text)) :
    store.select strict database name requested =
      (Projection.find strict entry.schema name requested).2.bind fun projection =>
        (projection.rows (store.storage.scan entry.path)).map (.read projection.columns) := by
  rw [select, scan, resolved]
  rfl

theorem select_lenient (resolved : store.catalog.resolve database name = .ok entry)
    (requested : List Text) :
    store.select false database name (some requested) =
      ((Projection.known entry.schema requested).rows (store.storage.scan entry.path)).map
        (.read (Projection.known entry.schema requested).columns) := by
  rw [select_of_resolve resolved, Projection.find_lenient]
  rfl

/-- A strict selection fails with its first unknown column, or it is a lenient one. -/
theorem select_strict (resolved : store.catalog.resolve database name = .ok entry)
    (requested : List Text) :
    store.select true database name (some requested) =
      match requested.find? (· ∉ entry.schema.columns) with
      | some column => .error (.noColumn column name)
      | none => store.select false database name (some requested) := by
  rw [select_of_resolve resolved, Projection.find_strict, select_lenient resolved]
  cases requested.find? (· ∉ entry.schema.columns) <;> rfl

/-- No column is unknown to a lenient selection. -/
theorem select_lenient_ne_noColumn (resolved : store.catalog.resolve database name = .ok entry)
    (requested : List Text) (column : Text) :
    store.select false database name (some requested) ≠ .error (.noColumn column name) := by
  intro failed
  rw [select_lenient resolved] at failed
  have unread := projectionRows_eq_error (map_eq_error failed)
  rcases Storage.failure_scan unread with ⟨trouble, same⟩ | ⟨failure, same⟩ <;> cases same

/-- A lenient selection reads the values in its known columns from every row, if it knows any. -/
theorem select_lenient_of_known (resolved : store.catalog.resolve database name = .ok entry)
    {requested : List Text} (some_known : requested.filter (· ∈ entry.schema.columns) ≠ []) :
    store.select false database name (some requested) =
      (store.storage.rows entry.path).map fun rows =>
        .read (requested.filter (· ∈ entry.schema.columns)) (rows.map fun cells =>
          (requested.filter (· ∈ entry.schema.columns)).map (entry.schema.valueIn cells)) := by
  have positions : (Projection.known entry.schema requested).positions.isEmpty = false := by
    rw [Projection.isEmpty_positions_known, Projection.columns_known]
    exact List.isEmpty_eq_false_iff.2 some_known
  have values : (Projection.known entry.schema requested).values = fun cells =>
      (requested.filter (· ∈ entry.schema.columns)).map (entry.schema.valueIn cells) := by
    funext cells
    rw [Projection.values_known, Projection.columns_known]
  rw [select_lenient resolved, Projection.rows, positions, values, Projection.columns_known,
    Storage.rows]
  cases (store.storage.scan entry.path).complete <;> rfl

/-- Without a known column nothing is read. -/
theorem select_lenient_of_unknown (resolved : store.catalog.resolve database name = .ok entry)
    {requested : List Text} (none_known : requested.filter (· ∈ entry.schema.columns) = []) :
    store.select false database name (some requested) = .ok (.read [] []) := by
  have positions : (Projection.known entry.schema requested).positions.isEmpty = true := by
    rw [Projection.isEmpty_positions_known, Projection.columns_known, none_known]
    rfl
  rw [select_lenient resolved, Projection.rows, positions, Projection.columns_known, none_known]
  rfl

/-- Whatever the file of a table holds, a strict selection fails with the first column that the
table does not have, and if there is none it gives the same as a lenient one.  A lenient selection
gives the same as one of its known columns only: if there are any, these columns with the values of
every stored row in them, and otherwise nothing, without a look at the file.  The value of a known
column is the cell at a position where its name stands in the header. -/
theorem select_projects {session : Session} (selected : session.database = some database)
    (resolved : store.catalog.resolve database name = .ok entry) (requested : List Text)
    (ignored : Text) (storage : Storage) :
    let select (strict : Bool) (columns : List Text) : Except Failure Answer :=
      ((Plan.select name (some columns) ignored).run strict { store with storage } session).result
    let known := requested.filter (· ∈ entry.schema.columns)
    (∀ column, select true requested = .error (.store (.noColumn column name)) ↔
        requested.find? (· ∉ entry.schema.columns) = some column) ∧
      ((∀ column ∈ requested, column ∈ entry.schema.columns) →
        select true requested = select false requested) ∧
      select false requested = select false known ∧
      (known ≠ [] → select false requested =
        ((storage.rows entry.path).map fun rows => .read known (rows.map fun cells =>
          known.map (entry.schema.valueIn cells))).mapError .store) ∧
      (known = [] → select false requested = .ok (.read [] [])) ∧
      ∀ column ∈ known, ∃ position, entry.schema.position? column = some position ∧
        entry.schema.columns[position]? = some column := by
  have found : ({ store with storage } : Store).catalog.resolve database name = .ok entry :=
    resolved
  simp only [Plan.result_select selected]
  refine ⟨fun column => ?_, fun all_known => ?_, ?_, fun some_known => ?_, fun none_known => ?_,
    fun column member => ?_⟩
  · rw [select_strict found]
    cases requested.find? (· ∉ entry.schema.columns) with
    | some first => simp [Except.mapError]
    | none =>
        refine iff_of_false (fun failed => ?_) nofun
        obtain ⟨error, refused, same⟩ := mapError_eq_error failed
        cases same
        exact select_lenient_ne_noColumn found requested column refused
  · have none_unknown : requested.find? (· ∉ entry.schema.columns) = none := by
      simpa using all_known
    rw [select_strict found, none_unknown]
  · rw [select_lenient found, select_lenient found, Projection.known_filter]
  · rw [select_lenient_of_known found some_known]
  · rw [select_lenient_of_unknown found none_known]
    rfl
  · exact Schema.exists_position_of_mem (of_decide_eq_true (List.mem_filter.1 member).2)

/-- A file with a row that is too short and a row that is too long. -/
def raggedText : Text := "id\ta\tb\n1\tx\n2\ty\tz\tmore\n".toList

/-- What is known about the table of the file. -/
def raggedTable : Table :=
  ⟨sampleRef, sampleRef.path, ⟨["id".toList, "a".toList, "b".toList]⟩, ⟨3, by decide⟩⟩

/-- Two known columns, one of them twice, are read from the file, and an unknown one is found. -/
theorem select_projects_ragged :
    let select (strict : Bool) : Except Failure Answer :=
      ((Plan.select sampleRef.table
          (some ["b".toList, "c".toList, "a".toList, "d".toList, "b".toList]) []).run strict
        (sampleStore raggedText) sampleSession).result
    select true = .error (.store (.noColumn "c".toList sampleRef.table)) ∧
      select false = .ok (.read ["b".toList, "a".toList, "b".toList]
        [[[], "x".toList, []], ["z".toList, "y".toList, "z".toList]]) := by
  have selected : sampleSession.database = some sampleRef.database := rfl
  have resolved : (sampleStore raggedText).catalog.resolve sampleRef.database sampleRef.table =
      .ok raggedTable := eq_ok_of_toOption (by decide +kernel)
  have rows : (sampleStore raggedText).storage.rows raggedTable.path =
      .ok [["1".toList, "x".toList], ["2".toList, "y".toList, "z".toList, "more".toList]] :=
    eq_ok_of_toOption (by decide +kernel)
  obtain ⟨strict, -, -, lenient, -⟩ := select_projects selected resolved
    ["b".toList, "c".toList, "a".toList, "d".toList, "b".toList] [] (sampleStore raggedText).storage
  refine ⟨(strict _).2 (by decide), (lenient (by decide)).trans ?_⟩
  rw [rows]
  exact congrArg Except.ok (by decide)

end Store
end FlatStore
