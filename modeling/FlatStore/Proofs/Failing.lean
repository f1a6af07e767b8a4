import FlatStore.Proofs.Executing
import FlatStore.Proofs.Outcome

/-!
# How operations fail

An operation that fails gives one of a few errors, and each of them has its reason.  There is one
statement for each operation, from the reading of a line to the run of a plan.
-/

namespace FlatStore

/-- The file of a table without its ending is called like the table. -/
theorem TableRef.stemOf_fileName {ref : TableRef} (named : ref.table ≠ []) :
    stemOf ref.fileName = ref.table := by
  have reversed : ref.fileName.reverse = "vst".toList ++ '.' :: ref.table.reverse := by
    simp [fileName, suffix]
  have ending : ref.fileName.reverse.takeWhile (· != '.') = "vst".toList := by
    rw [reversed]
    rfl
  have stem : ref.table.reverse.isEmpty = false := by simpa using named
  rw [stemOf, ending, reversed]
  simp [named]

/-! ## Reading lines -/

namespace Plan

open Text

/-- What needs no name to be told: the line does not have the shape of its verb. -/
def IsMalformed (error : StoreError) : Prop := ∃ cause, error = .malformed cause

theorem isMalformed_of_require_bind {α : Type} {condition : Bool} {cause : SyntaxError}
    {next : Unit → Except StoreError α} {error : StoreError}
    (rest : ∀ other, next () = .error other → IsMalformed other)
    (h : (require condition cause >>= next) = .error error) : IsMalformed error := by
  rw [require] at h
  split at h
  · exact rest error h
  · cases h
    exact ⟨cause, rfl⟩

theorem isMalformed_singleName {role : NameRole} {text : Text} {error : StoreError}
    (h : singleName role text = .error error) : IsMalformed error :=
  isMalformed_of_require_bind (fun _ impossible => by cases impossible) h

theorem isMalformed_columnNames {list : ColumnList} {text : Text} {error : StoreError}
    (h : columnNames list text = .error error) : IsMalformed error :=
  isMalformed_of_require_bind (fun _ impossible => by cases impossible) h

theorem isMalformed_readCreateTable {text : Text} {error : StoreError}
    (h : readCreateTable text = .error error) : IsMalformed error := by
  refine isMalformed_of_require_bind (fun other failed => ?_) h
  exact isMalformed_columnNames (map_eq_error failed)

theorem isMalformed_readCreate {text : Text} {error : StoreError}
    (h : readCreate text = .error error) : IsMalformed error := by
  rw [readCreate] at h
  split at h
  · exact isMalformed_singleName (map_eq_error h)
  · split at h
    · exact isMalformed_readCreateTable h
    · cases h
      exact ⟨_, rfl⟩

theorem isMalformed_readInsert {text : Text} {error : StoreError}
    (h : readInsert text = .error error) : IsMalformed error := by
  rw [readInsert] at h
  split at h
  · refine isMalformed_of_require_bind (fun other failed => ?_) h
    exact isMalformed_of_require_bind (fun _ impossible => by cases impossible) failed
  · cases h
    exact ⟨_, rfl⟩

theorem isMalformed_readSelect {text : Text} {error : StoreError}
    (h : readSelect text = .error error) : IsMalformed error := by
  rw [readSelect] at h
  split at h
  · refine isMalformed_of_require_bind (fun other failed => ?_) h
    dsimp only at failed
    split at failed
    · cases failed
    · exact isMalformed_columnNames (map_eq_error failed)
  · cases h
    exact ⟨_, rfl⟩

theorem isMalformed_readAfter {opening : Opening} {text : Text} {error : StoreError}
    (h : readAfter opening text = .error error) : IsMalformed error := by
  rw [readAfter.eq_def] at h
  cases opening with
  | create => exact isMalformed_readCreate h
  | use => exact isMalformed_singleName (map_eq_error h)
  | insert => exact isMalformed_readInsert h
  | select => exact isMalformed_readSelect h

/-- A line that can not be read has an unknown verb, or it does not have the shape of its verb. -/
theorem read_eq_error {line : Text} {error : StoreError} (h : Plan.read line = .error error) :
    IsMalformed error ∨ error = .unknownVerb (upTo ' ' (trim line)) := by
  rw [read] at h
  split at h
  · cases h
    exact .inl ⟨_, rfl⟩
  · dsimp only at h
    split at h
    · cases h
      exact .inr rfl
    · split at h
      · cases h
        exact .inl ⟨_, rfl⟩
      · exact .inl (isMalformed_readAfter h)

end Plan

/-! ## Files -/

namespace Storage

variable {storage after : Storage} {path : Path} {error : StoreError}

/-- A path of some names ends with the last of them. -/
theorem nameAt_append_singleton (front : Path) (name : Text) :
    storage.nameAt (front ++ [name]) = name := by
  simp [nameAt, Path.lastName]

theorem createDatabase_eq_error {name : Text} (h : storage.createDatabase [name] = .error error) :
    error = .databaseExists name ∨ ∃ trouble, error = .file .createDatabase trouble := by
  rw [createDatabase] at h
  split at h
  · cases h
  · cases h
    rw [← List.nil_append [name], nameAt_append_singleton]
    exact .inl rfl
  · cases h
    exact .inr ⟨_, rfl⟩

theorem openNew_eq_error {ref : TableRef} (named : ref.table ≠ [])
    (h : storage.openNew ref.path = .error error) :
    error = .tableExists ref.table ∨ ∃ trouble, error = .file .createTable trouble := by
  have last : storage.nameAt ref.path = ref.fileName :=
    nameAt_append_singleton [ref.database] ref.fileName
  rw [openNew] at h
  split at h
  · cases h
  · cases h
    rw [last, TableRef.stemOf_fileName named]
    exact .inl rfl
  · cases h
    exact .inr ⟨_, rfl⟩

theorem createTable_eq_error {ref : TableRef} {schema : Schema} (named : ref.table ≠ [])
    (h : storage.createTable ref.path schema = (after, .error error)) :
    error = .tableExists ref.table ∨ ∃ trouble, error = .file .createTable trouble := by
  rw [createTable] at h
  split at h
  · rename_i opens
    cases h
    exact openNew_eq_error named opens
  · exact .inr (writeLine_eq_error h)

theorem openToExtend_eq_error (h : storage.openToExtend path = .error error) :
    ∃ trouble, error = .file .appendRow trouble := by
  rw [openToExtend] at h
  split at h <;> cases h
  exact ⟨_, rfl⟩

theorem appendRow_eq_error {id : Int} {values : List Text} {failure : Failure}
    (h : storage.appendRow path id values = (after, .error failure)) :
    (∃ trouble, failure = .store (.file .appendRow trouble)) ∨
      failure = .unwritable ∨ failure = .nullCharacter := by
  rw [appendRow] at h
  split at h
  · cases h
    exact .inl ⟨_, rfl⟩
  · split at h
    · cases h
      exact .inr (.inl rfl)
    · split at h
      · cases h
        exact .inr (.inr rfl)
      · split at h
        · rename_i refused
          cases h
          obtain ⟨trouble, rfl⟩ := openToExtend_eq_error refused
          exact .inl ⟨trouble, rfl⟩
        · dsimp only at h
          rw [Prod.mk.injEq] at h
          obtain ⟨error, failed, rfl⟩ := mapError_eq_error h.2
          obtain ⟨trouble, rfl⟩ := writeLine_eq_error (Prod.ext rfl failed)
          exact .inl ⟨trouble, rfl⟩

theorem failure_scan (h : (storage.scan path).failure = some error) :
    (∃ trouble, error = .file .readData trouble) ∨ ∃ failure, error = .undecodableData failure := by
  rw [scan] at h
  split at h
  · cases h
    exact .inl ⟨_, rfl⟩
  · obtain ⟨failure, -, rfl⟩ := Option.map_eq_some_iff.1 h
    exact .inr ⟨failure, rfl⟩

end Storage

/-! ## The catalog -/

namespace Catalog

variable {catalog : Catalog} {database name : Text} {columns : List Text} {error : StoreError}

theorem resolve_eq_error (h : catalog.resolve database name = .error error) :
    error = .noDatabase database ∧ catalog.hasDatabase database = false ∨
      error = .noTable name := by
  rw [resolve] at h
  split at h
  · split at h <;> cases h
    exact .inr rfl
  · rename_i absent
    cases h
    exact .inl ⟨rfl, Bool.eq_false_iff.2 absent⟩

theorem checkColumns_eq_error {seen : List Text} (h : checkColumns seen columns = .error error) :
    error = .identityGiven ∨
      ∃ column ∈ columns,
        error = .invalidName .column column ∨ error = .duplicateColumn column := by
  induction columns generalizing seen with
  | nil => cases h
  | cons column rest ih =>
      rw [checkColumns] at h
      split at h
      · cases h
        exact .inr ⟨column, List.mem_cons_self, .inl rfl⟩
      · split at h
        · cases h
          exact .inl rfl
        · split at h
          · cases h
            exact .inr ⟨column, List.mem_cons_self, .inr rfl⟩
          · rcases ih h with given | ⟨other, member, wrong⟩
            · exact .inl given
            · exact .inr ⟨other, List.mem_cons_of_mem _ member, wrong⟩

theorem checkTable_eq_error (h : catalog.checkTable database name columns = .error error) :
    error = .noDatabase database ∧ catalog.hasDatabase database = false ∨
      error = .invalidName .table name ∨ error = .noColumns ∨
      checkColumns [] columns = .error error := by
  rw [checkTable] at h
  split at h
  · rename_i absent
    cases h
    exact .inl ⟨rfl, by simpa using absent⟩
  · split at h
    · cases h
      exact .inr (.inl rfl)
    · split at h
      · cases h
        exact .inr (.inr (.inl rfl))
      · exact .inr (.inr (.inr h))

theorem checkDatabase_eq_error (h : checkDatabase name = .error error) :
    error = .invalidName .database name := by
  rw [checkDatabase] at h
  split at h <;> cases h
  rfl

end Catalog

/-! ## The store -/

namespace Store

variable {store after : Store} {database name : Text} {columns : List Text} {error : StoreError}

theorem createDatabase_eq_error (h : store.createDatabase name = (after, .error error)) :
    error = .invalidName .database name ∨ error = .databaseExists name ∨
      ∃ trouble, error = .file .createDatabase trouble := by
  rw [createDatabase, Creation.ofDatabase] at h
  cases valid : Catalog.checkDatabase name with
  | error other =>
      rw [valid] at h
      cases h
      exact .inl (Catalog.checkDatabase_eq_error valid)
  | ok done =>
      rw [valid] at h
      refine .inr ?_
      rcases create_error h with ⟨-, known⟩ | ⟨-, refused⟩
      · rw [checkNew] at known
        split at known <;> cases known
        exact .inl rfl
      · rw [make] at refused
        split at refused
        · rename_i other created
          cases refused
          exact Storage.createDatabase_eq_error created
        · cases refused

theorem createTable_eq_error (h : store.createTable database name columns = (after, .error error)) :
    store.catalog.checkTable database name columns = .error error ∨ error = .tableExists name ∨
      ∃ trouble, error = .file .createTable trouble := by
  rw [createTable, Creation.ofTable] at h
  cases valid : store.catalog.checkTable database name columns with
  | error other =>
      rw [valid] at h
      cases h
      exact .inl rfl
  | ok done =>
      rw [valid] at h
      have is_name : isName name = true := (checkTable_ok valid).2.1
      have named : name ≠ [] := by
        rintro rfl
        cases is_name
      refine .inr ?_
      rcases create_error h with ⟨-, known⟩ | ⟨-, refused⟩
      · rw [Creation.ofColumns, checkNew] at known
        dsimp only at known
        split at known <;> cases known
        exact .inl rfl
      · have failed : (store.storage.createTable (TableRef.path ⟨database, name⟩)
            (Schema.ofColumns columns)).2 = .error error := congrArg Prod.snd refused
        exact Storage.createTable_eq_error named (Prod.ext rfl failed)

theorem insert_eq_error {values : List Text} {failure : Failure}
    (h : store.insert database name values = (after, .error failure)) :
    (∃ error, store.catalog.resolve database name = .error error ∧ failure = .store error) ∨
      (∃ trouble, failure = .store (.file .appendRow trouble)) ∨
      failure = .unwritable ∨ failure = .nullCharacter := by
  rw [insert] at h
  split at h
  · rename_i error unknown
    cases h
    exact .inl ⟨error, unknown, rfl⟩
  · rename_i table _
    rw [appendNext_eq, allocatorOf_hold] at h
    rcases appended : ((store.registerLock table.ref).hold table.ref).storage.appendRow table.path
      (store.allocatorOf table).next values with ⟨storage, other | done⟩
    · rw [appended] at h
      cases h
      exact .inr (Storage.appendRow_eq_error appended)
    · rw [appended] at h
      cases h

theorem runInsert_eq_error {values : List Text} {failure : Failure}
    (h : Plan.runInsert store database name values = (after, .error failure)) :
    (∃ error, store.catalog.resolve database name = .error error ∧ failure = .store error) ∨
      (∃ expected given, failure = .store (.wrongValueCount name expected given)) ∨
      (∃ trouble, failure = .store (.file .appendRow trouble)) ∨
      failure = .unwritable ∨ failure = .nullCharacter := by
  rw [Plan.runInsert] at h
  split at h
  · rename_i error unknown
    cases h
    exact .inl ⟨error, unknown, rfl⟩
  · dsimp only at h
    split at h
    · rcases inserted : store.insert database name values with ⟨between, other | id⟩
      · rw [inserted] at h
        cases h
        exact (insert_eq_error inserted).imp_right .inr
      · rw [inserted] at h
        cases h
    · cases h
      exact .inr (.inl ⟨_, _, rfl⟩)

/-! ## Selections -/

/-- What a selection gives: the rows of a pass over a table at the requested columns. -/
def select (store : Store) (strict : Bool) (database name : Text) (requested : Option (List Text)) :
    Except StoreError Answer := do
  let (schema, scan) ← store.scan database name
  let projection ← (Projection.find strict schema name requested).2
  let rows ← projection.rows scan
  return .read projection.columns rows

variable {strict : Bool} {requested : Option (List Text)} {ignored : Text}

theorem runSelect_snd :
    (Plan.runSelect strict store database name requested ignored).2 =
      (store.select strict database name requested).mapError .store := by
  rw [Plan.runSelect, select]
  rcases store.scan database name with error | ⟨schema, scan⟩
  · rfl
  · simp only [bind, Except.bind]
    rcases Projection.find strict schema name requested with ⟨events, error | projection⟩
    · rfl
    · dsimp only
      cases projection.rows scan <;> rfl

theorem scan_eq_ok {schema : Schema} {scan : Scan}
    (h : store.scan database name = .ok (schema, scan)) :
    ∃ table, store.catalog.resolve database name = .ok table ∧ schema = table.schema ∧
      scan = store.storage.scan table.path := by
  rw [Store.scan] at h
  split at h
  · cases h
  · rename_i table resolved
    cases h
    exact ⟨table, resolved, rfl, rfl⟩

theorem scan_eq_error (h : store.scan database name = .error error) :
    store.catalog.resolve database name = .error error := by
  rw [Store.scan] at h
  split at h
  · rename_i unresolved
    cases h
    exact unresolved
  · cases h

theorem find_eq_error {schema : Schema}
    (h : (Projection.find strict schema name requested).2 = .error error) :
    ∃ column ∈ requested.getD [], error = .noColumn column name := by
  cases requested with
  | none => cases h
  | some columns =>
      rw [Projection.find.eq_def] at h
      dsimp only at h
      split at h <;> cases h
      rename_i column rest missing
      have unknown : column ∈ Projection.missing schema columns := by
        rw [missing]
        exact List.mem_cons_self
      exact ⟨column, (List.mem_filter.1 unknown).1, rfl⟩

theorem projectionRows_eq_error {projection : Projection} {scan : Scan}
    (h : projection.rows scan = .error error) : scan.failure = some error := by
  rw [Projection.rows] at h
  split at h
  · cases h
  · have incomplete := map_eq_error h
    rw [Scan.complete] at incomplete
    split at incomplete <;> cases incomplete
    rename_i failed
    exact failed

theorem select_eq_error (h : store.select strict database name requested = .error error) :
    store.catalog.resolve database name = .error error ∨
      (∃ column ∈ requested.getD [], error = .noColumn column name) ∨
      (∃ trouble, error = .file .readData trouble) ∨
        ∃ failure, error = .undecodableData failure := by
  rcases bind_eq_error h with unknown | ⟨⟨schema, scan⟩, scanned, h⟩
  · exact .inl (scan_eq_error unknown)
  · rcases bind_eq_error h with unknown | ⟨projection, found, h⟩
    · exact .inr (.inl (find_eq_error unknown))
    · rcases bind_eq_error h with refused | ⟨rows, _, h⟩
      · obtain ⟨table, -, -, rfl⟩ := scan_eq_ok scanned
        exact .inr (.inr (Storage.failure_scan (projectionRows_eq_error refused)))
      · cases h

end Store

/-! ## Plans -/

namespace Plan

/-- Whether a plan is carried out in the selected database. -/
def needsDatabase : Plan → Bool
  | .createTable _ _ | .insert _ _ | .select _ _ _ => true
  | .createDatabase _ | .use _ => false

/-- How a plan can fail: for want of a database, or as the operation that it asks for. -/
inductive Fails (strict : Bool) (store : Store) (session : Session) : Plan → Failure → Prop
  | unselected {plan : Plan} (needs : plan.needsDatabase = true)
      (none_selected : session.database = none) :
      Fails strict store session plan (.store .noneSelected)
  | use {name : Text} (absent : store.catalog.hasDatabase name = false) :
      Fails strict store session (.use name) (.store (.noDatabase name))
  | createDatabase {name : Text} {after : Store} {error : StoreError}
      (failed : store.createDatabase name = (after, .error error)) :
      Fails strict store session (.createDatabase name) (.store error)
  | createTable {database name : Text} {columns : List Text} {after : Store} {error : StoreError}
      (selected : session.database = some database)
      (failed : store.createTable database name columns = (after, .error error)) :
      Fails strict store session (.createTable name columns) (.store error)
  | insert {database name : Text} {values : List Text} {after : Store} {failure : Failure}
      (selected : session.database = some database)
      (failed : runInsert store database name values = (after, .error failure)) :
      Fails strict store session (.insert name values) failure
  | select {database name ignored : Text} {columns : Option (List Text)} {error : StoreError}
      (selected : session.database = some database)
      (failed : store.select strict database name columns = .error error) :
      Fails strict store session (.select name columns ignored) (.store error)

theorem fails_of_run {strict : Bool} {store : Store} {session : Session} {plan : Plan}
    {failure : Failure} (h : (plan.run strict store session).result = .error failure) :
    Fails strict store session plan failure := by
  obtain ⟨id, selected⟩ := session
  cases plan with
  | createDatabase name =>
      rcases created : store.createDatabase name with ⟨between, error | done⟩
      · simp only [Plan.run, created] at h
        cases h
        exact .createDatabase created
      · simp only [Plan.run, created] at h
        cases h
  | use name =>
      rw [Plan.run] at h
      split at h
      · cases h
      · rename_i absent
        cases h
        exact .use (Bool.eq_false_iff.2 absent)
  | createTable name columns =>
      cases selected with
      | none =>
          cases h
          exact .unselected rfl rfl
      | some database =>
          rcases created : store.createTable database name columns with ⟨between, error | done⟩
          · simp only [Plan.run, created] at h
            cases h
            exact .createTable rfl created
          · simp only [Plan.run, created] at h
            cases h
  | insert name values =>
      cases selected with
      | none =>
          cases h
          exact .unselected rfl rfl
      | some database => exact .insert rfl (Prod.ext rfl h)
  | select name columns ignored =>
      cases selected with
      | none =>
          cases h
          exact .unselected rfl rfl
      | some database =>
          have failed : (Plan.runSelect strict store database name columns ignored).2 =
            .error failure := h
          rw [Store.runSelect_snd] at failed
          obtain ⟨error, refused, rfl⟩ := mapError_eq_error failed
          exact .select rfl refused

end Plan
end FlatStore
