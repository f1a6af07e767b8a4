import FlatStore.Proofs.Creating
import FlatStore.Proofs.Inserting
import FlatStore.Proofs.Telemetry
import FlatStore.Session.Execute

/-!
# What a command does

A command line creates a database, creates a table, appends a row, or leaves the files and the
catalog as they were, with one exception: a line of text for which the disk is full is lost behind
the new file that was opened for it.  Everything else that a command line changes is telemetry,
locks and its own session.
-/

namespace FlatStore
namespace Store

/-- What is wrong when the line of text that a command writes is lost behind the new file, at a
place, that was opened for it. -/
inductive LosesLine (store : Store) (session : Session) (line : Text) (place : Place) :
    FileTask → Prop
  /-- The header of a new table is lost. -/
  | header {database name : Text} {columns : List Text}
      (read : Plan.read line = .ok (.createTable name columns))
      (selected : session.database = some database)
      (loses : store.LosesHeader database name columns place) :
      LosesLine store session line place .createTable
  /-- A row is lost whose table has no file any more. -/
  | row {database name : Text} {values : List Text} {entry : Table}
      (read : Plan.read line = .ok (.insert name values))
      (selected : session.database = some database)
      (resolved : store.catalog.resolve database name = .ok entry)
      (fits : values.length = entry.schema.valueColumns.length)
      (loses : store.storage.LosesRow entry.path (store.allocatorOf entry).next values place) :
      LosesLine store session line place .appendRow

/-- What a command line does to the files and the catalog, by its result. -/
inductive Effect (session : Session) (line : Text) (before after : Store) :
    Except Failure Answer → Prop
  /-- Nothing was created and no row appended; some trouble may have been met. -/
  | nothing {result : Except Failure Answer} (storage : before.storage.Spends after.storage)
      (catalog : after.catalog = before.catalog)
      (quiet : ∀ answer, result = .ok answer →
        (∃ name, answer = .selected name) ∨ ∃ columns rows, answer = .read columns rows) :
      Effect session line before after result
  | database {name : Text} (read : Plan.read line = .ok (.createDatabase name))
      (valid : isName name = true) (new : before.catalog.hasDatabase name = false)
      (created : before.storage.createDatabase [name] = .ok after.storage)
      (catalog : after.catalog = before.catalog.addDatabase name) :
      Effect session line before after (.ok (.databaseCreated name))
  | table {database name : Text} {columns : List Text}
      (read : Plan.read line = .ok (.createTable name columns))
      (selected : session.database = some database)
      (known : before.catalog.hasDatabase database = true) (valid : isName name = true)
      (columns_valid : ∀ column ∈ columns, isName column = true)
      (new : before.catalog.tables.find? ⟨database, name⟩ = none)
      (created : before.storage.createTable (TableRef.path ⟨database, name⟩)
        (Schema.ofColumns columns) = (after.storage, .ok ()))
      (catalog : after.catalog = before.catalog.addTable (newTable database name columns)) :
      Effect session line before after (.ok (.tableCreated name))
  | row {database name : Text} {values : List Text} {entry : Table}
      (read : Plan.read line = .ok (.insert name values))
      (selected : session.database = some database)
      (resolved : before.catalog.resolve database name = .ok entry)
      (fits : values.length = entry.schema.valueColumns.length)
      (appended : before.storage.appendRow entry.path (before.allocatorOf entry).next values =
        (after.storage, .ok ()))
      (catalog : after.catalog =
        before.catalog.setAllocator entry.ref (before.allocatorOf entry).step) :
      Effect session line before after (.ok (.inserted name (before.allocatorOf entry).next))
  /-- The disk was full for a line of text, and its file is left. -/
  | stranded {place : Place} {task : FileTask} (loses : LosesLine before session line place task)
      (strands : before.storage.Strands place after.storage)
      (catalog : after.catalog = before.catalog) :
      Effect session line before after (.error (.store (.file task .diskFull)))

variable {session : Session} {line : Text} {before after : Store}

theorem Effect.of_error {failure : Failure} (storage : before.storage.Spends after.storage)
    (catalog : after.catalog = before.catalog) :
    Effect session line before after (.error failure) :=
  .nothing storage catalog fun _ same => nomatch same

/-- A selection changes neither a file nor the catalog. -/
theorem runSelect_quiet {strict : Bool} {database table ignored : Text}
    {columns : Option (List Text)} {result : Except Failure Answer}
    (h : Plan.runSelect strict before database table columns ignored = (after, result)) :
    after.storage = before.storage ∧ after.catalog = before.catalog ∧
      ∀ answer, result = .ok answer → ∃ columns rows, answer = .read columns rows := by
  rw [Plan.runSelect] at h
  split at h
  · cases h
    exact ⟨rfl, rfl, fun _ same => nomatch same⟩
  · rename_i schema scan _
    dsimp only at h
    have quiet : (if ignored.isEmpty then before
        else before.log (.clauseIgnored table ignored)).storage = before.storage ∧
        (if ignored.isEmpty then before
        else before.log (.clauseIgnored table ignored)).catalog = before.catalog := by
      split <;> exact ⟨rfl, rfl⟩
    generalize (if ignored.isEmpty then before
      else before.log (.clauseIgnored table ignored)) = logged at h quiet
    split at h
    · cases h
      exact ⟨by simp [quiet], by simp [quiet], fun _ same => nomatch same⟩
    · split at h
      · cases h
        exact ⟨by simp [quiet], by simp [quiet], fun _ same => nomatch same⟩
      · cases h
        refine ⟨by simp [quiet], by simp [quiet], fun answer same => ?_⟩
        cases same
        exact ⟨_, _, rfl⟩

/-- What an insert does: it appends a row, or it fails. -/
theorem effect_of_runInsert {database name : Text} {values : List Text}
    {result : Except Failure Answer} (read : Plan.read line = .ok (.insert name values))
    (selected : session.database = some database)
    (h : Plan.runInsert before database name values = (after, result)) :
    Effect session line before after result := by
  rw [Plan.runInsert] at h
  cases resolved : before.catalog.resolve database name with
  | error error =>
      rw [resolved] at h
      cases h
      exact .of_error (.refl _) rfl
  | ok entry =>
      rw [resolved] at h
      dsimp only at h
      split at h
      · rename_i fits
        rcases inserted : before.insert database name values with ⟨store, failure | id⟩
        · rw [inserted] at h
          cases h
          obtain ⟨catalog, spends | ⟨table, place, same, loses, rfl, strands⟩⟩ :=
            insert_error inserted
          · exact .of_error spends catalog
          · rw [resolved, Except.ok.injEq] at same
            subst same
            exact .stranded (.row read selected resolved fits loses) strands catalog
        · rw [inserted] at h
          cases h
          obtain ⟨table, same, rfl, appended, catalog⟩ := insert_ok inserted
          rw [resolved, Except.ok.injEq] at same
          subst same
          exact .row read selected resolved fits appended catalog
      · cases h
        exact .of_error (.refl _) rfl

/-- Carrying out a plan has the effect of its line. -/
theorem effect_of_run {strict : Bool} {plan : Plan}
    (read : Plan.read line = .ok plan) :
    Effect session line before (plan.run strict before session).store
      (plan.run strict before session).result := by
  cases plan with
  | createDatabase name =>
      rcases created : before.createDatabase name with ⟨store, error | done⟩
      · simp only [Plan.run, created]
        rw [createDatabase_error created]
        exact .of_error (.refl _) rfl
      · simp only [Plan.run, created]
        obtain ⟨valid, new, storage, catalog⟩ := createDatabase_ok created
        exact .database read valid new storage catalog
  | use name =>
      simp only [Plan.run]
      split
      · exact .nothing (.refl _) rfl fun answer same => .inl ⟨name, by cases same; rfl⟩
      · exact .of_error (.refl _) rfl
  | createTable name columns =>
      cases selected : session.database with
      | none =>
          simp only [Plan.run, selected]
          exact .of_error (.refl _) rfl
      | some database =>
          rcases created : before.createTable database name columns with ⟨store, error | done⟩
          · simp only [Plan.run, selected, created]
            rcases createTable_error created with rfl | ⟨place, loses, rfl, catalog, strands⟩
            · exact .of_error (.refl _) rfl
            · exact .stranded (.header read selected loses) strands catalog
          · simp only [Plan.run, selected, created]
            obtain ⟨known, valid, columns_valid, new, storage, catalog⟩ := createTable_ok created
            exact .table read selected known valid columns_valid new storage catalog
  | insert name values =>
      cases selected : session.database with
      | none =>
          simp only [Plan.run, selected]
          exact .of_error (.refl _) rfl
      | some database =>
          simp only [Plan.run, selected]
          exact effect_of_runInsert read selected rfl
  | select name columns ignored =>
      cases selected : session.database with
      | none =>
          simp only [Plan.run, selected]
          exact .of_error (.refl _) rfl
      | some database =>
          rcases selection : Plan.runSelect strict before database name columns ignored with
            ⟨store, result⟩
          obtain ⟨storage, catalog, quiet⟩ := runSelect_quiet selection
          simp only [Plan.run, selected, selection]
          exact .nothing (by rw [storage]; exact .refl _) catalog fun answer same =>
            .inr (quiet answer same)

/-- An effect is seen in the files and the catalog only. -/
theorem Effect.congr {other : Store} {result : Except Failure Answer}
    (storage : other.storage = after.storage) (catalog : other.catalog = after.catalog)
    (effect : Effect session line before after result) :
    Effect session line before other result := by
  cases effect with
  | nothing storage_eq catalog_eq quiet =>
      exact .nothing (by rw [storage]; exact storage_eq) (catalog.trans catalog_eq) quiet
  | database read valid new created catalog_eq =>
      exact .database read valid new (by rw [storage]; exact created) (catalog.trans catalog_eq)
  | table read selected known valid columns_valid new created catalog_eq =>
      exact .table read selected known valid columns_valid new (by rw [storage]; exact created)
        (catalog.trans catalog_eq)
  | row read selected resolved fits appended catalog_eq =>
      exact .row read selected resolved fits (by rw [storage]; exact appended)
        (catalog.trans catalog_eq)
  | stranded loses strands catalog_eq =>
      exact .stranded loses (by rw [storage]; exact strands) (catalog.trans catalog_eq)

/-- No line brings new troubles. -/
theorem Effect.troubles_le {result : Except Failure Answer}
    (effect : Effect session line before after result) :
    after.storage.troubles.failingAppends ≤ before.storage.troubles.failingAppends ∧
      after.storage.troubles.fullLines ≤ before.storage.troubles.fullLines := by
  cases effect with
  | nothing spends catalog quiet => exact ⟨spends.failingAppends, spends.fullLines⟩
  | database read valid new created catalog =>
      obtain ⟨place, -, stored⟩ := Storage.createDatabase_ok created
      rw [stored]
      exact ⟨Nat.le_refl _, Nat.le_refl _⟩
  | table read selected known valid columns_valid new created catalog =>
      obtain ⟨place, -, stored⟩ := Storage.createTable_ok created
      rw [stored]
      exact ⟨Nat.le_refl _, Nat.le_refl _⟩
  | row read selected resolved fits appended catalog =>
      obtain ⟨line, tree, -, -, -, stored⟩ := Storage.appendRow_ok appended
      rw [stored]
      exact ⟨Nat.le_refl _, Nat.le_refl _⟩
  | stranded loses strands catalog =>
      rw [strands.same]
      exact ⟨Nat.le_refl _, Nat.sub_le _ _⟩

theorem Effect.troubles_eq_none {result : Except Failure Answer}
    (effect : Effect session line before after result)
    (spared : before.storage.troubles = .none) : after.storage.troubles = .none := by
  obtain ⟨appends, lines⟩ := effect.troubles_le
  rw [spared] at appends lines
  exact Troubles.ext (Nat.le_zero.1 appends) (Nat.le_zero.1 lines)

/-- Executing a line has its effect. -/
theorem execute_effect (store : Store) (strict : Bool) (session : Session) (line : Text) :
    Effect session line store (store.execute strict session line).store
      (store.execute strict session line).result := by
  rw [execute]
  cases read : Plan.read line with
  | error error => exact .of_error (.refl _) rfl
  | ok plan =>
      exact (effect_of_run read).congr (by simp) (by simp)

/-! ## Lines of text that are lost -/

section
variable {store : Store} {place : Place} {task : FileTask}

/-- A place at which a line of text is lost was free. -/
theorem LosesLine.absent (loses : LosesLine store session line place task) :
    store.storage.tree.find? place = none := by
  cases loses with
  | header read selected loses => exact loses.free.absent
  | row read selected resolved fits loses => exact loses.free.absent

/-- What is lost finds the disk full. -/
theorem LosesLine.full (loses : LosesLine store session line place task) :
    store.storage.troubles.fullLines ≠ 0 := by
  cases loses with
  | header read selected loses => exact loses.full
  | row read selected resolved fits loses => exact loses.full

/-- Executing a line whose text is lost fails, and it leaves an empty file behind. -/
theorem LosesLine.execute_eq (loses : LosesLine store session line place task) (strict : Bool) :
    (store.execute strict session line).result = .error (.store (.file task .diskFull)) ∧
      (store.execute strict session line).store.storage.tree =
        store.storage.tree.put place (.file []) := by
  cases loses with
  | header read selected loses =>
      rw [execute, read]
      simp only [storage_account, storage_trace, Plan.run, selected, loses.createTable_eq]
      exact ⟨rfl, rfl⟩
  | row read selected resolved fits loses =>
      obtain ⟨failed, tree⟩ := insert_of_losesRow resolved loses
      rw [execute, read]
      simp only [storage_account, storage_trace, Plan.run, selected, Plan.runInsert, resolved, fits,
        if_true, failed]
      exact ⟨rfl, tree⟩

theorem LosesLine.tree_ne (loses : LosesLine store session line place task) (strict : Bool) :
    (store.execute strict session line).store.storage.tree ≠ store.storage.tree := by
  intro same
  have absent := loses.absent
  rw [← same, (loses.execute_eq strict).2, Index.find?_put_self] at absent
  cases absent

end

end Store
end FlatStore
