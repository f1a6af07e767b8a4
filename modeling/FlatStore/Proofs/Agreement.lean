import FlatStore.Proofs.Echoes

/-!
# Stores that agree

Two stores agree if they have the same files and the same catalog.  Locks and telemetry have no
influence on what a command does: stores that agree answer every command alike, and they agree
afterwards.
-/

namespace FlatStore
namespace Store

/-- The files and the catalog of two stores are the same. -/
structure Agrees (left right : Store) : Prop where
  storage : left.storage = right.storage
  catalog : left.catalog = right.catalog

/-- Two operations give the same result and leave stores behind that agree. -/
structure Alike {α : Type} (left right : Store × α) : Prop where
  result : left.2 = right.2
  store : Agrees left.1 right.1

variable {left right : Store}

/-- What is beside files and catalog is of no concern. -/
theorem Agrees.congr {other another : Store} (agrees : Agrees left right)
    (left_storage : other.storage = left.storage) (left_catalog : other.catalog = left.catalog)
    (right_storage : another.storage = right.storage)
    (right_catalog : another.catalog = right.catalog) : Agrees other another where
  storage := by rw [left_storage, agrees.storage, right_storage]
  catalog := by rw [left_catalog, agrees.catalog, right_catalog]

/-! ## Creating -/

theorem Agrees.checkNew (agrees : Agrees left right) (creation : Creation) :
    left.checkNew creation = right.checkNew creation := by
  cases creation <;> simp only [Store.checkNew, agrees.catalog]

theorem Agrees.make (agrees : Agrees left right) (creation : Creation) :
    Alike (left.make creation) (right.make creation) := by
  cases creation with
  | database name =>
      rw [Store.make, Store.make, agrees.storage]
      cases right.storage.createDatabase [name] with
      | error error => exact ⟨rfl, agrees⟩
      | ok storage => exact ⟨rfl, rfl, agrees.catalog⟩
  | table entry =>
      rw [Store.make, Store.make, agrees.storage]
      exact ⟨rfl, rfl, agrees.catalog⟩

theorem Agrees.enter (agrees : Agrees left right) (creation : Creation) :
    Agrees (left.enter creation) (right.enter creation) := by
  cases creation with
  | database name => exact ⟨agrees.storage, congrArg (·.addDatabase name) agrees.catalog⟩
  | table entry => exact ⟨agrees.storage, congrArg (·.addTable entry) agrees.catalog⟩

theorem Agrees.create (agrees : Agrees left right) (creation : Creation) :
    Alike (left.create creation) (right.create creation) := by
  rw [Store.create, Store.create, agrees.checkNew creation]
  cases right.checkNew creation with
  | error error => exact ⟨rfl, agrees⟩
  | ok done =>
      have made := agrees.make creation
      dsimp only
      generalize left.make creation = here at made ⊢
      generalize right.make creation = there at made ⊢
      obtain ⟨store, error | done⟩ := here
      · obtain ⟨other, result⟩ := there
        obtain ⟨rfl, after⟩ := made
        exact ⟨rfl, after⟩
      · obtain ⟨other, result⟩ := there
        obtain ⟨rfl, after⟩ := made
        exact ⟨rfl, (after.enter creation).congr rfl rfl rfl rfl⟩

theorem Agrees.createDatabase (agrees : Agrees left right) (name : Text) :
    Alike (left.createDatabase name) (right.createDatabase name) := by
  rw [Store.createDatabase, Store.createDatabase]
  cases Creation.ofDatabase name with
  | error error => exact ⟨rfl, agrees⟩
  | ok creation => exact agrees.create creation

theorem Agrees.createTable (agrees : Agrees left right) (database name : Text)
    (columns : List Text) :
    Alike (left.createTable database name columns) (right.createTable database name columns) := by
  rw [Store.createTable, Store.createTable, agrees.catalog]
  cases Creation.ofTable right.catalog database name columns with
  | error error => exact ⟨rfl, agrees⟩
  | ok creation => exact agrees.create creation

/-! ## Inserting -/

theorem Agrees.appendNext (agrees : Agrees left right) (table : Table) (values : List Text) :
    Alike (left.appendNext table values) (right.appendNext table values) := by
  have allocator : left.allocatorOf table = right.allocatorOf table := by
    rw [allocatorOf, allocatorOf, agrees.catalog]
  rw [appendNext_eq, appendNext_eq, allocator, agrees.storage, agrees.catalog]
  rcases right.storage.appendRow table.path (right.allocatorOf table).next values with
    ⟨storage, failure | done⟩
  · exact ⟨rfl, rfl, rfl⟩
  · exact ⟨rfl, rfl, rfl⟩

theorem Agrees.insert (agrees : Agrees left right) (database name : Text) (values : List Text) :
    Alike (left.insert database name values) (right.insert database name values) := by
  rw [Store.insert, Store.insert, agrees.catalog]
  cases right.catalog.resolve database name with
  | error error => exact ⟨rfl, agrees⟩
  | ok table =>
      have held : Agrees ((left.registerLock table.ref).hold table.ref)
          ((right.registerLock table.ref).hold table.ref) := agrees.congr rfl rfl rfl rfl
      have appended := held.appendNext table values
      dsimp only
      generalize ((left.registerLock table.ref).hold table.ref).appendNext table values = here
        at appended ⊢
      generalize ((right.registerLock table.ref).hold table.ref).appendNext table values = there
        at appended ⊢
      obtain ⟨store, failure | id⟩ := here
      · obtain ⟨other, result⟩ := there
        obtain ⟨rfl, after⟩ := appended
        exact ⟨rfl, after.congr rfl rfl rfl rfl⟩
      · obtain ⟨other, result⟩ := there
        obtain ⟨rfl, after⟩ := appended
        exact ⟨rfl, after.congr rfl rfl rfl rfl⟩

theorem Agrees.runInsert (agrees : Agrees left right) (database name : Text) (values : List Text) :
    Alike (Plan.runInsert left database name values)
      (Plan.runInsert right database name values) := by
  rw [Plan.runInsert, Plan.runInsert, agrees.catalog]
  cases right.catalog.resolve database name with
  | error error => exact ⟨rfl, agrees⟩
  | ok entry =>
      have inserted := agrees.insert database name values
      dsimp only
      split
      · exact ⟨congrArg (·.map (Answer.inserted name)) inserted.result, inserted.store⟩
      · exact ⟨rfl, agrees⟩

/-! ## Selecting -/

theorem Agrees.select (agrees : Agrees left right) (strict : Bool) (database name : Text)
    (requested : Option (List Text)) :
    left.select strict database name requested = right.select strict database name requested := by
  have scanned : left.scan database name = right.scan database name := by
    rw [scan, scan, agrees.catalog, agrees.storage]
  rw [Store.select, Store.select, scanned]

theorem Agrees.runSelect (agrees : Agrees left right) (strict : Bool) (database name : Text)
    (requested : Option (List Text)) (ignored : Text) :
    Alike (Plan.runSelect strict left database name requested ignored)
      (Plan.runSelect strict right database name requested ignored) where
  result := by rw [runSelect_snd, runSelect_snd, agrees.select]
  store := by
    obtain ⟨left_storage, left_catalog, -⟩ := runSelect_quiet
      (Prod.eta (Plan.runSelect strict left database name requested ignored)).symm
    obtain ⟨right_storage, right_catalog, -⟩ := runSelect_quiet
      (Prod.eta (Plan.runSelect strict right database name requested ignored)).symm
    exact agrees.congr left_storage left_catalog right_storage right_catalog

end Store

/-! ## Commands -/

namespace Outcome

/-- Two commands have the same result and the same effect on their session, and they leave stores
behind that agree. -/
structure Alike (left right : Outcome) : Prop where
  result : left.result = right.result
  session : left.session = right.session
  store : left.store.Agrees right.store

end Outcome

namespace Store

variable {left right : Store}

/-- Carrying out a plan depends on files and catalog only. -/
theorem Agrees.run (agrees : Agrees left right) (strict : Bool) (session : Session) (plan : Plan) :
    (plan.run strict left session).Alike (plan.run strict right session) := by
  obtain ⟨id, selected⟩ := session
  cases plan with
  | createDatabase name =>
      have created := agrees.createDatabase name
      exact ⟨by simp only [Plan.run, created.result], rfl, created.store⟩
  | use name =>
      simp only [Plan.run, agrees.catalog]
      split <;> exact ⟨rfl, rfl, agrees⟩
  | createTable name columns =>
      cases selected with
      | none => exact ⟨rfl, rfl, agrees⟩
      | some database =>
          have created := agrees.createTable database name columns
          exact ⟨by simp only [Plan.run, created.result], rfl, created.store⟩
  | insert name values =>
      cases selected with
      | none => exact ⟨rfl, rfl, agrees⟩
      | some database =>
          have inserted := agrees.runInsert database name values
          exact ⟨inserted.result, rfl, inserted.store⟩
  | select name columns ignored =>
      cases selected with
      | none => exact ⟨rfl, rfl, agrees⟩
      | some database =>
          have selection := agrees.runSelect strict database name columns ignored
          exact ⟨selection.result, rfl, selection.store⟩

/-- Executing a line depends on files and catalog only. -/
theorem Agrees.execute (agrees : Agrees left right) (strict : Bool) (session : Session)
    (line : Text) :
    (left.execute strict session line).Alike (right.execute strict session line) := by
  rw [Store.execute, Store.execute]
  cases Plan.read line with
  | error error => exact ⟨rfl, rfl, agrees.congr rfl rfl rfl rfl⟩
  | ok plan =>
      have carried_out := agrees.run strict session plan
      exact
        { result := carried_out.result
          session := carried_out.session
          store := carried_out.store.congr (by simp) (by simp) (by simp) (by simp) }

end Store
end FlatStore
