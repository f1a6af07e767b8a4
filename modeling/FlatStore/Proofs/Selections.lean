import FlatStore.Proofs.Runs

/-!
# What sessions have selected

In every run a session has selected the database of its last `USE` that succeeded, and this database
is known.  So a command fails for want of a database exactly if its session has used none yet, and
an unknown database is only ever met by a `USE`.
-/

namespace FlatStore

/-! ## Categories of failures -/

/-- The category of a failure, if it is an error of the store. -/
def Failure.kind? : Failure → Option ErrorKind
  | .store error => some error.kind
  | .unwritable | .nullCharacter | .misuse _ => none

/-- The category of what a command failed with. -/
def kindOf {α : Type} (result : Except Failure α) : Option ErrorKind :=
  (error? result).bind Failure.kind?

/-- The categories of errors that have to do neither with what is known or selected of databases,
nor with headers, nor with identities. -/
def ErrorKind.isOrdinary : ErrorKind → Bool
  | .malformedCommand | .unknownCommand | .noSuchTable | .alreadyExists | .unknownColumn
  | .ioFailure => true
  | .noSuchDatabase | .noDatabaseSelected | .malformedTable | .unknownTable => false

/-- Failures that are no error of the store, or one of an ordinary category. -/
def Failure.IsOrdinary (failure : Failure) : Prop :=
  ∀ kind, failure.kind? = some kind → kind.isOrdinary = true

theorem Failure.isOrdinary_store {error : StoreError} :
    (Failure.store error).IsOrdinary ↔ error.kind.isOrdinary = true := by
  simp [IsOrdinary, kind?]

namespace Plan

/-- The database that a line has selected, by its result. -/
def used? (line : Text) (result : Except Failure Answer) : Option Text :=
  match result, Plan.read line with
  | .ok _, .ok (.use name) => some name
  | _, _ => none

/-- A line that can not be read fails for an ordinary reason. -/
theorem isOrdinary_read {line : Text} {error : StoreError} (h : Plan.read line = .error error) :
    error.kind.isOrdinary = true := by
  rcases read_eq_error h with ⟨cause, rfl⟩ | rfl <;> rfl

end Plan

namespace Catalog

variable {catalog : Catalog} {database name : Text} {columns : List Text} {error : StoreError}

theorem isOrdinary_resolve (known : catalog.hasDatabase database = true)
    (h : catalog.resolve database name = .error error) : error.kind.isOrdinary = true := by
  rcases resolve_eq_error h with ⟨-, absent⟩ | rfl
  · rw [known] at absent
    cases absent
  · rfl

theorem isOrdinary_checkTable (known : catalog.hasDatabase database = true)
    (h : catalog.checkTable database name columns = .error error) :
    error.kind.isOrdinary = true := by
  rcases checkTable_eq_error h with ⟨-, absent⟩ | rfl | rfl | wrong
  · rw [known] at absent
    cases absent
  · rfl
  · rfl
  · rcases checkColumns_eq_error wrong with rfl | ⟨column, -, rfl | rfl⟩ <;> rfl

end Catalog

namespace Store

variable {store after : Store} {database name : Text} {columns : List Text} {error : StoreError}

theorem isOrdinary_createDatabase (h : store.createDatabase name = (after, .error error)) :
    error.kind.isOrdinary = true := by
  rcases createDatabase_eq_error h with rfl | rfl | ⟨trouble, rfl⟩ <;> rfl

theorem isOrdinary_createTable (known : store.catalog.hasDatabase database = true)
    (h : store.createTable database name columns = (after, .error error)) :
    error.kind.isOrdinary = true := by
  rcases createTable_eq_error h with wrong | rfl | ⟨trouble, rfl⟩
  · exact Catalog.isOrdinary_checkTable known wrong
  · rfl
  · rfl

theorem isOrdinary_runInsert {values : List Text} {failure : Failure}
    (known : store.catalog.hasDatabase database = true)
    (h : Plan.runInsert store database name values = (after, .error failure)) :
    failure.IsOrdinary := by
  rcases runInsert_eq_error h with ⟨error, unknown, rfl⟩ | ⟨expected, given, rfl⟩ |
    ⟨trouble, rfl⟩ | rfl | rfl
  · exact Failure.isOrdinary_store.2 (Catalog.isOrdinary_resolve known unknown)
  · exact Failure.isOrdinary_store.2 rfl
  · exact Failure.isOrdinary_store.2 rfl
  · exact nofun
  · exact nofun

theorem isOrdinary_select {strict : Bool} {requested : Option (List Text)}
    (known : store.catalog.hasDatabase database = true)
    (h : store.select strict database name requested = .error error) :
    error.kind.isOrdinary = true := by
  rcases select_eq_error h with unknown | ⟨column, -, rfl⟩ | ⟨trouble, rfl⟩ | ⟨failure, rfl⟩
  · exact Catalog.isOrdinary_resolve known unknown
  · rfl
  · rfl
  · rfl

/-! ## Lines -/

variable {strict : Bool} {session : Session} {line : Text}

/-- If the selected database is known, a plan fails for an ordinary reason, or because the database
to be used is not known, or for want of a selected database. -/
theorem kind_of_fails {plan : Plan} {failure : Failure}
    (known : ∀ database, session.database = some database →
      store.catalog.hasDatabase database = true)
    (fails : Plan.Fails strict store session plan failure) {kind : ErrorKind}
    (h : failure.kind? = some kind) :
    kind.isOrdinary = true ∨
      (kind = .noSuchDatabase ∧ ∃ name, plan = .use name ∧
        store.catalog.hasDatabase name = false) ∨
      (kind = .noDatabaseSelected ∧ plan.needsDatabase = true ∧ session.database = none) := by
  cases fails with
  | unselected needs none_selected =>
      cases h
      exact .inr (.inr ⟨rfl, needs, none_selected⟩)
  | use absent =>
      cases h
      exact .inr (.inl ⟨rfl, _, rfl, absent⟩)
  | createDatabase failed =>
      cases h
      exact .inl (isOrdinary_createDatabase failed)
  | createTable selected failed =>
      cases h
      exact .inl (isOrdinary_createTable (known _ selected) failed)
  | insert selected failed => exact .inl (isOrdinary_runInsert (known _ selected) failed kind h)
  | select selected failed =>
      cases h
      exact .inl (isOrdinary_select (known _ selected) failed)

theorem result_execute :
    (store.execute strict session line).result =
      match Plan.read line with
      | .error error => .error (.store error)
      | .ok plan => (plan.run strict store session).result := by
  rw [execute]
  cases Plan.read line <;> rfl

/-- A line that is executed fails as its plan does, or for an ordinary reason. -/
theorem kindOf_execute
    (known : ∀ database, session.database = some database →
      store.catalog.hasDatabase database = true) {kind : ErrorKind}
    (h : kindOf (store.execute strict session line).result = some kind) :
    kind.isOrdinary = true ∨
      (kind = .noSuchDatabase ∧ ∃ name, Plan.read line = .ok (.use name) ∧
        store.catalog.hasDatabase name = false) ∨
      (kind = .noDatabaseSelected ∧
        (∃ plan, Plan.read line = .ok plan ∧ plan.needsDatabase = true) ∧
        session.database = none) := by
  rw [result_execute] at h
  cases read : Plan.read line with
  | error error =>
      rw [read] at h
      cases h
      exact .inl (Plan.isOrdinary_read read)
  | ok plan =>
      rw [read] at h
      cases failed : (plan.run strict store session).result with
      | ok answer =>
          simp only [failed] at h
          cases h
      | error failure =>
          simp only [failed] at h
          rcases kind_of_fails known (Plan.fails_of_run failed) h with
            ordinary | ⟨unknown, name, rfl, absent⟩ | ⟨unselected, needs, none_selected⟩
          · exact .inl ordinary
          · exact .inr (.inl ⟨unknown, name, rfl, absent⟩)
          · exact .inr (.inr ⟨unselected, ⟨plan, rfl, needs⟩, none_selected⟩)

/-- A `USE` fails if its database is not known. -/
theorem kindOf_execute_unknown {name : Text} (read : Plan.read line = .ok (.use name))
    (absent : store.catalog.hasDatabase name = false) :
    kindOf (store.execute strict session line).result = some .noSuchDatabase := by
  rw [result_execute, read]
  simp only [Plan.run, absent]
  rfl

/-- A line that needs a database fails if none is selected. -/
theorem kindOf_execute_unselected {plan : Plan} (read : Plan.read line = .ok plan)
    (needs : plan.needsDatabase = true) (none_selected : session.database = none) :
    kindOf (store.execute strict session line).result = some .noDatabaseSelected := by
  rw [result_execute, read]
  obtain ⟨id, selected⟩ := session
  obtain rfl : selected = none := none_selected
  cases plan with
  | createTable | insert | select => rfl
  | createDatabase | use => cases needs

/-- A line selects the database that it has used, and nothing else. -/
theorem database_execute (store : Store) (strict : Bool) (session : Session) (line : Text) :
    (store.execute strict session line).session.database =
      (Plan.used? line (store.execute strict session line).result).or session.database := by
  obtain ⟨id, selected⟩ := session
  rw [execute, Plan.used?.eq_def]
  cases Plan.read line with
  | error error => rfl
  | ok plan =>
      cases plan with
      | use name =>
          dsimp only [Plan.run]
          split <;> rfl
      | createDatabase name =>
          dsimp only
          cases (Plan.run strict store ⟨id, selected⟩ _).result <;> rfl
      | createTable | insert | select =>
          dsimp only
          cases selected <;> cases (Plan.run strict store ⟨id, _⟩ _).result <;> rfl

/-- A known database stays known. -/
theorem Effect.hasDatabase {before : Store} {result : Except Failure Answer}
    (effect : Effect session line before after result) {name : Text}
    (known : before.catalog.hasDatabase name = true) : after.catalog.hasDatabase name = true := by
  cases effect with
  | nothing _ catalog => rwa [catalog]
  | database _ _ _ _ catalog => exact catalog ▸ (hasDatabase_addDatabase ..).2 (.inr known)
  | table _ _ _ _ _ _ _ catalog => rwa [catalog]
  | row _ _ _ _ _ catalog => rwa [catalog]
  | stranded _ _ catalog => rwa [catalog]

end Store

/-! ## Runs -/

/-- What is selected behind a line was selected before, or it is known. -/
theorem Selects.known {store : Store} {line : Text} {before after : Session}
    {result : Except Failure Answer} (selects : Selects store line before after result)
    {name : Text}
    (selected : after.database = some name) :
    before.database = some name ∨ store.catalog.hasDatabase name = true := by
  cases selects with
  | nothing => exact .inl selected
  | database read known =>
      cases selected
      exact .inr known

namespace Exchange

/-- The database of the last `USE` of a session that succeeded. -/
def lastUsed? (number : Nat) (exchanges : List Exchange) : Option Text :=
  (exchanges.filterMap fun exchange =>
    if exchange.order.number = number then Plan.used? exchange.order.line exchange.result
    else none).getLast?

theorem lastUsed?_cons (number : Nat) (exchange : Exchange) (rest : List Exchange) :
    lastUsed? number (exchange :: rest) =
      (lastUsed? number rest).or
        (if exchange.order.number = number then Plan.used? exchange.order.line exchange.result
          else none) := by
  rw [lastUsed?, lastUsed?, List.filterMap_cons]
  split
  · rename_i nothing
    rw [nothing, Option.or_none]
  · rename_i name used
    rw [used, List.getLast?_cons]
    cases List.getLast? _ <;> rfl

end Exchange

namespace Service

open Exchange

variable {service : Service} {number : Nat}

theorem selected_obey (service : Service) (order : Order) (number : Nat) :
    (service.obey order).1.selected number =
      (if order.number = number then Plan.used? order.line (service.obey order).2 else none).or
        (service.selected number) := by
  rw [obey, selected_execute, Store.database_execute]
  split
  · rename_i own
    rw [← own, Function.update_self]
    rfl
  · rename_i apart
    rw [Function.update_of_ne (Ne.symm apart)]
    rfl

/-- A session has selected what it has used last, or what it had selected before. -/
theorem selected_run (service : Service) (orders : List Order) (number : Nat) :
    (service.run orders).1.selected number =
      (lastUsed? number (service.run orders).2).or (service.selected number) := by
  induction orders generalizing service with
  | nil => rfl
  | cons order rest ih =>
      rw [run_cons, ih, selected_obey, lastUsed?_cons, Option.or_assoc]

/-- What sessions have selected is known. -/
def SelectsKnown (service : Service) : Prop :=
  ∀ number name, service.selected number = some name →
    service.store.catalog.hasDatabase name = true

theorem SelectsKnown.obey (selects : SelectsKnown service) (order : Order) :
    SelectsKnown (service.obey order).1 := by
  intro number name selected
  have effect := Store.execute_effect service.store order.strict (service.session order.number)
    order.line
  rw [Service.obey, selected_execute] at selected
  by_cases own : number = order.number
  · subst own
    rw [Function.update_self] at selected
    rcases (Store.execute_selects ..).known selected with before | known
    · exact effect.hasDatabase (selects order.number name before)
    · exact effect.hasDatabase known
  · rw [Function.update_of_ne own] at selected
    exact effect.hasDatabase (selects number name selected)

theorem SelectsKnown.run (selects : SelectsKnown service) (orders : List Order) :
    SelectsKnown (service.run orders).1 := by
  induction orders generalizing service with
  | nil => exact selects
  | cons order rest ih => exact ih (selects.obey order)

/-- After every run from fresh sessions a session has selected the database of its last `USE` that
succeeded, and this is known.  So whatever line comes next, it fails because there is no such
database exactly if it is a `USE` of an unknown one, and because none is selected exactly if it
needs one and its session has used none; no failure is about a header or about missing
identities. -/
theorem run_selects (store : Store) (orders : List Order) (next : Order) :
    let service := ((ofStore store).run orders).1
    let exchanges := ((ofStore store).run orders).2
    let kind := kindOf (service.obey next).2
    (∀ number, service.selected number = lastUsed? number exchanges) ∧
      (∀ number name, service.selected number = some name →
        service.store.catalog.hasDatabase name = true) ∧
      (kind = some .noSuchDatabase ↔ ∃ name, Plan.read next.line = .ok (.use name) ∧
        service.store.catalog.hasDatabase name = false) ∧
      (kind = some .noDatabaseSelected ↔
        (∃ plan, Plan.read next.line = .ok plan ∧ plan.needsDatabase = true) ∧
          lastUsed? next.number exchanges = none) ∧
      kind ≠ some .unknownTable ∧ kind ≠ some .malformedTable := by
  have selected (number : Nat) : ((ofStore store).run orders).1.selected number =
      lastUsed? number ((ofStore store).run orders).2 := by
    rw [selected_run]
    exact Option.or_none
  have fresh : SelectsKnown (ofStore store) := nofun
  have known := fresh.run orders
  have known_next (name : Text)
      (here : (((ofStore store).run orders).1.session next.number).database = some name) :
      ((ofStore store).run orders).1.store.catalog.hasDatabase name = true :=
    known next.number name here
  have kinds {kind : ErrorKind}
      (failed : kindOf (((ofStore store).run orders).1.obey next).2 = some kind) :=
    Store.kindOf_execute known_next failed
  refine ⟨selected, known, ⟨fun failed => ?_, ?_⟩, ⟨fun failed => ?_, ?_⟩, fun failed => ?_,
    fun failed => ?_⟩
  · rcases kinds failed with ordinary | ⟨-, unknown⟩ | ⟨impossible, -⟩
    · cases ordinary
    · exact unknown
    · cases impossible
  · rintro ⟨name, read, absent⟩
    exact Store.kindOf_execute_unknown read absent
  · rcases kinds failed with ordinary | ⟨impossible, -⟩ | ⟨-, needs, unselected⟩
    · cases ordinary
    · cases impossible
    · exact ⟨needs, selected next.number ▸ unselected⟩
  · rintro ⟨⟨plan, read, needs⟩, unused⟩
    exact Store.kindOf_execute_unselected read needs ((selected next.number).trans unused)
  · rcases kinds failed with ordinary | ⟨impossible, -⟩ | ⟨impossible, -⟩
    · cases ordinary
    · cases impossible
    · cases impossible
  · rcases kinds failed with ordinary | ⟨impossible, -⟩ | ⟨impossible, -⟩
    · cases ordinary
    · cases impossible
    · cases impossible

end Service
end FlatStore
