import FlatStore.Proofs.Creating
import FlatStore.Proofs.Inserting
import FlatStore.Proofs.Loading
import FlatStore.Proofs.Outcome

/-!
# Figures

What is counted and traced about commands are figures by verb and ending.  What a line adds to each
of them follows from its verb and its result alone: an ending and a span, and if it succeeds a
duration and the rows that were inserted or read.
-/

namespace FlatStore

/-- A line that is read has a verb of its own. -/
theorem Plan.verb_ne_invalid (plan : Plan) : plan.verb ≠ .invalid := by
  cases plan <;> exact nofun

/-- The verb that a line is counted under. -/
def Verb.ofLine (line : Text) : Verb :=
  match Plan.read line with
  | .ok plan => plan.verb
  | .error _ => .invalid

/-- The status that a result is counted under; a failure that is no error of the store is not
counted. -/
def Status.of? {α : Type} : Except Failure α → Option Status
  | .ok _ => some .ok
  | .error (.store _) => some .error
  | .error _ => none

theorem Status.of?_eq_ok_iff {α : Type} {result : Except Failure α} :
    Status.of? result = some .ok ↔ result.isOk = true := by
  rcases result with (_ | _ | _ | _) | _ <;> simp [Status.of?, Except.isOk, Except.toBool]

theorem Status.of?_eq_error_iff {α : Type} {result : Except Failure α}
    (counted : (Status.of? result).isSome = true) :
    Status.of? result = some .error ↔ result.isOk = false := by
  rcases result with (_ | _ | _ | _) | _ <;>
    simp_all [Status.of?, Except.isOk, Except.toBool]

/-- Number of the rows in a result. -/
def rowsIn : Except Failure Answer → Nat
  | .ok answer => (answer.rows?.getD []).length
  | .error _ => 0

/-- An answer that shows no rows has none. -/
theorem rowsIn_map {α : Type} (answer : α → Answer)
    (shows_none : ∀ value, (answer value).rows? = none) (found : Except Failure α) :
    rowsIn (found.map answer) = 0 := by
  cases found with
  | error failure => rfl
  | ok value =>
      show ((answer value).rows?.getD []).length = 0
      rw [shows_none value]
      rfl

/-- Something of which there is a number in the telemetry. -/
inductive Figure
  | commands (verb : Verb) (status : Status)
  | latencies (verb : Verb)
  | rowsInserted
  | rowsReturned
  | spans (verb : Verb) (failed : Bool)
deriving DecidableEq, Repr

namespace Figure

/-- What a line adds to a figure, by its verb and its result. -/
def due (verb : Verb) (result : Except Failure Answer) : Figure → Nat
  | .commands other status => if verb = other ∧ Status.of? result = some status then 1 else 0
  | .latencies other => if verb = other ∧ result.isOk = true then 1 else 0
  | .rowsInserted => if verb = .insert ∧ result.isOk = true then 1 else 0
  | .rowsReturned => rowsIn result
  | .spans other failed =>
      if verb = other ∧ other ≠ .invalid ∧ result.isOk = !failed then 1 else 0

/-- What is added while a plan is carried out: rows are counted where they are inserted or read. -/
def dueInside (verb : Verb) (result : Except Failure Answer) (figure : Figure) : Nat :=
  match figure with
  | .rowsInserted | .rowsReturned => figure.due verb result
  | _ => 0

/-- Without a row to insert or to read nothing is added. -/
theorem dueInside_eq_zero {verb : Verb} {result : Except Failure Answer} (figure : Figure)
    (no_insert : verb ≠ .insert) (no_row : rowsIn result = 0) :
    figure.dueInside verb result = 0 := by
  cases figure with
  | rowsInserted => exact if_neg fun both => no_insert both.1
  | rowsReturned => exact no_row
  | _ => rfl

end Figure

namespace Store

/-- A figure as the telemetry gives it. -/
def figure (store : Store) : Figure → Nat
  | .commands verb status => store.telemetry.metrics.commands.count (verb, status)
  | .latencies verb => store.telemetry.metrics.latencies.count verb
  | .rowsInserted => store.telemetry.metrics.rowsInserted
  | .rowsReturned => store.telemetry.metrics.rowsReturned
  | .spans verb failed =>
      store.telemetry.spans.countP fun span => span.verb = verb && span.failed = failed

variable (store : Store) (figure : Figure)

/-! ## What is no figure -/

@[simp]
theorem figure_note (notice : Notice) :
    (store.note notice).figure figure = store.figure figure := by
  cases figure <;> rfl

@[simp]
theorem figure_log (event : Event) : (store.log event).figure figure = store.figure figure :=
  store.figure_note figure _

@[simp]
theorem figure_logAll (events : List Event) :
    (store.logAll events).figure figure = store.figure figure := by
  rw [logAll_eq]
  cases figure <;> rfl

@[simp]
theorem figure_countTables : store.countTables.figure figure = store.figure figure := by
  cases figure <;> rfl

variable {store} in
theorem figure_congr {after : Store} (telemetry : after.telemetry = store.telemetry) :
    after.figure figure = store.figure figure := by
  cases figure <;> simp only [Store.figure, telemetry]

theorem figure_foldl {α : Type} {act : Store → α → Store}
    (each : ∀ (store : Store) item, (act store item).figure figure = store.figure figure)
    (items : List α) : (items.foldl act store).figure figure = store.figure figure := by
  induction items generalizing store with
  | nil => rfl
  | cons item rest ih => exact (ih (act store item)).trans (each store item)

/-! ## Loading -/

theorem figure_loadTable (ref : TableRef) :
    (store.loadTable ref).figure figure = store.figure figure := by
  have skipped (other : Store) (error : StoreError) :
      ((other.log (.tableSkipped ref error)).count fun metrics =>
        { metrics with tablesSkipped := metrics.tablesSkipped + 1 }).figure figure =
        other.figure figure := by
    cases figure <;> rfl
  rw [loadTable]
  split
  · exact skipped ..
  · split
    · exact (skipped ..).trans (store.figure_logAll ..)
    · exact (figure_congr figure rfl).trans (store.figure_logAll figure _)

theorem figure_loadDatabase (database : Text) :
    (store.loadDatabase database).figure figure = store.figure figure := by
  let known : Store := { store with catalog := store.catalog.addDatabase database }
  have entered : known.figure figure = store.figure figure := figure_congr figure rfl
  rw [loadDatabase]
  dsimp only
  split
  · exact (figure_log ..).trans entered
  · exact (figure_foldl _ figure (fun other => other.figure_loadTable figure) _).trans entered

variable {store} in
/-- Loading counts no command. -/
theorem figure_load {loaded : Store} (loads : store.load = .ok loaded) :
    loaded.figure figure = store.figure figure := by
  obtain ⟨storage, names, -, -, rfl⟩ := load_eq_ok_iff.1 loads
  rw [enterAll, figure_log, figure_countTables,
    figure_foldl _ figure (fun other => other.figure_loadDatabase figure), figure_log]
  exact figure_congr figure rfl

/-! ## Creating -/

theorem figure_create (creation : Creation) :
    (store.create creation).1.figure figure = store.figure figure := by
  rw [create]
  split
  · rfl
  · split
    · rename_i refused
      rw [make_eq refused]
      exact figure_congr figure rfl
    · rename_i made
      rw [figure_log, make_eq made]
      cases creation with
      | database name => exact figure_congr figure rfl
      | table entry => exact (figure_countTables ..).trans (figure_congr figure rfl)

theorem figure_createDatabase (name : Text) :
    (store.createDatabase name).1.figure figure = store.figure figure := by
  rw [createDatabase]
  split
  · rfl
  · exact store.figure_create figure _

theorem figure_createTable (database name : Text) (columns : List Text) :
    (store.createTable database name columns).1.figure figure = store.figure figure := by
  rw [createTable]
  split
  · rfl
  · exact store.figure_create figure _

/-! ## Rows -/

theorem figure_appendNext (table : Table) (values : List Text) :
    (store.appendNext table values).1.figure figure = store.figure figure := by
  rw [appendNext_eq]
  split <;> exact figure_congr figure rfl

/-- An inserted row is counted. -/
theorem figure_countInserted : store.countInserted.figure figure =
    store.figure figure + if figure = .rowsInserted then 1 else 0 := by
  cases figure <;> rfl

section

variable {store after : Store} {database name : Text} {values : List Text}

theorem figure_insert_ok {id : Int} (h : store.insert database name values = (after, .ok id)) :
    after.figure figure = store.figure figure + if figure = .rowsInserted then 1 else 0 := by
  rw [insert] at h
  split at h
  · cases h
  · rename_i table _
    have appended :=
      ((store.registerLock table.ref).hold table.ref).figure_appendNext figure table values
    split at h
    · cases h
    · rename_i same
      cases h
      rw [same] at appended
      rw [figure_countInserted]
      refine congrArg (· + _) ((figure_congr figure rfl).trans (appended.trans ?_))
      cases figure <;> rfl

theorem figure_insert_error {failure : Failure}
    (h : store.insert database name values = (after, .error failure)) :
    after.figure figure = store.figure figure := by
  rw [insert] at h
  split at h
  · cases h
    rfl
  · rename_i table _
    have appended :=
      ((store.registerLock table.ref).hold table.ref).figure_appendNext figure table values
    split at h
    · rename_i same
      cases h
      rw [same] at appended
      exact (figure_congr figure rfl).trans (appended.trans (by cases figure <;> rfl))
    · cases h

theorem figure_runInsert {result : Except Failure Answer}
    (h : Plan.runInsert store database name values = (after, result)) :
    after.figure figure = store.figure figure + figure.dueInside .insert result := by
  rw [Plan.runInsert] at h
  split at h
  · cases h
    cases figure <;> rfl
  · dsimp only at h
    split at h
    · rcases inserted : store.insert database name values with ⟨between, failure | id⟩
      · rw [inserted] at h
        cases h
        rw [figure_insert_error figure inserted]
        cases figure <;> rfl
      · rw [inserted] at h
        cases h
        rw [figure_insert_ok figure inserted]
        cases figure <;> rfl
    · cases h
      cases figure <;> rfl

theorem figure_runSelect {strict : Bool} {table ignored : Text} {columns : Option (List Text)}
    {result : Except Failure Answer}
    (h : Plan.runSelect strict store database table columns ignored = (after, result)) :
    after.figure figure = store.figure figure + figure.dueInside .select result := by
  rw [Plan.runSelect] at h
  split at h
  · cases h
    cases figure <;> rfl
  · rename_i schema scan _
    have logged : ((if ignored.isEmpty then store
        else store.log (.clauseIgnored table ignored)).logAll
          (Projection.find strict schema table columns).1).figure figure = store.figure figure := by
      rw [figure_logAll]
      split
      · rfl
      · exact figure_log ..
    dsimp only at h
    split at h
    · cases h
      rw [logged]
      cases figure <;> rfl
    · split at h
      · cases h
        rw [logged]
        cases figure <;> rfl
      · cases h
        rw [← logged]
        cases figure <;> rfl

end

/-! ## Lines -/

theorem figure_run (strict : Bool) (session : Session) (plan : Plan) :
    (plan.run strict store session).store.figure figure = store.figure figure +
      figure.dueInside plan.verb (plan.run strict store session).result := by
  obtain ⟨id, selected⟩ := session
  cases plan with
  | createDatabase name =>
      have no_row := rowsIn_map (fun _ => .databaseCreated name) (fun _ => rfl)
        ((store.createDatabase name).2.mapError .store)
      have no_insert : Verb.createDatabase ≠ .insert := by decide
      have quiet := Figure.dueInside_eq_zero figure no_insert no_row
      exact (store.figure_createDatabase figure name).trans (Nat.add_eq_left.2 quiet).symm
  | use name =>
      rw [Plan.run]
      split <;> cases figure <;> rfl
  | createTable name columns =>
      cases selected with
      | none => cases figure <;> rfl
      | some database =>
          have no_row := rowsIn_map (fun _ => .tableCreated name) (fun _ => rfl)
            ((store.createTable database name columns).2.mapError .store)
          have no_insert : Verb.createTable ≠ .insert := by decide
          have quiet := Figure.dueInside_eq_zero figure no_insert no_row
          exact (store.figure_createTable figure database name columns).trans
            (Nat.add_eq_left.2 quiet).symm
  | insert name values =>
      cases selected with
      | none => cases figure <;> rfl
      | some database => exact figure_runInsert figure rfl
  | select name columns ignored =>
      cases selected with
      | none => cases figure <;> rfl
      | some database => exact figure_runSelect figure rfl

/-- A span is counted under its verb. -/
theorem figure_trace (span : Span) : (store.trace span).figure figure =
    store.figure figure + if .spans span.verb span.failed = figure then 1 else 0 := by
  cases figure with
  | spans verb failed =>
      have counted : (store.trace span).figure (.spans verb failed) =
          store.figure (.spans verb failed) +
            if (span.verb = verb && span.failed = failed) = true then 1 else 0 := by
        rw [Store.figure, trace, List.countP_append, List.countP_singleton]
        rfl
      simpa using counted
  | _ => rfl

/-- An ending is counted, and with a success its duration. -/
theorem figure_account (verb : Verb) (result : Except Failure Answer) :
    (store.account verb result).figure figure = store.figure figure +
      match figure with
      | .commands _ _ | .latencies _ => figure.due verb result
      | _ => 0 := by
  rcases result with (error | _ | _ | cause) | answer <;> cases figure <;>
    simp [account, countEnd, countLatency, count, Store.figure, Figure.due, Status.of?,
      Tally.count_bump, Except.isOk, Except.toBool]

/-- What a line adds to the figures. -/
theorem figure_execute (strict : Bool) (session : Session) (line : Text) :
    (store.execute strict session line).store.figure figure = store.figure figure +
      figure.due (Verb.ofLine line) (store.execute strict session line).result := by
  rw [execute, Verb.ofLine]
  cases read : Plan.read line with
  | error error =>
      have counted := store.figure_account figure .invalid (.error (.store error))
      cases figure with
      | spans verb failed =>
          rw [Figure.due, if_neg fun all => all.2.1 all.1.symm]
          exact counted
      | _ => exact counted
  | ok plan =>
      have inside := store.figure_run figure strict session plan
      dsimp only
      rw [figure_account, figure_trace, inside]
      cases figure with
      | spans verb failed =>
          have named : plan.verb = verb → ¬verb = .invalid :=
            fun same => same ▸ plan.verb_ne_invalid
          have counted := and_iff_left_of_imp named
          rcases (plan.run strict store session).result with failure | answer <;>
            cases failed <;>
            simp [Figure.due, Figure.dueInside, Except.isOk, Except.toBool, counted]
      | _ => simp [Figure.due, Figure.dueInside]

end Store
end FlatStore
