import FlatStore.Proofs.Creating
import FlatStore.Proofs.Inserting
import FlatStore.Proofs.Outcome
import FlatStore.Proofs.Telemetry
import FlatStore.Server.Connection

/-!
# Attendance

The telemetry says how many connections there are and which command lines were received.  Executing
a line has no part in it: a line is entered when it is dispatched, and a connection when it is
opened and when it is closed.
-/

namespace FlatStore

/-- The command line that was received, if the event is about one. -/
def Event.command? : Event → Option Text
  | .received line => some line
  | _ => none

/-- What is recorded about connections. -/
structure Attendance where
  /-- Number of connections that are open. -/
  active : Nat
  /-- Number of connections that were ever opened. -/
  total : Nat
  /-- The command lines that were received, in order. -/
  received : List Text

namespace Store

variable (store : Store)

/-- What the telemetry says about connections. -/
def attendance : Attendance where
  active := store.telemetry.metrics.connectionsActive
  total := store.telemetry.metrics.connectionsTotal
  received := store.telemetry.notices.filterMap fun notice => notice.event.command?

/-- Only a received line is entered when it is logged. -/
theorem attendance_note (notice : Notice) :
    (store.note notice).attendance = { store.attendance with
      received := store.attendance.received ++ notice.event.command?.toList } := by
  rw [attendance, note, attendance]
  cases command : notice.event.command? <;> simp [command]

theorem attendance_note_of_none {notice : Notice} (other : notice.event.command? = none) :
    (store.note notice).attendance = store.attendance := by
  rw [attendance_note, other, Option.toList_none, List.append_nil]

theorem attendance_log_of_none {event : Event} (other : event.command? = none) :
    (store.log event).attendance = store.attendance :=
  store.attendance_note_of_none other

theorem attendance_logAll_of_none {events : List Event}
    (others : ∀ event ∈ events, event.command? = none) :
    (store.logAll events).attendance = store.attendance := by
  induction events generalizing store with
  | nil => rfl
  | cons event rest ih =>
      have first := store.attendance_log_of_none (others event List.mem_cons_self)
      exact (ih _ fun other member => others other (List.mem_cons_of_mem _ member)).trans first

@[simp]
theorem attendance_trace (span : Span) : (store.trace span).attendance = store.attendance := rfl

@[simp]
theorem attendance_account {α : Type} (verb : Verb) (result : Except Failure α) :
    (store.account verb result).attendance = store.attendance := by
  rcases result with (_ | _ | _ | _) | _ <;> rfl

/-! ## Operations -/

variable {store} in
theorem attendance_make {after : Store} {creation : Creation} {outcome : Except StoreError Unit}
    (made : store.make creation = (after, outcome)) : after.attendance = store.attendance := by
  rw [make_eq made]
  rfl

theorem attendance_create (creation : Creation) :
    (store.create creation).1.attendance = store.attendance := by
  rw [create]
  split
  · rfl
  · split
    · rename_i refused
      exact attendance_make refused
    · rename_i made
      have entered (other : Store) :
          ((other.enter creation).log creation.event).attendance = other.attendance := by
        cases creation <;> exact attendance_log_of_none _ rfl
      exact (entered _).trans (attendance_make made)

theorem attendance_createDatabase (name : Text) :
    (store.createDatabase name).1.attendance = store.attendance := by
  rw [createDatabase]
  split
  · rfl
  · exact store.attendance_create _

theorem attendance_createTable (database name : Text) (columns : List Text) :
    (store.createTable database name columns).1.attendance = store.attendance := by
  rw [createTable]
  split
  · rfl
  · exact store.attendance_create _

theorem attendance_appendNext (table : Table) (values : List Text) :
    (store.appendNext table values).1.attendance = store.attendance := by
  rw [appendNext_eq]
  split <;> rfl

theorem attendance_insert (database name : Text) (values : List Text) :
    (store.insert database name values).1.attendance = store.attendance := by
  rw [insert]
  split
  · rfl
  · rename_i table _
    have appended :=
      ((store.registerLock table.ref).hold table.ref).attendance_appendNext table values
    split
    · rename_i same
      rw [same] at appended
      exact appended
    · rename_i same
      rw [same] at appended
      exact appended

theorem attendance_runInsert (database name : Text) (values : List Text) :
    (Plan.runInsert store database name values).1.attendance = store.attendance := by
  rw [Plan.runInsert]
  split
  · rfl
  · dsimp only
    split
    · exact store.attendance_insert database name values
    · rfl

/-- What is logged about a projection is no received line. -/
theorem command?_of_mem_find {strict : Bool} {schema : Schema} {table : Text}
    {columns : Option (List Text)} {event : Event}
    (member : event ∈ (Projection.find strict schema table columns).1) : event.command? = none := by
  cases columns with
  | none => cases member
  | some requested =>
      rw [Projection.find.eq_def] at member
      dsimp only at member
      split at member
      · cases member
      · obtain ⟨column, -, rfl⟩ := List.mem_map.1 member
        rfl

theorem attendance_runSelect (strict : Bool) (database table : Text) (columns : Option (List Text))
    (ignored : Text) :
    (Plan.runSelect strict store database table columns ignored).1.attendance =
      store.attendance := by
  rw [Plan.runSelect]
  split
  · rfl
  · rename_i schema scan _
    have logged : ((if ignored.isEmpty then store
        else store.log (.clauseIgnored table ignored)).logAll
          (Projection.find strict schema table columns).1).attendance = store.attendance := by
      rw [attendance_logAll_of_none _ fun event member => command?_of_mem_find member]
      split
      · rfl
      · exact attendance_log_of_none _ rfl
    dsimp only
    split
    · exact logged
    · split <;> exact logged

theorem attendance_run (strict : Bool) (session : Session) (plan : Plan) :
    (plan.run strict store session).store.attendance = store.attendance := by
  obtain ⟨id, selected⟩ := session
  cases plan with
  | createDatabase name => exact store.attendance_createDatabase name
  | use name =>
      rw [Plan.run]
      split <;> rfl
  | createTable name columns =>
      cases selected with
      | none => rfl
      | some database => exact store.attendance_createTable database name columns
  | insert name values =>
      cases selected with
      | none => rfl
      | some database => exact store.attendance_runInsert database name values
  | select name columns ignored =>
      cases selected with
      | none => rfl
      | some database => exact store.attendance_runSelect strict database name columns ignored

/-- Executing a line enters nothing. -/
theorem attendance_execute (strict : Bool) (session : Session) (line : Text) :
    (store.execute strict session line).store.attendance = store.attendance := by
  rw [execute]
  split
  · rfl
  · simp [attendance_run]

/-- Dispatching a line enters it. -/
theorem attendance_dispatch (strict : Bool) (session : Session) (origin : Option Origin)
    (line : Text) :
    (store.dispatch strict session origin line).store.attendance = { store.attendance with
      received := store.attendance.received ++ [line] } := by
  have executed := (store.note ⟨.received line, origin⟩).attendance_execute strict session line
  rw [attendance_note] at executed
  rw [dispatch]
  dsimp only
  split
  · exact (attendance_note_of_none _ rfl).trans executed
  · exact (attendance_note_of_none _ rfl).trans executed
  · exact (attendance_note_of_none _ rfl).trans executed

end Store
end FlatStore
