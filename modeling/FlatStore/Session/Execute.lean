import FlatStore.Command.Reader
import FlatStore.Session.Basic
import FlatStore.Session.Projection
import FlatStore.Store.Create
import FlatStore.Store.Insert

/-!
# Executing commands

A line is read as a plan and the plan is carried out for a session.  Every line adds one to the
count of its verb and ending, unless it ends in a failure that is no error of the store; a plan
leaves a span, and a success an observation of its duration.
-/

namespace FlatStore

/-- What a step of a session leaves behind. -/
structure Outcome where
  store : Store
  session : Session
  result : Except Failure Answer

namespace Plan

/-- Read rows of a table. -/
def runSelect (strict : Bool) (store : Store) (database table : Text)
    (columns : Option (List Text)) (ignored : Text) : Store × Except Failure Answer :=
  match store.scan database table with
  | .error error => (store, .error (.store error))
  | .ok (schema, scan) =>
      let store := if ignored.isEmpty then store else store.log (.clauseIgnored table ignored)
      let (events, found) := Projection.find strict schema table columns
      let store := store.logAll events
      match found with
      | .error error => (store, .error (.store error))
      | .ok projection =>
          match projection.rows scan with
          | .error error => (store, .error (.store error))
          | .ok rows =>
              (store.count fun metrics =>
                { metrics with rowsReturned := metrics.rowsReturned + rows.length },
                .ok (.read projection.columns rows))

/-- Append a row, after checking that there is a value for each column. -/
def runInsert (store : Store) (database table : Text) (values : List Text) :
    Store × Except Failure Answer :=
  match store.catalog.resolve database table with
  | .error error => (store, .error (.store error))
  | .ok entry =>
      let expected := entry.schema.valueColumns.length
      if values.length = expected then
        let (store, outcome) := store.insert database table values
        (store, outcome.map (Answer.inserted table))
      else (store, .error (.store (.wrongValueCount table expected values.length)))

/-- Carry out a plan for a session. -/
def run (strict : Bool) (store : Store) (session : Session) (plan : Plan) : Outcome :=
  match plan, session.database with
  | .createDatabase name, _ =>
      let (store, outcome) := store.createDatabase name
      ⟨store, session, (outcome.mapError .store).map fun _ => .databaseCreated name⟩
  | .use name, _ =>
      if store.catalog.hasDatabase name then
        ⟨store, { session with database := some name }, .ok (.selected name)⟩
      else ⟨store, session, .error (.store (.noDatabase name))⟩
  | _, none => ⟨store, session, .error (.store .noneSelected)⟩
  | .createTable table columns, some database =>
      let (store, outcome) := store.createTable database table columns
      ⟨store, session, (outcome.mapError .store).map fun _ => .tableCreated table⟩
  | .insert table values, some database =>
      let (store, result) := runInsert store database table values
      ⟨store, session, result⟩
  | .select table columns ignored, some database =>
      let (store, result) := runSelect strict store database table columns ignored
      ⟨store, session, result⟩

end Plan

namespace Store

/-- Count the end of a command. -/
def countEnd (store : Store) (verb : Verb) (status : Status) : Store :=
  store.count fun metrics => { metrics with commands := metrics.commands.bump (verb, status) }

/-- Count a command's duration. -/
def countLatency (store : Store) (verb : Verb) : Store :=
  store.count fun metrics => { metrics with latencies := metrics.latencies.bump verb }

/-- Count how a command ended. -/
def account {α : Type} (store : Store) (verb : Verb) : Except Failure α → Store
  | .ok _ => (store.countEnd verb .ok).countLatency verb
  | .error (.store _) => store.countEnd verb .error
  | .error _ => store

/-- Execute a command line for a session. -/
def execute (store : Store) (strict : Bool) (session : Session) (line : Text) : Outcome :=
  match Plan.read line with
  | .error error =>
      ⟨store.countEnd .invalid .error, session, .error (.store error)⟩
  | .ok plan =>
      let outcome := plan.run strict store session
      let failed := match outcome.result with
        | .ok _ => false
        | .error _ => true
      let span : Span := ⟨plan.verb, session.id, session.database.getD [], failed⟩
      { outcome with store := (outcome.store.trace span).account plan.verb outcome.result }

end Store
end FlatStore
