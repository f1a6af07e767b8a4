import FlatStore.Error
import FlatStore.Table.Ref
import FlatStore.Telemetry.Log

/-!
# Events

Everything the store and the server log, by its meaning.  A notice is an event with the context it
happened in; its record has a level and a name that depend on the event alone.
-/

namespace FlatStore

/-- Something that is logged. -/
inductive Event
  | loading (root : Text)
  | tableSkipped (ref : TableRef) (error : StoreError)
  | listingFailed (database reason : Text)
  /-- A row's first cell is no identity. -/
  | unreadableIdentity (table : Text) (cell : Option Text)
  | identityRecovered (table : Text) (next : Int)
  | loaded (databases tables : Nat)
  | databaseCreated (database : Text)
  | tableCreated (ref : TableRef) (columns : List Text)
  | columnDropped (table column : Text)
  /-- Text after the table name of a selection. -/
  | clauseIgnored (table clause : Text)
  | received (line : Text)
  | succeeded (rows : Option Nat) (message : Option Text)
  | failed (error : StoreError)
  /-- A command ended in a way that is no error of the store. -/
  | crashed (line : Text)
  | opened
  | timedOut (limit : Option Binary64)
  | broken (reason : Text)
  | closed (database : Option Text)
  | listening (host : Text) (port : Int)
  | stopping
deriving Repr

namespace Event

/-- How grave an event is. -/
def level : Event → Level
  | .identityRecovered _ _ | .columnDropped _ _ | .clauseIgnored _ _ => .debug
  | .unreadableIdentity _ _ | .failed _ | .broken _ => .warning
  | .tableSkipped _ _ | .listingFailed _ _ | .crashed _ => .error
  | .loading _ | .loaded _ _ | .databaseCreated _ | .tableCreated _ _ | .received _
  | .succeeded _ _ | .opened | .timedOut _ | .closed _ | .listening _ _ | .stopping => .info

/-- The name of an event. -/
def name : Event → Text
  | .loading _ => "loading_databases".toList
  | .tableSkipped _ _ => "table_skipped".toList
  | .listingFailed _ _ => "database_tables_unreadable".toList
  | .unreadableIdentity _ _ => "invalid_row_identity".toList
  | .identityRecovered _ _ => "identity_recovered".toList
  | .loaded _ _ => "databases_loaded".toList
  | .databaseCreated _ => "database_created".toList
  | .tableCreated _ _ => "table_created".toList
  | .columnDropped _ _ => "unknown_column_dropped".toList
  | .clauseIgnored _ _ => "select_clause_ignored".toList
  | .received _ => "command_received".toList
  | .succeeded _ _ => "command_succeeded".toList
  | .failed _ => "command_failed".toList
  | .crashed _ => "command_crashed".toList
  | .opened => "connection_opened".toList
  | .timedOut _ => "connection_idle_timeout".toList
  | .broken _ => "connection_error".toList
  | .closed _ => "connection_closed".toList
  | .listening _ _ => "server_listening".toList
  | .stopping => "server_stopping".toList

/-- What is recorded about an event. -/
def fields : Event → Members
  | .loading root => [("root".toList, .string root)]
  | .tableSkipped ref error =>
      [("table".toList, .string ref.text), ("kind".toList, .string error.kind.label),
        ("error".toList, .string error.reason)]
  | .listingFailed database reason =>
      [("database".toList, .string database), ("error".toList, .string reason)]
  | .unreadableIdentity table cell =>
      [("table".toList, .string table), ("value".toList, .ofText? cell)]
  | .identityRecovered table next =>
      [("table".toList, .string table), ("next_id".toList, .int next)]
  | .loaded databases tables =>
      [("databases".toList, .ofNat databases), ("tables".toList, .ofNat tables)]
  | .databaseCreated database => [("database".toList, .string database)]
  | .tableCreated ref columns =>
      [("table".toList, .string ref.text), ("columns".toList, .ofTexts columns)]
  | .columnDropped table column =>
      [("table".toList, .string table), ("column".toList, .string column)]
  | .clauseIgnored table clause =>
      [("table".toList, .string table), ("clause".toList, .string clause)]
  | .received line => [("command".toList, .string line)]
  | .succeeded rows message =>
      [("rows".toList, (rows.map Json.ofNat).getD .null), ("message".toList, .ofText? message)]
  | .failed error =>
      [("kind".toList, .string error.kind.label), ("error".toList, .string error.reason)]
  | .crashed line => [("command".toList, .string line)]
  | .opened => []
  | .timedOut limit => [("timeout".toList, (limit.map Json.real).getD .null)]
  | .broken reason => [("error".toList, .string reason)]
  | .closed database => [("database".toList, .ofText? database)]
  | .listening host port => [("host".toList, .string host), ("port".toList, .int port)]
  | .stopping => []

/-- Whether the trace of a crash belongs to an event. -/
def isTraced : Event → Bool
  | .crashed _ => true
  | _ => false

end Event

/-- The connection that an event happened in. -/
structure Origin where
  session : Nat
  peer : Text
deriving DecidableEq, Repr

/-- The fields that name the connection. -/
def Origin.fields (origin : Origin) : Members :=
  [("session_id".toList, .ofNat origin.session), ("peer".toList, .string origin.peer)]

/-- An event with the connection it happened in, if any. -/
structure Notice where
  event : Event
  origin : Option Origin
deriving Repr

/-- The record of a notice. -/
def Notice.record (notice : Notice) : Record :=
  let own : Record :=
    ⟨notice.event.level, notice.event.name, notice.event.fields, notice.event.isTraced⟩
  match notice.origin with
  | none => own
  | some origin => own.within origin.fields

end FlatStore
