import FlatStore.Json.Writer
import FlatStore.Text.Capital

/-!
# Log records

A record has a level, the name of an event and fields.  A logger keeps the records at or above its
threshold, puts its own context in front of their fields and writes each as one JSON object.  A few
names can not be used for fields or have no effect as such.
-/

namespace FlatStore

/-- How grave a record is. -/
inductive Level
  | debug
  | info
  | warning
  | error
  | critical
deriving DecidableEq, Repr

namespace Level

/-- All levels in ascending order. -/
def all : List Level := [.debug, .info, .warning, .error, .critical]

/-- Place of a level in the ascending order. -/
def rank : Level → Nat
  | .debug => 0
  | .info => 1
  | .warning => 2
  | .error => 3
  | .critical => 4

/-- The name of a level in records. -/
def label : Level → Text
  | .debug => "debug".toList
  | .info => "info".toList
  | .warning => "warning".toList
  | .error => "error".toList
  | .critical => "critical".toList

/-- The name of a level in settings. -/
def settingName : Level → Text
  | .debug => "DEBUG".toList
  | .info => "INFO".toList
  | .warning => "WARNING".toList
  | .error => "ERROR".toList
  | .critical => "CRITICAL".toList

/-- The level of a name in settings. -/
def ofSettingName? (name : Text) : Option Level := all.find? (·.settingName == name)

/-- Why a name means no level from which on records are kept. -/
inductive NameFault
  /-- It names nothing. -/
  | unknown
  /-- It names the table of the layouts. -/
  | layouts
  /-- It names a layout, which would have to be the name of a level itself. -/
  | layout
deriving DecidableEq, Repr

/-- The layout that has a name of its own. -/
def basicLayout : Text := "%(levelname)s:%(name)s:%(message)s".toList

/-- Wording for a layout that is taken as a level. -/
def layoutMessage : Text := "Unknown level: ".toList ++ Text.quoted basicLayout

/-- The level from which on records are kept, by a name in any case: that of a level, an older name
of one, or the name for all records.  Two more names are known, which mean no level. -/
def ofThresholdName (name : Text) : Except NameFault Level :=
  let name := Text.capitals name
  if name = "NOTSET".toList then .ok .debug
  else if name = "WARN".toList then .ok .warning
  else if name = "FATAL".toList then .ok .critical
  else if name = "_STYLES".toList then .error .layouts
  else if name = "BASIC_FORMAT".toList then .error .layout
  else (ofSettingName? name).elim (.error .unknown) .ok

@[simp]
theorem ofSettingName?_settingName (level : Level) :
    ofSettingName? level.settingName = some level := by
  cases level <;> rfl

end Level

/-- A log record. -/
structure Record where
  level : Level
  event : Text
  fields : Members
  /-- Whether the trace of a crash belongs to it. -/
  traced : Bool
deriving Repr

namespace Record

/-- The fields behind those of a context; a field replaces one of its name. -/
def within (context : Members) (record : Record) : Record :=
  { record with fields := context.merge record.fields }

/-- Names whose fields are not written: requests for a trace, where there is none, and the time,
which every line gets anew. -/
def unwritten : List Text := ["exc_info".toList, "stack_info".toList, "timestamp".toList]

/-- All members of the record's object; its event and level replace fields of these names. -/
def members (record : Record) : Members :=
  let fields := record.fields.filter fun field => !unwritten.contains field.1
  (Members.set fields "event".toList (.string record.event)).set "level".toList
    (.string record.level.label)

/-- The record's line, unless it holds an integer with too many digits to be written. -/
def line? (record : Record) : Option Text := (Json.object record.members).write?

end Record

/-- Why a record can not be logged. -/
inductive LogFault
  /-- A field has a name that the logger itself uses. -/
  | reservedName
  /-- The line would hold an integer with too many digits. -/
  | unwritable
deriving DecidableEq, Repr

/-- A logger: what it keeps and what it adds. -/
structure Logger where
  threshold : Level
  context : Members

namespace Logger

/-- Whether a level is kept. -/
def keeps (logger : Logger) (level : Level) : Bool := logger.threshold.rank ≤ level.rank

/-- The records that are kept, each with the context. -/
def kept (logger : Logger) (records : List Record) : List Record :=
  (records.filter fun record => logger.keeps record.level).map (·.within logger.context)

/-- Whether every record that is kept has a line. -/
def canWrite (logger : Logger) (records : List Record) : Bool :=
  (logger.kept records).all fun record => record.line?.isSome

/-- A logger with a context of its own, unless the context has a name that the logger itself
uses. -/
def ofContext? (threshold : Level) (context : Members) : Option Logger :=
  if context.any fun field => ["name".toList, "self".toList].contains field.1 then none
  else some ⟨threshold, context⟩

/-- Whether a record's fields have names that a call of the logger can pass on. -/
def takes (logger : Logger) (record : Record) : Bool :=
  let own := ["event".toList, "self".toList]
  let names := if logger.keeps record.level then "method_name".toList :: own else own
  !record.fields.any fun field => names.contains field.1

/-- Write records one after the other. -/
def writeAll (logger : Logger) : List Record → Except LogFault (List Record)
  | [] => .ok []
  | record :: rest =>
      if !logger.takes record then .error .reservedName
      else if !logger.canWrite [record] then .error .unwritable
      else (writeAll logger rest).map (logger.kept [record] ++ ·)

end Logger
end FlatStore
