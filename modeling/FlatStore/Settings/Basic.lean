import FlatStore.Disk.WrittenPath
import FlatStore.Number.Binary64
import FlatStore.Telemetry.Log

/-!
# Settings

What can be configured, with the defaults, and the ways in which a configured value can be wrong.
-/

namespace FlatStore

/-- Whether an append reaches the disk before it is acknowledged. -/
inductive SyncMode
  /-- Appended rows are forced to disk. -/
  | fsync
  /-- The operating system writes when it likes. -/
  | none
deriving DecidableEq, Repr

/-- The name of a mode. -/
def SyncMode.label : SyncMode → Text
  | .fsync => "fsync".toList
  | .none => "none".toList

/-- How log records are written. -/
inductive LogFormat
  /-- One JSON object per line. -/
  | json
  /-- For reading on a terminal. -/
  | console
deriving DecidableEq, Repr

/-- The name of a format. -/
def LogFormat.label : LogFormat → Text
  | .json => "json".toList
  | .console => "console".toList

/-- Where tables are kept and how they are written. -/
structure StorageSettings where
  dataDir : WrittenPath
  syncMode : SyncMode
deriving DecidableEq, Repr

/-- Where the server listens. -/
structure ServerSettings where
  host : Text
  port : Int
  /-- Seconds that a connection may be silent, if there is a limit. -/
  idleTimeout : Option Binary64
deriving DecidableEq, Repr

/-- How commands are carried out. -/
structure QuerySettings where
  /-- Whether unknown columns are errors. -/
  strictColumns : Bool
deriving DecidableEq, Repr

/-- What is logged, counted and traced, and where to. -/
structure ObservabilitySettings where
  logLevel : Level
  logFormat : LogFormat
  /-- The file that log lines are appended to, instead of standard output. -/
  logFile : Option WrittenPath
  metricsPort : Option Int
  traceEndpoint : Option Text
  serviceName : Text
deriving DecidableEq, Repr

/-- All settings. -/
structure Settings where
  storage : StorageSettings
  server : ServerSettings
  query : QuerySettings
  observability : ObservabilitySettings
deriving DecidableEq, Repr

/-- Why a value can not be used. -/
inductive SettingFlaw
  | noInteger
  | tooLong
  | noNumber
  | noBoolean
  | noChoice
  /-- The number must be greater than a bound. -/
  | notAbove
  | tooSmall
  | tooGreat
  /-- A number with a fraction stands for an integer. -/
  | fractional
  /-- An infinity, or no number, stands for an integer. -/
  | notFinite
  /-- The text holds a surrogate without its partner. -/
  | noUnicode
  /-- The value is of a kind that can not stand for the named one. -/
  | wrongKind (expected : Text)
deriving DecidableEq, Repr

/-- The name of a flaw. -/
def SettingFlaw.label : SettingFlaw → Text
  | .noInteger => "int_parsing".toList
  | .tooLong => "int_parsing_size".toList
  | .noNumber => "float_parsing".toList
  | .noBoolean => "bool_parsing".toList
  | .noChoice => "literal_error".toList
  | .notAbove => "greater_than".toList
  | .tooSmall => "greater_than_equal".toList
  | .tooGreat => "less_than_equal".toList
  | .fractional => "int_from_float".toList
  | .notFinite => "finite_number".toList
  | .noUnicode => "string_unicode".toList
  | .wrongKind expected => expected ++ "_type".toList

/-- A flaw with the setting that has it. -/
structure LocatedFlaw where
  /-- Section and name of the setting. -/
  place : Text
  flaw : SettingFlaw
deriving DecidableEq, Repr

/-- Why there are no settings. -/
inductive SettingsError
  /-- The variable of a whole section does not hold JSON. -/
  | noJson (group : Text)
  /-- The variable of a whole section holds JSON that is nested too deeply. -/
  | tooDeep (group : Text)
  | flawed (flaws : List LocatedFlaw)
deriving DecidableEq, Repr

/-- Wording for a variable that does not hold JSON. -/
def noJsonMessage (group : Text) : Text :=
  "error parsing value for field \"".toList ++ group
    ++ "\" from source \"EnvSettingsSource\"".toList

/-- What is told about settings that can not be used, line by line. -/
def SettingsError.lines : SettingsError → List Text
  | .noJson group => [noJsonMessage group]
  | .tooDeep group => ["value nested too deeply for field \"".toList ++ group ++ ['"']]
  | .flawed flaws => flaws.map fun flaw => flaw.place ++ ": ".toList ++ flaw.flaw.label

end FlatStore
