import FlatStore.Json.Reader
import FlatStore.Settings.Value
import FlatStore.Text.Cut

/-!
# Settings from the environment

Every setting has a variable `TABSTORE_<SECTION>__<NAME>`, and a section may be given as one JSON
object in `TABSTORE_<SECTION>`, which the single variables overrule.  Names are compared without
regard to case, unknown names mean nothing, and all flaws are reported together.
-/

namespace FlatStore

/-- Variables with their values, in order. -/
abbrev Environment := List (Text × Text)

namespace Environment

/-- How the names of all variables begin, in small letters. -/
def namePrefix : Text := "tabstore_".toList

/-- What parts section and setting in a name. -/
def nesting : Text := "__".toList

/-- The sections with the names of their settings. -/
def sections : List (Text × List Text) :=
  [("storage".toList, ["data_dir".toList, "sync_mode".toList]),
    ("server".toList, ["host".toList, "port".toList, "idle_timeout_seconds".toList]),
    ("query".toList, ["strict_columns".toList]),
    ("observability".toList, ["log_level".toList, "log_format".toList, "log_file".toList,
      "metrics_port".toList, "otel_endpoint".toList, "otel_service_name".toList])]

/-- The names of all variables, each in capitals and in small letters. -/
def variableNames : List Text :=
  let small := sections.flatMap fun (group, names) =>
    (namePrefix ++ group) :: names.map fun name => namePrefix ++ group ++ nesting ++ name
  small.map (·.map Char.toUpper) ++ small

/-- The variables of a section: for the whole section under the empty path, for its settings under
the path of their names. -/
def ofSection (environment : Environment) (group : Text) : List (List Text × Text) :=
  let whole := namePrefix ++ group
  environment.filterMap fun (name, value) =>
    let name := name.map Char.toLower
    if name = whole then some ([], value)
    else if (whole ++ nesting).isPrefixOf name then
      some (Text.cutAtWords [nesting] 0 (name.drop (whole ++ nesting).length), value)
    else none

/-- The members that the variables of single settings make.  A name that goes deeper than a setting
makes an object, which no setting can use. -/
def nestedMembers (assigned : List (List Text × Text)) : Members :=
  assigned.foldl
    (fun members (path, value) =>
      match path with
      | [] => members
      | [name] => members.set name (.string value)
      | name :: _ => if (members.find? name).isSome then members else members.set name (.object []))
    []

/-- Members with their names in small letters. -/
def lowerNames (members : Members) : Members :=
  members.foldl (fun result member => result.set (member.1.map Char.toLower) member.2) []

/-- The value of a section: its JSON, overruled by the variables of its settings.  A section that is
null has its defaults. -/
def sectionValue (environment : Environment) (group : Text) : Except SettingsError Json :=
  let assigned := environment.ofSection group
  let nested := nestedMembers assigned
  match (assigned.filter (·.1.isEmpty)).getLast? with
  | none => .ok (.object nested)
  | some (_, text) =>
      match Json.read text with
      | .error .malformed => .error (.noJson group)
      | .error .tooDeep => .error (.tooDeep group)
      | .ok .null => .ok (.object [])
      | .ok (.object members) => .ok (.object (lowerNames (Members.merge members nested)))
      | .ok value => .ok value

end Environment

/-- A value, or the flaws that were found. -/
abbrev Checked (α : Type) := Except (List LocatedFlaw) α

namespace Checked

/-- Two values, or the flaws of both. -/
def both {α β : Type} : Checked α → Checked β → Checked (α × β)
  | .ok a, .ok b => .ok (a, b)
  | .error first, .error second => .error (first ++ second)
  | .error flaws, .ok _ => .error flaws
  | .ok _, .error flaws => .error flaws

end Checked

namespace Settings

/-- A setting of a section: its default if it has no value. -/
def field {α : Type} (group : Text) (members : Members) (name : Text) (fallback : α)
    (read : Json → Except SettingFlaw α) : Checked α :=
  match members.find? name with
  | none => .ok fallback
  | some value => (read value).mapError fun flaw => [⟨group ++ '.' :: name, flaw⟩]

/-- The members of a section. -/
def membersOf (group : Text) : Json → Checked Members
  | .object members => .ok members
  | _ => .error [⟨group, .wrongKind "model".toList⟩]

/-- The section `storage`. -/
def storageOf (value : Json) : Checked StorageSettings := do
  let group := "storage".toList
  let members ← membersOf group value
  let (dataDir, syncMode) ← Checked.both
    (field group members "data_dir".toList (.ofText "data".toList) Setting.asPath)
    (field group members "sync_mode".toList .fsync
      (Setting.asChoice [.fsync, .none] SyncMode.label))
  return ⟨dataDir, syncMode⟩

/-- The section `server`. -/
def serverOf (value : Json) : Checked ServerSettings := do
  let group := "server".toList
  let members ← membersOf group value
  let (host, port, idleTimeout) ← Checked.both
    (field group members "host".toList "0.0.0.0".toList Setting.asText) <| Checked.both
    (field group members "port".toList 8080 (Setting.asIntegerWithin 0 65535))
    (field group members "idle_timeout_seconds".toList none
      (Setting.optionally Setting.asPositive))
  return ⟨host, port, idleTimeout⟩

/-- The section `query`. -/
def queryOf (value : Json) : Checked QuerySettings := do
  let group := "query".toList
  let members ← membersOf group value
  let strictColumns ← field group members "strict_columns".toList false Setting.asBoolean
  return ⟨strictColumns⟩

/-- The section `observability`. -/
def observabilityOf (value : Json) : Checked ObservabilitySettings := do
  let group := "observability".toList
  let members ← membersOf group value
  let (logLevel, logFormat, logFile, metricsPort, traceEndpoint, serviceName) ← Checked.both
    (field group members "log_level".toList .info
      (Setting.asChoice Level.all Level.settingName)) <| Checked.both
    (field group members "log_format".toList .json
      (Setting.asChoice [.json, .console] LogFormat.label)) <| Checked.both
    (field group members "log_file".toList none (Setting.optionally Setting.asPath)) <| Checked.both
    (field group members "metrics_port".toList none
      (Setting.optionally (Setting.asIntegerWithin 1 65535))) <| Checked.both
    (field group members "otel_endpoint".toList none (Setting.optionally Setting.asText))
    (field group members "otel_service_name".toList "tabstore".toList Setting.asText)
  return ⟨logLevel, logFormat, logFile, metricsPort, traceEndpoint, serviceName⟩

/-- The order in which flaws are reported. -/
def flawPrecedes (left right : LocatedFlaw) : Bool :=
  if left.place = right.place then Text.precedes left.flaw.label right.flaw.label
  else Text.precedes left.place right.place

/-- The settings that an environment makes. -/
def ofEnvironment (environment : Environment) : Except SettingsError Settings := do
  let storage ← environment.sectionValue "storage".toList
  let server ← environment.sectionValue "server".toList
  let query ← environment.sectionValue "query".toList
  let observability ← environment.sectionValue "observability".toList
  let checked := Checked.both (storageOf storage) <| Checked.both (serverOf server) <|
    Checked.both (queryOf query) (observabilityOf observability)
  match checked with
  | .ok (storage, server, query, observability) =>
      return ⟨storage, server, query, observability⟩
  | .error flaws => .error (.flawed (flaws.mergeSort flawPrecedes))

end Settings
end FlatStore
