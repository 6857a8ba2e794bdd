import AssistantEngine.Fault
import AssistantEngine.Reading.Field
import AssistantEngine.Storage.Path

/-!
Plugin manifests: what configuration a plugin takes, and how its tool server is reached.
-/

namespace AssistantEngine

open Reading

inductive FieldType where
  | string
  | integer
  | float
  | bool
deriving DecidableEq, Repr, Inhabited

structure ConfigField where
  name : String
  type : FieldType := .string
  required : Bool := false
  secret : Bool := false
  description : Option String := none
  default : Option Json := none
deriving DecidableEq

inductive ExecutionMode where
  | localScript
  | remote
deriving DecidableEq, Repr

structure Execution where
  mode : ExecutionMode
  scriptPath : Option String := none
  args : List String := []
  url : Option String := none
deriving DecidableEq, Repr

/-- A named server of a plugin that takes no configuration. -/
structure ServerEntry where
  command : Option String := none
  args : List String := []
  env : Catalog String := []
  url : Option String := none
deriving DecidableEq, Repr

structure PluginManifest where
  id : String := ""
  displayName : String
  version : String := "0.0.0"
  configSchema : List ConfigField := []
  execution : Execution
  servers : Catalog ServerEntry := []
  /-- The directory that relative paths of the manifest start from. -/
  baseDirectory : String := ""
deriving DecidableEq

namespace FieldType

def name : FieldType → String
  | string => "string"
  | integer => "integer"
  | float => "float"
  | bool => "bool"

def names : List (String × FieldType) :=
  [("string", .string), ("integer", .integer), ("int", .integer), ("float", .float),
    ("number", .float), ("bool", .bool), ("boolean", .bool)]

end FieldType

namespace ExecutionMode

def name : ExecutionMode → String
  | localScript => "local"
  | remote => "remote"

def names : List (String × ExecutionMode) := [("local", .localScript), ("remote", .remote)]

end ExecutionMode

namespace PluginManifest

/-- A manifest has to name some way to reach its server: the target of its execution mode
or at least one server entry. -/
def check (manifest : PluginManifest) : Except Fault Unit :=
  match manifest.execution.mode with
  | .localScript =>
    if manifest.execution.scriptPath.isNone && manifest.servers.isEmpty then
      .error (.manifest s!"plugin '{manifest.displayName}' is local but declares no script_path")
    else .ok ()
  | .remote =>
    if manifest.execution.url.isNone && manifest.servers.isEmpty then
      .error (.manifest s!"plugin '{manifest.displayName}' is remote but declares no url")
    else .ok ()

/-- Plugins without configuration can share one instance. -/
def isConfigFree (manifest : PluginManifest) : Bool := manifest.configSchema.isEmpty

def resolvePath (manifest : PluginManifest) (path : String) : String :=
  Path.join manifest.baseDirectory path

end PluginManifest

/-! ## Reading and writing -/

def ConfigField.read (datum : Datum) : Reading ConfigField :=
  fields [["name"], ["type"], ["required"], ["secret"], ["description"], ["default"]] datum fun
    | [name, type, isRequired, secret, description, otherwise] => return {
        name := ← Reading.required asText name
        type := ← defaulted .string (asChoice FieldType.names) type
        required := ← defaulted false asBool isRequired
        secret := ← defaulted false asBool secret
        description := ← nullable asText description
        default := ← nullable asJson otherwise }
    | _ => failure

def Execution.read (datum : Datum) : Reading Execution :=
  fields [["mode"], ["script_path"], ["args"], ["url"]] datum fun
    | [mode, scriptPath, args, url] => return {
        mode := ← required (asChoice ExecutionMode.names) mode
        scriptPath := ← nullable asText scriptPath
        args := ← defaulted [] (asList asText) args
        url := ← nullable asText url }
    | _ => failure

def ServerEntry.read (datum : Datum) : Reading ServerEntry :=
  fields [["command"], ["args"], ["env"], ["url"]] datum fun
    | [command, args, env, url] => return {
        command := ← nullable asText command
        args := ← defaulted [] (asList asText) args
        env := ← defaulted [] (asCatalog asText) env
        url := ← nullable asText url }
    | _ => failure

namespace PluginManifest

def read (datum : Datum) : Reading PluginManifest :=
  fields [["id"], ["display_name", "displayName"], ["version"], ["config_schema", "configSchema"],
    ["execution"], ["servers"]]
    datum fun
    | [id, displayName, version, configSchema, execution, servers] => return {
        id := ← defaulted "" asText id
        displayName := ← required asText displayName
        version := ← defaulted "0.0.0" asText version
        configSchema := ← defaulted [] (asList ConfigField.read) configSchema
        execution := ← required Execution.read execution
        servers := ← defaulted [] (asCatalog ServerEntry.read) servers }
    | _ => failure

/-- The manifest of a YAML text, if it also passes the check. -/
def ofYaml (text : String) : Except Fault PluginManifest :=
  match Reading.ofYaml? read text with
  | some manifest => manifest.check.map fun _ => manifest
  | none => .error (.manifest "Failed to parse manifest")

/-- A manifest as it counts when its file lies at `path`: it remembers the directory, and
an empty id gives way to that directory's name. -/
def atPath (manifest : PluginManifest) (path : String) : PluginManifest :=
  let directory := (Path.parent? path).getD ""
  { manifest with
    id := if manifest.id.isEmpty then (Path.fileName? directory).getD manifest.displayName
      else manifest.id
    baseDirectory := directory }

end PluginManifest

def ConfigField.toJson (field : ConfigField) : Json :=
  Json.object [("name", .str field.name), ("type", .str field.type.name),
    ("required", .bool field.required), ("secret", .bool field.secret),
    ("description", Json.ofOption .str field.description),
    ("default", field.default.getD .null)]

def Execution.toJson (execution : Execution) : Json :=
  Json.object [("mode", .str execution.mode.name),
    ("script_path", Json.ofOption .str execution.scriptPath),
    ("args", Json.texts execution.args), ("url", Json.ofOption .str execution.url)]

def ServerEntry.toJson (server : ServerEntry) : Json :=
  Json.object [("command", Json.ofOption .str server.command), ("args", Json.texts server.args),
    ("env", Json.ofCatalog .str server.env), ("url", Json.ofOption .str server.url)]

def PluginManifest.toJson (manifest : PluginManifest) : Json :=
  Json.object [("id", .str manifest.id), ("display_name", .str manifest.displayName),
    ("version", .str manifest.version),
    ("config_schema", .arr (manifest.configSchema.map ConfigField.toJson)),
    ("execution", manifest.execution.toJson),
    ("servers", Json.ofCatalog ServerEntry.toJson manifest.servers)]

end AssistantEngine
