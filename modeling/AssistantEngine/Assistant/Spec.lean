import AssistantEngine.Fault
import AssistantEngine.Reading.Field

/-!
Assistant specifications: instructions for the model, and links to plugins. A link says
how the plugin is configured and which of its tools the assistant sees under what names.
-/

namespace AssistantEngine

open Reading

/-- A change to one tool of a linked plugin. -/
structure ToolOverride where
  name : String
  enabled : Option Bool := none
  rename : Option String := none
  description : Option String := none
deriving DecidableEq, Repr

structure PluginLink where
  registryId : String
  enabled : Bool := true
  toolsDefaultEnabled : Bool := true
  tools : List ToolOverride := []
  config : Catalog Json := []
deriving DecidableEq

structure AssistantSpec where
  id : String
  name : String
  instructions : String := ""
  plugins : List PluginLink := []
deriving DecidableEq

namespace PluginLink

/-- Whether the link takes the plugin as it is. -/
def isPlain (link : PluginLink) : Bool :=
  link.toolsDefaultEnabled && link.tools.isEmpty && link.config.isEmpty

end PluginLink

/-! ## Reading and writing -/

def ToolOverride.read (datum : Datum) : Reading ToolOverride :=
  fields [["name"], ["enabled"], ["rename"], ["description"]] datum fun
    | [name, enabled, rename, description] => return {
        name := ← required asText name
        enabled := ← nullable asBool enabled
        rename := ← nullable asText rename
        description := ← nullable asText description }
    | _ => failure

def PluginLink.read (datum : Datum) : Reading PluginLink :=
  fields [["registry_id", "registryId"], ["enabled"], ["tools_default_enabled"], ["tools"],
    ["config"]]
    datum fun
    | [registryId, enabled, toolsDefaultEnabled, tools, config] => return {
        registryId := ← required asText registryId
        enabled := ← defaulted true asBool enabled
        toolsDefaultEnabled := ← defaulted true asBool toolsDefaultEnabled
        tools := ← defaulted [] (asList ToolOverride.read) tools
        config := ← defaulted [] (asCatalog asJson) config }
    | _ => failure

namespace AssistantSpec

def read (datum : Datum) : Reading AssistantSpec :=
  fields [["id"], ["name"], ["instructions"], ["plugins"]] datum fun
    | [id, name, instructions, plugins] => return {
        id := ← required asText id
        name := ← required asText name
        instructions := ← defaulted "" asText instructions
        plugins := ← defaulted [] (asList PluginLink.read) plugins }
    | _ => failure

def ofYaml (text : String) : Except Fault AssistantSpec :=
  match Reading.ofYaml? read text with
  | some spec => .ok spec
  | none => .error (.invalidSpec "Failed to parse assistant YAML")

end AssistantSpec

def ToolOverride.toJson (override : ToolOverride) : Json :=
  Json.object [("name", .str override.name), ("enabled", Json.ofOption .bool override.enabled),
    ("rename", Json.ofOption .str override.rename),
    ("description", Json.ofOption .str override.description)]

def PluginLink.toJson (link : PluginLink) : Json :=
  Json.object [("registry_id", .str link.registryId), ("enabled", .bool link.enabled),
    ("tools_default_enabled", .bool link.toolsDefaultEnabled),
    ("tools", .arr (link.tools.map ToolOverride.toJson)), ("config", .obj link.config)]

def AssistantSpec.toJson (spec : AssistantSpec) : Json :=
  Json.object [("id", .str spec.id), ("name", .str spec.name),
    ("instructions", .str spec.instructions),
    ("plugins", .arr (spec.plugins.map PluginLink.toJson))]

end AssistantEngine
