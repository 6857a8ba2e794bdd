import AssistantEngine.Assistant.Handoff
import AssistantEngine.Assistant.Spec
import AssistantEngine.Chat.Message
import AssistantEngine.Plugin.Runtime

/-!
Assistant runtimes: an assistant with the plugins that came up, the handoff tools for the
assistants it may pass control to, and an index that says to which plugin a tool belongs.
The first plugin that exposes a name keeps it, and handoff tools avoid the names in use.
-/

namespace AssistantEngine

structure AssistantRuntime where
  id : String
  name : String
  instructions : String
  /-- The active plugins by registry id. -/
  plugins : Catalog PluginRuntime := []
  /-- Why the other plugins are missing. -/
  unavailable : Catalog String := []
  destinations : List String := []
  handoffs : List HandoffTool := []
  /-- The registry ids of the plugins that own the exposed names. -/
  owners : Catalog String := []
  modelName : String

/-- What a tool name stands for. -/
inductive ToolTarget where
  | handoff (tool : HandoffTool)
  | plugin (runtime : PluginRuntime)

namespace AssistantRuntime

def claimTool (registryId : String) (owners : Catalog String) (tool : ExposedTool) :
    Catalog String :=
  owners.insertNew tool.exposedName registryId

def claimTools (owners : Catalog String) (plugin : PluginRuntime) : Catalog String :=
  plugin.enabledTools.foldl (claimTool plugin.registryId) owners

def activePlugins (plugins : List PluginRuntime) : Catalog PluginRuntime :=
  Catalog.ofList ((plugins.filter (·.isActive)).map fun plugin => (plugin.registryId, plugin))

def failures (plugins : List PluginRuntime) : Catalog String :=
  Catalog.ofList (plugins.filterMap fun plugin =>
    plugin.failure?.map fun reason => (plugin.registryId, reason))

def toolOwners (plugins : List PluginRuntime) : Catalog String :=
  (plugins.filter (·.isActive)).foldl claimTools []

def ofPlugins (spec : AssistantSpec) (modelName : String) (plugins : List PluginRuntime)
    (destinations : List String) : AssistantRuntime :=
  let owners := toolOwners plugins
  { id := spec.id
    name := spec.name
    instructions := spec.instructions
    plugins := activePlugins plugins
    unavailable := failures plugins
    destinations := destinations
    handoffs := HandoffTool.forDestinations owners.keys destinations
    owners := owners
    modelName := modelName }

def pluginDefinitions (assistant : AssistantRuntime) (registryId : String)
    (plugin : PluginRuntime) : List ToolDefinition :=
  (plugin.enabledTools.filter fun tool =>
    assistant.owners.find? tool.exposedName == some registryId).map fun tool =>
      { name := tool.exposedName
        description := tool.description
        parameters := tool.inputSchema }

/-- Handoff tools take no arguments. -/
def noParameters : Json :=
  Json.object [("type", .str "object"), ("properties", Json.object [])]

def handoffDefinition (tool : HandoffTool) : ToolDefinition :=
  { name := tool.name, description := tool.description, parameters := noParameters }

/-- What is advertised to the model: the tools of the plugins, then the handoff tools. -/
def toolDefinitions (assistant : AssistantRuntime) : List ToolDefinition :=
  (assistant.plugins.flatMap fun (registryId, plugin) =>
    assistant.pluginDefinitions registryId plugin) ++
  assistant.handoffs.map handoffDefinition

def resolve? (assistant : AssistantRuntime) (name : String) : Option ToolTarget :=
  match assistant.handoffs.find? (·.name = name) with
  | some tool => some (.handoff tool)
  | none =>
    (assistant.owners.find? name).bind fun registryId =>
      (assistant.plugins.find? registryId).map .plugin

def debug (assistant : AssistantRuntime) : String :=
  Debug.record "AssistantRuntime" [("id", Debug.quoted assistant.id),
    ("name", Debug.quoted assistant.name),
    ("plugins", Debug.listed (assistant.plugins.keys.map Debug.quoted)),
    ("destinations", Debug.listed (assistant.destinations.map Debug.quoted))]

end AssistantRuntime

end AssistantEngine
