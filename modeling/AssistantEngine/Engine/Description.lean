import AssistantEngine.Engine.Plugins

/-!
Descriptions of what an engine has built and of what it exchanges with tool servers, as JSON.
-/

namespace AssistantEngine

def Transport.toJson (transport : Transport) : Json :=
  let description := ("describe", Json.str transport.describe)
  match transport with
  | .subprocess command args env directory =>
    Json.object [("type", .str "stdio"), ("command", .str command), ("args", Json.texts args),
      ("env", .arr (env.map fun entry => Json.texts [entry.1, entry.2])),
      ("cwd", Json.ofOption .str directory), description]
  | .http url => Json.object [("type", .str "http"), ("url", .str url), description]
  | .eventStream url => Json.object [("type", .str "sse"), ("url", .str url), description]

def Exchange.toJson : Exchange → Json
  | .connect transport =>
    Json.object [("event", .str "connect"), ("transport", transport.toJson)]
  | .call _ transport tool arguments =>
    Json.object [("event", .str "call"), ("to", .str transport.describe), ("tool", .str tool),
      ("arguments", arguments)]
  | .close _ transport =>
    Json.object [("event", .str "close"), ("to", .str transport.describe)]

def HandoffTool.toJson (tool : HandoffTool) : Json :=
  Json.object [("name", .str tool.name), ("destination", .str tool.destination),
    ("description", .str tool.description), ("ack", .str tool.acknowledgement)]

def CheckpointAnswer.toJson : CheckpointAnswer → Json
  | .saved sequence => Json.object [("seq", .int sequence)]
  | .loaded state => Json.ofOption ThreadState.toJson state
  | .threads names => Json.texts names
  | .deleted count => Json.object [("deleted", Json.natural count)]

def ToolInfo.toJson (tool : ToolInfo) : Json :=
  Json.object [("name", .str tool.name), ("description", .str tool.description),
    ("input_schema", tool.inputSchema)]

def RawOutput.toJson (output : RawOutput) : Json :=
  Json.object [("text", Json.texts output.text), ("structured", output.structured.getD .null),
    ("has_structured", .bool output.structured.isSome), ("is_error", .bool output.isError)]

def CallResult.toJson (result : CallResult) : Json :=
  Json.object [("content", .str result.content), ("envelope", result.envelope.toJson)]

namespace World

def describePlugin (world : World) (plugin : PluginRuntime) : Json :=
  Json.object [("id", .str plugin.registryId), ("kind", .str plugin.kind.name),
    ("status", .str plugin.status),
    ("error", Json.ofOption .str plugin.failure?), ("active", .bool plugin.isActive),
    ("closed", .bool (world.isClosed plugin)),
    ("tools", .arr (plugin.tools.map ExposedTool.toJson)),
    ("listed", Json.texts (plugin.enabledTools.map (·.exposedName))),
    ("debug", .str plugin.debug)]

def describeAssistant (world : World) (key : String) (assistant : AssistantRuntime) : Json :=
  Json.object [("key", .str key), ("id", .str assistant.id), ("name", .str assistant.name),
    ("instructions", .str assistant.instructions),
    ("destinations", Json.texts assistant.destinations),
    ("unavailable", Json.ofCatalog .str assistant.unavailable),
    ("handoffs", .arr (assistant.handoffs.map HandoffTool.toJson)),
    ("tools", .arr (assistant.toolDefinitions.map ToolDefinition.toJson)),
    ("model", .str assistant.modelName), ("debug", .str assistant.debug),
    ("plugins", .arr (assistant.plugins.values.map world.describePlugin))]

/-- The members of a runtime's description. -/
def describeRuntime (world : World) (runtime : CompiledRuntime) : List (String × Json) :=
  [("nodes", Json.texts runtime.nodes),
    ("default_assistant", Json.ofOption .str runtime.defaultAssistant?),
    ("scope", .str runtime.checkpoints.scope),
    ("checkpoints_closed", .bool (world.isStoreClosed runtime.checkpoints)),
    ("debug", .str runtime.debug),
    ("assistants", Json.ofOption (fun (assistants : Catalog AssistantRuntime) =>
      .arr (assistants.map fun entry => world.describeAssistant entry.1 entry.2))
      runtime.assistants?)]

end World

end AssistantEngine
