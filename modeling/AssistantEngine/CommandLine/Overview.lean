import AssistantEngine.CommandLine.Launch
import AssistantEngine.Graph.Snapshot
import AssistantEngine.Json.Printer

/-!
What the commands `plugins` and `inspect` show: the manifests that were found, and the graph
that a workflow was compiled to.
-/

namespace AssistantEngine

namespace CommandLine

def fieldOverview (field : ConfigField) : Json :=
  Json.object [("name", .str field.name), ("type", .str field.type.name),
    ("required", .bool field.required), ("secret", .bool field.secret)]

def manifestOverview (manifest : PluginManifest) : Json :=
  Json.object [("id", .str manifest.id), ("displayName", .str manifest.displayName),
    ("version", .str manifest.version), ("mode", .str manifest.execution.mode.name),
    ("configFree", .bool manifest.isConfigFree),
    ("config", .arr (manifest.configSchema.map fieldOverview)),
    ("servers", Json.texts manifest.servers.keys), ("dir", .str manifest.baseDirectory)]

def registryOverview (registry : PluginRegistry) : Json :=
  Json.object [("count", Json.natural registry.size), ("dirs", Json.texts registry.directories),
    ("plugins", .arr (registry.list.map manifestOverview))]

def pluginOverview (plugin : PluginRuntime) : Json :=
  Json.object [("id", .str plugin.registryId), ("kind", .str plugin.kind.name),
    ("status", .str plugin.status),
    ("tools", Json.texts (plugin.enabledTools.map (·.exposedName)))]

def assistantOverview (assistant : AssistantRuntime) : Json :=
  Json.object [("id", .str assistant.id), ("name", .str assistant.name),
    ("destinations", Json.texts assistant.destinations),
    ("handoffTools", Json.texts (assistant.handoffs.map (·.name))),
    ("plugins", .arr (assistant.plugins.values.map pluginOverview)),
    ("unavailable", Json.ofCatalog .str assistant.unavailable)]

/-- A runtime, the time at which it was built, and the cache that holds it. -/
def runtimeOverview (clock : String) (snapshot : List SnapshotRow) (runtime : CompiledRuntime) :
    Json :=
  Json.object [("workflowId", .str runtime.workflowId), ("kind", .str runtime.kind.name),
    ("nodes", Json.texts runtime.nodes),
    ("fallbackReason", Json.ofOption .str runtime.fallbackReason?),
    ("defaultAssistant", Json.ofOption .str runtime.defaultAssistant?),
    ("builtAt", .str clock),
    ("assistants", .arr ((runtime.assistants?.getD []).values.map assistantOverview)),
    ("cache", .arr (snapshot.map SnapshotRow.toJson))]

/-- The overview of a workflow's runtime, which is built for it. -/
def inspect (clock workflow : String) (client : Client) : Except Fault Json × Client :=
  client.borrow workflow fun client _ runtime =>
    (runtimeOverview clock client.state.snapshot runtime, client)

end CommandLine

end AssistantEngine
