import AssistantEngine.Artifact.Store
import AssistantEngine.Chat.Model
import AssistantEngine.Checkpoint.Table
import AssistantEngine.Graph.Compiled
import AssistantEngine.Plugin.Registry
import AssistantEngine.Plugin.Server
import AssistantEngine.Workflow.Source

/-!
The world that an engine works in: what it reads and writes, whom it talks to, and which of
the things it opened are still open.
-/

namespace AssistantEngine

structure World where
  files : FileSystem := {}
  source : SpecSource := .memory {}
  database : Database := {}
  registry : PluginRegistry
  artifacts : ArtifactStore
  /-- How many records were ever registered. -/
  registered : Nat := 0
  model : ChatModel
  /-- What is found at the other end of a transport. -/
  reach : Transport → Except Fault ToolServer
  connections : List Connection := []
  exchanges : List Exchange := []
  /-- All plugin runtimes there have been, each in the place of its number. -/
  plugins : List PluginRuntime := []
  /-- The plugin runtimes that have given up their connection. -/
  closedPlugins : List Nat := []
  singletons : Catalog PluginRuntime := []
  /-- The singletons that someone is about to make. -/
  reserved : List String := []
  storeCount : Nat := 0
  closedStores : List Nat := []

namespace World

def record (world : World) (exchange : Exchange) : World :=
  { world with exchanges := world.exchanges ++ [exchange] }

def connection? (world : World) (id : ConnectionId) : Option Connection := world.connections[id]?

def updateConnection (world : World) (id : ConnectionId) (change : Connection → Connection) :
    World :=
  { world with connections := world.connections.modify id change }

/-- Whether a plugin runtime has no connection, be it that it gave it up or never had one. -/
def isClosed (world : World) (plugin : PluginRuntime) : Bool :=
  !plugin.isActive || world.closedPlugins.contains plugin.number

def isStoreClosed (world : World) (store : CheckpointStore) : Bool :=
  world.closedStores.contains store.number

/-- Keeps a record under a new identifier. -/
def registerRecord (world : World) (record : Record) : String × World :=
  let id := s!"artifact-{world.registered + 1}"
  (id, { world with
    artifacts := world.artifacts.register id record
    registered := world.registered + 1 })

end World

end AssistantEngine
