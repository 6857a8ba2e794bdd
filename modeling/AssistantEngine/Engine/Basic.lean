import AssistantEngine.Engine.Compiler
import AssistantEngine.RuntimeCache.Schedule

/-!
The engine: a runtime cache whose builder is the compiler, in a world with everything that
the compiled graphs need.
-/

namespace AssistantEngine

namespace Engine

/-- What a party that works on a runtime may answer with. -/
abbrev State (Reply : Type) := RuntimeCache.State World CompiledRuntime Resource Reply

abbrev Action (Reply : Type) := RuntimeCache.Action World CompiledRuntime Resource Reply

def builder (settings : Settings) : RuntimeCache.Builder World CompiledRuntime Resource :=
  { build := fun id => Compiler.compile settings id.key, release := Resource.release }

/-- The world of an engine that has just been set up. -/
def world (settings : Settings) (files : FileSystem) (source : SpecSource) (database : Database)
    (model : ChatModel) (reach : Transport → Except Fault ToolServer) : World :=
  { files := files
    source := source
    database := database
    registry := PluginRegistry.load files settings.pluginDirectories
    artifacts := ArtifactStore.ofCapacity settings.resultCacheCapacity
    model := model
    reach := reach }

def start {Reply : Type} (world : World) : State Reply := { world := world }

/-- Closes every cached graph, then every shared plugin runtime. -/
def shutdown {Reply : Type} (call : RuntimeCache.CallId) : Action Reply :=
  .closeAll call PluginRuntime.closeSingletons

end Engine

end AssistantEngine
