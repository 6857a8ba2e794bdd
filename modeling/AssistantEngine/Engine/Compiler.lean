import AssistantEngine.Engine.Turn
import AssistantEngine.Graph.Assembly
import AssistantEngine.RuntimeCache.Entry
import AssistantEngine.Settings.Basic

/-!
Compiling workflows. Whatever is opened on the way goes into the scope of the graph. A
workflow that cannot be built gives way to the plain conversation, together with the reason,
and what its build had opened is released; only a database that cannot be used even for that
is a fault.
-/

namespace AssistantEngine

/-- What a graph keeps open. -/
inductive Resource where
  | checkpoints (store : CheckpointStore)
  | plugin (runtime : PluginRuntime)
deriving DecidableEq

namespace Resource

def label : Resource → String
  | checkpoints store => store.label
  | plugin runtime => s!"plugin '{runtime.registryId}'"

def release : Resource → Activity World Unit
  | checkpoints store => store.release
  | plugin runtime => runtime.close

def releaseAll : List Resource → Activity World Unit
  | [] => return
  | resource :: rest => do
    resource.release
    releaseAll rest

end Resource

namespace Compiler

open Activity

abbrev BuildOutcome := RuntimeCache.Outcome CompiledRuntime Resource

/-- Resolves nodes one after the other. Only the start node has to have an assistant. -/
def resolveNodes (start : String) :
    List WorkflowNode → NodeResolution → Activity World (Except Fault NodeResolution)
  | [], resolution => return .ok resolution
  | node :: rest, resolution => do
    giveWay
    match ← inspect fun world => world.source.assistant world.files node.assistantId with
    | .error fault => return .error fault
    | .ok (some spec) => resolveNodes start rest (resolution.add node spec)
    | .ok none =>
      if node.id = start then
        return .error (.notFound s!"assistant '{node.assistantId}' for start node '{node.id}'")
      else resolveNodes start rest resolution

/-- Makes the runtimes of an assistant's links. Links to unknown plugins are passed over, and
the runtimes that belong to one link go into the scope. -/
def makePlugins (settings : Settings) :
    List PluginLink → Scope Resource → Activity World (List PluginRuntime × Scope Resource)
  | [], scope => return ([], scope)
  | link :: rest, scope => do
    match ← inspect (·.registry.find? link.registryId) with
    | none => makePlugins settings rest scope
    | some manifest =>
      let runtime ← PluginRuntime.ofLink settings.handshakeTimeout manifest link
      let scope := if runtime.kind = .perLink then scope.push (.plugin runtime) else scope
      let (runtimes, scope) ← makePlugins settings rest scope
      return (runtime :: runtimes, scope)

def makeAssistant (settings : Settings) (destinations : Catalog NameSet) (name : String)
    (spec : AssistantSpec) (scope : Scope Resource) :
    Activity World (AssistantRuntime × Scope Resource) := do
  let (plugins, scope) ← makePlugins settings (spec.plugins.filter (·.enabled)) scope
  let modelName ← inspect (·.model.name)
  return (AssistantRuntime.ofPlugins spec modelName plugins ((destinations.find? name).getD []),
    scope)

/-- Makes the assistants in the order of their names. -/
def makeAssistants (settings : Settings) (destinations : Catalog NameSet) :
    List (String × AssistantSpec) → Scope Resource →
      Activity World (Catalog AssistantRuntime × Scope Resource)
  | [], scope => return ([], scope)
  | (name, spec) :: rest, scope => do
    let (assistant, scope) ← makeAssistant settings destinations name spec scope
    let (assistants, scope) ← makeAssistants settings destinations rest scope
    return ((name, assistant) :: assistants, scope)

/-- The graph of a workflow, or the fault that prevents it; the scope in either case. -/
def buildWorkflow (settings : Settings) (spec : WorkflowSpec) (scope : Scope Resource) :
    Activity World (Except Fault CompiledRuntime × Scope Resource) := do
  match spec.validate, spec.startNode with
  | .error fault, _ => return (.error fault, scope)
  | .ok _, .error fault => return (.error fault, scope)
  | .ok _, .ok start =>
    match ← CheckpointStore.openFor spec.id with
    | .error fault => return (.error fault, scope)
    | .ok store =>
      let scope := scope.push (.checkpoints store)
      match ← resolveNodes start.id spec.nodes {} with
      | .error fault => return (.error fault, scope)
      | .ok resolution =>
        let destinations := resolution.destinations spec settings.allowSelfHandoff
        let (assistants, scope) ← makeAssistants settings destinations resolution.specs scope
        match resolution.names.find? start.id with
        | none => return (.error (.build s!"start node '{start.id}' has no assistant"), scope)
        | some name =>
          return (.ok {
            workflowId := spec.id
            checkpoints := store
            topology := .multiAgent assistants name (max settings.maxAgentSteps 1) }, scope)

/-- The plain conversation, in a scope of its own. -/
def buildFallback (id reason : String) : Activity World BuildOutcome := do
  match ← CheckpointStore.openFor id with
  | .error fault => return .failed fault
  | .ok store =>
    let runtime : CompiledRuntime :=
      { workflowId := id, checkpoints := store, topology := .fallback reason }
    return .fallback ⟨runtime, ({ owner := id } : Scope Resource).push (.checkpoints store)⟩ reason

def requestedText : String := "fallback workflow requested"

def notFoundText (id : String) : String := s!"workflow '{id}' not found"

/-- The graph for a workflow id. -/
def compile (settings : Settings) (id : String) : Activity World BuildOutcome := do
  if id = WorkflowSpec.fallbackId then buildFallback id requestedText
  else
    giveWay
    match ← inspect fun world => world.source.workflow world.files id with
    | .error fault => buildFallback id fault.message
    | .ok none => buildFallback id (notFoundText id)
    | .ok (some spec) =>
      match ← buildWorkflow settings spec { owner := id } with
      | (.ok runtime, scope) => return .workflow ⟨runtime, scope⟩
      | (.error fault, scope) =>
        Resource.releaseAll scope.close.1
        buildFallback id fault.message

end Compiler

end AssistantEngine
