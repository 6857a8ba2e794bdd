import AssistantEngine.Engine.Stage
import AssistantEngine.Json.Member

/-!
Scenarios: the behaviour of tool servers, of the model and of builds, and what is asked of
checkpoints, prescribed as JSON.
-/

namespace AssistantEngine

namespace Fault

/-- A fault by the name of its kind; of an unknown kind it counts as internal. -/
def ofJson (value : Json) : Fault :=
  ⟨(FaultKind.ofName? (value.textAt "kind")).getD .internal, value.textAt "message"⟩

end Fault

namespace RawOutput

def ofJson (value : Json) : RawOutput :=
  { text := value.textsAt "text"
    structured := value.member? "structured"
    isError := value.boolAt "is_error" }

end RawOutput

namespace ToolServer

def toolOfJson (value : Json) : ToolInfo :=
  { name := value.textAt "name"
    description := value.textAt "description"
    inputSchema := (value.member? "input_schema").getD (Json.object [("type", .str "object")]) }

def outputOfJson (value : Json) : Except Fault RawOutput :=
  match value.member? "error" with
  | some fault => .error (Fault.ofJson fault)
  | none => .ok (RawOutput.ofJson value)

/-- A server that goes by a name in its faults. -/
def ofJson (name : String) (value : Json) : ToolServer :=
  let failure := value.textAt "fail"
  { connectDelay := value.naturalAt "delay_ms"
    connectFault :=
      if failure = "connect" then some (.handshake s!"server crashed: {name}") else none
    listDelay := value.naturalAt "list_delay_ms"
    tools :=
      if failure = "list" then .error (.handshake s!"cannot list tools: {name}")
      else .ok ((value.listAt "tools").map toolOfJson)
    answer := assigned ((value.catalogAt "results").mapValues fun outputs =>
      (outputs.asArray?.getD []).map outputOfJson) }

def refused (name : String) : Except Fault ToolServer :=
  .error (.handshake s!"connection refused: {name}")

end ToolServer

namespace World

/-- Puts a server behind all transports of a description, or none. -/
def setServer (world : World) (name : String) (server : Option Json) : World :=
  { world with
    reach := fun transport =>
      if transport.describe = name then
        match server with
        | some value => .ok (ToolServer.ofJson name value)
        | none => ToolServer.refused name
      else world.reach transport }

/-- Prepares the answers to the next requests that have none prepared. -/
def prepareAnswers (world : World) (prepared : Nat) (answers : List ModelAnswer) : World :=
  { world with
    model := world.model.prepare (max prepared world.model.requests.length) answers }

end World

/-- A message of the assistant, unless another role is given; without any members it is an
empty one. -/
def ChatMessage.prescribed (value : Json) : Except Fault ChatMessage :=
  let members :=
    match value with
    | .obj members => members
    | _ => []
  let message := Json.obj (Catalog.insertNew members "role" (.str "assistant"))
  match Reading.ofJson? ChatMessage.read message with
  | some message => .ok message
  | none => .error (.internal "JSON error")

/-- An answer of the model: a fault, or a message. -/
def ModelAnswer.ofJson (value : Json) : ModelAnswer :=
  { delay := value.naturalAt "delay_ms"
    result :=
      match value.member? "error" with
      | some fault => .error (Fault.ofJson fault)
      | none => ChatMessage.prescribed value }

/-- A model with prepared answers; afterwards it only says that it is done. -/
def ChatModel.scripted (answers : List ModelAnswer) : ChatModel :=
  .ofList "script" answers { result := .ok (.assistant "(done)") }

/-! ## Checkpoints -/

/-- A row that no store saved; it is older than all others. -/
def CheckpointRow.prescribed (value : Json) : CheckpointRow :=
  { scope := value.textAt "scope"
    thread := value.textAt "thread"
    sequence := Database.sequenceFor ((value.naturalAt? "seq").getD 1)
    state := value.textAt "state"
    createdAt := 0 }

/-- What a store is asked for; the only thing that may be missing is the state to save. -/
def CheckpointAction.ofJson? (value : Json) : Option CheckpointAction :=
  let thread := value.textAt "thread"
  match value.textAt "do" with
  | "save" => (Reading.ofJson? ThreadState.read (value.valueAt "state")).map (.save thread)
  | "load" => some (.load thread)
  | "threads" => some .threads
  | _ => some (.deleteThread thread)

/-! ## Builds -/

namespace Stage

/-- The next prescription for a build, which is noted. -/
def nextBuild (id : RuntimeCache.BuildId) : Activity Stage Json :=
  Activity.transact fun stage =>
    (stage.builds.headD (Json.object []),
      { stage with builds := stage.builds.drop 1 }.note (.build id))

/-- A graph without assistants, and a scope that holds labels. -/
def prescribedGraph (id : RuntimeCache.BuildId) (build : Json) (store : CheckpointStore) :
    RuntimeCache.Outcome CompiledRuntime String :=
  let scope : Scope String := { owner := id.key, resources := build.textsAt "resources" }
  let runtime (topology : Topology) : CompiledRuntime := ⟨id.key, store, topology⟩
  if build.textAt "outcome" = "fallback" then
    let reason := build.textAt "reason"
    .fallback ⟨runtime (.fallback reason), scope⟩ reason
  else .workflow ⟨runtime (.multiAgent [] "Nobody" 3), scope⟩

/-- A build as it is prescribed. -/
def prescribedBuild (id : RuntimeCache.BuildId) :
    Activity Stage (RuntimeCache.Outcome CompiledRuntime String) := do
  let build ← nextBuild id
  Activity.sleep (build.naturalAt "delay_ms")
  match build.textAt "outcome" with
  | "fail" => return .failed (Fault.ofJson build)
  | "panic" => return .panicked
  | _ =>
    match ← perform (CheckpointStore.openFor id.key) with
    | .error fault => return .failed fault
    | .ok store => return prescribedGraph id build store

/-- A builder that follows the prescriptions; what it opens are labels. -/
def prescribedBuilder : RuntimeCache.Builder Stage CompiledRuntime String :=
  { build := prescribedBuild, release := fun label => Activity.modify (note (.release label)) }

end Stage

end AssistantEngine
