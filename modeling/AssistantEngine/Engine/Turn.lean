import AssistantEngine.Engine.Checkpoints
import AssistantEngine.Engine.Plugins

/-!
Turns. A turn takes the user's text, lets the assistant in control answer and call tools
until it calls none or the steps are used up, and saves the thread. Control passes where a
handoff tool is called; the first one of an answer counts. A turn that fails leaves no trace
in the thread.
-/

namespace AssistantEngine

namespace CompiledRuntime

open Activity

def askModel (request : ChatRequest) : Activity World (Except Fault ChatMessage) := do
  let answer ← transact fun world =>
    let (answer, model) := world.model.ask request
    (answer, { world with model := model })
  giveWay
  sleep answer.delay
  return answer.result

/-- What one tool call comes to: the text for the model, the envelope of a plugin's result,
and where control is to pass to. -/
structure ToolOutcome where
  content : String
  artifact : Option Envelope := none
  transfer : Option String := none

/-- Makes one tool call of an assistant; `transfer` is where control is to pass to so far. -/
def answerCall (assistant : AssistantRuntime) (transfer : Option String) (call : ToolCall) :
    Activity World ToolOutcome :=
  match assistant.resolve? call.name with
  | some (.handoff tool) =>
    match transfer with
    | some pending =>
      return {
        content := s!"Transfer to {tool.destination} skipped: already transferring to {pending}"
        transfer := some pending }
    | none =>
      return { content := tool.acknowledgement, transfer := some tool.destination }
  | some (.plugin plugin) => do
    match ← plugin.callTool call.name call.arguments with
    | .ok result =>
      return { content := result.content, artifact := some result.envelope, transfer := transfer }
    | .error fault => return { content := "Error: " ++ fault.message, transfer := transfer }
  | none => return { content := s!"Error: unknown tool '{call.name}'", transfer := transfer }

/-- The tool messages that answer calls, and where control is to pass to. -/
def answerCalls (assistant : AssistantRuntime) :
    List ToolCall → Option String → Activity World (List ChatMessage × Option String)
  | [], transfer => return ([], transfer)
  | call :: rest, transfer => do
    let outcome ← answerCall assistant transfer call
    let (messages, transfer) ← answerCalls assistant rest outcome.transfer
    return (ChatMessage.toolResult call outcome.content outcome.artifact :: messages, transfer)

/-- What an assistant asks the model: its instructions, if it has any, and the thread. -/
def requestOf (assistant : AssistantRuntime) (messages : List ChatMessage) : ChatRequest :=
  { messages :=
      (if assistant.instructions.isEmpty then []
        else [ChatMessage.system assistant.instructions]) ++ messages
    tools := assistant.toolDefinitions }

def strayFault (active : String) : Fault :=
  .internal s!"active assistant '{active}' is not in the graph"

/-- Where a turn stands: who has control, the thread's messages, and the envelopes of the
plugin results so far. -/
structure Progress where
  active : String
  messages : List ChatMessage
  artifacts : List Envelope := []

namespace Progress

/-- After an answer of the model and the tool messages that answer its calls. -/
def add (progress : Progress) (reply : ChatMessage) (answers : List ChatMessage)
    (transfer : Option String) : Progress :=
  { active := transfer.getD progress.active
    messages := progress.messages ++ [reply] ++ answers
    artifacts := progress.artifacts ++ answers.filterMap (·.artifact) }

end Progress

/-- Lets the assistants answer, for so many steps at most. -/
def route (assistants : Catalog AssistantRuntime) :
    Nat → Progress → Activity World (Except Fault Progress)
  | 0, progress => return .ok progress
  | steps + 1, progress =>
    match assistants.find? progress.active with
    | none => return .error (strayFault progress.active)
    | some assistant => do
      match ← askModel (requestOf assistant progress.messages) with
      | .error fault => return .error fault
      | .ok reply =>
        let reply := { reply with name := some assistant.name }
        if reply.toolCalls.isEmpty then return .ok (progress.add reply [] none)
        else
          let (answers, transfer) ← answerCalls assistant reply.toolCalls none
          route assistants steps (progress.add reply answers transfer)

/-- The persisted assistant if the graph has it, else the default one. -/
def firstActive (assistants : Catalog AssistantRuntime) (default : String)
    (persisted : Option String) : String :=
  (persisted.filter assistants.contains).getD default

/-- The state after a turn, before it is saved, and the envelopes of the plugin results. -/
def takeTurn (runtime : CompiledRuntime) (state : ThreadState) :
    Activity World (Except Fault (ThreadState × List Envelope)) :=
  match runtime.topology with
  | .fallback _ => do
    match ← askModel { messages := state.messages } with
    | .error fault => return .error fault
    | .ok reply => return .ok ({ state with messages := state.messages ++ [reply] }, [])
  | .multiAgent assistants default maxSteps => do
    let active := firstActive assistants default state.activeAssistant
    match ← route assistants maxSteps { active := active, messages := state.messages } with
    | .error fault => return .error fault
    | .ok progress =>
      return .ok ({ messages := progress.messages, activeAssistant := some progress.active },
        progress.artifacts)

/-- Takes one turn on a thread and saves the thread. -/
def invoke (runtime : CompiledRuntime) (thread text : String) :
    Activity World (Except Fault RunOutput) := do
  match ← runtime.checkpoints.load thread with
  | .error fault => return .error fault
  | .ok found =>
    let state := found.getD {}
    let asked := { state with messages := state.messages ++ [ChatMessage.user text] }
    match ← takeTurn runtime asked with
    | .error fault => return .error fault
    | .ok (reached, artifacts) =>
      match ← runtime.checkpoints.save thread reached with
      | .error fault => return .error fault
      | .ok _ =>
        return .ok {
          messages := reached.messages.drop state.messages.length
          activeAssistant := reached.activeAssistant
          artifacts := artifacts }

end CompiledRuntime

end AssistantEngine
