import AssistantEngine.Assistant.Runtime
import AssistantEngine.Text.Debug

/-!
Compiled graphs, ready to take turns. A workflow becomes a graph in which a router passes
control between assistants; where that is not possible, a plain conversation with the model
takes its place.
-/

namespace AssistantEngine

/-- A handle to the checkpoints of one workflow. No two handles have the same number. -/
structure CheckpointStore where
  number : Nat
  scope : String
deriving DecidableEq, Repr

namespace CheckpointStore

def label (store : CheckpointStore) : String := s!"checkpoint store '{store.scope}'"

end CheckpointStore

inductive GraphKind where
  | fallback
  | multiAgent
deriving DecidableEq, Repr

namespace GraphKind

def name : GraphKind → String
  | fallback => "fallback"
  | multiAgent => "multi_agent"

def debug : GraphKind → String
  | fallback => "Fallback"
  | multiAgent => "MultiAgent"

end GraphKind

inductive Topology where
  | fallback (reason : String)
  /-- Assistants by name, and the one that has control when a thread begins. -/
  | multiAgent (assistants : Catalog AssistantRuntime) (default : String) (maxSteps : Nat)

structure CompiledRuntime where
  workflowId : String
  checkpoints : CheckpointStore
  topology : Topology

namespace CompiledRuntime

def kind (runtime : CompiledRuntime) : GraphKind :=
  match runtime.topology with
  | .fallback _ => .fallback
  | .multiAgent .. => .multiAgent

def fallbackReason? (runtime : CompiledRuntime) : Option String :=
  match runtime.topology with
  | .fallback reason => some reason
  | .multiAgent .. => none

def assistants? (runtime : CompiledRuntime) : Option (Catalog AssistantRuntime) :=
  match runtime.topology with
  | .fallback _ => none
  | .multiAgent assistants _ _ => some assistants

def defaultAssistant? (runtime : CompiledRuntime) : Option String :=
  match runtime.topology with
  | .fallback _ => none
  | .multiAgent _ default _ => some default

def nodes (runtime : CompiledRuntime) : List String :=
  match runtime.topology with
  | .fallback _ => ["chat"]
  | .multiAgent .. => ["entry", "router", "exit"]

def debug (runtime : CompiledRuntime) : String :=
  Debug.record "CompiledRuntime" [("workflow_id", Debug.quoted runtime.workflowId),
    ("kind", runtime.kind.debug),
    ("fallback_reason", Debug.option Debug.quoted runtime.fallbackReason?)]

end CompiledRuntime

/-- What a turn yields: the new messages, the assistant that has control afterwards, and the
envelopes of the plugin results, in order. -/
structure RunOutput where
  messages : List ChatMessage
  activeAssistant : Option String
  artifacts : List Envelope := []
deriving DecidableEq

namespace RunOutput

/-- The text of the last assistant message that has one. -/
def reply? (output : RunOutput) : Option String :=
  (output.messages.reverse.find? fun message =>
    message.role = .assistant && !message.content.isEmpty).map (·.content)

def toJson (output : RunOutput) : Json :=
  Json.object [("messages", .arr (output.messages.map ChatMessage.toJson)),
    ("active_assistant", Json.ofOption .str output.activeAssistant),
    ("artifacts", .arr (output.artifacts.map Envelope.toJson))]

end RunOutput

end AssistantEngine
