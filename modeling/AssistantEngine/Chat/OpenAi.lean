import AssistantEngine.Chat.Request
import AssistantEngine.Fault
import AssistantEngine.Json.Member

/-!
Conversations in the form of chat completions. Every message is sent by itself, and the
arguments of a call travel as a text that holds JSON.
-/

namespace AssistantEngine

namespace OpenAi

def callJson (call : ToolCall) : Json :=
  Json.object [("id", .str call.id), ("type", .str "function"),
    ("function", Json.object [("name", .str call.name),
      ("arguments", .str call.arguments.compact)])]

def messageJson (message : ChatMessage) : Json :=
  Json.object (
    [("role", .str message.role.name), ("content", .str message.content)] ++
    (if message.toolCalls.isEmpty then []
      else [("tool_calls", .arr (message.toolCalls.map callJson))]) ++
    (message.toolCallId.map fun id => ("tool_call_id", Json.str id)).toList)

def toolJson (tool : ToolDefinition) : Json :=
  Json.object [("type", .str "function"),
    ("function", Json.object [("name", .str tool.name), ("description", .str tool.description),
      ("parameters", tool.parameters)])]

def requestJson (settings : ModelSettings) (request : ChatRequest) : Json :=
  Json.object (settings.requestMembers (request.messages.map messageJson)
    (request.tools.map toolJson))

/-! ## Responses -/

/-- Arguments that are missing or do not parse count as empty. -/
def argumentsOf (function : Json) : Json :=
  (((function.member? "arguments").bind Json.asText?).bind Json.parse).getD (Json.object [])

/-- A call; one without an id or a name is none. -/
def callOf? (value : Json) : Option ToolCall := do
  let function ← value.member? "function"
  some {
    id := ← (value.member? "id").bind Json.asText?
    name := ← (function.member? "name").bind Json.asText?
    arguments := argumentsOf function }

def messageOf (value : Json) : ChatMessage :=
  { ChatMessage.assistant (value.textAt "content") with
    toolCalls := (value.listAt "tool_calls").filterMap callOf? }

/-- The message of the first choice. -/
def ofResponse (response : Json) : Except Fault ChatMessage :=
  match ((response.listAt "choices").head?).bind (·.member? "message") with
  | some message => .ok (messageOf message)
  | none => .error (.model "response has no choices")

end OpenAi

end AssistantEngine
