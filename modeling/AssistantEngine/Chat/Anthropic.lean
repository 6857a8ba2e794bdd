import AssistantEngine.Chat.Request
import AssistantEngine.Fault
import AssistantEngine.Json.Member

/-!
Conversations as turns of a user and an assistant, made of blocks. What the system says is
taken out of the conversation and sent beside it, and results of tools travel in turns of the
user; results that follow each other share one turn.
-/

namespace AssistantEngine

namespace Anthropic

structure ToolResult where
  callId : Option String
  content : String
deriving DecidableEq, Repr

inductive Turn where
  | user (content : String)
  | results (results : List ToolResult)
  | assistant (content : String)
  | calls (content : String) (calls : List ToolCall)
deriving DecidableEq

def resultOf (message : ChatMessage) : ToolResult := ⟨message.toolCallId, message.content⟩

/-- A result in front of turns joins the results that these begin with. -/
def addResult (result : ToolResult) : List Turn → List Turn
  | .results results :: rest => .results (result :: results) :: rest
  | turns => .results [result] :: turns

/-- The turns of a conversation. -/
def turns : List ChatMessage → List Turn
  | [] => []
  | message :: rest =>
    match message.role with
    | .system => turns rest
    | .tool => addResult (resultOf message) (turns rest)
    | .user => .user message.content :: turns rest
    | .assistant =>
      (if message.toolCalls.isEmpty then .assistant message.content
        else .calls message.content message.toolCalls) :: turns rest

/-- What the system says, with a blank line between one message and the next. -/
def system? (messages : List ChatMessage) : Option String :=
  match messages.filter (·.role = .system) with
  | [] => none
  | contents => some (Text.join "\n\n" (contents.map (·.content)))

/-! ## Requests -/

def resultJson (result : ToolResult) : Json :=
  Json.object [("type", .str "tool_result"),
    ("tool_use_id", Json.ofOption .str result.callId), ("content", .str result.content)]

def textBlock (text : String) : Json := Json.object [("type", .str "text"), ("text", .str text)]

def callBlock (call : ToolCall) : Json :=
  Json.object [("type", .str "tool_use"), ("id", .str call.id), ("name", .str call.name),
    ("input", call.arguments)]

/-- The blocks of a turn with calls; an empty text has none. -/
def callBlocks (content : String) (calls : List ToolCall) : List Json :=
  (if content.isEmpty then [] else [textBlock content]) ++ calls.map callBlock

def turnJson : Turn → Json
  | .user content => Json.object [("role", .str "user"), ("content", .str content)]
  | .results results =>
    Json.object [("role", .str "user"), ("content", .arr (results.map resultJson))]
  | .assistant content => Json.object [("role", .str "assistant"), ("content", .str content)]
  | .calls content calls =>
    Json.object [("role", .str "assistant"), ("content", .arr (callBlocks content calls))]

def toolJson (tool : ToolDefinition) : Json :=
  Json.object [("name", .str tool.name), ("description", .str tool.description),
    ("input_schema", tool.parameters)]

def requestJson (settings : ModelSettings) (request : ChatRequest) : Json :=
  Json.object (
    settings.requestMembers ((turns request.messages).map turnJson) (request.tools.map toolJson) ++
    ((system? request.messages).map fun text => ("system", Json.str text)).toList)

/-! ## Responses -/

def hasType (name : String) (block : Json) : Bool := block.textAt? "type" == some name

def textOf? (block : Json) : Option String :=
  if hasType "text" block then block.textAt? "text" else none

/-- A call; one without an id or a name is none. -/
def callOf? (block : Json) : Option ToolCall :=
  if hasType "tool_use" block then do
    some {
      id := ← block.textAt? "id"
      name := ← block.textAt? "name"
      arguments := (block.member? "input").getD (Json.object []) }
  else none

/-- The texts of the blocks, a line each, and their calls. -/
def messageOf (blocks : List Json) : ChatMessage :=
  { ChatMessage.assistant (Text.join "\n" (blocks.filterMap textOf?)) with
    toolCalls := blocks.filterMap callOf? }

def ofResponse (response : Json) : Except Fault ChatMessage :=
  match (response.member? "content").bind Json.asArray? with
  | some blocks => .ok (messageOf blocks)
  | none => .error (.model "response has no content")

end Anthropic

end AssistantEngine
