import AssistantEngine.Artifact.Record
import AssistantEngine.Reading.Field

/-!
Chat messages, as threads keep them and as models exchange them.
-/

namespace AssistantEngine

open Reading

inductive Role where
  | system
  | user
  | assistant
  | tool
deriving DecidableEq, Repr

structure ToolCall where
  id : String
  name : String
  arguments : Json := .null
deriving DecidableEq

structure ChatMessage where
  role : Role
  content : String := ""
  toolCalls : List ToolCall := []
  /-- On tool messages: the call that is answered. -/
  toolCallId : Option String := none
  /-- The assistant's name, or on tool messages the tool's. -/
  name : Option String := none
  /-- The envelope of a plugin's result; models never see it. -/
  artifact : Option Envelope := none
deriving DecidableEq

/-- A tool as it is advertised to a model. -/
structure ToolDefinition where
  name : String
  description : String
  parameters : Json
deriving DecidableEq

structure ChatRequest where
  messages : List ChatMessage
  tools : List ToolDefinition := []
deriving DecidableEq

namespace ChatMessage

def system (content : String) : ChatMessage := { role := .system, content := content }

def user (content : String) : ChatMessage := { role := .user, content := content }

def assistant (content : String) : ChatMessage := { role := .assistant, content := content }

/-- The answer to a call. -/
def toolResult (call : ToolCall) (content : String) (artifact : Option Envelope) : ChatMessage :=
  { role := .tool
    content := content
    toolCallId := some call.id
    name := some call.name
    artifact := artifact }

end ChatMessage

/-! ## Reading and writing -/

def Role.name : Role → String
  | system => "system"
  | user => "user"
  | assistant => "assistant"
  | tool => "tool"

def Role.names : List (String × Role) :=
  [("system", .system), ("user", .user), ("assistant", .assistant), ("tool", .tool)]

def ToolCall.read (datum : Datum) : Reading ToolCall :=
  fields [["id"], ["name"], ["arguments"]] datum fun
    | [id, name, arguments] => return {
        id := ← required asText id
        name := ← required asText name
        arguments := ← defaulted .null asJson arguments }
    | _ => failure

def Envelope.read (datum : Datum) : Reading Envelope :=
  fields [["artifact_id"], ["model_text"], ["version"]] datum fun
    | [artifactId, modelText, version] => return {
        artifactId := ← required asText artifactId
        modelText := ← required asText modelText
        version := ← required asText version }
    | _ => failure

def ToolDefinition.read (datum : Datum) : Reading ToolDefinition :=
  fields [["name"], ["description"], ["parameters"]] datum fun
    | [name, description, parameters] => return {
        name := ← required asText name
        description := ← required asText description
        parameters := ← required asJson parameters }
    | _ => failure

def ChatMessage.read (datum : Datum) : Reading ChatMessage :=
  fields [["role"], ["content"], ["tool_calls"], ["tool_call_id"], ["name"], ["artifact"]] datum fun
    | [role, content, toolCalls, toolCallId, name, artifact] => return {
        role := ← required (asChoice Role.names) role
        content := ← defaulted "" asText content
        toolCalls := ← defaulted [] (asList ToolCall.read) toolCalls
        toolCallId := ← nullable asText toolCallId
        name := ← nullable asText name
        artifact := ← nullable Envelope.read artifact }
    | _ => failure

def ToolCall.toJson (call : ToolCall) : Json :=
  Json.object [("id", .str call.id), ("name", .str call.name), ("arguments", call.arguments)]

/-- Fields that are empty are left out, apart from the role and the content. -/
def ChatMessage.toJson (message : ChatMessage) : Json :=
  Json.object (
    [("role", .str message.role.name), ("content", .str message.content)] ++
    (if message.toolCalls.isEmpty then []
      else [("tool_calls", .arr (message.toolCalls.map ToolCall.toJson))]) ++
    (message.toolCallId.map fun id => ("tool_call_id", Json.str id)).toList ++
    (message.name.map fun name => ("name", Json.str name)).toList ++
    (message.artifact.map fun envelope => ("artifact", envelope.toJson)).toList)

def ToolDefinition.toJson (tool : ToolDefinition) : Json :=
  Json.object [("name", .str tool.name), ("description", .str tool.description),
    ("parameters", tool.parameters)]

def ChatRequest.toJson (request : ChatRequest) : Json :=
  Json.object [("messages", .arr (request.messages.map ChatMessage.toJson)),
    ("tools", .arr (request.tools.map ToolDefinition.toJson))]

end AssistantEngine
