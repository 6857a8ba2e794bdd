import AssistantEngine.Chat.Anthropic
import AssistantEngine.Chat.Model
import AssistantEngine.Chat.OpenAi
import AssistantEngine.Http.Exchange

/-!
Models that are asked over HTTP. The settings name the form in which a conversation is sent
and its answer read.
-/

namespace AssistantEngine

inductive ChatAdapter where
  | openAi
  | anthropic
deriving DecidableEq, Repr

namespace ChatAdapter

def names : List (String × ChatAdapter) :=
  [("openai", .openAi), ("opencode", .openAi), ("anthropic", .anthropic), ("claude", .anthropic)]

def ofName? (name : String) : Option ChatAdapter := names.lookup name

def path : ChatAdapter → String
  | openAi => "/chat/completions"
  | anthropic => "/v1/messages"

/-- The headers that carry the key. -/
def headers : ChatAdapter → String → List (String × String)
  | openAi, key => [("authorization", s!"Bearer {key}")]
  | anthropic, key => [("x-api-key", key), ("anthropic-version", "2023-06-01")]

def body : ChatAdapter → ModelSettings → ChatRequest → Json
  | openAi => OpenAi.requestJson
  | anthropic => Anthropic.requestJson

def ofResponse : ChatAdapter → Json → Except Fault ChatMessage
  | openAi => OpenAi.ofResponse
  | anthropic => Anthropic.ofResponse

def request (adapter : ChatAdapter) (settings : ModelSettings) (request : ChatRequest) :
    HttpRequest :=
  { url := settings.address adapter.path
    headers := adapter.headers settings.apiKey ++ [("content-type", "application/json")]
    body := adapter.body settings request }

/-- The JSON that an exchange yields, if all went well. -/
def responseJson : Except HttpFailure HttpResponse → Except Fault Json
  | .error (.notSent reason) => .error (.model s!"HTTP request failed: {reason}")
  | .error (.notRead reason) => .error (.model s!"Failed to read response body: {reason}")
  | .ok response =>
    if response.isSuccess then
      match Json.parse response.body with
      | some value => .ok value
      | none => .error (.model "Failed to parse response JSON")
    else .error (.model s!"API returned {response.statusText}: {response.body}")

/-- Asks for the next message of a conversation. -/
def complete (adapter : ChatAdapter) (network : Network) (settings : ModelSettings)
    (request : ChatRequest) : Except Fault ChatMessage :=
  match responseJson (network (adapter.request settings request)) with
  | .ok value => adapter.ofResponse value
  | .error fault => .error fault

end ChatAdapter

namespace ChatModel

/-- A model as the settings describe it. -/
def hosted (settings : ModelSettings) (network : Network) : ChatModel :=
  { name := settings.model
    answer := fun _ request => {
      result :=
        match ChatAdapter.ofName? settings.adapter with
        | some adapter => adapter.complete network settings request
        | none => .error (.model s!"Unknown adapter type: '{settings.adapter}'") } }

end ChatModel

end AssistantEngine
