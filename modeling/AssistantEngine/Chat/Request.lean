import AssistantEngine.Chat.Message
import AssistantEngine.Settings.Basic

/-!
Requests to hosted models: the part that every form of conversation has, and the address that
they go to.
-/

namespace AssistantEngine

namespace ModelSettings

/-- The sampling temperature as requests carry it; a value that is not finite counts as zero. -/
def temperatureJson (temperature : Binary64) : Json :=
  if temperature.isFinite then .real temperature else .int 0

/-- What requests of both forms say: the model, how long its answer may be, the messages, and
the tools and the temperature if there are any. -/
def requestMembers (settings : ModelSettings) (messages tools : List Json) :
    List (String × Json) :=
  [("model", .str settings.model), ("max_tokens", Json.natural settings.maxTokens),
    ("messages", .arr messages)] ++
  (if tools.isEmpty then [] else [("tools", .arr tools)]) ++
  (settings.temperature.map fun value => ("temperature", temperatureJson value)).toList

/-- The base address with a path below it. -/
def address (settings : ModelSettings) (path : String) : String :=
  String.ofList (settings.baseUrl.toList.reverse.dropWhile (· = '/')).reverse ++ path

end ModelSettings

end AssistantEngine
