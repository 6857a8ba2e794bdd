import AssistantEngine.Chat.Message
import AssistantEngine.Concurrency.Activity
import AssistantEngine.Fault

/-!
Chat models, known by what they answer: a message or a fault, after some time. The answer
may depend on the request and on how many requests came before.
-/

namespace AssistantEngine

structure ModelAnswer where
  delay : Time := 0
  result : Except Fault ChatMessage

structure ChatModel where
  name : String
  answer : Nat → ChatRequest → ModelAnswer
  /-- The requests so far. -/
  requests : List ChatRequest := []

namespace ChatModel

def ask (model : ChatModel) (request : ChatRequest) : ModelAnswer × ChatModel :=
  (model.answer model.requests.length request,
    { model with requests := model.requests ++ [request] })

/-- A model with prepared answers, and one for all further requests. -/
def ofList (name : String) (answers : List ModelAnswer) (otherwise : ModelAnswer) : ChatModel :=
  { name := name, answer := fun number _ => answers.getD number otherwise }

/-- Prepares the answers from a request on; all other requests are answered as before. -/
def prepare (model : ChatModel) (start : Nat) (answers : List ModelAnswer) : ChatModel :=
  { model with
    answer := fun number request =>
      match if number < start then none else answers[number - start]? with
      | some answer => answer
      | none => model.answer number request }

end ChatModel

end AssistantEngine
