import AssistantEngine.Proofs.Artifact.Retention
import AssistantEngine.Proofs.Engine.Routing

/-!
The rounds of a turn. In every round the model replies once, and each call of its reply is answered
once, in order; a reply without calls ends the turn, and so does the last step. What plugins return
stands in the answers to the calls that reached them, and nowhere else.
-/

namespace AssistantEngine

open Activity (Deed Runs)

namespace CompiledRuntime

/-- What came of one call, and the deeds in which it was made. -/
structure Reaction where
  call : ToolCall
  content : String
  artifact : Option Envelope
  deeds : List (Deed World)

def Reaction.message (reaction : Reaction) : ChatMessage :=
  .toolResult reaction.call reaction.content reaction.artifact

/-- How calls of an assistant go. Only a plugin that succeeds leaves an envelope, whose text is what
the model sees. -/
inductive Settled (others : World → World → Prop) (assistant : AssistantRuntime) :
    Reaction → Prop where
  | acknowledged {call : ToolCall} {tool : HandoffTool}
      (meant : assistant.resolve? call.name = some (.handoff tool)) :
      Settled others assistant ⟨call, tool.acknowledgement, none, []⟩
  | skipped {call : ToolCall} {tool : HandoffTool} (pending : String)
      (meant : assistant.resolve? call.name = some (.handoff tool)) :
      Settled others assistant
        ⟨call, s!"Transfer to {tool.destination} skipped: already transferring to {pending}",
          none, []⟩
  | succeeded {call : ToolCall} {plugin : PluginRuntime} {result : CallResult}
      {deeds : List (Deed World)} {world final : World}
      (meant : assistant.resolve? call.name = some (.plugin plugin))
      (called : Runs others (plugin.callTool call.name call.arguments) world deeds (.ok result)
        final) :
      Settled others assistant ⟨call, result.envelope.modelText, some result.envelope, deeds⟩
  | failed {call : ToolCall} {plugin : PluginRuntime} {fault : Fault} {deeds : List (Deed World)}
      {world final : World} (meant : assistant.resolve? call.name = some (.plugin plugin))
      (called : Runs others (plugin.callTool call.name call.arguments) world deeds (.error fault)
        final) :
      Settled others assistant ⟨call, "Error: " ++ fault.message, none, deeds⟩
  | unknown {call : ToolCall} (meant : assistant.resolve? call.name = none) :
      Settled others assistant ⟨call, s!"Error: unknown tool '{call.name}'", none, []⟩

/-- One reply of the model for an assistant, and what came of its calls. -/
structure Round where
  assistant : AssistantRuntime
  reply : ChatMessage
  reactions : List Reaction
  /-- The deeds in which the model was asked. -/
  asking : List (Deed World)

namespace Round

def messages (round : Round) : List ChatMessage :=
  round.reply :: round.reactions.map Reaction.message

def artifacts (round : Round) : List Envelope := round.reactions.filterMap (·.artifact)

def deeds (round : Round) : List (Deed World) :=
  round.asking ++ round.reactions.flatMap (·.deeds)

/-- The reply is what the model answered, and every call of it has been dealt with once. -/
structure Proper (others : World → World → Prop) (assistants : Catalog AssistantRuntime)
    (round : Round) : Prop where
  member : ∃ name, assistants.find? name = some round.assistant
  replied : ∃ request answer, Replied round.asking request (.ok answer) ∧
    round.reply = { answer with name := some round.assistant.name }
  complete : round.reactions.map (·.call) = round.reply.toolCalls
  settled : ∀ reaction ∈ round.reactions, Settled others round.assistant reaction

end Round

/-- Rounds that follow each other: all but the last one have calls, and the last one has calls only
if it takes the last step. -/
inductive Paced : Nat → List Round → Prop where
  | spent : Paced 0 []
  | last {steps : Nat} {round : Round} (quiet : round.reply.toolCalls = []) :
      Paced (steps + 1) [round]
  | next {steps : Nat} {round : Round} {rounds : List Round}
      (calls : round.reply.toolCalls ≠ []) (rest : Paced steps rounds) :
      Paced (steps + 1) (round :: rounds)

namespace Paced

variable {steps : Nat} {rounds : List Round}

theorem length_le (paced : Paced steps rounds) : rounds.length ≤ steps := by
  induction paced with
  | spent => exact Nat.le_refl 0
  | last quiet => exact Nat.succ_le_succ (Nat.zero_le _)
  | next calls rest induction => exact Nat.succ_le_succ induction

end Paced

variable {others : World → World → Prop} {world final : World} {deeds : List (Deed World)}

/-! ## Calls -/

end CompiledRuntime

end AssistantEngine
