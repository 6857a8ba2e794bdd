import AssistantEngine.Chat.OpenAi
import AssistantEngine.Proofs.Chat.Gathering
import AssistantEngine.Proofs.Json.Texts

/-!
Messages with calls, sent and read back. In blocks, a message comes back as it was. Where the
arguments of calls travel as texts, it comes back exactly if every value among them comes back from
its own text.
-/

namespace AssistantEngine

variable {message : ChatMessage}

/-! ## Values and their texts -/

/-- A value comes back from its compact text. -/
def Json.ReadsBack (value : Json) : Prop := Json.parse value.compact = some value

theorem Json.Proper.readsBack_iff {value : Json} (proper : value.Proper) :
    value.ReadsBack ↔ value.depth ≤ Json.deepest := by
  unfold Json.ReadsBack
  rw [Json.parse_compact proper]
  split <;> simp_all

theorem Json.readsBack_empty : (Json.object []).ReadsBack :=
  (Json.Proper.readsBack_iff (Json.proper_object (by simp))).mpr (by decide)

/-- A message of an assistant that says and calls what another one does. -/
def ChatMessage.repeated (message : ChatMessage) : ChatMessage :=
  { ChatMessage.assistant message.content with toolCalls := message.toolCalls }

/-! ## Arguments as texts -/

namespace OpenAi

/-- A call as it comes back. -/
def returned (call : ToolCall) : ToolCall :=
  { call with arguments := (Json.parse call.arguments.compact).getD (Json.object []) }

theorem callOf?_callJson (call : ToolCall) : callOf? (callJson call) = some (returned call) := by
  simp [callOf?, callJson, returned, argumentsOf, Json.member?_object, Json.asText?]

theorem member?_content (message : ChatMessage) :
    (messageJson message).member? "content" = some (.str message.content) := by
  rw [messageJson, Json.member?_object]
  cases message.toolCalls <;> cases message.toolCallId <;> simp

theorem member?_toolCalls (calls : message.toolCalls ≠ []) :
    (messageJson message).member? "tool_calls" =
      some (.arr (message.toolCalls.map callJson)) := by
  rw [messageJson, Json.member?_object]
  cases message.toolCallId <;> simp [calls]

/-- A message comes back with its content, and with its calls as they do. -/
theorem messageOf_messageJson (calls : message.toolCalls ≠ []) :
    messageOf (messageJson message) =
      { message.repeated with toolCalls := message.toolCalls.map returned } := by
  have content : (messageJson message).textAt "content" = message.content := by
    rw [Json.textAt, Json.textAt?, member?_content]
    rfl
  have listed : (messageJson message).listAt "tool_calls" = message.toolCalls.map callJson := by
    rw [Json.listAt, member?_toolCalls calls]
    rfl
  rw [messageOf, content, listed, List.filterMap_map]
  have each : callOf? ∘ callJson = fun call => some (returned call) := funext callOf?_callJson
  rw [each, List.filterMap_eq_map']
  rfl

/-- Arguments that cannot be read count as empty, and empty ones can be read. -/
theorem returned_eq_iff {call : ToolCall} : returned call = call ↔ call.arguments.ReadsBack := by
  obtain ⟨id, name, arguments⟩ := call
  simp only [returned, ToolCall.mk.injEq, true_and, Json.ReadsBack]
  cases read : Json.parse arguments.compact with
  | some value => simp
  | none =>
      have unreadable : Json.object [] ≠ arguments := by
        rintro rfl
        exact absurd (Json.readsBack_empty.symm.trans read) (by simp)
      simpa using unreadable

theorem repeated_iff :
    { message.repeated with toolCalls := message.toolCalls.map returned } = message.repeated ↔
      ∀ call ∈ message.toolCalls, call.arguments.ReadsBack := by
  have calls : message.toolCalls.map returned = message.toolCalls ↔
      ∀ call ∈ message.toolCalls, returned call = call := by
    conv_lhs => rhs; rw [← List.map_id message.toolCalls]
    exact List.map_inj_left
  simp only [ChatMessage.repeated, ChatMessage.mk.injEq, true_and, and_true, calls,
    returned_eq_iff]

end OpenAi

/-! ## Arguments in blocks -/

namespace Anthropic

theorem textOf?_textBlock (text : String) : textOf? (textBlock text) = some text := by
  simp [textOf?, textBlock, hasType, Json.textAt?, Json.member?_object, Json.asText?]

theorem textOf?_callBlock (call : ToolCall) : textOf? (callBlock call) = none := by
  simp [textOf?]

theorem callOf?_textBlock (text : String) : callOf? (textBlock text) = none := by
  simp [callOf?]

theorem callOf?_callBlock (call : ToolCall) : callOf? (callBlock call) = some call := by
  simp [callOf?, callBlock, hasType, Json.textAt?, Json.member?_object, Json.asText?]

/-- The blocks of a text and calls hold just these; an empty text needs no block. -/
theorem messageOf_callBlocks (content : String) (calls : List ToolCall) :
    messageOf (callBlocks content calls) =
      { ChatMessage.assistant content with toolCalls := calls } := by
  have texts : (callBlocks content calls).filterMap textOf? =
      if content.isEmpty then [] else [content] := by
    have none : (calls.map callBlock).filterMap textOf? = [] := by
      simp [List.filterMap_map, textOf?_callBlock]
    rw [callBlocks, List.filterMap_append, none, List.append_nil]
    split <;> simp [textOf?_textBlock]
  have called : (callBlocks content calls).filterMap callOf? = calls := by
    have all : (calls.map callBlock).filterMap callOf? = calls := by
      simp [List.filterMap_map, callOf?_callBlock]
    have front : (if content.isEmpty then [] else [textBlock content]).filterMap callOf? = [] := by
      split <;> simp [callOf?_textBlock]
    rw [callBlocks, List.filterMap_append, all, front, List.nil_append]
  rw [messageOf, texts, called]
  by_cases silent : content = ""
  · subst silent
    rfl
  · simp [silent, Text.join]

theorem joined_of_ne_results {turn : Turn} (other : ∀ results, turn ≠ .results results)
    (made later : List Turn) : joined made (turn :: later) = made ++ turn :: later := by
  cases made using List.reverseRecOn with
  | nil => rfl
  | append_singleton made last =>
      rw [joined_concat, List.append_assoc]
      cases last with
      | results results =>
          cases turn with
          | results more => exact absurd rfl (other more)
          | _ => rfl
      | _ => rfl

/-- A message with calls has a turn of its own, wherever it is in a conversation. -/
theorem turns_around_calls (role : message.role = .assistant) (calls : message.toolCalls ≠ [])
    (earlier later : List ChatMessage) :
    turns (earlier ++ message :: later) =
      turns earlier ++ .calls message.content message.toolCalls :: turns later := by
  rw [turns_append, turns_cons_of_calls role calls, joined_of_ne_results (by simp)]

end Anthropic

/-! ## Both ways -/

/-- As the message of a choice, a message with calls comes back with its content and its calls
exactly if the arguments of each call come back from their texts. As the blocks that any request
sends for it, it always does. -/
theorem ChatMessage.returns (role : message.role = .assistant) (calls : message.toolCalls ≠ []) :
    (∀ response choice, response.member? "choices" = some (.arr [choice]) →
      choice.member? "message" = some (OpenAi.messageJson message) →
      (OpenAi.ofResponse response = .ok message.repeated ↔
        ∀ call ∈ message.toolCalls, call.arguments.ReadsBack)) ∧
    ∀ (settings : ModelSettings) (earlier later : List ChatMessage) (tools : List ToolDefinition),
      ∃ turn blocks,
        (Anthropic.requestJson settings ⟨earlier ++ message :: later, tools⟩).member? "messages" =
          some (.arr ((Anthropic.turns earlier).map Anthropic.turnJson ++
            turn :: (Anthropic.turns later).map Anthropic.turnJson)) ∧
        turn.member? "role" = some (.str "assistant") ∧
        turn.member? "content" = some (.arr blocks) ∧
        ∀ response, response.member? "content" = some (.arr blocks) →
          Anthropic.ofResponse response = .ok message.repeated := by
  constructor
  · intro response choice choices chosen
    have read : OpenAi.ofResponse response =
        .ok (OpenAi.messageOf (OpenAi.messageJson message)) := by
      simp [OpenAi.ofResponse, Json.listAt, choices, Json.asArray?, chosen]
    rw [read, OpenAi.messageOf_messageJson calls, Except.ok.injEq]
    exact OpenAi.repeated_iff
  · intro settings earlier later tools
    let turn := Anthropic.turnJson (.calls message.content message.toolCalls)
    refine ⟨turn, Anthropic.callBlocks message.content message.toolCalls, ?_, ?_, ?_, ?_⟩
    · rw [Anthropic.member?_messages, Anthropic.turns_around_calls role calls, List.map_append,
        List.map_cons]
    · simp [turn, Anthropic.turnJson, Json.member?_object]
    · simp [turn, Anthropic.turnJson, Json.member?_object]
    · intro response content
      simp only [Anthropic.ofResponse, content, Option.bind_some, Json.asArray?,
        Anthropic.messageOf_callBlocks]
      rfl

/-- Two calls and no text. -/
def askingMessage : ChatMessage where
  role := .assistant
  toolCalls := [
    { id := "call_1", name := "lookup", arguments := .object [("q", .str "rust"), ("n", .int 2)] },
    { id := "call_2", name := "count" }]
  name := some "Ann"

theorem askingMessage_readsBack :
    ∀ call ∈ askingMessage.toolCalls, call.arguments.ReadsBack := by
  simp only [askingMessage, List.forall_mem_cons]
  refine ⟨?_, ?_, nofun⟩
  · have proper : (Json.object [("q", .str "rust"), ("n", .int 2)]).Proper :=
      Json.proper_object (by simp [Json.Proper, Json.Representable, twoTo, Json.wordLimit])
    exact proper.readsBack_iff.mpr (by decide)
  · have proper : Json.null.Proper := trivial
    exact proper.readsBack_iff.mpr (by decide)

/-- The calls come back from a choice, and from a turn that is read as a response. -/
theorem ChatMessage.returns_asking :
    askingMessage.role = .assistant ∧ askingMessage.toolCalls ≠ [] ∧
      OpenAi.ofResponse (.object [("choices",
          .arr [.object [("message", OpenAi.messageJson askingMessage)]])]) =
        .ok askingMessage.repeated ∧
      ∃ first turn blocks,
        (Anthropic.requestJson {} ⟨[.user "find rust", askingMessage], []⟩).member? "messages" =
          some (.arr [first, turn]) ∧
        turn.member? "content" = some (.arr blocks) ∧
        Anthropic.ofResponse turn = .ok askingMessage.repeated := by
  have role : askingMessage.role = .assistant := rfl
  have calls : askingMessage.toolCalls ≠ [] := nofun
  obtain ⟨chosen, sent⟩ := ChatMessage.returns role calls
  obtain ⟨turn, blocks, messages, -, content, read⟩ := sent {} [.user "find rust"] [] []
  refine ⟨role, calls, ?_, _, turn, blocks, messages, content, read turn content⟩
  exact (chosen _ _ (by simp [Json.member?_object]; rfl) (by simp [Json.member?_object])).mpr
    askingMessage_readsBack

end AssistantEngine
