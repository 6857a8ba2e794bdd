import Mathlib.Data.List.Chain
import Mathlib.Data.List.Forall2
import AssistantEngine.Chat.Anthropic
import AssistantEngine.Proofs.Catalog

/-!
Conversations as turns. Every message but those of the system is in one turn: a run of tool
messages, as long as it can be, makes one turn of results, and every other message makes a turn of
its own. Where each call has been answered at once, the turn after a turn with calls holds their
results.
-/

namespace AssistantEngine

theorem Json.member?_object (members : List (String × Json)) (key : String) :
    (Json.object members).member? key = (members.reverse.find? (·.1 = key)).map (·.2) :=
  Catalog.find?_ofList members key

namespace Anthropic

variable {messages rest run : List ChatMessage} {message : ChatMessage}
  {segments : List (List ChatMessage)} {segment : List ChatMessage} {turn : Turn}

/-! ## Segments -/

/-- Tool messages only, and at least one. -/
def IsRun (messages : List ChatMessage) : Prop :=
  messages ≠ [] ∧ ∀ message ∈ messages, message.role = .tool

/-- What is said apart from the system. -/
def conversation (messages : List ChatMessage) : List ChatMessage :=
  messages.filter (·.role ≠ .system)

/-- A conversation taken apart into runs of tool messages and single other messages, where no run
follows a run. -/
structure Segments (messages : List ChatMessage) (segments : List (List ChatMessage)) : Prop where
  complete : segments.flatten = conversation messages
  each : ∀ segment ∈ segments,
    IsRun segment ∨ ∃ message, message.role ≠ .tool ∧ segment = [message]
  maximal : segments.IsChain fun before after => ¬(IsRun before ∧ IsRun after)

theorem isRun_singleton : IsRun [message] ↔ message.role = .tool := by
  simp [IsRun]

theorem IsRun.cons (isRun : IsRun run) (role : message.role = .tool) : IsRun (message :: run) :=
  ⟨List.cons_ne_nil _ _, List.forall_mem_cons.mpr ⟨role, isRun.2⟩⟩

theorem conversation_cons (spoken : message.role ≠ .system) (rest : List ChatMessage) :
    conversation (message :: rest) = message :: conversation rest :=
  List.filter_cons_of_pos (by simpa using spoken)

/-- A message makes a segment of its own, unless it is a tool's and a run follows. -/
theorem Segments.cons (parts : Segments rest segments) (spoken : message.role ≠ .system)
    (apart : message.role = .tool → ∀ after ∈ segments.head?, ¬IsRun after) :
    Segments (message :: rest) ([message] :: segments) where
  complete := by
    rw [List.flatten_cons, parts.complete, conversation_cons spoken]
    rfl
  each := by
    refine List.forall_mem_cons.mpr ⟨?_, parts.each⟩
    by_cases role : message.role = .tool
    · exact .inl (isRun_singleton.mpr role)
    · exact .inr ⟨message, role, rfl⟩
  maximal := by
    refine List.isChain_cons.mpr ⟨fun after first both => ?_, parts.maximal⟩
    exact apart (isRun_singleton.mp both.1) after first both.2

/-- A tool message joins the run that follows. -/
theorem Segments.join (parts : Segments rest (run :: segments)) (isRun : IsRun run)
    (role : message.role = .tool) : Segments (message :: rest) ((message :: run) :: segments) where
  complete := by
    rw [conversation_cons (by simp [role]), ← parts.complete]
    rfl
  each := by
    refine List.forall_mem_cons.mpr ⟨.inl (isRun.cons role), ?_⟩
    exact (List.forall_mem_cons.mp parts.each).2
  maximal := by
    obtain ⟨first, later⟩ := List.isChain_cons.mp parts.maximal
    refine List.isChain_cons.mpr ⟨fun after follows both => ?_, later⟩
    exact first after follows ⟨isRun, both.2⟩

/-- Histories in which every assistant message with calls is followed at once by one tool message
for each call, in the order of the calls, and in which there are no other tool messages. -/
inductive Answered : List ChatMessage → Prop where
  | nil : Answered []
  | plain {message : ChatMessage} {rest : List ChatMessage} (noTool : message.role ≠ .tool)
      (noCalls : message.role = .assistant → message.toolCalls = []) (later : Answered rest) :
      Answered (message :: rest)
  | calls {message : ChatMessage} {answers rest : List ChatMessage}
      (role : message.role = .assistant) (calls : message.toolCalls ≠ [])
      (tools : ∀ answer ∈ answers, answer.role = .tool)
      (ids : answers.map (·.toolCallId) = message.toolCalls.map (some ·.id))
      (later : Answered rest) : Answered (message :: (answers ++ rest))

theorem Answered.append (answered : Answered messages) (later : Answered rest) :
    Answered (messages ++ rest) := by
  induction answered with
  | nil => exact later
  | plain noTool noCalls _ induction => exact .plain noTool noCalls induction
  | calls role calls tools ids _ induction =>
      rw [List.cons_append, List.append_assoc]
      exact .calls role calls tools ids induction

/-- Turns in which every turn with calls is followed by one that holds their results, in order. -/
inductive Paired : List Turn → Prop where
  | nil : Paired []
  | plain {turn : Turn} {later : List Turn} (noCalls : ∀ content calls, turn ≠ .calls content calls)
      (paired : Paired later) : Paired (turn :: later)
  | calls {content : String} {calls : List ToolCall} {results : List ToolResult} {later : List Turn}
      (ids : results.map (·.callId) = calls.map (some ·.id)) (paired : Paired later) :
      Paired (.calls content calls :: .results results :: later)

/-- A message that is no tool's and has no calls makes no turn, or one that is no results and has no
calls. -/
theorem turns_cons_of_plain (noTool : message.role ≠ .tool)
    (noCalls : message.role = .assistant → message.toolCalls = []) (rest : List ChatMessage) :
    turns (message :: rest) = turns rest ∨
      ∃ turn, turns (message :: rest) = turn :: turns rest ∧
        (∀ results, turn ≠ .results results) ∧ ∀ content calls, turn ≠ .calls content calls := by
  rw [turns]
  cases role : message.role with
  | system => exact .inl rfl
  | tool => exact absurd role noTool
  | user => exact .inr ⟨_, rfl, nofun, nofun⟩
  | assistant =>
      rw [noCalls role]
      exact .inr ⟨_, rfl, nofun, nofun⟩

theorem turns_cons_of_calls (role : message.role = .assistant) (calls : message.toolCalls ≠ [])
    (rest : List ChatMessage) :
    turns (message :: rest) = .calls message.content message.toolCalls :: turns rest := by
  rw [turns, role]
  dsimp only
  rw [if_neg (by simpa using calls)]

/-- No history of the kind begins with results. -/
theorem Answered.ne_results (answered : Answered messages) (results : List ToolResult)
    (later : List Turn) : turns messages ≠ .results results :: later := by
  induction answered with
  | nil => nofun
  | @plain message rest noTool noCalls answered induction =>
      rcases turns_cons_of_plain noTool noCalls rest with none | ⟨turn, made, other, -⟩
      · rw [none]
        exact induction
      · rw [made]
        exact fun same => other results (List.cons.inj same).1
  | calls role calls tools ids answered induction =>
      rw [turns_cons_of_calls role calls]
      nofun

theorem addResult_of_ne_results {made : List Turn}
    (other : ∀ results later, made ≠ .results results :: later) (result : ToolResult) :
    addResult result made = .results [result] :: made := by
  unfold addResult
  split
  · exact absurd rfl (other _ _)
  · rfl

/-- Tool messages in front of something else make one turn. -/
theorem turns_append_of_tools (tools : ∀ answer ∈ run, answer.role = .tool) (some_run : run ≠ [])
    (other : ∀ results later, turns rest ≠ .results results :: later) :
    turns (run ++ rest) = .results (run.map resultOf) :: turns rest := by
  induction run with
  | nil => exact absurd rfl some_run
  | cons message run induction =>
      obtain ⟨role, tools⟩ := List.forall_mem_cons.mp tools
      rw [List.cons_append, turns, role]
      dsimp only
      by_cases last : run = []
      · subst last
        exact addResult_of_ne_results other _
      · rw [induction tools last]
        rfl

/-- Where calls are answered at once, the results are in the turn after the calls. -/
theorem Answered.paired (answered : Answered messages) : Paired (turns messages) := by
  induction answered with
  | nil => exact .nil
  | @plain message rest noTool noCalls answered induction =>
      rcases turns_cons_of_plain noTool noCalls rest with none | ⟨turn, made, -, silent⟩
      · rw [none]
        exact induction
      · rw [made]
        exact .plain silent induction
  | @calls message answers rest role calls tools ids answered induction =>
      have some_answers : answers ≠ [] := by
        rintro rfl
        exact calls (List.map_eq_nil_iff.mp ids.symm)
      rw [turns_cons_of_calls role calls,
        turns_append_of_tools tools some_answers answered.ne_results]
      apply Paired.calls _ induction
      rw [List.map_map]
      exact ids

@[simp] theorem hasType_textBlock (type text : String) :
    hasType type (textBlock text) = ("text" == type) := by
  simp [hasType, textBlock, Json.textAt?, Json.member?_object, Json.asText?]

@[simp] theorem hasType_callBlock (type : String) (call : ToolCall) :
    hasType type (callBlock call) = ("tool_use" == type) := by
  simp [hasType, callBlock, Json.textAt?, Json.member?_object, Json.asText?]

@[simp] theorem hasType_resultJson (type : String) (result : ToolResult) :
    hasType type (resultJson result) = ("tool_result" == type) := by
  simp [hasType, resultJson, Json.textAt?, Json.member?_object, Json.asText?]

theorem member?_messages (settings : ModelSettings) (request : ChatRequest) :
    (requestJson settings request).member? "messages" =
      some (.arr ((turns request.messages).map turnJson)) := by
  rw [requestJson, ModelSettings.requestMembers, Json.member?_object]
  cases system? request.messages <;> cases settings.temperature <;> cases request.tools <;> simp

end Anthropic
end AssistantEngine
