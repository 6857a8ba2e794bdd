import AssistantEngine.Checkpoint.Table
import AssistantEngine.Proofs.Reading.Records

/-!
States read back from the texts that are stored. Of all that a state holds only the arguments of
calls are nested, and the text wraps them in further collections, so that a state reads back exactly
if its arguments leave room for those.
-/

namespace AssistantEngine

open Reading Json

theorem ToolCall.read_written {call : ToolCall} (proper : call.arguments.Proper) (room : Nat) :
    ToolCall.read (call.toJson.datumWithin (room + 1)) =
      ofOption (if call.arguments.depth ≤ room then some call else none) := by
  have arguments := asJson_datumWithin room call.arguments
  rw [toJson?_datumWithin call.arguments proper room] at arguments
  have found : ["id", "name", "arguments"].map (Catalog.find? (Catalog.ofList
      [("id", Json.str call.id), ("name", .str call.name), ("arguments", call.arguments)])) =
      [some (.str call.id), some (.str call.name), some call.arguments] := by
    simp [Catalog.find?_ofList]
  unfold ToolCall.read ToolCall.toJson
  refine (fields_object (by decide) room found _).trans ?_
  simp only [List.map_cons, List.map_nil, Option.map_some, required, defaulted, datumWithin_str,
    asText_text, pure_bind, arguments]
  split <;> rfl

theorem Envelope.read_written (envelope : Envelope) (room : Nat) :
    Envelope.read (envelope.toJson.datumWithin (room + 1)) = pure envelope := by
  have found : ["artifact_id", "model_text", "version"].map (Catalog.find? (Catalog.ofList
      [("artifact_id", Json.str envelope.artifactId), ("model_text", .str envelope.modelText),
        ("version", .str envelope.version)])) =
      [some (.str envelope.artifactId), some (.str envelope.modelText),
        some (.str envelope.version)] := by
    simp [Catalog.find?_ofList]
  unfold Envelope.read Envelope.toJson
  exact fields_object (by decide) room found _

namespace ChatMessage

/-- The calls of a message have arguments that texts can denote. -/
def Proper (message : ChatMessage) : Prop := ∀ call ∈ message.toolCalls, call.arguments.Proper

/-- Whether the arguments of all calls of a message are nested no deeper than this. -/
def Shallow (limit : Nat) (message : ChatMessage) : Prop :=
  ∀ call ∈ message.toolCalls, call.arguments.depth ≤ limit

instance (limit : Nat) (message : ChatMessage) : Decidable (message.Shallow limit) :=
  inferInstanceAs (Decidable (∀ call ∈ message.toolCalls, _))

theorem read_written {message : ChatMessage} (proper : message.Proper) (room : Nat) :
    ChatMessage.read (message.toJson.datumWithin (room + 3)) =
      ofOption (if message.Shallow room then some message else none) := by
  obtain ⟨role, content, toolCalls, toolCallId, name, artifact⟩ := message
  have found : ["role", "content", "tool_calls", "tool_call_id", "name", "artifact"].map
      (Catalog.find? (Catalog.ofList (
        [("role", Json.str role.name), ("content", .str content)] ++
        (if toolCalls.isEmpty then []
          else [("tool_calls", .arr (toolCalls.map ToolCall.toJson))]) ++
        (toolCallId.map fun id => ("tool_call_id", Json.str id)).toList ++
        (name.map fun name => ("name", Json.str name)).toList ++
        (artifact.map fun envelope => ("artifact", envelope.toJson)).toList))) =
      [some (.str role.name), some (.str content),
        if toolCalls.isEmpty then none else some (.arr (toolCalls.map ToolCall.toJson)),
        toolCallId.map .str, name.map .str, artifact.map Envelope.toJson] := by
    cases toolCalls.isEmpty <;> cases toolCallId <;> cases name <;> cases artifact <;>
      simp [Catalog.find?_ofList]
  unfold ChatMessage.read ChatMessage.toJson
  refine (fields_object (by decide) (room + 2) found _).trans ?_
  have roles : asChoice Role.names (.text role.name) = pure role := by cases role <;> rfl
  have calls : defaulted [] (asList ToolCall.read) ((if toolCalls.isEmpty then none
      else some (Json.arr (toolCalls.map ToolCall.toJson))).map (datumWithin (room + 2))) =
      ofOption (if ∀ call ∈ toolCalls, call.arguments.depth ≤ room then some toolCalls
        else none) := by
    cases toolCalls with
    | nil => rfl
    | cons call calls =>
        change asList ToolCall.read (datumWithin (room + 1 + 1) (.arr _)) = _
        rw [datumWithin_arr, List.map_map]
        exact asList_list fun call member => ToolCall.read_written (proper call member) room
  have envelopes : nullable Envelope.read
      ((artifact.map Envelope.toJson).map (datumWithin (room + 2))) = pure artifact := by
    cases artifact with
    | none => rfl
    | some envelope =>
        have read := Envelope.read_written envelope (room + 1)
        unfold Envelope.toJson at read ⊢
        rw [Option.map_some, Option.map_some, nullable_object, read]
        rfl
  simp only [List.map_cons, List.map_nil, Option.map_some, required, datumWithin_str, roles, calls,
    envelopes, nullable_asText]
  change _ = Reading.ofOption (if ∀ call ∈ toolCalls, call.arguments.depth ≤ room then _ else _)
  split <;> rfl

theorem Proper.toJson {message : ChatMessage} (proper : message.Proper) :
    message.toJson.Proper := by
  have calls : ∀ item ∈ message.toolCalls.map ToolCall.toJson, item.Proper := by
    intro item member
    obtain ⟨call, among, rfl⟩ := List.mem_map.mp member
    have arguments := proper call among
    exact proper_object (by simp [Json.Proper, arguments])
  have envelope : ∀ envelope : Envelope, envelope.toJson.Proper := fun envelope =>
    proper_object (by simp [Json.Proper])
  apply proper_object
  simp only [List.forall_mem_append]
  refine ⟨⟨⟨⟨?_, ?_⟩, ?_⟩, ?_⟩, ?_⟩
  · simp [Json.Proper]
  · split <;> simp [Json.Proper, properItems_iff.mpr calls]
  · cases message.toolCallId <;> simp [Json.Proper]
  · cases message.name <;> simp [Json.Proper]
  · cases message.artifact <;> simp [envelope]

end ChatMessage

namespace ThreadState

/-- The calls of a state have arguments that texts can denote. -/
def Proper (state : ThreadState) : Prop := ∀ message ∈ state.messages, message.Proper

/-- Whether the arguments of all calls of a state are nested no deeper than this. -/
def Shallow (limit : Nat) (state : ThreadState) : Prop :=
  ∀ message ∈ state.messages, message.Shallow limit

instance (limit : Nat) (state : ThreadState) : Decidable (state.Shallow limit) :=
  inferInstanceAs (Decidable (∀ message ∈ state.messages, _))

theorem read_written {state : ThreadState} (proper : state.Proper) (room : Nat) :
    ThreadState.read (state.toJson.datumWithin (room + 5)) =
      ofOption (if state.Shallow room then some state else none) := by
  obtain ⟨messages, activeAssistant⟩ := state
  have found : ["messages", "active_assistant"].map (Catalog.find? (Catalog.ofList
      [("messages", Json.arr (messages.map ChatMessage.toJson)),
        ("active_assistant", Json.ofOption .str activeAssistant)])) =
      [some (.arr (messages.map ChatMessage.toJson)),
        some (Json.ofOption .str activeAssistant)] := by
    simp [Catalog.find?_ofList]
  have read : asList ChatMessage.read (datumWithin (room + 4) (.arr (messages.map
      ChatMessage.toJson))) =
      ofOption (if ∀ message ∈ messages, message.Shallow room then some messages else none) := by
    rw [datumWithin_arr, List.map_map]
    exact asList_list fun message member => ChatMessage.read_written (proper message member) room
  have active : asOption asText (datumWithin (room + 4) (Json.ofOption .str activeAssistant)) =
      pure activeAssistant := by
    cases activeAssistant <;> rfl
  unfold ThreadState.read ThreadState.toJson
  refine (fields_object (by decide) (room + 4) found _).trans ?_
  simp only [List.map_cons, List.map_nil, Option.map_some, nullable, defaulted, read, active]
  change _ = Reading.ofOption (if ∀ message ∈ messages, message.Shallow room then _ else _)
  split <;> rfl

theorem Proper.toJson {state : ThreadState} (proper : state.Proper) : state.toJson.Proper := by
  have messages : ∀ item ∈ state.messages.map ChatMessage.toJson, item.Proper := by
    intro item member
    obtain ⟨message, among, rfl⟩ := List.mem_map.mp member
    exact (proper message among).toJson
  have active : (Json.ofOption .str state.activeAssistant).Proper := by
    cases state.activeAssistant <;> trivial
  exact proper_object (by simp [Json.Proper, properItems_iff.mpr messages, active])

/-- So deep may the arguments of calls be nested in a state that is stored: the state, the list of
its messages, the message, the list of its calls and the call are around them. -/
def deepestArguments : Nat := deepest - 5

/-- A state is read from its text unless the arguments of some call are nested too deep. -/
theorem ofJsonText?_compact {state : ThreadState} (proper : state.Proper) :
    Reading.ofJsonText? ThreadState.read state.toJson.compact =
      if state.Shallow deepestArguments then some state else none := by
  unfold Reading.ofJsonText?
  rw [ofText?_compact proper.toJson]
  have read := read_written proper deepestArguments
  change ((ThreadState.read (state.toJson.datumWithin deepest)).run {}).run' 0 = _
  rw [show deepest = deepestArguments + 5 from rfl, read]
  split <;> rfl

end ThreadState

end AssistantEngine
