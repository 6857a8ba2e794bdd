import AssistantEngine.Proofs.Chat.Turns

/-!
Turns from the first message on. Two parts of a conversation make their turns apart, but for results
where they meet. So the turns can be sent as the messages come: a result joins the turn that was
sent last if this holds nothing but results, and every other message is sent behind it.
-/

namespace AssistantEngine.Anthropic

/-! ## Parts of a conversation -/

/-- A turn in front of turns; results join the results that these begin with. -/
def prepend : Turn → List Turn → List Turn
  | .results results, .results more :: later => .results (results ++ more) :: later
  | turn, later => turn :: later

/-- The turns of two parts, where results that meet share one turn. -/
def joined : List Turn → List Turn → List Turn
  | [], later => later
  | [turn], later => prepend turn later
  | turn :: next :: made, later => turn :: joined (next :: made) later

theorem prepend_of_ne_results {turn : Turn} (other : ∀ results, turn ≠ .results results)
    (later : List Turn) : prepend turn later = turn :: later := by
  cases turn with
  | results results => exact absurd rfl (other results)
  | _ => rfl

theorem joined_cons_of_ne_results {turn : Turn} (other : ∀ results, turn ≠ .results results)
    (made later : List Turn) : joined (turn :: made) later = turn :: joined made later := by
  cases made with
  | nil => exact prepend_of_ne_results other later
  | cons next made => rfl

theorem joined_concat (made : List Turn) (turn : Turn) (later : List Turn) :
    joined (made ++ [turn]) later = made ++ prepend turn later := by
  induction made with
  | nil => rfl
  | cons first made induction =>
      rw [List.cons_append, List.cons_append, ← induction]
      cases made <;> rfl

theorem addResult_prepend (result : ToolResult) (results : List ToolResult) (later : List Turn) :
    addResult result (prepend (.results results) later) =
      prepend (.results (result :: results)) later := by
  cases later with
  | nil => rfl
  | cons turn later => cases turn <;> rfl

/-- It does not matter whether a result is added before or after the parts are joined. -/
theorem addResult_joined (result : ToolResult) (made later : List Turn) :
    addResult result (joined made later) = joined (addResult result made) later := by
  cases made with
  | nil =>
      cases later with
      | nil => rfl
      | cons turn later => cases turn <;> rfl
  | cons turn made =>
      cases made with
      | nil =>
          cases turn with
          | results results => exact addResult_prepend result results later
          | _ => rfl
      | cons next made => cases turn <;> rfl

theorem turns_append (messages more : List ChatMessage) :
    turns (messages ++ more) = joined (turns messages) (turns more) := by
  induction messages with
  | nil => rfl
  | cons message messages induction =>
      rw [List.cons_append, turns, turns, induction]
      cases message.role with
      | system => rfl
      | tool => exact addResult_joined _ _ _
      | user => exact (joined_cons_of_ne_results (by simp) _ _).symm
      | assistant =>
          dsimp only
          split <;> exact (joined_cons_of_ne_results (by simp) _ _).symm

/-! ## Turn after turn -/

/-- The blocks of a turn of the user that holds nothing but results. -/
def resultBlocks? (sent : Json) : Option (List Json) :=
  if sent.member? "role" = some (.str "user") then
    ((sent.member? "content").bind Json.asArray?).filter (·.all (hasType "tool_result"))
  else none

/-- Sends a message after others: a result with the turn that was sent last, if this holds nothing
but results. -/
def send (sent : List Json) (message : ChatMessage) : List Json :=
  match message.role with
  | .system => sent
  | .tool =>
    let block := resultJson (resultOf message)
    match sent.getLast?.bind resultBlocks? with
    | some blocks =>
      sent.dropLast ++
        [Json.object [("role", .str "user"), ("content", .arr (blocks ++ [block]))]]
    | none => sent ++ [Json.object [("role", .str "user"), ("content", .arr [block])]]
  | .user => sent ++ [turnJson (.user message.content)]
  | .assistant =>
    sent ++
      [turnJson (if message.toolCalls.isEmpty then .assistant message.content
        else .calls message.content message.toolCalls)]

theorem resultBlocks?_results (results : List ToolResult) :
    resultBlocks? (turnJson (.results results)) = some (results.map resultJson) := by
  simp [resultBlocks?, turnJson, Json.member?_object, Json.asArray?]

theorem resultBlocks?_of_ne_results {turn : Turn} (other : ∀ results, turn ≠ .results results) :
    resultBlocks? (turnJson turn) = none := by
  cases turn with
  | results results => exact absurd rfl (other results)
  | _ => simp [resultBlocks?, turnJson, Json.member?_object, Json.asArray?]

theorem joined_nil (made : List Turn) : joined made [] = made := by
  cases made using List.reverseRecOn with
  | nil => rfl
  | append_singleton made last =>
      rw [joined_concat]
      cases last <;> rfl

theorem joined_singleton_of_ne_results {turn : Turn} (other : ∀ results, turn ≠ .results results)
    (made : List Turn) : joined made [turn] = made ++ [turn] := by
  cases made using List.reverseRecOn with
  | nil => rfl
  | append_singleton made last =>
      rw [joined_concat, List.append_assoc]
      cases last with
      | results results =>
          cases turn with
          | results more => exact absurd rfl (other more)
          | _ => rfl
      | _ => rfl

theorem send_map_turnJson (made : List Turn) (message : ChatMessage) :
    send (made.map turnJson) message = (joined made (turns [message])).map turnJson := by
  unfold send
  cases role : message.role with
  | system => simp [turns, role, joined_nil]
  | user => simp [turns, role, joined_singleton_of_ne_results]
  | assistant =>
      simp only [turns, role]
      split <;> simp [joined_singleton_of_ne_results]
  | tool =>
      simp only [turns, role, addResult]
      -- Only results take the new one in, before they are sent and after.
      cases made using List.reverseRecOn with
      | nil => rfl
      | append_singleton made last =>
          simp only [List.map_append, List.map_cons, List.map_nil, List.getLast?_concat,
            Option.bind_some, List.dropLast_concat, joined_concat]
          cases last with
          | results results =>
              rw [resultBlocks?_results]
              simp [prepend, turnJson]
          | _ =>
              rw [resultBlocks?_of_ne_results (by simp)]
              simp [prepend, turnJson]

/-- The turns of a conversation are those that are sent message by message. -/
theorem map_turnJson_turns (messages : List ChatMessage) :
    (turns messages).map turnJson = messages.foldl send [] := by
  induction messages using List.reverseRecOn with
  | nil => rfl
  | append_singleton messages message induction =>
      rw [turns_append, ← send_map_turnJson, induction, List.foldl_append]
      rfl

end AssistantEngine.Anthropic
