import AssistantEngine.Chat.Hosted
import AssistantEngine.Proofs.Chat.Turns
import AssistantEngine.Proofs.Engine.Routing

/-!
Histories of graphs. A model that is asked over HTTP answers as the assistant. With such answers a
turn keeps a thread whose calls are answered at once, and so are the calls in whatever it sends.
-/

namespace AssistantEngine

open Activity (Deed Runs)
open Anthropic (Answered)

theorem ChatAdapter.role_of_ofResponse {adapter : ChatAdapter} {response : Json}
    {reply : ChatMessage} (read : adapter.ofResponse response = .ok reply) :
    reply.role = .assistant := by
  cases adapter with
  | openAi =>
      simp only [ofResponse, OpenAi.ofResponse] at read
      split at read
      · cases read
        rfl
      · cases read
  | anthropic =>
      simp only [ofResponse, Anthropic.ofResponse] at read
      split at read
      · cases read
        rfl
      · cases read

/-- Whatever the network brings, the answer is the assistant's. -/
theorem ChatModel.hosted_role {model : ChatModel} {settings : ModelSettings} {network : Network}
    {request : ChatRequest} {reply : ChatMessage}
    (alike : model.answer = (hosted settings network).answer)
    (replied : (model.ask request).1.result = .ok reply) : reply.role = .assistant := by
  simp only [ask, alike, hosted, ChatAdapter.complete] at replied
  split at replied
  · split at replied
    · exact ChatAdapter.role_of_ofResponse replied
    · cases replied
  · cases replied

namespace CompiledRuntime

theorem Answers.tools {calls : List ToolCall} {answers : List ChatMessage}
    (given : Answers calls answers) : ∀ answer ∈ answers, answer.role = .tool := by
  induction given with
  | nil => simp
  | cons first _ induction =>
      obtain ⟨content, artifact, rfl⟩ := first
      exact List.forall_mem_cons.mpr ⟨rfl, induction⟩

theorem Answers.ids {calls : List ToolCall} {answers : List ChatMessage}
    (given : Answers calls answers) :
    answers.map (·.toolCallId) = calls.map (some ·.id) := by
  induction given with
  | nil => rfl
  | cons first _ induction =>
      obtain ⟨content, artifact, rfl⟩ := first
      rw [List.map_cons, List.map_cons, induction]
      rfl

/-- A reply of the assistant with the answers to its calls. -/
theorem Answers.answered {reply : ChatMessage} {answers : List ChatMessage}
    (role : reply.role = .assistant) (given : Answers reply.toolCalls answers) :
    Answered (reply :: answers) := by
  by_cases quiet : reply.toolCalls = []
  · rw [quiet] at given
    cases given
    exact .plain (by simp [role]) (fun _ => quiet) .nil
  · have told := Answered.calls role quiet (Answers.tools given) (Answers.ids given) .nil
    rwa [List.append_nil] at told

theorem answered_requestOf {assistant : AssistantRuntime} {thread : List ChatMessage}
    (answered : Answered thread) : Answered (requestOf assistant thread).messages := by
  unfold requestOf
  split
  · exact answered
  · exact .plain nofun nofun answered

variable {assistants : Catalog AssistantRuntime} {way : String → String → Prop}
  {steps : Nat} {control last : String} {thread said : List ChatMessage}
  {replied : ChatRequest → ChatMessage → Prop}

/-- Where the model answers as the assistant, a course that starts with a thread whose calls are
answered at once ends with one, and sends the model nothing but such threads. -/
theorem Course.answered (course : Course assistants way replied steps control thread said last)
    (speaks : ∀ request answer, replied request answer → answer.role = .assistant)
    (answered : Answered thread) :
    Answered (thread ++ said) ∧
      Course assistants way (fun request answer => replied request answer ∧
        Answered request.messages) steps control thread said last := by
  induction course with
  | spent present =>
      rw [List.append_nil]
      exact ⟨answered, .spent present⟩
  | @last _ control _ _ answer inControl asked quiet =>
      have role := speaks _ _ asked
      have reply : Answered [{ answer with name := some control }] :=
        Answers.answered role (quiet ▸ .nil)
      exact ⟨answered.append reply, .last inControl ⟨asked, answered_requestOf answered⟩ quiet⟩
  | @next _ control _ _ answers _ _ answer inControl asked calls given moves _ induction =>
      have role := speaks _ _ asked
      have round : Answered ({ answer with name := some control } :: answers) :=
        Answers.answered role given
      have so_far := answered.append round
      rw [← List.singleton_append, ← List.append_assoc] at so_far
      obtain ⟨ending, rest⟩ := induction so_far
      refine ⟨?_, .next inControl ⟨asked, answered_requestOf answered⟩ calls given moves rest⟩
      simpa using ending

variable {others : World → World → Prop} {world final : World} {deeds : List (Deed World)}

/-- A turn whose models are asked over HTTP keeps a thread whose calls are answered at once, and so
are the calls in each request of the turn. -/
theorem takeTurn_answered (routable : Routable way assistants) {runtime : CompiledRuntime}
    {default : String} (topology : runtime.topology = .multiAgent assistants default steps)
    (known : assistants.contains default = true) {state reached : ThreadState}
    {artifacts : List Envelope}
    (runs : Runs others (runtime.takeTurn state) world deeds (.ok (reached, artifacts)) final)
    (hosted : ∀ deed ∈ deeds, ∃ settings network,
      deed.before.model.answer = (ChatModel.hosted settings network).answer)
    (answered : Answered state.messages) :
    Answered reached.messages ∧ ∃ control said last,
      reached.messages = state.messages ++ said ∧
      Course assistants way (fun request answer => Replied deeds request (.ok answer) ∧
        Answered request.messages) steps control state.messages said last := by
  rcases takeTurn_follows routable topology known runs with ⟨_, same, _⟩ | followed
  · cases same
  · obtain ⟨control, said, last, _, same, -, course⟩ := followed
    cases same
    have speaks : ∀ request answer, Replied deeds request (.ok answer) →
        answer.role = .assistant := by
      rintro request answer ⟨deed, member, -, replied⟩
      obtain ⟨settings, network, alike⟩ := hosted deed member
      exact ChatModel.hosted_role alike replied
    obtain ⟨kept, sent⟩ := course.answered speaks answered
    exact ⟨kept, control, said, last, rfl, sent⟩

end CompiledRuntime

end AssistantEngine
