import AssistantEngine.Chat.Hosted
import AssistantEngine.Proofs.Checkpoint.Texts
import AssistantEngine.Proofs.Engine.Transcript

/-!
Threads loaded again. A thread goes on from the state that its last invocation has saved, unless
the model has made a call whose arguments are nested too deep for the text of a state: saving sets
no limit to that, and loading does.
-/

namespace AssistantEngine

open Activity (Deed Runs glance)
open CompiledRuntime (askModel_runs answerCalls_runs)

variable {others : World → World → Prop} {world final : World} {deeds more : List (Deed World)}

/-! ## Stored states -/

namespace ThreadState

/-- What a state is loaded as once it has been saved. -/
def reloaded (state : ThreadState) : Except Fault ThreadState :=
  if state.Shallow deepestArguments then .ok state else .error (.internal "JSON error")

theorem reloaded_shallow {state : ThreadState} (shallow : state.Shallow deepestArguments) :
    state.reloaded = .ok state :=
  if_pos shallow

theorem reloaded_deep {state : ThreadState} (deep : ¬ state.Shallow deepestArguments) :
    state.reloaded = .error (.internal "JSON error") :=
  if_neg deep

theorem readsBack_iff {state : ThreadState} (proper : state.Proper) :
    state.ReadsBack ↔ state.Shallow deepestArguments := by
  unfold ReadsBack
  rw [ofJsonText?_compact proper]
  split <;> simp [*]

end ThreadState

theorem CheckpointRow.Follows.state?_reloaded {rows : List CheckpointRow} {row : CheckpointRow}
    {state : ThreadState} (follows : Follows rows row) (written : row.state = state.toJson.compact)
    (proper : state.Proper) : state? (rows ++ [row]) = state.reloaded.map some := by
  by_cases shallow : state.Shallow ThreadState.deepestArguments
  · have readsBack := (ThreadState.readsBack_iff proper).mpr shallow
    rw [ThreadState.reloaded_shallow shallow]
    exact follows.state?_append written readsBack
  · have read := ThreadState.ofJsonText?_compact proper
    rw [if_neg shallow] at read
    rw [ThreadState.reloaded_deep shallow]
    unfold state?
    rw [follows.latest?_append]
    simp only [written, read]
    rfl

/-! ## Calls of the model -/

/-- The model has made all the calls that these messages hold. -/
def Called (deeds : List (Deed World)) (messages : List ChatMessage) : Prop :=
  ∀ message ∈ messages, ∀ call ∈ message.toolCalls,
    ∃ request reply, Replied deeds request (.ok reply) ∧ call ∈ reply.toolCalls

theorem Called.mono {messages : List ChatMessage} (called : Called deeds messages)
    (sub : deeds ⊆ more) : Called more messages := by
  intro message member call among
  obtain ⟨request, reply, replied, made⟩ := called message member call among
  exact ⟨request, reply, replied.mono sub, made⟩

theorem Called.append {first second : List ChatMessage} (earlier : Called deeds first)
    (later : Called deeds second) : Called deeds (first ++ second) := by
  intro message member
  cases List.mem_append.mp member with
  | inl front => exact earlier message front
  | inr back => exact later message back

/-- A reply keeps its calls whoever it is ascribed to. -/
theorem Replied.called {request : ChatRequest} {reply : ChatMessage}
    (replied : Replied deeds request (.ok reply)) (name : Option String) :
    Called deeds [{ reply with name := name }] := by
  intro message member call among
  rw [List.mem_singleton.mp member] at among
  exact ⟨request, reply, replied, among⟩

/-- The answers to calls hold no calls. -/
theorem Answers.called {calls : List ToolCall} {messages : List ChatMessage}
    (answers : Answers calls messages) : Called deeds messages := by
  induction answers with
  | nil =>
      intro message member
      exact absurd member List.not_mem_nil
  | cons answered _ induction =>
      obtain ⟨content, artifact, rfl⟩ := answered
      intro message member call among
      cases List.mem_cons.mp member with
      | inl first =>
          subst first
          exact absurd among List.not_mem_nil
      | inr later => exact induction message later call among

/-- Messages whose calls the model has made are as proper as its replies. -/
theorem Called.proper {messages : List ChatMessage} (called : Called deeds messages)
    (replies : ∀ request reply, Replied deeds request (.ok reply) → reply.Proper) :
    ∀ message ∈ messages, message.Proper := by
  intro message member call among
  obtain ⟨request, reply, replied, made⟩ := called message member call among
  exact replies request reply replied call made

namespace CompiledRuntime

/-- However often control passes, the model has made all the calls that a turn adds. -/
theorem route_called {assistants : Catalog AssistantRuntime} {steps : Nat}
    {progress reached : Progress}
    (runs : Runs others (route assistants steps progress) world deeds (.ok reached) final) :
    ∃ said, reached.messages = progress.messages ++ said ∧ Called deeds said := by
  -- A step adds a reply and the answers to its calls; the rest is added by the steps after it.
  induction steps generalizing progress world deeds with
  | zero =>
      obtain ⟨-, same, -⟩ := runs.of_done
      cases same
      exact ⟨[], (List.append_nil _).symm, fun message member => absurd member List.not_mem_nil⟩
  | succ steps induction =>
      unfold route at runs
      split at runs
      · obtain ⟨-, same, -⟩ := runs.of_done
        cases same
      · rename_i assistant inControl
        obtain ⟨front, back, answer, between, rfl, asking, onward⟩ := runs.of_bind
        have replied := (askModel_runs asking).mono (List.subset_append_left front back)
        cases answer with
        | error fault =>
            obtain ⟨-, same, -⟩ := onward.of_done
            cases same
        | ok reply =>
            have own := replied.called (some assistant.name)
            dsimp only at onward
            split at onward
            · obtain ⟨-, same, -⟩ := onward.of_done
              cases same
              refine ⟨[{ reply with name := some assistant.name }], ?_, own⟩
              simp [Progress.add]
            · obtain ⟨middle, back, ⟨answers, transfer⟩, later, rfl, answering, rest⟩ :=
                onward.of_bind
              have answered : Called (front ++ (middle ++ back)) answers :=
                (answerCalls_runs answering).1.called
              obtain ⟨said, extended, called⟩ := induction rest
              refine ⟨[{ reply with name := some assistant.name }] ++ answers ++ said, ?_, ?_⟩
              · rw [extended]
                simp [Progress.add]
              · have sub : back ⊆ front ++ (middle ++ back) := by simp
                exact (own.append answered).append (called.mono sub)

/-- The model has made all the calls that a turn adds. -/
theorem takeTurn_called {runtime : CompiledRuntime} {state reached : ThreadState}
    {artifacts : List Envelope}
    (runs : Runs others (runtime.takeTurn state) world deeds (.ok (reached, artifacts)) final) :
    ∃ said, reached.messages = state.messages ++ said ∧ Called deeds said := by
  unfold takeTurn at runs
  split at runs
  · obtain ⟨front, back, answer, between, rfl, asking, rest⟩ := runs.of_bind
    have replied := (askModel_runs asking).mono (List.subset_append_left front back)
    cases answer with
    | error fault =>
        obtain ⟨-, same, -⟩ := rest.of_done
        cases same
    | ok reply =>
        obtain ⟨-, same, -⟩ := rest.of_done
        cases same
        exact ⟨[reply], rfl, replied.called reply.name⟩
  · obtain ⟨front, back, answer, between, rfl, routing, rest⟩ := runs.of_bind
    cases answer with
    | error fault =>
        obtain ⟨-, same, -⟩ := rest.of_done
        cases same
    | ok progress =>
        obtain ⟨-, same, -⟩ := rest.of_done
        cases same
        obtain ⟨said, extended, called⟩ := route_called routing
        exact ⟨said, extended, called.mono (List.subset_append_left front back)⟩

/-- A turn keeps a state proper while the model's replies are. -/
theorem takeTurn_proper {runtime : CompiledRuntime} {state reached : ThreadState}
    {artifacts : List Envelope} {text : String} (proper : state.Proper)
    (replies : ∀ request reply, Replied deeds request (.ok reply) → reply.Proper)
    (runs : Runs others (runtime.takeTurn (state.ask text)) world deeds (.ok (reached, artifacts))
      final) : reached.Proper := by
  obtain ⟨said, extended, called⟩ := takeTurn_called runs
  intro message member
  rw [extended] at member
  cases List.mem_append.mp member with
  | inl asked =>
      cases List.mem_append.mp asked with
      | inl old => exact proper message old
      | inr new =>
          rw [List.mem_singleton.mp new]
          exact fun call among => absurd among List.not_mem_nil
  | inr later => exact called.proper replies message later

/-! ## The next invocation -/

/-- How an invocation that begins in a world goes on with its thread: it takes its turn from the
state that is there, or it fails at once. -/
def Resumes (runtime : CompiledRuntime) (others : World → World → Prop) (thread : String)
    (world : World) (present : Except Fault ThreadState) : Prop :=
  ∀ text deeds result final, Runs others (runtime.invoke thread text) world deeds result final →
    match present with
    | .error fault => result = .error fault ∧ ∃ here, deeds = [glance here]
    | .ok state => ∃ here front back turn between, deeds = glance here :: (front ++ back) ∧
        Runs others (runtime.takeTurn (state.ask text)) here front turn between

theorem resumes_of_load {runtime : CompiledRuntime} {thread : String}
    {present : Except Fault ThreadState}
    (quiet : ∀ before after, others before after →
      World.rowsOf runtime.checkpoints.scope thread after =
        World.rowsOf runtime.checkpoints.scope thread before)
    (loaded : world.database.load runtime.checkpoints.scope thread = present.map some) :
    runtime.Resumes others thread world present := by
  -- The invocation gives way before it loads, and by then it may be in another world.
  have later {here : World} (meanwhile : others world here) :
      here.database.load runtime.checkpoints.scope thread = present.map some := by
    have same := quiet world here meanwhile
    unfold World.rowsOf at same
    rw [Database.load_eq, same, ← Database.load_eq, loaded]
  intro text deeds result final runs
  cases invoke_runs runs with
  | unloaded meanwhile refused =>
      rw [later meanwhile] at refused
      cases present with
      | error fault =>
          cases refused
          exact ⟨rfl, _, rfl⟩
      | ok state => cases refused
  | failed meanwhile found turn =>
      rw [later meanwhile] at found
      cases present with
      | error fault => cases found
      | ok state =>
          cases found
          exact ⟨_, _, [], _, _, congrArg _ (List.append_nil _).symm, turn⟩
  | unsaved meanwhile found turn saving =>
      rw [later meanwhile] at found
      cases present with
      | error fault => cases found
      | ok state =>
          cases found
          exact ⟨_, _, _, _, _, rfl, turn⟩
  | ended meanwhile found turn saving =>
      rw [later meanwhile] at found
      cases present with
      | error fault => cases found
      | ok state =>
          cases found
          exact ⟨_, _, _, _, _, rfl, turn⟩

/-- An invocation that succeeds has saved what was loaded and what was said since. Whether that can
be loaded again depends on the arguments of the calls alone: if none are nested too deep, the next
invocation goes on from the state that was saved, and otherwise it fails before it has begun. -/
theorem invoke_reloads {runtime : CompiledRuntime} {thread text : String} {output : RunOutput}
    (quiet : ∀ before after, others before after →
      World.rowsOf runtime.checkpoints.scope thread after =
        World.rowsOf runtime.checkpoints.scope thread before)
    (replies : ∀ request reply, Replied deeds request (.ok reply) → reply.Proper)
    (stored : ∀ state, world.database.load runtime.checkpoints.scope thread = .ok (some state) →
      state.Proper)
    (runs : Runs others (runtime.invoke thread text) world deeds (.ok output) final) :
    ∃ found saved rows row,
      world.database.load runtime.checkpoints.scope thread = .ok found ∧
      saved = output.after (found.getD {}) ∧ saved.Proper ∧
      World.rowsOf runtime.checkpoints.scope thread final = some (rows ++ [row]) ∧
      row.state = saved.toJson.compact ∧
      final.database.load runtime.checkpoints.scope thread = saved.reloaded.map some ∧
      ∀ next : CompiledRuntime, next.checkpoints.scope = runtime.checkpoints.scope →
        next.Resumes others thread final saved.reloaded := by
  cases invoke_runs runs with
  | @ended here _ _ _ found reached _ front _ meanwhile loaded turn saving =>
      have before : world.database.load runtime.checkpoints.scope thread = .ok found := by
        have same := quiet world here meanwhile
        unfold World.rowsOf at same
        rw [← loaded, Database.load_eq, Database.load_eq, same]
      have base : (found.getD {}).Proper := by
        cases found with
        | none => exact fun message member => absurd member List.not_mem_nil
        | some state => exact stored state before
      have proper : reached.Proper := by
        refine takeTurn_proper base (fun request reply replied => ?_) turn
        exact replies request reply (replied.mono (by simp))
      have longer := ((found.getD {}).prefix_ask text).trans
        ((takeTurn_keeps turn).2 reached.messages rfl)
      cases saving with
      | saved idle done =>
          obtain ⟨rows, row, -, follows, written, after⟩ := Database.save_ok done
          have reload := follows.state?_reloaded written proper
          refine ⟨found, reached, rows, row, before, (RunOutput.after_drop longer).symm, proper,
            after, written, ?_, fun next own => ?_⟩
          · rw [Database.load_eq, after]
            exact reload
          · rw [← own] at quiet
            refine resumes_of_load quiet ?_
            rw [Database.load_eq, own, after]
            exact reload

end CompiledRuntime

/-! ## A service that makes one call -/

/-- No value in so many arrays. -/
def Json.nested : Nat → Json
  | 0 => .null
  | levels + 1 => .arr [nested levels]

theorem Json.depth_nested (levels : Nat) : (nested levels).depth = levels := by
  induction levels with
  | zero => rfl
  | succ levels induction => simp [nested, depth, depthItems, induction]

theorem Json.proper_nested (levels : Nat) : (nested levels).Proper := by
  induction levels with
  | zero => trivial
  | succ levels induction => exact ⟨induction, trivial⟩

/-- A reply that makes one call. -/
def callingReply (arguments : Json) : ChatMessage :=
  { role := .assistant, toolCalls := [⟨"call-1", "look", arguments⟩] }

/-- How a service sends this reply: the arguments are a text of their own. -/
def callingBody (arguments : Json) : Json :=
  Json.object [("choices",
    .arr [Json.object [("message", OpenAi.messageJson (callingReply arguments))]])]

/-- A world with a service that always replies so. -/
def callingWorld (arguments : Json) : World :=
  { briefWorld with
    model := .hosted {} fun _ => .ok { status := 200, body := (callingBody arguments).compact } }

/-- What a plain conversation with the service comes to, which answers no calls. -/
def callingState (arguments : Json) : ThreadState :=
  { messages := [.user "hello", callingReply arguments] }

def callingOutput (arguments : Json) : RunOutput :=
  { messages := (callingState arguments).messages, activeAssistant := none }

theorem callingState_proper {arguments : Json} (proper : arguments.Proper) :
    (callingState arguments).Proper := by
  intro message member call among
  rcases List.mem_pair.mp member with rfl | rfl
  · exact absurd among List.not_mem_nil
  · rw [List.mem_singleton.mp among]
    exact proper

theorem callingState_shallow {arguments : Json} {limit : Nat} :
    (callingState arguments).Shallow limit ↔ arguments.depth ≤ limit := by
  simp [callingState, callingReply, ChatMessage.user, ThreadState.Shallow, ChatMessage.Shallow]

theorem callingBody_proper (arguments : Json) : (callingBody arguments).Proper := by
  have function : (Json.object [("name", .str "look"),
      ("arguments", .str arguments.compact)]).Proper :=
    Json.proper_object (by simp [Json.Proper])
  have call : (OpenAi.callJson ⟨"call-1", "look", arguments⟩).Proper :=
    Json.proper_object (by simp [Json.Proper, function])
  have message : (OpenAi.messageJson (callingReply arguments)).Proper :=
    Json.proper_object (by simp [callingReply, Json.Proper, Json.ProperItems, call])
  have choice : (Json.object [("message", OpenAi.messageJson (callingReply arguments))]).Proper :=
    Json.proper_object (by simp [message])
  exact Json.proper_object (by simp [Json.Proper, Json.ProperItems, choice])

/-- However deep the arguments are nested, the response is not. -/
theorem callingBody_depth (arguments : Json) : (callingBody arguments).depth ≤ Json.deepest := by
  have text (text : String) : (Json.str text).depth = 0 := rfl
  have single (item : Json) {limit : Nat} (within : item.depth ≤ limit) :
      (Json.arr [item]).depth ≤ limit + 1 :=
    Nat.succ_le_succ (Json.depthItems_le_iff.mpr (List.forall_mem_singleton.mpr within))
  have function : (Json.object [("name", .str "look"),
      ("arguments", .str arguments.compact)]).depth ≤ 1 :=
    Json.depth_object_le (by simp [text])
  have call : (OpenAi.callJson ⟨"call-1", "look", arguments⟩).depth ≤ 2 :=
    Json.depth_object_le (by simp [text, function])
  have message : (OpenAi.messageJson (callingReply arguments)).depth ≤ 4 :=
    Json.depth_object_le (by simp [callingReply, text, single _ call])
  have choice : (Json.object [("message",
      OpenAi.messageJson (callingReply arguments))]).depth ≤ 5 :=
    Json.depth_object_le (by simp [message])
  have body : (callingBody arguments).depth ≤ 7 :=
    Json.depth_object_le (by simp [single _ choice])
  exact Nat.le_trans body (by decide)

/-- A model that answers at once is asked without delay. -/
theorem CompiledRuntime.runs_askModel {request : ChatRequest} {result : Except Fault ChatMessage}
    (idle : ∀ world, others world world)
    (answered : world.model.answer world.model.requests.length request = { result := result }) :
    let asked := { world with model := (world.model.ask request).2 }
    Runs others (askModel request) world [glance world, ⟨world, asked⟩] result asked := by
  have prompt : (world.model.ask request).1 = { result := result } := answered
  refine .look 0 (.put (.pause (idle _) ?_))
  dsimp only
  rw [prompt]
  exact .done _ _

section Calling

variable {arguments : Json} (proper : arguments.Proper) (accepted : arguments.depth ≤ Json.deepest)

include proper accepted

theorem ofResponse_callingBody :
    OpenAi.ofResponse (callingBody arguments) = .ok (callingReply arguments) := by
  have parsed := Json.parse_compact proper
  rw [if_pos accepted] at parsed
  simp [callingBody, callingReply, OpenAi.messageJson, OpenAi.callJson, OpenAi.ofResponse,
    OpenAi.messageOf, OpenAi.callOf?, OpenAi.argumentsOf, ChatMessage.assistant, Json.object,
    Json.listAt, Json.textAt, Json.textAt?, Json.member?, Catalog.find?_ofList, Json.asText?,
    Json.asArray?, parsed]

theorem callingWorld_answer (number : Nat) (request : ChatRequest) :
    (callingWorld arguments).model.answer number request =
      { result := .ok (callingReply arguments) } := by
  have parsed := Json.parse_compact (callingBody_proper arguments)
  rw [if_pos (callingBody_depth arguments)] at parsed
  have read := ofResponse_callingBody proper accepted
  have adapter : ChatAdapter.ofName? "openai" = some .openAi := by decide
  simp [callingWorld, ChatModel.hosted, adapter, ChatAdapter.complete, ChatAdapter.responseJson,
    ChatAdapter.ofResponse, HttpResponse.isSuccess, parsed, read]

/-- A plain conversation saves the state with the arguments as they are. -/
theorem calling_invoke :
    ∃ deeds final, Runs Eq (briefChat.invoke "main" "hello") (callingWorld arguments) deeds
        (.ok (callingOutput arguments)) final ∧
      (∀ request reply, Replied deeds request (.ok reply) → reply = callingReply arguments) ∧
      final.database.load "desk" "main" = (callingState arguments).reloaded.map some := by
  have answer := callingWorld_answer proper accepted
  have asking : Runs Eq _ _ _ _ _ := CompiledRuntime.runs_askModel (fun _ => rfl)
    (answer 0 { messages := [.user "hello"] })
  rw [CompiledRuntime.invoke_eq]
  refine ⟨_, _, .pause rfl (.look 0 (.bind (.bind asking (.done _ _))
    (.bind (.pause rfl (.look 0 (.put (.done _ _)))) (.done _ _)))), ?_, ?_⟩
  · intro request reply replied
    obtain ⟨deed, member, -, given⟩ := replied
    have same : deed.before.model.answer = (callingWorld arguments).model.answer := by
      simp only [List.append_nil, List.cons_append, List.nil_append, List.mem_cons,
        List.not_mem_nil, or_false] at member
      rcases member with rfl | rfl | rfl | rfl | rfl <;> rfl
    change (deed.before.model.answer _ request).result = _ at given
    rw [same, answer] at given
    exact (Except.ok.inj given).symm
  · have follows : CheckpointRow.Follows []
        ⟨"desk", "main", 1, (callingState arguments).toJson.compact, 1⟩ :=
      fun latest found => nomatch found
    rw [Database.load_eq]
    exact follows.state?_reloaded rfl (callingState_proper proper)

end Calling

/-- Arguments as deep as states can hold them are there for the next invocation. -/
theorem invoke_reloads_nested :
    ∃ deeds final, Runs Eq (briefChat.invoke "main" "hello") (callingWorld (.nested 122)) deeds
        (.ok (callingOutput (.nested 122))) final ∧
      final.database.load "desk" "main" = .ok (some (callingState (.nested 122))) ∧
      briefChat.Resumes Eq "main" final (.ok (callingState (.nested 122))) := by
  have proper := Json.proper_nested 122
  have depth := Json.depth_nested 122
  generalize Json.nested 122 = arguments at proper depth ⊢
  obtain ⟨deeds, final, runs, only, -⟩ := calling_invoke proper (by rw [depth]; decide)
  have replies : ∀ request reply, Replied deeds request (.ok reply) → reply.Proper := by
    intro request reply replied
    rw [only request reply replied]
    exact fun call among => List.mem_singleton.mp among ▸ proper
  have stored : ∀ state, (callingWorld arguments).database.load "desk" "main" =
      .ok (some state) → state.Proper := fun state found => nomatch found
  obtain ⟨found, saved, -, -, loaded, rfl, -, -, -, reloaded, resumes⟩ :=
    CompiledRuntime.invoke_reloads (fun _ _ same => by rw [same]) replies stored runs
  cases loaded
  have shallow : (callingState arguments).Shallow ThreadState.deepestArguments := by
    rw [callingState_shallow, depth]
    decide
  have kept := ThreadState.reloaded_shallow shallow
  have next := resumes briefChat rfl
  change final.database.load "desk" "main" = (callingState arguments).reloaded.map some at reloaded
  change briefChat.Resumes Eq "main" final (callingState arguments).reloaded at next
  rw [kept] at reloaded next
  exact ⟨deeds, final, runs, reloaded, next⟩

/-- A service may send arguments that are nested deeper by one, and they are read. The invocation
succeeds with them, and the thread cannot be loaded any more. -/
theorem nested_arguments_strand :
    OpenAi.ofResponse (callingBody (.nested 123)) = .ok (callingReply (.nested 123)) ∧
      ∃ deeds final, Runs Eq (briefChat.invoke "main" "hello") (callingWorld (.nested 123)) deeds
          (.ok (callingOutput (.nested 123))) final ∧
        final.database.load "desk" "main" = .error (.internal "JSON error") ∧
        briefChat.Resumes Eq "main" final (.error (.internal "JSON error")) := by
  have proper := Json.proper_nested 123
  have depth := Json.depth_nested 123
  have accepted : (Json.nested 123).depth ≤ Json.deepest := by
    rw [depth]
    decide
  obtain ⟨deeds, final, runs, -, loaded⟩ := calling_invoke proper accepted
  have deep : ¬ (callingState (.nested 123)).Shallow ThreadState.deepestArguments := by
    rw [callingState_shallow, depth]
    decide
  rw [ThreadState.reloaded_deep deep] at loaded
  have strands : briefChat.Resumes Eq "main" final (.error (.internal "JSON error")) :=
    CompiledRuntime.resumes_of_load (fun _ _ same => by rw [same]) loaded
  exact ⟨ofResponse_callingBody proper accepted, deeds, final, runs, loaded, strands⟩

/-! ## Threads that are lost -/

/-- A call leaves the rows of a thread as they are if it belongs to another thread or fails. -/
theorem invoke_elsewhere {runtime : CompiledRuntime} {scope thread own text : String}
    {result : Except Fault RunOutput}
    (quiet : ∀ before after, others before after →
      World.rowsOf scope thread after = World.rowsOf scope thread before)
    (runs : Runs others (runtime.invoke own text) world deeds result final)
    (spared : (∃ fault, result = .error fault) ∨
      scope ≠ runtime.checkpoints.scope ∨ thread ≠ own) :
    World.rowsOf scope thread final = World.rowsOf scope thread world := by
  refine runs.view_final quiet fun deed member => ?_
  have kept {deed : Deed World} (same : deed.after.database = deed.before.database) :
      World.rowsOf scope thread deed.after = World.rowsOf scope thread deed.before :=
    congrArg (·.rowsOf scope thread) same
  cases result with
  | error fault => exact kept (invoke_failed runs deed member)
  | ok output =>
      have apart : scope ≠ runtime.checkpoints.scope ∨ thread ≠ own := by simpa using spared
      obtain ⟨front, saving, back, rfl, adds, idle⟩ := invoke_ended runs
      by_cases last : deed = saving
      · rw [last]
        exact adds.rowsOf_other apart
      · refine kept (idle deed ?_)
        simp only [List.mem_append, List.mem_cons, last, false_or] at member ⊢
        exact member

/-- Once the present state of a thread cannot be loaded it never can be again: all further calls on
the thread fail, whatever is said on other threads meanwhile. -/
theorem Session.stranded {scope thread : String} {fault : Fault} {calls : List Call}
    (quiet : ∀ before after, others before after →
      World.rowsOf scope thread after = World.rowsOf scope thread before)
    (session : Session others world calls final)
    (refused : world.database.load scope thread = .error fault) :
    final.database.load scope thread = .error fault ∧
      ∀ call ∈ calls, call.runtime.checkpoints.scope = scope → call.thread = thread →
        call.result = .error fault := by
  -- Rows that stay the same keep the refusal, and a refused call changes no rows.
  have remains {before after : World}
      (same : World.rowsOf scope thread after = World.rowsOf scope thread before)
      (already : before.database.load scope thread = .error fault) :
      after.database.load scope thread = .error fault := by
    unfold World.rowsOf at same
    rw [Database.load_eq, same, ← Database.load_eq, already]
  induction session with
  | begin => exact ⟨refused, fun call member => absurd member List.not_mem_nil⟩
  | pass earlier meanwhile induction =>
      obtain ⟨still, failed⟩ := induction
      exact ⟨remains (quiet _ _ meanwhile) still, failed⟩
  | @call before after calls call earlier runs induction =>
      obtain ⟨still, failed⟩ := induction
      have last : call.runtime.checkpoints.scope = scope → call.thread = thread →
          call.result = .error fault := by
        rintro rfl rfl
        have resumes : call.runtime.Resumes others call.thread before (.error fault) :=
          CompiledRuntime.resumes_of_load quiet still
        exact (resumes _ _ _ _ runs).1
      have spared : (∃ fault, call.result = .error fault) ∨
          scope ≠ call.runtime.checkpoints.scope ∨ thread ≠ call.thread := by
        by_cases own : call.runtime.checkpoints.scope = scope ∧ call.thread = thread
        · exact .inl ⟨fault, last own.1 own.2⟩
        · refine .inr ?_
          by_contra both
          simp only [ne_eq, not_or, Decidable.not_not] at both
          exact own ⟨both.1.symm, both.2.symm⟩
      refine ⟨remains (invoke_elsewhere quiet runs spared) still, fun other member => ?_⟩
      cases List.mem_append.mp member with
      | inl old => exact failed other old
      | inr new =>
          rw [List.mem_singleton.mp new]
          exact last

end AssistantEngine
