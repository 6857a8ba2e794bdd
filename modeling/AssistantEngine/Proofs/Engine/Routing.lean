import Mathlib.Data.List.Forall2
import AssistantEngine.Proofs.Engine.Compilation
import AssistantEngine.Proofs.Engine.InvocationRuns
import AssistantEngine.Proofs.Graph.Destinations

/-!
How control passes in a turn. The graph of a workflow has all assistants that its handoff tools
lead to, so that a turn that starts among them stays among them and moves along edges only,
whatever the model says.
-/

namespace AssistantEngine

open Activity (Deed Runs glance)

variable {others : World → World → Prop} {world final : World} {deeds more : List (Deed World)}

/-! ## Answers -/

/-- The model has given this answer to a request. -/
def Replied (deeds : List (Deed World)) (request : ChatRequest)
    (result : Except Fault ChatMessage) : Prop :=
  ∃ deed ∈ deeds, deed.after.model = (deed.before.model.ask request).2 ∧
    (deed.before.model.ask request).1.result = result

theorem Replied.mono {request : ChatRequest} {result : Except Fault ChatMessage}
    (replied : Replied deeds request result) (sub : deeds ⊆ more) :
    Replied more request result := by
  rcases replied with ⟨deed, member, asked⟩
  exact ⟨deed, sub member, asked⟩

/-- Where calls pass control to: where the first of them leads that is a handoff. -/
def AssistantRuntime.transferOf (assistant : AssistantRuntime) (calls : List ToolCall) :
    Option String :=
  calls.findSome? fun call => assistant.handoff? call.name

/-- One tool message for every call, in the same order. -/
def Answers (calls : List ToolCall) (messages : List ChatMessage) : Prop :=
  List.Forall₂ (fun call message => ∃ content artifact,
    message = ChatMessage.toolResult call content artifact) calls messages

namespace CompiledRuntime

theorem askModel_runs {request : ChatRequest} {result : Except Fault ChatMessage}
    (runs : Runs others (askModel request) world deeds result final) :
    Replied deeds request result := by
  rcases runs.of_bind with ⟨front, back, answer, between, rfl, asked, rest⟩
  rcases asked.of_transact with ⟨rfl, rfl, rfl⟩
  rcases rest.of_bind with ⟨waiting, back, _, later, rfl, -, rest⟩
  rcases rest.of_bind with ⟨delay, back, _, _, rfl, -, answered⟩
  rcases answered.of_done with ⟨rfl, rfl, -⟩
  exact ⟨⟨world, _⟩, List.mem_append_left _ (List.mem_cons_of_mem _ List.mem_cons_self), rfl, rfl⟩

/-- The first handoff counts: a transfer that is pending is not changed by a call, and a call that
is no handoff changes nothing. -/
theorem answerCall_runs {assistant : AssistantRuntime} {transfer : Option String} {call : ToolCall}
    {outcome : ToolOutcome}
    (runs : Runs others (answerCall assistant transfer call) world deeds outcome final) :
    outcome.transfer = transfer.or (assistant.handoff? call.name) := by
  unfold answerCall at runs
  unfold AssistantRuntime.handoff?
  split at runs
  · rename_i tool resolved
    rw [resolved]
    cases transfer with
    | some pending =>
        rcases runs.of_done with ⟨-, rfl, -⟩
        rfl
    | none =>
        rcases runs.of_done with ⟨-, rfl, -⟩
        rfl
  · rename_i plugin resolved
    rw [resolved]
    rcases runs.of_bind with ⟨_, _, result, _, rfl, -, rest⟩
    cases result with
    | ok result =>
        rcases rest.of_done with ⟨-, rfl, -⟩
        exact Option.or_none.symm
    | error fault =>
        rcases rest.of_done with ⟨-, rfl, -⟩
        exact Option.or_none.symm
  · rename_i unknown
    rw [unknown]
    rcases runs.of_done with ⟨-, rfl, -⟩
    exact Option.or_none.symm

theorem answerCalls_runs {assistant : AssistantRuntime} {calls : List ToolCall}
    {transfer reached : Option String} {messages : List ChatMessage}
    (runs : Runs others (answerCalls assistant calls transfer) world deeds (messages, reached)
      final) :
    Answers calls messages ∧ reached = transfer.or (assistant.transferOf calls) := by
  induction calls generalizing transfer world deeds messages with
  | nil =>
      rcases runs.of_done with ⟨-, same, -⟩
      cases same
      exact ⟨.nil, Option.or_none.symm⟩
  | cons call rest induction =>
      unfold answerCalls at runs
      rcases runs.of_bind with ⟨_, _, outcome, _, rfl, answered, onward⟩
      rcases onward.of_bind with ⟨_, _, ⟨later, last⟩, between, rfl, tail, done⟩
      rcases done.of_done with ⟨-, same, rfl⟩
      cases same
      rcases induction tail with ⟨answers, transferred⟩
      refine ⟨.cons ⟨_, _, rfl⟩ answers, ?_⟩
      rw [transferred, answerCall_runs answered, Option.or_assoc]
      congr 1
      unfold AssistantRuntime.transferOf
      rw [List.findSome?_cons]
      cases assistant.handoff? call.name <;> rfl

/-! ## Courses -/

/-- The graph knows its assistants by their names, and handoff tools lead along ways to assistants
that it knows. -/
structure Routable (way : String → String → Prop) (assistants : Catalog AssistantRuntime) :
    Prop where
  named : ∀ name assistant, assistants.find? name = some assistant → assistant.name = name
  leads : ∀ name assistant, assistants.find? name = some assistant →
    ∀ tool ∈ assistant.handoffs,
      way name tool.destination ∧ assistants.contains tool.destination = true

/-- How control passes while messages are added to a thread, for so many answers of the model at
most. Whoever has control is an assistant of the graph and is the one whom the model speaks for;
after an answer with calls control is where the first handoff among them leads, along a way, or
where it was. -/
inductive Course (assistants : Catalog AssistantRuntime) (way : String → String → Prop)
    (replied : ChatRequest → ChatMessage → Prop) :
    Nat → String → List ChatMessage → List ChatMessage → String → Prop where
  | spent {control : String} {thread : List ChatMessage}
      (present : assistants.contains control = true) :
      Course assistants way replied 0 control thread [] control
  | last {steps : Nat} {control : String} {thread : List ChatMessage}
      {assistant : AssistantRuntime} {answer : ChatMessage}
      (inControl : assistants.find? control = some assistant)
      (asked : replied (requestOf assistant thread) answer) (quiet : answer.toolCalls = []) :
      Course assistants way replied (steps + 1) control thread
        [{ answer with name := some control }] control
  | next {steps : Nat} {control last : String} {thread answers said : List ChatMessage}
      {assistant : AssistantRuntime} {answer : ChatMessage}
      (inControl : assistants.find? control = some assistant)
      (asked : replied (requestOf assistant thread) answer) (calls : answer.toolCalls ≠ [])
      (answered : Answers answer.toolCalls answers)
      (moves : ∀ destination, assistant.transferOf answer.toolCalls = some destination →
        way control destination)
      (rest : Course assistants way replied steps
        ((assistant.transferOf answer.toolCalls).getD control)
        (thread ++ [{ answer with name := some control }] ++ answers) said last) :
      Course assistants way replied (steps + 1) control thread
        ({ answer with name := some control } :: answers ++ said) last

variable {assistants : Catalog AssistantRuntime} {way : String → String → Prop} {steps : Nat}
  {control last : String} {thread said : List ChatMessage}

theorem Course.mono {replied heard : ChatRequest → ChatMessage → Prop}
    (course : Course assistants way replied steps control thread said last)
    (implies : ∀ request answer, replied request answer → heard request answer) :
    Course assistants way heard steps control thread said last := by
  induction course with
  | spent present => exact .spent present
  | last inControl asked quiet => exact .last inControl (implies _ _ asked) quiet
  | next inControl asked calls answered moves _ induction =>
      exact .next inControl (implies _ _ asked) calls answered moves induction

/-- Wherever a course ends, control is with an assistant of the graph. -/
theorem Course.present {replied : ChatRequest → ChatMessage → Prop}
    (course : Course assistants way replied steps control thread said last) :
    assistants.contains last = true := by
  induction course with
  | spent present => exact present
  | last inControl asked quiet =>
      unfold Catalog.contains
      rw [inControl]
      rfl
  | next inControl asked calls answered moves _ induction => exact induction

theorem Routable.transfer (routable : Routable way assistants) {assistant : AssistantRuntime}
    (inControl : assistants.find? control = some assistant) {calls : List ToolCall}
    {destination : String} (passes : assistant.transferOf calls = some destination) :
    way control destination ∧ assistants.contains destination = true := by
  rcases List.exists_of_findSome?_eq_some passes with ⟨call, -, handoff⟩
  rcases AssistantRuntime.mem_of_handoff? handoff with ⟨tool, member, rfl⟩
  exact routable.leads control assistant inControl tool member

/-! ## Turns -/

/-- The model has given some assistant of the graph a fault for an answer. -/
def Silenced (assistants : Catalog AssistantRuntime) (deeds : List (Deed World))
    (fault : Fault) : Prop :=
  ∃ name assistant messages, assistants.find? name = some assistant ∧
    Replied deeds (requestOf assistant messages) (.error fault)

theorem Silenced.mono {fault : Fault} (silenced : Silenced assistants deeds fault)
    (sub : deeds ⊆ more) : Silenced assistants more fault := by
  rcases silenced with ⟨name, assistant, messages, found, replied⟩
  exact ⟨name, assistant, messages, found, replied.mono sub⟩

/-- What a turn comes to that starts with an assistant in control. -/
inductive Routed (assistants : Catalog AssistantRuntime) (way : String → String → Prop)
    (deeds : List (Deed World)) (steps : Nat) (control : String) (thread : List ChatMessage) :
    Except Fault Progress → Prop where
  | silenced {fault : Fault} (silenced : Silenced assistants deeds fault) :
      Routed assistants way deeds steps control thread (.error fault)
  | ended {said : List ChatMessage} {last : String} {artifacts : List Envelope}
      (course : Course assistants way (fun request answer => Replied deeds request (.ok answer))
        steps control thread said last) :
      Routed assistants way deeds steps control thread (.ok ⟨last, thread ++ said, artifacts⟩)

/-- The router never loses control: wherever it has gone, there is an assistant of the graph. -/
theorem route_runs (routable : Routable way assistants) {progress : Progress}
    (present : assistants.contains progress.active = true) {result : Except Fault Progress}
    (runs : Runs others (route assistants steps progress) world deeds result final) :
    Routed assistants way deeds steps progress.active progress.messages result := by
  induction steps generalizing progress world deeds with
  | zero =>
      rcases runs.of_done with ⟨-, rfl, -⟩
      have ended : Routed assistants way deeds 0 progress.active progress.messages
          (.ok ⟨progress.active, progress.messages ++ [], progress.artifacts⟩) :=
        .ended (.spent present)
      rwa [List.append_nil] at ended
  | succ steps induction =>
      rcases Option.isSome_iff_exists.mp present with ⟨assistant, inControl⟩
      unfold route at runs
      rw [inControl] at runs
      rcases runs.of_bind with ⟨front, back, answer, between, rfl, asking, onward⟩
      have replied := (askModel_runs asking).mono (List.subset_append_left front back)
      cases answer with
      | error fault =>
          rcases onward.of_done with ⟨-, rfl, -⟩
          exact .silenced ⟨_, assistant, _, inControl, replied⟩
      | ok answer =>
          dsimp only at onward
          rw [routable.named _ _ inControl] at onward
          split at onward
          · rename_i quiet
            rcases onward.of_done with ⟨-, rfl, -⟩
            have silent : answer.toolCalls = [] := List.isEmpty_iff.mp quiet
            rw [Progress.add, List.append_nil]
            exact .ended (.last inControl replied silent)
          · rename_i calling
            have calls : answer.toolCalls ≠ [] := fun none => calling (List.isEmpty_iff.mpr none)
            rcases onward.of_bind with
              ⟨middle, back, ⟨answers, transfer⟩, later, rfl, answering, rest⟩
            rcases answerCalls_runs answering with ⟨answered, transferred⟩
            rw [Option.none_or] at transferred
            subst transferred
            have stays : assistants.contains
                ((assistant.transferOf answer.toolCalls).getD progress.active) = true := by
              cases passes : assistant.transferOf answer.toolCalls with
              | none => exact present
              | some destination => exact (routable.transfer inControl passes).2
            have sub : back ⊆ front ++ (middle ++ back) := by simp
            rcases induction stays rest with silenced | course
            · exact .silenced (silenced.mono sub)
            · have whole := Course.next inControl replied calls answered
                (fun destination passes => (routable.transfer inControl passes).1)
                (course.mono fun request answer replied => replied.mono sub)
              have joined : ∀ reply said, (progress.add reply answers
                  (assistant.transferOf answer.toolCalls)).messages ++ said =
                    progress.messages ++ (reply :: answers ++ said) := by
                simp [Progress.add]
              rw [joined]
              exact .ended whole

/-- Who has control when a turn begins: the persisted assistant if the graph has it, and the
default one otherwise. -/
inductive FirstIn (assistants : Catalog AssistantRuntime) (default : String) :
    Option String → String → Prop where
  | resumed {name : String} (present : assistants.contains name = true) :
      FirstIn assistants default (some name) name
  | fresh {persisted : Option String}
      (absent : ∀ name, persisted = some name → assistants.contains name = false) :
      FirstIn assistants default persisted default

theorem firstIn_firstActive (assistants : Catalog AssistantRuntime) (default : String)
    (persisted : Option String) :
    FirstIn assistants default persisted (firstActive assistants default persisted) := by
  cases persisted with
  | none => exact .fresh fun name same => nomatch same
  | some name =>
      unfold firstActive
      rw [Option.filter_some]
      cases present : assistants.contains name with
      | true => exact .resumed present
      | false =>
          refine .fresh fun other same => ?_
          cases same
          exact present

theorem FirstIn.present {default control : String} {persisted : Option String}
    (first : FirstIn assistants default persisted control)
    (known : assistants.contains default = true) : assistants.contains control = true := by
  cases first with
  | resumed present => exact present
  | fresh absent => exact known

/-- What an invocation of a graph comes to. It fails with a fault of the database or of the
model, and otherwise output and saved state are what the course of the turn says. -/
inductive Followed (assistants : Catalog AssistantRuntime) (way : String → String → Prop)
    (default : String) (steps : Nat) (scope thread text : String) (deeds : List (Deed World)) :
    Except Fault RunOutput → Prop where
  | unloaded {fault : Fault}
      (refused : ∃ deed ∈ deeds, deed.before.database.load scope thread = .error fault) :
      Followed assistants way default steps scope thread text deeds (.error fault)
  | silenced {fault : Fault} (silenced : Silenced assistants deeds fault) :
      Followed assistants way default steps scope thread text deeds (.error fault)
  | unsaved {fault : Fault}
      (refused : ∃ deed ∈ deeds, ∃ state,
        deed.before.database.save scope thread state = .error fault) :
      Followed assistants way default steps scope thread text deeds (.error fault)
  | ended {found : Option ThreadState} {control last : String} {said : List ChatMessage}
      {artifacts : List Envelope}
      (loaded : ∃ deed ∈ deeds, deed.before.database.load scope thread = .ok found)
      (first : FirstIn assistants default (found.getD {}).activeAssistant control)
      (course : Course assistants way (fun request answer => Replied deeds request (.ok answer))
        steps control ((found.getD {}).messages ++ [.user text]) said last)
      (present : assistants.contains last = true)
      (saved : ∃ deed ∈ deeds, ∃ sequence, deed.before.database.save scope thread
        { messages := (found.getD {}).messages ++ [.user text] ++ said
          activeAssistant := some last } = .ok (sequence, deed.after.database)) :
      Followed assistants way default steps scope thread text deeds
        (.ok {
          messages := .user text :: said
          activeAssistant := some last
          artifacts := artifacts })

variable {runtime : CompiledRuntime} {default : String} {scope name text : String}

theorem takeTurn_follows (routable : Routable way assistants)
    (topology : runtime.topology = .multiAgent assistants default steps)
    (known : assistants.contains default = true) {state : ThreadState}
    {result : Except Fault (ThreadState × List Envelope)}
    (runs : Runs others (runtime.takeTurn state) world deeds result final) :
    (∃ fault, result = .error fault ∧ Silenced assistants deeds fault) ∨
      ∃ control said last artifacts,
        result = .ok (⟨state.messages ++ said, some last⟩, artifacts) ∧
        FirstIn assistants default state.activeAssistant control ∧
        Course assistants way (fun request answer => Replied deeds request (.ok answer)) steps
          control state.messages said last := by
  have first := firstIn_firstActive assistants default state.activeAssistant
  unfold takeTurn at runs
  rw [topology] at runs
  rcases runs.of_bind with ⟨front, back, reached, between, rfl, routing, rest⟩
  have routed := route_runs routable (first.present known) routing
  cases routed with
  | silenced silenced =>
      rcases rest.of_done with ⟨rfl, rfl, -⟩
      exact .inl ⟨_, rfl, silenced.mono (List.subset_append_left _ _)⟩
  | ended course =>
      rcases rest.of_done with ⟨rfl, rfl, -⟩
      refine .inr ⟨_, _, _, _, rfl, first, ?_⟩
      rw [List.append_nil]
      exact course

/-- The turns that a graph takes follow it, whatever the database, the model and the servers do. -/
theorem invoke_follows (routable : Routable way assistants)
    (topology : runtime.topology = .multiAgent assistants default steps)
    (known : assistants.contains default = true) {result : Except Fault RunOutput}
    (runs : Runs others (runtime.invoke name text) world deeds result final) :
    Followed assistants way default steps runtime.checkpoints.scope name text deeds result := by
  have invocation := invoke_runs runs
  cases invocation with
  | unloaded meanwhile refused => exact .unloaded ⟨_, List.mem_cons_self, refused⟩
  | failed meanwhile loaded turn =>
      rcases takeTurn_follows routable topology known turn with ⟨fault, same, silenced⟩ | ended
      · cases same
        exact .silenced (silenced.mono (List.subset_cons_self _ _))
      · rcases ended with ⟨_, _, _, _, same, _⟩
        cases same
  | unsaved meanwhile loaded turn saving =>
      cases saving with
      | refused _ refused =>
          refine .unsaved
            ⟨_, List.mem_cons_of_mem _ (List.mem_append_right _ List.mem_cons_self), ?_⟩
          exact ⟨_, refused⟩
  | ended meanwhile loaded turn saving =>
      rcases takeTurn_follows routable topology known turn with ⟨fault, same, _⟩ | followed
      · cases same
      · rcases followed with ⟨control, said, last, artifacts, same, first, course⟩
        cases same
        cases saving with
        | @saved _ _ database _ saved =>
            have fresh (base : ThreadState) : ((base.ask text).messages ++ said).drop
                base.messages.length = .user text :: said := by
              rw [ThreadState.ask, List.append_assoc, List.drop_left, List.singleton_append]
            rw [fresh]
            refine .ended ⟨_, List.mem_cons_self, loaded⟩ first ?_ course.present ?_
            · exact course.mono fun request answer replied => replied.mono fun deed member =>
                List.mem_cons_of_mem _ (List.mem_append_left _ member)
            · exact ⟨_, List.mem_cons_of_mem _ (List.mem_append_right _
                (List.mem_cons_of_mem _ List.mem_cons_self)), _, saved⟩

end CompiledRuntime

/-! ## Compiled graphs -/

namespace Compiler

open CompiledRuntime (Routable Followed)
open NodeResolution (Stands Way)

/-- The assistants of a graph have the names of the specifications, and each has been made from
the specification of its name, with handoff tools for its destinations. -/
theorem makeAssistants_runs {settings : Settings} {destinations : Catalog NameSet}
    {specs : Catalog AssistantSpec} {scope full : Scope Resource}
    {assistants : Catalog AssistantRuntime}
    (runs : Runs others (makeAssistants settings destinations specs scope) world deeds
      (assistants, full) final) (name : String) :
    assistants.contains name = specs.contains name ∧
      ∀ assistant, assistants.find? name = some assistant → ∃ spec modelName plugins,
        specs.find? name = some spec ∧ assistant = AssistantRuntime.ofPlugins spec modelName plugins
          ((destinations.find? name).getD []) := by
  induction specs generalizing world deeds scope assistants with
  | nil =>
      rcases runs.of_done with ⟨-, same, -⟩
      cases same
      exact ⟨rfl, fun assistant found => nomatch found⟩
  | cons entry rest induction =>
      rcases entry with ⟨first, spec⟩
      unfold makeAssistants makeAssistant at runs
      rcases runs.of_bind with ⟨_, _, ⟨assistant, middle⟩, _, rfl, making, onward⟩
      rcases onward.of_bind with ⟨_, _, ⟨others, last⟩, _, rfl, remaining, done⟩
      rcases done.of_done with ⟨-, same, rfl⟩
      cases same
      rcases making.of_bind with ⟨_, _, ⟨plugins, _⟩, _, rfl, -, naming⟩
      rcases naming.of_bind with ⟨_, _, modelName, _, rfl, -, made⟩
      rcases made.of_done with ⟨-, same, -⟩
      cases same
      rcases induction remaining with ⟨present, described⟩
      unfold Catalog.contains at present ⊢
      simp only [Catalog.find?]
      by_cases own : first = name
      · subst own
        simp only [if_pos]
        refine ⟨rfl, fun assistant found => ?_⟩
        cases found
        exact ⟨spec, modelName, plugins, rfl, rfl⟩
      · simp only [if_neg own]
        exact ⟨present, described⟩

/-- The graph of a workflow: its assistants are those that the nodes were resolved to, and their
handoff tools follow the edges. -/
theorem makeAssistants_routable {settings : Settings} {spec : WorkflowSpec} {nodes : List LookedUp}
    {scope full : Scope Resource} {assistants : Catalog AssistantRuntime}
    (runs : Runs others (makeAssistants settings
        ((NodeResolution.collect nodes).destinations spec settings.allowSelfHandoff)
        (NodeResolution.collect nodes).specs scope) world deeds (assistants, full) final) :
    Routable (Way spec nodes) assistants := by
  constructor
  case named =>
    intro name assistant found
    rcases (makeAssistants_runs runs name).2 assistant found with
      ⟨given, modelName, plugins, known, rfl⟩
    exact (NodeResolution.stands_of_specs known).1
  case leads =>
    intro name assistant found tool member
    rcases (makeAssistants_runs runs name).2 assistant found with
      ⟨given, modelName, plugins, known, rfl⟩
    have reaching := NodeResolution.destinations_reach spec settings.allowSelfHandoff nodes
    have reached := reaching.of_find? (HandoffTool.destination_mem member)
    refine ⟨reached, ?_⟩
    rcases reached with ⟨_, second, _, stands, _⟩
    rw [(makeAssistants_runs runs tool.destination).1]
    exact NodeResolution.specs_of_stands stands

/-- Whenever a workflow is compiled to its graph, with whatever settings, every turn that the graph
takes follows the workflow: it starts with the persisted assistant or else the one of the start
node, control moves along the edges between the assistants of the nodes, and the assistant that
has it in the end is the one that is returned and saved. -/
theorem compiled_turns_follow (settings : Settings) (id : String)
    {graph : RuntimeCache.Graph CompiledRuntime Resource}
    (compiled : Runs others (compile settings id) world deeds (.workflow graph) final) :
    ∃ spec start asked assistants default,
      (∃ deed ∈ deeds, deed.before.workflow id = .ok (some spec)) ∧ spec.starts = [start] ∧
      asked.Sublist (deeds.map (·.before)) ∧ asked.length = spec.nodes.length ∧
      graph.runtime.topology = .multiAgent assistants default (max settings.maxAgentSteps 1) ∧
      Stands (findings spec.nodes asked) start.id default ∧
      ∀ (meanwhile : World → World → Prop) thread text world deeds result final,
        Runs meanwhile (graph.runtime.invoke thread text) world deeds result final →
        Followed assistants (Way spec (findings spec.nodes asked)) default
          (max settings.maxAgentSteps 1) graph.runtime.checkpoints.scope thread text deeds
          result := by
  cases compile_runs compiled with
  | requested same instead => cases instead
  | refused other meanwhile answered instead => cases instead
  | missing other meanwhile answered instead => cases instead
  | abandoned other meanwhile answered tried releasing instead => cases instead
  | @built here _ spec _ _ front other meanwhile answered attempt =>
      cases attempt with
      | @built start first back _ _ _ _ asked assistants _ name valid only opening all settled made
          default =>
          have routable := makeAssistants_routable made
          have stands := NodeResolution.stands_of_names default
          have known : assistants.contains name = true :=
            (makeAssistants_runs made name).1.trans (NodeResolution.specs_of_stands stands)
          refine ⟨spec, start, asked, assistants, name, ⟨_, List.mem_cons_self, answered⟩, only, ?_,
            all, rfl, stands, ?_⟩
          · have same : (asked.map glance).map (·.before) = asked := by
              rw [List.map_map]
              exact List.map_id asked
            refine List.Sublist.cons _ ?_
            rw [List.map_append, List.map_append, same]
            exact (List.sublist_append_left _ _).trans (List.sublist_append_right _ _)
          · intro meanwhile thread text world deeds result final invoked
            exact CompiledRuntime.invoke_follows routable rfl known invoked

/-- A workflow in which the first assistant may pass control to the second. -/
def relay : WorkflowSpec :=
  { id := "relay"
    nodes := [⟨"front", "ann", none, true⟩, ⟨"back", "bob", none, false⟩]
    edges := [⟨"front", "back", .single⟩] }

/-- A world with both assistants and a model that passes control before it answers. -/
def relayWorld : World :=
  { source := .service {
      workflow := fun _ => .ok (some relay)
      assistant := fun id =>
        .ok (some { id := id, name := if id = "ann" then "Ann" else "Bob" }) }
    registry := { directories := [] }
    artifacts := .ofCapacity 1
    model := .ofList "script"
      [{ result := .ok { role := .assistant, toolCalls := [⟨"1", "transfer_to_bob", .null⟩] } }]
      { result := .ok (.assistant "(done)") }
    reach := fun _ => .error (.internal "no servers") }

/-- Compiles the workflow and takes one turn with its graph; answers who has control then. -/
def relayed : Option (Option String) :=
  ((compile { pluginDirectories := [] } "relay").complete 0 relayWorld).bind fun compiled =>
    match compiled.1 with
    | .workflow graph =>
      ((graph.runtime.invoke "main" "hello").complete 0 compiled.2.2).bind fun turn =>
        match turn.1 with
        | .ok output => some output.activeAssistant
        | .error _ => none
    | _ => none

theorem compiled_turns_follow_relay :
    ∃ deeds graph final turn output last,
      Runs Eq (compile { pluginDirectories := [] } "relay") relayWorld deeds (.workflow graph)
        final ∧
      Runs Eq (graph.runtime.invoke "main" "hello") final turn (.ok output) last ∧
      output.activeAssistant = some "Bob" ∧
      ∃ spec asked assistants default,
        graph.runtime.topology = .multiAgent assistants default 16 ∧
        assistants.contains "Bob" = true ∧
        Followed assistants (Way spec (findings spec.nodes asked)) default 16
          graph.runtime.checkpoints.scope "main" "hello" turn (.ok output) := by
  have passed : relayed = some (some "Bob") := by decide +kernel
  unfold relayed at passed
  rcases Option.bind_eq_some_iff.mp passed with ⟨⟨outcome, time, final⟩, compiled, invoked⟩
  cases outcome with
  | workflow graph =>
      rcases Option.bind_eq_some_iff.mp invoked with ⟨⟨result, later, last⟩, completed, active⟩
      cases result with
      | error fault => cases active
      | ok output =>
          have compiling : ∃ deeds, Runs Eq (compile { pluginDirectories := [] } "relay") relayWorld
              deeds (.workflow graph) final := Runs.of_complete (fun _ => rfl) compiled
          have invoking : ∃ turn, Runs Eq (graph.runtime.invoke "main" "hello") final turn
              (.ok output) last := Runs.of_complete (fun _ => rfl) completed
          rcases compiling with ⟨deeds, compiling⟩
          rcases invoking with ⟨turn, invoking⟩
          rcases compiled_turns_follow _ _ compiling with
            ⟨spec, start, asked, assistants, default, -, -, -, -, topology, -, follows⟩
          have followed := follows Eq "main" "hello" final turn (.ok output) last invoking
          have bob : output.activeAssistant = some "Bob" := Option.some.inj active
          refine ⟨deeds, graph, final, turn, output, last, compiling, invoking, bob, spec, asked,
            assistants, default, topology, ?_, followed⟩
          cases followed with
          | ended loaded first course present saved => exact Option.some.inj bob ▸ present
  | fallback graph reason => cases invoked
  | failed fault => cases invoked
  | panicked => cases invoked

end Compiler

end AssistantEngine
