import AssistantEngine.Proofs.Engine.Routing

/-!
The history of threads. Invocations of the runtimes of one workflow, one after the other, add the
messages of their outputs to their threads and nothing else; one that fails leaves the database as
it was. Whatever compiling has come to in the meantime, the next turn begins where the last one
has ended.
-/

namespace AssistantEngine

open Activity (Deed Runs glance)
open CompiledRuntime (Routable FirstIn Course Invocation)

variable {id : String} {others : World → World → Prop} {world final : World}
  {deeds : List (Deed World)}

/-! ## The runtimes of a workflow -/

/-- A runtime that compiling a workflow has come to, at any time and with any settings. The source
has given the workflow no other id than the one it was asked for. -/
def BuiltFor (id : String) (runtime : CompiledRuntime) : Prop :=
  ∃ settings others world deeds outcome final graph,
    Runs others (Compiler.compile settings id) world deeds outcome final ∧
    outcome.graph? = some graph ∧ graph.runtime = runtime ∧
    ∀ deed ∈ deeds, ∀ spec, deed.before.workflow id = .ok (some spec) → spec.id = id

/-- A graph whose turns begin with an assistant of its own. -/
def Begins (runtime : CompiledRuntime) : Prop :=
  ∀ assistants default steps, runtime.topology = .multiAgent assistants default steps →
    0 < steps ∧ assistants.contains default = true ∧ ∃ way, Routable way assistants

theorem begins_fallback {scope : String} {store : CheckpointStore} {reason : String} :
    Begins { workflowId := scope, checkpoints := store, topology := .fallback reason } :=
  fun _ _ _ topology => nomatch topology

namespace Compiler

theorem FallingBack.built {reason : String} {outcome : BuildOutcome}
    {graph : RuntimeCache.Graph CompiledRuntime Resource}
    (instead : FallingBack others id reason world deeds outcome final)
    (given : outcome.graph? = some graph) :
    graph.runtime.checkpoints.scope = id ∧ Begins graph.runtime := by
  cases instead with
  | refused meanwhile refused => cases given
  | opened meanwhile usable =>
      cases given
      exact ⟨rfl, begins_fallback⟩

/-- All runtimes of a workflow, graphs and plain conversations, keep their threads in one scope. -/
theorem built_own {runtime : CompiledRuntime} (built : BuiltFor id runtime) :
    runtime.checkpoints.scope = id ∧ Begins runtime := by
  rcases built with
    ⟨settings, others, world, deeds, outcome, final, graph, runs, given, rfl, honest⟩
  cases compile_runs runs with
  | requested same instead => exact instead.built given
  | refused other meanwhile answered instead => exact instead.built given
  | missing other meanwhile answered instead => exact instead.built given
  | abandoned other meanwhile answered tried releasing instead => exact instead.built given
  | built other meanwhile answered attempt =>
      cases given
      have own := honest _ List.mem_cons_self _ answered
      cases attempt with
      | @built _ _ _ _ _ _ _ asked assistants _ name valid only opening all settled made default =>
          refine ⟨?_, ?_⟩
          · cases opening with
            | opened meanwhile usable => exact own
          · rintro assistants default steps ⟨⟩
            have stands := NodeResolution.stands_of_names default
            exact ⟨Nat.lt_of_lt_of_le Nat.zero_lt_one (Nat.le_max_right _ _),
              (makeAssistants_runs made _).1.trans (NodeResolution.specs_of_stands stands),
              _, makeAssistants_routable made⟩

end Compiler

/-! ## Calls -/

/-- An invocation from its beginning to its end. -/
structure Call where
  runtime : CompiledRuntime
  thread : String
  text : String
  deeds : List (Deed World)
  result : Except Fault RunOutput

/-- Calls that are made one after the other, by others left alone in so far as `others` says. -/
inductive Session (others : World → World → Prop) : World → List Call → World → Prop where
  | begin (world : World) : Session others world [] world
  | pass {world before after : World} {calls : List Call} (earlier : Session others world calls before)
      (meanwhile : others before after) : Session others world calls after
  | call {world before after : World} {calls : List Call} {call : Call}
      (earlier : Session others world calls before)
      (runs : Runs others (call.runtime.invoke call.thread call.text) before call.deeds call.result
        after) :
      Session others world (calls ++ [call]) after

/-- The outputs of the calls that succeeded on a thread. -/
def outputs (calls : List Call) (thread : String) : List RunOutput :=
  calls.filterMap fun call => if call.thread = thread then call.result.toOption else none

/-- The state that outputs add up to: their messages, and the assistant that had control last. -/
def recorded (outputs : List RunOutput) : Option ThreadState :=
  outputs.getLast?.map fun last =>
    { messages := outputs.flatMap (·.messages), activeAssistant := last.activeAssistant }

/-- What a call does to the database, and who speaks first in its turn. -/
structure Recorded (scope : String) (persisted : Option String) (call : Call) : Prop where
  /-- A call that fails changes nothing. -/
  failed : ∀ fault, call.result = .error fault →
    ∀ deed ∈ call.deeds, deed.after.database = deed.before.database
  /-- A call that succeeds adds one row to its thread, in one deed, and changes nothing else. -/
  ended : ∀ output, call.result = .ok output → ∃ front deed back,
    call.deeds = front ++ deed :: back ∧
    deed.before.database.Adds scope call.thread deed.after.database ∧
    ∀ other ∈ front ++ back, other.after.database = other.before.database
  /-- The plain conversation passes no control. -/
  keeps : ∀ output reason, call.result = .ok output → call.runtime.topology = .fallback reason →
    output.activeAssistant = persisted
  /-- In a graph the persisted assistant speaks first, if the graph has it. -/
  resumes : ∀ output assistants default steps, call.result = .ok output →
    call.runtime.topology = .multiAgent assistants default steps →
    ∃ control reply rest, FirstIn assistants default persisted control ∧
      output.messages = .user call.text :: reply :: rest ∧ reply.name = some control

/-! ## What one call does -/

section OneCall

variable {runtime : CompiledRuntime} {thread text : String} {output : RunOutput}

/-- No deed of a turn touches the database. -/
theorem takeTurn_keeps {state : ThreadState} {result : Except Fault (ThreadState × List Envelope)}
    (turn : Runs others (runtime.takeTurn state) world deeds result final) :
    (∀ deed ∈ deeds, deed.after.database = deed.before.database) ∧
      CompiledRuntime.Extends state.messages (result.map (·.1.messages)) :=
  turn.spares (runtime.takeTurn_spares (World.aloof_database id) state world.database)

theorem glance_keeps : ∀ deed ∈ [glance world], deed.after.database = deed.before.database := by
  intro deed member
  rw [List.mem_singleton.mp member]
  rfl

/-- A call that fails changes nothing in the database. -/
theorem invoke_failed {fault : Fault}
    (runs : Runs others (runtime.invoke thread text) world deeds (.error fault) final) :
    ∀ deed ∈ deeds, deed.after.database = deed.before.database := by
  cases CompiledRuntime.invoke_runs runs with
  | unloaded meanwhile refused => exact glance_keeps
  | failed meanwhile loaded turn =>
      intro deed member
      rcases List.mem_cons.mp member with rfl | later
      · rfl
      · exact (takeTurn_keeps turn).1 deed later
  | unsaved meanwhile loaded turn saving =>
      cases saving with
      | refused _ refused =>
          intro deed member
          rcases List.mem_cons.mp member with rfl | later
          · rfl
          · rcases List.mem_append.mp later with front | back
            · exact (takeTurn_keeps turn).1 deed front
            · rcases List.mem_pair.mp back with rfl | rfl <;> rfl

/-- A call that succeeds ends with the deed that adds a row to its thread. -/
theorem invoke_ended
    (runs : Runs others (runtime.invoke thread text) world deeds (.ok output) final) :
    ∃ front deed back, deeds = front ++ deed :: back ∧
      deed.before.database.Adds runtime.checkpoints.scope thread deed.after.database ∧
      ∀ other ∈ front ++ back, other.after.database = other.before.database := by
  cases CompiledRuntime.invoke_runs runs with
  | @ended here _ _ _ _ _ _ front _ meanwhile loaded turn saving =>
      cases saving with
      | @saved between _ database _ saved =>
          refine ⟨glance here :: (front ++ [glance between]),
            ⟨between, { between with database := database }⟩, [], by simp,
            Database.adds_of_save saved, fun deed member => ?_⟩
          rw [List.append_nil] at member
          rcases List.mem_cons.mp member with rfl | later
          · rfl
          · rcases List.mem_append.mp later with turned | last
            · exact (takeTurn_keeps turn).1 deed turned
            · exact glance_keeps deed last

/-- The plain conversation adds to the messages and leaves control as it is. -/
theorem takeTurn_plain {reason : String} (topology : runtime.topology = .fallback reason)
    {state reached : ThreadState} {artifacts : List Envelope}
    (turn : Runs others (runtime.takeTurn state) world deeds (.ok (reached, artifacts)) final) :
    reached.activeAssistant = state.activeAssistant := by
  unfold CompiledRuntime.takeTurn at turn
  rw [topology] at turn
  rcases turn.of_bind with ⟨_, _, answer, _, rfl, -, rest⟩
  cases answer with
  | error fault =>
      rcases rest.of_done with ⟨-, same, -⟩
      cases same
  | ok reply =>
      rcases rest.of_done with ⟨-, same, -⟩
      cases same
      rfl

/-- Whoever has control at the beginning of a course speaks first, if anybody may speak. -/
theorem CompiledRuntime.Course.speaks {assistants : Catalog AssistantRuntime}
    {way : String → String → Prop} {replied : ChatRequest → ChatMessage → Prop} {steps : Nat}
    {control last : String} {messages said : List ChatMessage}
    (course : Course assistants way replied steps control messages said last)
    (steps_pos : 0 < steps) : ∃ reply rest, said = reply :: rest ∧ reply.name = some control := by
  cases course with
  | spent present => exact absurd steps_pos (Nat.lt_irrefl 0)
  | last inControl asked quiet => exact ⟨_, _, rfl, rfl⟩
  | next inControl asked calls answered moves rest => exact ⟨_, _, rfl, rfl⟩

/-- What a call that succeeds has added, while the others leave the threads alone: to the state of
its thread the messages of its output, and to the other threads nothing. -/
theorem invoke_adds (own : runtime.checkpoints.scope = id) (begins : Begins runtime)
    (quiet : ∀ before after, others before after → ∀ thread,
      World.rowsOf id thread after = World.rowsOf id thread before)
    (runs : Runs others (runtime.invoke thread text) world deeds (.ok output) final) :
    ∃ rows found row, World.rowsOf id thread world = some rows ∧
      CheckpointRow.state? rows = .ok found ∧ CheckpointRow.Follows rows row ∧
      row.state = (output.after (found.getD {})).toJson.compact ∧
      World.rowsOf id thread final = some (rows ++ [row]) ∧
      (∀ other, other ≠ thread → World.rowsOf id other final = World.rowsOf id other world) ∧
      (∀ reason, runtime.topology = .fallback reason →
        output.activeAssistant = (found.getD {}).activeAssistant) ∧
      ∀ assistants default steps, runtime.topology = .multiAgent assistants default steps →
        ∃ control reply rest, FirstIn assistants default (found.getD {}).activeAssistant control ∧
          output.messages = .user text :: reply :: rest ∧ reply.name = some control := by
  subst own
  cases CompiledRuntime.invoke_runs runs with
  | @ended here _ _ _ found reached _ _ _ meanwhile loaded turn saving =>
      rcases takeTurn_keeps turn with ⟨kept, extends'⟩
      have longer := ((found.getD {}).prefix_ask text).trans (extends' reached.messages rfl)
      cases saving with
      | @saved between _ database before saved =>
          have same (other : String) : between.database.rowsOf runtime.checkpoints.scope other =
              World.rowsOf runtime.checkpoints.scope other world :=
            ((quiet _ _ before other).trans (turn.view_final
              (fun _ _ change => quiet _ _ change other)
              fun deed member => congrArg (·.rowsOf runtime.checkpoints.scope other)
                (kept deed member))).trans (quiet _ _ meanwhile other)
          rcases Database.save_ok saved with ⟨rows, row, here_rows, follows, written, grown⟩
          rw [same] at here_rows
          refine ⟨rows, found, row, here_rows, ?_, follows, ?_, grown, fun other different => ?_,
            fun reason topology => ?_, fun assistants default steps topology => ?_⟩
          · have read := loaded
            rw [Database.load_eq] at read
            have rows_here : here.database.rowsOf runtime.checkpoints.scope thread = some rows :=
              (quiet _ _ meanwhile thread).trans here_rows
            rwa [rows_here] at read
          · rw [written, RunOutput.after_drop longer]
          · exact ((Database.adds_of_save saved).rowsOf_other (.inr different)).trans (same other)
          · have control := takeTurn_plain topology turn
            exact control
          · rcases begins assistants default steps topology with ⟨positive, known, way, routable⟩
            rcases CompiledRuntime.takeTurn_follows routable topology known turn with
              ⟨fault, failed, -⟩ | ⟨control, said, last, _, ended, first, course⟩
            · cases failed
            · rcases course.speaks positive with ⟨reply, rest, rfl, named⟩
              cases ended
              refine ⟨control, reply, rest, first, ?_, named⟩
              dsimp only
              rw [ThreadState.ask, List.append_assoc, List.drop_left, List.singleton_append]

end OneCall

/-! ## What calls add up to -/

theorem outputs_concat (calls : List Call) (call : Call) (thread : String) :
    outputs (calls ++ [call]) thread = outputs calls thread ++
      (if call.thread = thread then call.result.toOption else none).toList := by
  unfold outputs
  rw [List.filterMap_append]
  rfl

theorem recorded_messages (outputs : List RunOutput) :
    ((recorded outputs).getD {}).messages = outputs.flatMap (·.messages) := by
  unfold recorded
  cases last : outputs.getLast? with
  | none =>
      rw [List.getLast?_eq_none_iff] at last
      subst last
      rfl
  | some output => rfl

/-- One more output comes on top of the state so far. -/
theorem recorded_concat (outputs : List RunOutput) (output : RunOutput) :
    recorded (outputs ++ [output]) = some (output.after ((recorded outputs).getD {})) := by
  unfold RunOutput.after
  rw [recorded_messages]
  unfold recorded
  rw [List.getLast?_concat, List.flatMap_append, List.flatMap_singleton]
  rfl

/-- All states that calls add up to read back as they were written. -/
def Storable (calls : List Call) : Prop :=
  ∀ count thread state, recorded (outputs (calls.take count) thread) = some state → state.ReadsBack

theorem Storable.earlier {calls : List Call} {call : Call} (storable : Storable (calls ++ [call])) :
    Storable calls := by
  intro count thread state given
  refine storable (min count calls.length) thread state ?_
  rw [List.take_append_of_le_length (Nat.min_le_right _ _), ← List.take_take, List.take_length]
  exact given

/-- The rows of every thread hold the state that the calls so far add up to. -/
def Holds (id : String) (calls : List Call) (world : World) : Prop :=
  ∀ thread, ∃ rows, World.rowsOf id thread world = some rows ∧
    CheckpointRow.state? rows = .ok (recorded (outputs calls thread))

namespace Holds

variable {calls : List Call} {call : Call} {before after : World}

theorem kept (holds : Holds id calls before)
    (same : ∀ thread, World.rowsOf id thread after = World.rowsOf id thread before) :
    Holds id calls after := by
  intro thread
  rcases holds thread with ⟨rows, stored, read⟩
  exact ⟨rows, (same thread).trans stored, read⟩

theorem load (holds : Holds id calls after) (thread : String) :
    after.database.load id thread = .ok (recorded (outputs calls thread)) := by
  rcases holds thread with ⟨rows, stored, read⟩
  have rows_now : after.database.rowsOf id thread = some rows := stored
  rw [Database.load_eq, rows_now]
  exact read

theorem persisted (calls : List Call) (thread : String) :
    ((recorded (outputs calls thread)).getD {}).activeAssistant =
      (recorded (outputs calls thread)).bind (·.activeAssistant) := by
  cases recorded (outputs calls thread) <;> rfl

/-- One call, whether it fails or not. -/
theorem afterCall (holds : Holds id calls before)
    (quiet : ∀ before after, others before after → ∀ thread,
      World.rowsOf id thread after = World.rowsOf id thread before)
    (built : BuiltFor id call.runtime) (storable : Storable (calls ++ [call]))
    (runs : Runs others (call.runtime.invoke call.thread call.text) before call.deeds call.result
      after) :
    Holds id (calls ++ [call]) after ∧
      Recorded id ((recorded (outputs calls call.thread)).bind (·.activeAssistant)) call := by
  rcases Compiler.built_own built with ⟨own, begins⟩
  cases given : call.result with
  | error fault =>
      rw [given] at runs
      have idle := invoke_failed runs
      refine ⟨fun thread => ?_, fun _ _ => idle, fun output same => ?_,
        fun output reason same => ?_, fun output assistants default steps same => ?_⟩
      · have silent : outputs (calls ++ [call]) thread = outputs calls thread := by
          rw [outputs_concat, given]
          split <;> exact List.append_nil _
        rw [silent]
        refine holds.kept (fun thread => ?_) thread
        exact runs.view_final (fun _ _ change => quiet _ _ change thread)
          fun deed member => congrArg (·.rowsOf id thread) (idle deed member)
      all_goals
        rw [given] at same
        cases same
  | ok output =>
      rw [given] at runs
      rcases invoke_adds own begins quiet runs with
        ⟨rows, found, row, stored, read, follows, written, grown, apart, keeps, resumes⟩
      -- The state that was loaded is what the calls so far add up to.
      have loaded : found = recorded (outputs calls call.thread) := by
        rcases holds call.thread with ⟨rows', stored', read'⟩
        cases stored'.symm.trans stored
        exact Except.ok.inj (read.symm.trans read')
      subst loaded
      rw [persisted] at keeps resumes
      refine ⟨fun thread => ?_, fun fault same => ?_, fun _ _ => own ▸ invoke_ended runs,
        fun other reason same topology => ?_,
        fun other assistants default steps same topology => ?_⟩
      · by_cases here : call.thread = thread
        · subst here
          have now : outputs (calls ++ [call]) call.thread =
              outputs calls call.thread ++ [output] := by
            rw [outputs_concat, given, if_pos rfl]
            rfl
          refine ⟨rows ++ [row], grown, ?_⟩
          rw [now, recorded_concat]
          refine follows.state?_append written (storable (calls.length + 1) call.thread _ ?_)
          rw [List.take_of_length_le (by simp), now, recorded_concat]
        · have silent : outputs (calls ++ [call]) thread = outputs calls thread := by
            rw [outputs_concat, if_neg here]
            exact List.append_nil _
          rw [silent]
          rcases holds thread with ⟨rows', stored', read'⟩
          exact ⟨rows', (apart thread (Ne.symm here)).trans stored', read'⟩
      · rw [given] at same
        cases same
      · rw [given] at same
        cases same
        exact keeps reason topology
      · rw [given] at same
        cases same
        exact resumes assistants default steps topology

end Holds

/-! ## Sessions -/

/-- In a session of one workflow, which begins with an empty table, every thread holds just the
messages of its successful outputs, in their order, and every call does what is recorded of it:
it fails and changes nothing, or it adds one row to its own thread; a plain conversation keeps the
assistant that has control, and in a graph that assistant speaks first when it is there. -/
theorem Session.history (id : String) (others : World → World → Prop) (world : World)
    (calls : List Call) (final : World)
    (empty : ∃ table, world.database.table = some table ∧ table.rows = [])
    (quiet : ∀ before after, others before after → ∀ thread,
      World.rowsOf id thread after = World.rowsOf id thread before)
    (session : Session others world calls final)
    (built : ∀ call ∈ calls, BuiltFor id call.runtime) (storable : Storable calls) :
    (∀ thread, final.database.load id thread = .ok (recorded (outputs calls thread))) ∧
      ∀ place call, calls[place]? = some call →
        Recorded id ((recorded (outputs (calls.take place) call.thread)).bind (·.activeAssistant))
          call := by
  suffices both : Holds id calls final ∧ ∀ place call, calls[place]? = some call →
      Recorded id ((recorded (outputs (calls.take place) call.thread)).bind (·.activeAssistant))
        call from ⟨both.1.load, both.2⟩
  induction session with
  | begin =>
      refine ⟨fun thread => ⟨[], ?_, rfl⟩, fun place call found => nomatch found⟩
      rcases empty with ⟨table, stored, none⟩
      unfold World.rowsOf Database.rowsOf CheckpointTable.history
      rw [stored, Option.map_some, none, List.filter_nil]
  | pass earlier meanwhile induction =>
      rcases induction built storable with ⟨holds, recorded⟩
      exact ⟨holds.kept (quiet _ _ meanwhile), recorded⟩
  | @call before after calls call earlier runs induction =>
      have builtBefore : ∀ call ∈ calls, BuiltFor id call.runtime :=
        fun call member => built call (List.mem_append_left _ member)
      have builtLast := built call (List.mem_append_right _ (List.mem_singleton.mpr rfl))
      rcases induction builtBefore storable.earlier with ⟨holds, recorded⟩
      rcases holds.afterCall quiet builtLast storable runs with ⟨holding, last⟩
      refine ⟨holding, fun place other found => ?_⟩
      rcases Nat.lt_or_ge place calls.length with old | new
      · rw [List.getElem?_append_left old] at found
        rw [List.take_append_of_le_length (Nat.le_of_lt old)]
        exact recorded place other found
      · have bound := (List.getElem?_eq_some_iff.mp found).1
        rw [List.length_append, List.length_singleton] at bound
        have same : place = calls.length := by omega
        subst same
        rw [List.getElem?_concat_length] at found
        cases found
        rw [List.take_left]
        exact last

/-- A world without workflows whose model answers once. -/
def briefWorld : World :=
  { registry := { directories := [] }
    artifacts := .ofCapacity 1
    model := .ofList "script" [{ result := .ok (.assistant "(done)") }]
      { result := .error (.model "offline") }
    reach := fun _ => .error (.internal "no servers") }

def briefChat : CompiledRuntime :=
  { workflowId := "desk"
    checkpoints := ⟨0, "desk"⟩
    topology := .fallback (Compiler.notFoundText "desk") }

def briefOutput : RunOutput :=
  { messages := [.user "hello", .assistant "(done)"], activeAssistant := none }

theorem briefChat_built : BuiltFor "desk" briefChat := by
  refine ⟨{ pluginDirectories := [] }, Eq, briefWorld,
    [glance briefWorld, glance briefWorld, ⟨briefWorld, briefWorld.withStore⟩],
    .fallback ⟨briefChat, { owner := "desk", resources := [.checkpoints ⟨0, "desk"⟩] }⟩
      (Compiler.notFoundText "desk"), briefWorld.withStore, _, ?_, rfl, rfl, ?_⟩
  · unfold Compiler.compile
    rw [if_neg (by decide)]
    exact .pause rfl (.look 0 (.pause rfl (.look 0 (.put (.done _ _)))))
  · intro deed member spec found
    have unchanged : deed.before = briefWorld := by
      simp only [List.mem_cons, List.not_mem_nil, or_false] at member
      rcases member with rfl | rfl | rfl <;> rfl
    rw [unchanged] at found
    cases found

/-- One call that succeeds and one that fails. -/
def briefCalls (first second : List (Deed World)) (fault : Fault) : List Call :=
  [⟨briefChat, "main", "hello", first, .ok briefOutput⟩,
    ⟨briefChat, "main", "again", second, .error fault⟩]

theorem briefCalls_storable (first second : List (Deed World)) (fault : Fault) :
    Storable (briefCalls first second fault) := by
  have readsBack : ThreadState.ReadsBack { messages := briefOutput.messages } := by decide +kernel
  have said (count : Nat) (thread : String) :
      outputs ((briefCalls first second fault).take (count + 1)) thread =
        if "main" = thread then [briefOutput] else [] := by
    cases count <;> by_cases here : "main" = thread <;>
      simp [briefCalls, outputs, here, Except.toOption]
  intro count thread state given
  cases count with
  | zero => cases given
  | succ count =>
      rw [said] at given
      split at given
      · cases given
        exact readsBack
      · cases given

/-- The thread holds what the call that succeeded has said. -/
theorem Session.history_brief :
    ∃ first second fault final,
      Session Eq briefWorld (briefCalls first second fault) final ∧
      final.database.load "desk" "main" = .ok (some { messages := briefOutput.messages }) := by
  have said : ((briefChat.invoke "main" "hello").complete 0 briefWorld).bind (·.1.toOption) =
      some briefOutput := by
    decide +kernel
  rcases Option.bind_eq_some_iff.mp said with ⟨⟨fault | output, time, between⟩, spoken, same⟩ <;>
    cases same
  have failed : (((briefChat.invoke "main" "hello").complete 0 briefWorld).bind fun spoken =>
      (briefChat.invoke "main" "again").complete 0 spoken.2.2).any (fun again =>
        again.1.toOption.isNone) = true := by
    decide +kernel
  rw [spoken, Option.bind_some] at failed
  cases again : (briefChat.invoke "main" "again").complete 0 between with
  | none =>
      rw [again] at failed
      cases failed
  | some ended =>
      rcases ended with ⟨fault | output, later, final⟩
      · have firstly : ∃ deeds, Runs Eq (briefChat.invoke "main" "hello") briefWorld deeds
            (.ok briefOutput) between := Runs.of_complete (fun _ => rfl) spoken
        have secondly : ∃ deeds, Runs Eq (briefChat.invoke "main" "again") between deeds
            (.error fault) final := Runs.of_complete (fun _ => rfl) again
        rcases firstly with ⟨first, speaking⟩
        rcases secondly with ⟨second, failing⟩
        have begun : Session Eq briefWorld
            ([] ++ [⟨briefChat, "main", "hello", first, .ok briefOutput⟩]) between :=
          .call (.begin briefWorld) speaking
        have session : Session Eq briefWorld (briefCalls first second fault) final :=
          .call begun failing
        have built : ∀ call ∈ briefCalls first second fault, BuiltFor "desk" call.runtime := by
          intro call member
          rcases List.mem_pair.mp member with rfl | rfl <;> exact briefChat_built
        have history := Session.history "desk" Eq briefWorld _ final ⟨{}, rfl, rfl⟩
          (fun _ _ same _ => by rw [same]) session built (briefCalls_storable first second fault)
        exact ⟨first, second, fault, final, session, history.1 "main"⟩
      · rw [again] at failed
        cases failed

end AssistantEngine
