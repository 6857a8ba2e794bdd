import AssistantEngine.Engine.Compiler
import AssistantEngine.Proofs.Concurrency.Runs
import AssistantEngine.Proofs.Graph.Resolution

/-!
How a workflow is compiled, part by part: what is asked of the source and in which worlds, which
stores are opened and released on the way, and what the parts come to.
-/

namespace AssistantEngine

open Activity (Deed Runs glance)

variable {others : World → World → Prop} {world final : World} {deeds : List (Deed World)}

namespace World

/-- What the source says of a workflow at present. -/
def workflow (world : World) (id : String) : Except Fault (Option WorkflowSpec) :=
  world.source.workflow world.files id

/-- What the source says of an assistant at present. -/
def assistant (world : World) (id : String) : Except Fault (Option AssistantSpec) :=
  world.source.assistant world.files id

/-- The world after the next store has been opened. -/
def withStore (world : World) : World := { world with storeCount := world.storeCount + 1 }

end World

/-! ## Stores -/

namespace CheckpointStore

/-- How the opening of a store goes: something may happen before, then the database decides. -/
inductive Opening (others : World → World → Prop) (scope : String) (world : World) :
    List (Deed World) → Except Fault CheckpointStore → World → Prop where
  | refused {later : World} {fault : Fault} (meanwhile : others world later)
      (refused : later.database.probe = .error fault) :
      Opening others scope world [glance later, glance later] (.error fault) later
  | opened {later : World} (meanwhile : others world later)
      (usable : later.database.probe = .ok ()) :
      Opening others scope world [glance later, ⟨later, later.withStore⟩]
        (.ok ⟨later.storeCount, scope⟩) later.withStore

theorem openFor_runs {scope : String} {result : Except Fault CheckpointStore}
    (runs : Runs others (openFor scope) world deeds result final) :
    Opening others scope world deeds result final := by
  rcases runs.of_bind with ⟨front, back, _, later, rfl, first, second⟩
  rcases first.of_giveWay with ⟨rfl, meanwhile⟩
  rcases second.of_transact with ⟨rfl, rfl, rfl⟩
  cases probed : later.database.probe with
  | error fault => exact .refused meanwhile probed
  | ok _ => exact .opened meanwhile probed

theorem release_runs {store : CheckpointStore} {result : Unit}
    (runs : Runs others store.release world deeds result final) :
    deeds = [glance world, ⟨world, final⟩] ∧ final.isStoreClosed store = true ∧
      final.exchanges = world.exchanges ∧ final.database = world.database := by
  rcases runs.of_modify with ⟨rfl, rfl⟩
  refine ⟨rfl, ?_⟩
  split
  · rename_i already
    exact ⟨already, rfl, rfl⟩
  · refine ⟨?_, rfl, rfl⟩
    unfold World.isStoreClosed
    exact List.contains_iff_mem.mpr List.mem_cons_self

end CheckpointStore

namespace Compiler

/-! ## Looking the nodes up -/

/-- The look-ups of the first nodes, in the worlds in which the source was asked for them. -/
def lookUps (nodes : List WorkflowNode) (asked : List World) :
    List (WorkflowNode × Except Fault (Option AssistantSpec)) :=
  List.zipWith (fun node world => (node, world.assistant node.assistantId)) nodes asked

/-- What the look-ups have found. -/
def findings (nodes : List WorkflowNode) (asked : List World) : List LookedUp :=
  (lookUps nodes asked).map fun look => (look.1, look.2.toOption.join)

/-- A look-up that is answered. For the start node the answer is an assistant. -/
def Settled (start : String) (look : WorkflowNode × Except Fault (Option AssistantSpec)) : Prop :=
  ∃ found, look.2 = .ok found ∧ (look.1.id = start → found.isSome = true)

/-- A look-up that prevents the graph, and the fault that it comes to. -/
inductive Unsettled (start : String) :
    WorkflowNode × Except Fault (Option AssistantSpec) → Fault → Prop where
  | failed (node : WorkflowNode) (fault : Fault) : Unsettled start (node, .error fault) fault
  | absent (node : WorkflowNode) (own : node.id = start) :
      Unsettled start (node, .ok none)
        (.notFound s!"assistant '{node.assistantId}' for start node '{node.id}'")

/-- How the resolution of nodes goes: the source is asked for one after the other, until all are
settled or the first one is not. -/
inductive Resolving (start : String) (nodes : List WorkflowNode) (resolution : NodeResolution) :
    List World → Except Fault NodeResolution → Prop where
  | resolved {asked : List World} (all : asked.length = nodes.length)
      (settled : ∀ look ∈ lookUps nodes asked, Settled start look) :
      Resolving start nodes resolution asked
        (.ok ((findings nodes asked).foldl NodeResolution.addFound resolution))
  | stopped {asked : List World} {fault : Fault}
      {before : List (WorkflowNode × Except Fault (Option AssistantSpec))}
      {last : WorkflowNode × Except Fault (Option AssistantSpec)}
      (looked : lookUps nodes asked = before ++ [last])
      (settled : ∀ look ∈ before, Settled start look) (unsettled : Unsettled start last fault) :
      Resolving start nodes resolution asked (.error fault)

theorem Resolving.next {start : String} {node : WorkflowNode} {rest : List WorkflowNode}
    {resolution : NodeResolution} {here : World} {found : Option AssistantSpec}
    {asked : List World} {result : Except Fault NodeResolution}
    (answered : here.assistant node.assistantId = .ok found)
    (present : node.id = start → found.isSome = true)
    (resolving : Resolving start rest (resolution.addFound (node, found)) asked result) :
    Resolving start (node :: rest) resolution (here :: asked) result := by
  have looked : lookUps (node :: rest) (here :: asked) = (node, .ok found) :: lookUps rest asked :=
    congrArg (fun answer => (node, answer) :: lookUps rest asked) answered
  have first : Settled start (node, .ok found) := ⟨found, rfl, present⟩
  cases resolving with
  | resolved all settled =>
      have folded : (findings (node :: rest) (here :: asked)).foldl NodeResolution.addFound
            resolution =
          (findings rest asked).foldl NodeResolution.addFound
            (resolution.addFound (node, found)) := by
        unfold findings
        rw [looked]
        rfl
      rw [← folded]
      refine .resolved (congrArg Nat.succ all) fun look member => ?_
      rw [looked] at member
      rcases List.mem_cons.mp member with same | later
      · exact same ▸ first
      · exact settled look later
  | @stopped _ before last split settled unsettled =>
      have whole : lookUps (node :: rest) (here :: asked) =
          ((node, .ok found) :: before) ++ [last] :=
        looked.trans (congrArg (List.cons _) split)
      refine .stopped whole (fun look member => ?_) unsettled
      rcases List.mem_cons.mp member with same | later
      · exact same ▸ first
      · exact settled look later

theorem resolveNodes_runs {start : String} {nodes : List WorkflowNode}
    {resolution : NodeResolution} {result : Except Fault NodeResolution}
    (runs : Runs others (resolveNodes start nodes resolution) world deeds result final) :
    ∃ asked, deeds = asked.map glance ∧ Resolving start nodes resolution asked result := by
  induction nodes generalizing world deeds resolution with
  | nil =>
      rcases runs.of_done with ⟨rfl, rfl, rfl⟩
      exact ⟨[], rfl, .resolved rfl fun look member => absurd member List.not_mem_nil⟩
  | cons node rest induction =>
      unfold resolveNodes at runs
      rcases runs.of_bind with ⟨front, back, _, here, rfl, first, second⟩
      rcases first.of_giveWay with ⟨rfl, -⟩
      rcases second.of_bind with ⟨front, back, answer, seen, rfl, look, onward⟩
      rcases look.of_inspect with ⟨rfl, rfl, rfl⟩
      cases answered : seen.assistant node.assistantId with
      | error fault =>
          unfold World.assistant at answered
          rw [answered] at onward
          rcases onward.of_done with ⟨rfl, rfl, -⟩
          refine ⟨[seen], rfl, ?_⟩
          have looked : lookUps (node :: rest) [seen] = [] ++ [(node, .error fault)] := by
            simp only [lookUps, List.zipWith_cons_cons, List.zipWith_nil_right, World.assistant,
              answered, List.nil_append]
          exact .stopped looked (fun look member => absurd member List.not_mem_nil)
            (.failed node fault)
      | ok found =>
          have told := answered
          unfold World.assistant at answered
          rw [answered] at onward
          cases found with
          | some spec =>
              rcases induction onward with ⟨asked, rfl, resolving⟩
              exact ⟨seen :: asked, rfl, resolving.next told fun _ => rfl⟩
          | none =>
              dsimp only at onward
              split at onward
              · rename_i own
                rcases onward.of_done with ⟨rfl, rfl, -⟩
                refine ⟨[seen], rfl, ?_⟩
                have looked : lookUps (node :: rest) [seen] = [] ++ [(node, .ok none)] := by
                  simp only [lookUps, List.zipWith_cons_cons, List.zipWith_nil_right,
                    World.assistant, answered, List.nil_append]
                exact .stopped looked (fun look member => absurd member List.not_mem_nil)
                  (.absent node own)
              · rename_i other
                rcases induction onward with ⟨asked, rfl, resolving⟩
                exact ⟨seen :: asked, rfl, resolving.next told fun own => absurd own other⟩

/-! ## What was found -/

theorem mem_lookUps {nodes : List WorkflowNode} {asked : List World} {node : WorkflowNode}
    (all : asked.length = nodes.length) (member : node ∈ nodes) :
    ∃ answer, (node, answer) ∈ lookUps nodes asked := by
  induction nodes generalizing asked with
  | nil => cases member
  | cons first rest induction =>
      cases asked with
      | nil => cases all
      | cons here asked =>
          rcases List.mem_cons.mp member with same | later
          · subst same
            exact ⟨_, List.mem_cons_self⟩
          · rcases induction (Nat.succ.inj all) later with ⟨answer, found⟩
            exact ⟨answer, List.mem_cons_of_mem _ found⟩

theorem findings_ids {nodes : List WorkflowNode} {asked : List World}
    (all : asked.length = nodes.length) :
    (findings nodes asked).map (·.1.id) = nodes.map (·.id) := by
  induction nodes generalizing asked with
  | nil => rfl
  | cons first rest induction =>
      cases asked with
      | nil => cases all
      | cons here asked => exact congrArg (List.cons first.id) (induction (Nat.succ.inj all))

/-- When all look-ups are settled, an assistant has been found for the start node. -/
theorem start_found {nodes : List WorkflowNode} {asked : List World} {start : WorkflowNode}
    (all : asked.length = nodes.length) (member : start ∈ nodes)
    (settled : ∀ look ∈ lookUps nodes asked, Settled start.id look) :
    ∃ spec, (start, some spec) ∈ findings nodes asked := by
  rcases mem_lookUps all member with ⟨answer, looked⟩
  rcases settled _ looked with ⟨found, answered, present⟩
  rcases Option.isSome_iff_exists.mp (present rfl) with ⟨spec, rfl⟩
  refine ⟨spec, List.mem_map.mpr ⟨_, looked, ?_⟩⟩
  dsimp only at answered ⊢
  rw [answered]
  rfl

/-- So the start node stands for the name of an assistant. -/
theorem start_stands {nodes : List WorkflowNode} {asked : List World} {start : WorkflowNode}
    (all : asked.length = nodes.length) (member : start ∈ nodes)
    (settled : ∀ look ∈ lookUps nodes asked, Settled start.id look) :
    ∃ name, NodeResolution.Stands (findings nodes asked) start.id name := by
  rcases start_found all member settled with ⟨spec, found⟩
  exact ⟨spec.name, start, spec, found, rfl, rfl⟩

/-! ## Attempts -/

/-- How an attempt to build the graph of a specification goes. -/
inductive Attempt (others : World → World → Prop) (settings : Settings) (spec : WorkflowSpec)
    (scope : Scope Resource) (world : World) :
    List (Deed World) → Except Fault CompiledRuntime × Scope Resource → World → Prop where
  | invalid {fault : Fault} (invalid : spec.validate = .error fault) :
      Attempt others settings spec scope world [] (.error fault, scope) world
  | unclear {fault : Fault} (valid : spec.validate = .ok ())
      (unclear : spec.startNode = .error fault) :
      Attempt others settings spec scope world [] (.error fault, scope) world
  | unopened {fault : Fault} {start : WorkflowNode} {front : List (Deed World)} {final : World}
      (valid : spec.validate = .ok ()) (only : spec.starts = [start])
      (opening : CheckpointStore.Opening others spec.id world front (.error fault) final) :
      Attempt others settings spec scope world front (.error fault, scope) final
  | unresolved {fault : Fault} {start : WorkflowNode} {front : List (Deed World)}
      {store : CheckpointStore} {between final : World} {asked : List World}
      (valid : spec.validate = .ok ()) (only : spec.starts = [start])
      (opening : CheckpointStore.Opening others spec.id world front (.ok store) between)
      (resolving : Resolving start.id spec.nodes {} asked (.error fault)) :
      Attempt others settings spec scope world (front ++ asked.map glance)
        (.error fault, scope.push (.checkpoints store)) final
  | built {start : WorkflowNode} {front back : List (Deed World)} {store : CheckpointStore}
      {opened between final : World} {asked : List World} {assistants : Catalog AssistantRuntime}
      {full : Scope Resource} {name : String}
      (valid : spec.validate = .ok ()) (only : spec.starts = [start])
      (opening : CheckpointStore.Opening others spec.id world front (.ok store) opened)
      (all : asked.length = spec.nodes.length)
      (settled : ∀ look ∈ lookUps spec.nodes asked, Settled start.id look)
      (made : Runs others (makeAssistants settings
          ((NodeResolution.collect (findings spec.nodes asked)).destinations spec
            settings.allowSelfHandoff)
          (NodeResolution.collect (findings spec.nodes asked)).specs
          (scope.push (.checkpoints store)))
        between back (assistants, full) final)
      (default : (NodeResolution.collect (findings spec.nodes asked)).names.find? start.id =
        some name) :
      Attempt others settings spec scope world (front ++ (asked.map glance ++ back))
        (.ok {
          workflowId := spec.id
          checkpoints := store
          topology := .multiAgent assistants name (max settings.maxAgentSteps 1) }, full) final

theorem buildWorkflow_runs {settings : Settings} {spec : WorkflowSpec} {scope : Scope Resource}
    {result : Except Fault CompiledRuntime × Scope Resource}
    (runs : Runs others (buildWorkflow settings spec scope) world deeds result final) :
    Attempt others settings spec scope world deeds result final := by
  unfold buildWorkflow at runs
  split at runs
  · rename_i fault invalid
    rcases runs.of_done with ⟨rfl, rfl, rfl⟩
    exact .invalid invalid
  · rename_i fault valid unclear
    rcases runs.of_done with ⟨rfl, rfl, rfl⟩
    exact .unclear valid unclear
  · rename_i start valid found
    have only := WorkflowSpec.startNode_ok.mp found
    rcases runs.of_bind with ⟨front, back, answer, between, rfl, first, second⟩
    have opening := CheckpointStore.openFor_runs first
    cases answer with
    | error fault =>
        rcases second.of_done with ⟨rfl, rfl, rfl⟩
        rw [List.append_nil]
        exact .unopened valid only opening
    | ok store =>
        rcases second.of_bind with ⟨middle, back, resolved, resolution, rfl, third, onward⟩
        rcases resolveNodes_runs third with ⟨asked, rfl, resolving⟩
        cases resolving with
        | stopped looked settled unsettled =>
            rcases onward.of_done with ⟨rfl, rfl, rfl⟩
            rw [List.append_nil]
            exact .unresolved valid only opening (.stopped looked settled unsettled)
        | resolved all settled =>
            rcases onward.of_bind with ⟨making, back, made, after, rfl, fourth, last⟩
            -- The start node has a name, since its look-up has found an assistant.
            have member := WorkflowSpec.mem_of_starts only
            rcases start_stands all member settled with ⟨name, stands⟩
            have nodup : ((findings spec.nodes asked).map (·.1.id)).Nodup :=
              findings_ids all ▸ WorkflowSpec.nodup_of_validate valid
            have default := NodeResolution.names_of_stands nodup stands
            have named : ((findings spec.nodes asked).foldl NodeResolution.addFound {}).names.find?
                start.id = some name := default
            dsimp only at last
            rw [named] at last
            rcases last.of_done with ⟨rfl, rfl, rfl⟩
            rw [List.append_nil]
            exact .built valid only opening all settled fourth default

/-! ## Compilations -/

/-- How the plain conversation is set up. -/
inductive FallingBack (others : World → World → Prop) (id reason : String) (world : World) :
    List (Deed World) → BuildOutcome → World → Prop where
  | refused {later : World} {fault : Fault} (meanwhile : others world later)
      (refused : later.database.probe = .error fault) :
      FallingBack others id reason world [glance later, glance later] (.failed fault) later
  | opened {later : World} (meanwhile : others world later)
      (usable : later.database.probe = .ok ()) :
      FallingBack others id reason world [glance later, ⟨later, later.withStore⟩]
        (.fallback {
          runtime := {
            workflowId := id
            checkpoints := ⟨later.storeCount, id⟩
            topology := .fallback reason }
          scope := { owner := id, resources := [.checkpoints ⟨later.storeCount, id⟩] } } reason)
        later.withStore

theorem buildFallback_runs {id reason : String} {outcome : BuildOutcome}
    (runs : Runs others (buildFallback id reason) world deeds outcome final) :
    FallingBack others id reason world deeds outcome final := by
  unfold buildFallback at runs
  rcases runs.of_bind with ⟨opening, rest, answer, between, rfl, first, second⟩
  have opened := CheckpointStore.openFor_runs first
  cases opened with
  | refused meanwhile refused =>
      rcases second.of_done with ⟨rfl, rfl, rfl⟩
      exact .refused meanwhile refused
  | opened meanwhile usable =>
      rcases second.of_done with ⟨rfl, rfl, rfl⟩
      exact .opened meanwhile usable

/-- How the compilation of a workflow goes. -/
inductive Compilation (others : World → World → Prop) (settings : Settings) (id : String)
    (world : World) : List (Deed World) → BuildOutcome → World → Prop where
  | requested {deeds : List (Deed World)} {outcome : BuildOutcome} {final : World}
      (same : id = WorkflowSpec.fallbackId)
      (instead : FallingBack others id requestedText world deeds outcome final) :
      Compilation others settings id world deeds outcome final
  | refused {here final : World} {fault : Fault} {deeds : List (Deed World)}
      {outcome : BuildOutcome} (other : id ≠ WorkflowSpec.fallbackId)
      (meanwhile : others world here) (answered : here.workflow id = .error fault)
      (instead : FallingBack others id fault.message here deeds outcome final) :
      Compilation others settings id world (glance here :: deeds) outcome final
  | missing {here final : World} {deeds : List (Deed World)} {outcome : BuildOutcome}
      (other : id ≠ WorkflowSpec.fallbackId) (meanwhile : others world here)
      (answered : here.workflow id = .ok none)
      (instead : FallingBack others id (notFoundText id) here deeds outcome final) :
      Compilation others settings id world (glance here :: deeds) outcome final
  | abandoned {here between after final : World} {spec : WorkflowSpec} {fault : Fault}
      {scope : Scope Resource} {front releases back : List (Deed World)} {outcome : BuildOutcome}
      (other : id ≠ WorkflowSpec.fallbackId) (meanwhile : others world here)
      (answered : here.workflow id = .ok (some spec))
      (tried : Runs others (buildWorkflow settings spec { owner := id }) here front
        (.error fault, scope) between)
      (releasing : Runs others (Resource.releaseAll scope.close.1) between releases () after)
      (instead : FallingBack others id fault.message after back outcome final) :
      Compilation others settings id world (glance here :: (front ++ (releases ++ back))) outcome
        final
  | built {here final : World} {spec : WorkflowSpec} {runtime : CompiledRuntime}
      {scope : Scope Resource} {front : List (Deed World)}
      (other : id ≠ WorkflowSpec.fallbackId) (meanwhile : others world here)
      (answered : here.workflow id = .ok (some spec))
      (attempt : Attempt others settings spec { owner := id } here front (.ok runtime, scope)
        final) :
      Compilation others settings id world (glance here :: front) (.workflow ⟨runtime, scope⟩) final

theorem compile_runs {settings : Settings} {id : String} {outcome : BuildOutcome}
    (runs : Runs others (compile settings id) world deeds outcome final) :
    Compilation others settings id world deeds outcome final := by
  unfold compile at runs
  split at runs
  · rename_i same
    exact .requested same (buildFallback_runs runs)
  · rename_i other
    rcases runs.of_bind with ⟨_, back, _, first, rfl, waited, onward⟩
    rcases waited.of_giveWay with ⟨rfl, meanwhile⟩
    rcases onward.of_bind with ⟨_, back, answer, here, rfl, looked, rest⟩
    rcases looked.of_inspect with ⟨rfl, rfl, rfl⟩
    rcases answered : here.workflow id with fault | _ | spec
    all_goals
      have told := answered
      unfold World.workflow at answered
      rw [answered] at rest
    · exact .refused other meanwhile told (buildFallback_runs rest)
    · exact .missing other meanwhile told (buildFallback_runs rest)
    · rcases rest.of_bind with ⟨front, back, result, between, rfl, tried, last⟩
      rcases result with ⟨fault | runtime, scope⟩
      · rcases last.of_bind with ⟨releases, back, _, after, rfl, releasing, opening⟩
        have abandoned := Compilation.abandoned other meanwhile told tried releasing
          (buildFallback_runs opening)
        exact abandoned
      · rcases last.of_done with ⟨rfl, rfl, rfl⟩
        rw [List.append_nil]
        exact .built other meanwhile told (buildWorkflow_runs tried)

end Compiler

end AssistantEngine
