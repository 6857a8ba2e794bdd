import AssistantEngine.Engine.Compiler
import AssistantEngine.Proofs.Concurrency.Together
import AssistantEngine.Proofs.Engine.Verdict
import AssistantEngine.Proofs.Plugin.Counterparts

/-!
One plugin does not harm the others. A workflow is compiled in two worlds in which the servers of
one plugin behave differently: the outcomes are of one kind, with the same assistants, and every
other plugin is the same in both.
-/

namespace AssistantEngine

open Activity (Together)

/-- How the runtime of a link is made. -/
def Making.ofLink (manifest : PluginManifest) (link : PluginLink) : Making :=
  if manifest.isConfigFree && link.isPlain then .singleton manifest.id else .perLink manifest link

namespace World

/-- A link that some assistant takes plugins through. -/
def Links (world : World) (link : PluginLink) : Prop :=
  ∃ assistantId spec, world.source.assistant world.files assistantId = .ok (some spec) ∧
    link ∈ spec.plugins ∧ link.enabled

/-- A transport over which a plugin is contacted for some link. -/
def Reaches (world : World) (registryId : String) (transport : Transport) : Prop :=
  ∃ link manifest, world.Links link ∧ world.registry.find? link.registryId = some manifest ∧
    (Making.ofLink manifest link).registryId = registryId ∧
    (Making.ofLink manifest link).target world = .ok transport

/-- The world without what may be different where one plugin is, or changes meanwhile. -/
def common (world : World) : World :=
  { world.traceless with
    reach := fun _ => .error ToolServer.gone
    singletons := []
    reserved := []
    storeCount := 0 }

/-- Two worlds with the same ground in which only one plugin makes a difference. -/
structure Apart (suspect : String) (ground world world' : World) : Prop where
  first : world.common = ground
  second : world'.common = ground
  reserved : world.reserved = world'.reserved
  storeCount : world.storeCount = world'.storeCount
  reach : ∀ other transport, other ≠ suspect → ground.Reaches other transport →
    world.reach transport = world'.reach transport
  singletons : ∀ registryId, Option.Rel (PluginRuntime.Counterpart suspect)
    (world.singletons.find? registryId) (world'.singletons.find? registryId)

variable {suspect : String} {ground world world' later later' : World}

/-- Traces make no difference. -/
theorem apart_traceless :
    Apart suspect ground world.traceless world'.traceless ↔ Apart suspect ground world world' := by
  constructor <;> intro apart <;>
    exact ⟨apart.first, apart.second, apart.reserved, apart.storeCount, apart.reach,
      apart.singletons⟩

theorem Apart.leave (apart : Apart suspect ground world world')
    (kept : later.traceless = world.traceless) (kept' : later'.traceless = world'.traceless) :
    Apart suspect ground later later' := by
  rw [← apart_traceless, kept, kept', apart_traceless]
  exact apart

theorem Apart.setReserved {reserved reserved' : List String}
    (apart : Apart suspect ground world world') (same : reserved = reserved') :
    Apart suspect ground { world with reserved := reserved }
      { world' with reserved := reserved' } :=
  { first := apart.first
    second := apart.second
    reserved := same
    storeCount := apart.storeCount
    reach := apart.reach
    singletons := apart.singletons }

theorem Apart.insertSingleton {registryId : String} {runtime runtime' : PluginRuntime}
    (apart : Apart suspect ground world world')
    (counterpart : runtime.Counterpart suspect runtime') :
    Apart suspect ground
      { world with singletons := world.singletons.insert registryId runtime }
      { world' with singletons := world'.singletons.insert registryId runtime' } :=
  { first := apart.first
    second := apart.second
    reserved := apart.reserved
    storeCount := apart.storeCount
    reach := apart.reach
    singletons := by
      intro other
      rw [Catalog.find?_insert, Catalog.find?_insert]
      split
      · exact .some counterpart
      · exact apart.singletons other }

end World

variable {suspect : String} {ground : World} {timeout : HandshakeTimeout}

/-- What is common to both worlds is seen in both. -/
theorem World.Apart.inspect {Result : Type} (suspect : String) (ground : World)
    (view : World → Result) (blind : ∀ world, view world.common = view world) :
    Together (World.Apart suspect ground)
      (fun seen seen' => seen = view ground ∧ seen' = view ground)
      (Activity.inspect view) (Activity.inspect view) := by
  apply Together.inspect
  intro world world' apart
  rw [← blind world, ← blind world', apart.first, apart.second]
  exact ⟨rfl, rfl⟩

theorem World.Apart.steady {Result : Type} {activity activity' : Activity World Result}
    (steady : Steady activity) (steady' : Steady activity') :
    Together (World.Apart suspect ground) (fun _ _ => True) activity activity' := by
  intro time time' world world' apart
  obtain ⟨result, later, final, completed, kept⟩ := steady world.traceless time world rfl
  obtain ⟨result', later', final', completed', kept'⟩ := steady' world'.traceless time' world' rfl
  rw [completed, completed']
  exact .some ⟨trivial, apart.leave kept kept'⟩

/-! ## Plugins -/

theorem Handshake.Reflects.alike {link : PluginLink} {answer : Except Fault (List ToolInfo)}
    {runtime runtime' : PluginRuntime} (reflects : Reflects link answer runtime.state)
    (reflects' : Reflects link answer runtime'.state) :
    runtime.tools = runtime'.tools ∧ runtime.failure? = runtime'.failure? := by
  unfold PluginRuntime.tools PluginRuntime.failure?
  generalize runtime.state = state at reflects ⊢
  generalize runtime'.state = state' at reflects' ⊢
  cases reflects <;> cases reflects' <;> exact ⟨rfl, rfl⟩

namespace Making

/-- A target depends on what both worlds have in common. -/
theorem target_common (making : Making) (world : World) :
    making.target world.common = making.target world := by
  cases making <;> rfl

/-- A runtime is made in both worlds, and unless it is of the one plugin, it is the same. -/
theorem run_together (making : Making)
    (reached : ∀ transport, making.target ground = .ok transport →
      ground.Reaches making.registryId transport) :
    Together (World.Apart suspect ground) (PluginRuntime.Counterpart suspect)
      (making.run timeout) (making.run timeout) := by
  intro time time' world world' apart
  obtain ⟨runtime, later, final, completed, kept, registryId, kind, reflects⟩ :=
    making.run_verdict timeout time world
  obtain ⟨runtime', later', final', completed', kept', registryId', kind', reflects'⟩ :=
    making.run_verdict timeout time' world'
  -- The servers decide what becomes of a runtime, and but for the suspect they are the same.
  have same (other : runtime.registryId ≠ suspect) :
      making.prospect timeout world = making.prospect timeout world' := by
    unfold prospect
    rw [← making.target_common world, ← making.target_common world', apart.first, apart.second]
    cases found : making.target ground with
    | error fault => rfl
    | ok transport =>
        dsimp only
        rw [apart.reach making.registryId transport (registryId ▸ other) (reached transport found)]
  rw [completed, completed']
  refine .some ⟨?_, apart.leave kept kept'⟩
  exact
    { registryId := registryId.trans registryId'.symm
      kind := kind.trans kind'.symm
      tools := fun other => (Handshake.Reflects.alike (same other ▸ reflects) reflects').1
      failure := fun other => (Handshake.Reflects.alike (same other ▸ reflects) reflects').2 }

end Making

namespace PluginRuntime

theorem reserve_together (registryId : String) :
    Together (World.Apart suspect ground) (fun _ _ => True) (reserve registryId)
      (reserve registryId) := by
  unfold reserve
  have waits : Together (World.Apart suspect ground) (fun _ _ => True)
      (Activity.waitUntil fun world => !world.reserved.contains registryId)
      (Activity.waitUntil fun world => !world.reserved.contains registryId) :=
    Together.waitUntil fun _ _ apart => by rw [apart.reserved]
  refine waits.bind fun _ _ _ => ?_
  exact Together.modify fun _ _ apart =>
    apart.setReserved (congrArg (List.cons registryId) apart.reserved)

theorem unreserve_together (registryId : String) :
    Together (World.Apart suspect ground) (fun _ _ => True) (unreserve registryId)
      (unreserve registryId) :=
  Together.modify fun _ _ apart =>
    apart.setReserved (congrArg (List.erase · registryId) apart.reserved)

/-- The singleton that there is in both worlds, or the one that is made in both. -/
theorem singleton_together (registryId : String)
    (reached : ∀ transport, (Making.singleton registryId).target ground = .ok transport →
      ground.Reaches registryId transport) :
    Together (World.Apart suspect ground) (Counterpart suspect) (singleton timeout registryId)
      (singleton timeout registryId) := by
  have looks : Together (World.Apart suspect ground) (Option.Rel (Counterpart suspect))
      (Activity.inspect (·.singletons.find? registryId))
      (Activity.inspect (·.singletons.find? registryId)) :=
    Together.inspect fun _ _ apart => apart.singletons registryId
  unfold singleton
  refine Together.giveWay.bind fun _ _ _ => looks.bind fun found found' present => ?_
  cases present with
  | some counterpart => exact .done counterpart
  | none =>
      refine (reserve_together registryId).bind fun _ _ _ => Together.giveWay.bind fun _ _ _ => ?_
      refine looks.bind fun found found' present => ?_
      cases present with
      | some counterpart =>
          exact (unreserve_together registryId).bind fun _ _ _ => .done counterpart
      | none =>
          have makes : Together (World.Apart suspect ground) (Counterpart suspect)
              ((Making.singleton registryId).run timeout)
              ((Making.singleton registryId).run timeout) :=
            (Making.singleton registryId).run_together reached
          refine makes.bind fun runtime runtime' counterpart => ?_
          refine Together.giveWay.bind fun _ _ _ => ?_
          have keeps : Together (World.Apart suspect ground) (fun _ _ => True)
              (Activity.modify fun world =>
                { world with singletons := world.singletons.insert registryId runtime })
              (Activity.modify fun world =>
                { world with singletons := world.singletons.insert registryId runtime' }) :=
            Together.modify fun _ _ apart => apart.insertSingleton counterpart
          refine keeps.bind fun _ _ _ => (unreserve_together registryId).bind fun _ _ _ => ?_
          exact .done counterpart

/-- For a link that both worlds know, both make a runtime. -/
theorem ofLink_together {manifest : PluginManifest} {link : PluginLink} (known : ground.Links link)
    (found : ground.registry.find? link.registryId = some manifest) :
    Together (World.Apart suspect ground) (Counterpart suspect) (ofLink timeout manifest link)
      (ofLink timeout manifest link) := by
  have reached : ∀ transport, (Making.ofLink manifest link).target ground = .ok transport →
      ground.Reaches (Making.ofLink manifest link).registryId transport :=
    fun transport target => ⟨link, manifest, known, found, rfl, target⟩
  unfold Making.ofLink at reached
  unfold ofLink
  split at reached
  · rename_i shared
    rw [if_pos shared]
    exact singleton_together manifest.id reached
  · rename_i own
    rw [if_neg own]
    exact (Making.perLink manifest link).run_together reached

end PluginRuntime

/-! ## Stores and nodes -/

/-- The same store is opened in both worlds, or the same fault stands against it. -/
theorem CheckpointStore.openFor_together (scope : String) :
    Together (World.Apart suspect ground) Eq (openFor scope) (openFor scope) := by
  unfold openFor
  refine Together.giveWay.bind fun _ _ _ => Together.transact fun world world' apart => ?_
  have same : world.common.database = world'.common.database := by rw [apart.first, apart.second]
  have sameProbe : world'.database.probe = world.database.probe :=
    congrArg Database.probe same.symm
  cases probed : world.database.probe with
  | error fault =>
      simp only [probed, sameProbe]
      exact ⟨trivial, apart⟩
  | ok _ =>
      simp only [probed, sameProbe]
      refine ⟨by rw [apart.storeCount], ?_⟩
      exact
        { first := apart.first
          second := apart.second
          reserved := apart.reserved
          storeCount := congrArg (· + 1) apart.storeCount
          reach := apart.reach
          singletons := apart.singletons }

/-- What is added to a resolution is the specification of its node. -/
theorem NodeResolution.mem_specs_add {resolution : NodeResolution} {node : WorkflowNode}
    {spec : AssistantSpec} {entry : String × AssistantSpec}
    (member : entry ∈ (resolution.add node spec).specs) :
    entry.2 = spec ∨ entry ∈ resolution.specs := by
  unfold add Catalog.insertNew at member
  dsimp only at member
  split at member
  · exact .inr member
  · rcases Catalog.mem_insert member with rfl | earlier
    · exact .inl rfl
    · exact .inr earlier

/-- The specifications of a resolution come from the source. -/
def NodeResolution.Sourced (ground : World) (resolution : NodeResolution) : Prop :=
  ∀ entry ∈ resolution.specs,
    ∃ assistantId, ground.source.assistant ground.files assistantId = .ok (some entry.2)

theorem NodeResolution.Sourced.add {resolution : NodeResolution}
    (sourced : Sourced ground resolution) {node : WorkflowNode} {spec : AssistantSpec}
    (known : ground.source.assistant ground.files node.assistantId = .ok (some spec)) :
    Sourced ground (resolution.add node spec) := by
  intro entry member
  rcases mem_specs_add member with rfl | earlier
  · exact ⟨node.assistantId, known⟩
  · exact sourced entry earlier

/-- An assistant that is made of a specification of the source takes plugins through known links. -/
theorem World.links_of_enabled {assistantId : String} {spec : AssistantSpec} {link : PluginLink}
    (known : ground.source.assistant ground.files assistantId = .ok (some spec))
    (member : link ∈ spec.plugins.filter (·.enabled)) : ground.Links link := by
  obtain ⟨listed, enabled⟩ := List.mem_filter.mp member
  exact ⟨assistantId, spec, known, listed, enabled⟩

/-! ## Workflows -/

/-- The same graph, up to what its assistants have of one plugin. -/
inductive CompiledRuntime.Isolated (suspect : String) :
    CompiledRuntime → CompiledRuntime → Prop where
  | multiAgent (workflowId : String) (checkpoints : CheckpointStore) (default : String)
      (maxSteps : Nat) {assistants assistants' : Catalog AssistantRuntime}
      (isolated : List.Forall₂ (fun entry entry' =>
        entry.1 = entry'.1 ∧ entry.2.Isolated suspect entry'.2) assistants assistants') :
      Isolated suspect ⟨workflowId, checkpoints, .multiAgent assistants default maxSteps⟩
        ⟨workflowId, checkpoints, .multiAgent assistants' default maxSteps⟩

namespace Compiler

/-- The same graph, or the same fault that prevents it. -/
inductive IsolatedBuild (suspect : String) :
    Except Fault CompiledRuntime → Except Fault CompiledRuntime → Prop where
  | ok {runtime runtime' : CompiledRuntime} (isolated : runtime.Isolated suspect runtime') :
      IsolatedBuild suspect (.ok runtime) (.ok runtime')
  | error (fault : Fault) : IsolatedBuild suspect (.error fault) (.error fault)

/-- Two compilations that end in the same way, up to one plugin. -/
inductive Isolated (suspect : String) : BuildOutcome → BuildOutcome → Prop where
  | workflow {graph graph' : RuntimeCache.Graph CompiledRuntime Resource}
      (isolated : graph.runtime.Isolated suspect graph'.runtime) :
      Isolated suspect (.workflow graph) (.workflow graph')
  | fallback (graph : RuntimeCache.Graph CompiledRuntime Resource) (reason : String) :
      Isolated suspect (.fallback graph reason) (.fallback graph reason)
  | failed (fault : Fault) : Isolated suspect (.failed fault) (.failed fault)

theorem resolveNodes_together (start : String) (nodes : List WorkflowNode)
    {resolution : NodeResolution} (sourced : resolution.Sourced ground) :
    Together (World.Apart suspect ground)
      (fun resolved resolved' => resolved = resolved' ∧
        ∀ resolution, resolved = .ok resolution → resolution.Sourced ground)
      (resolveNodes start nodes resolution) (resolveNodes start nodes resolution) := by
  induction nodes generalizing resolution with
  | nil =>
      refine .done ⟨rfl, ?_⟩
      rintro _ ⟨⟩
      exact sourced
  | cons node rest induction =>
      have looks := World.Apart.inspect suspect ground
        (fun world => world.source.assistant world.files node.assistantId) fun _ => rfl
      unfold resolveNodes
      refine Together.giveWay.bind fun _ _ _ => looks.bind ?_
      rintro _ _ ⟨rfl, rfl⟩
      cases known : ground.source.assistant ground.files node.assistantId with
      | error fault => exact .done ⟨rfl, fun _ resolved => by cases resolved⟩
      | ok answer =>
          cases answer with
          | some spec => exact induction (sourced.add known)
          | none =>
              dsimp only
              split
              · exact .done ⟨rfl, fun _ resolved => by cases resolved⟩
              · exact induction sourced

theorem makePlugins_together (settings : Settings) {links : List PluginLink}
    (known : ∀ link ∈ links, ground.Links link) (scope scope' : Scope Resource) :
    Together (World.Apart suspect ground)
      (fun made made' => List.Forall₂ (PluginRuntime.Counterpart suspect) made.1 made'.1)
      (makePlugins settings links scope) (makePlugins settings links scope') := by
  induction links generalizing scope scope' with
  | nil => exact .done .nil
  | cons link rest induction =>
      have later := induction fun link member => known link (List.mem_cons_of_mem _ member)
      have looks := World.Apart.inspect suspect ground
        (fun world => world.registry.find? link.registryId) fun _ => rfl
      unfold makePlugins
      refine looks.bind ?_
      rintro _ _ ⟨rfl, rfl⟩
      cases found : ground.registry.find? link.registryId with
      | none => exact later scope scope'
      | some manifest =>
          have made : Together (World.Apart suspect ground) (PluginRuntime.Counterpart suspect)
              (PluginRuntime.ofLink settings.handshakeTimeout manifest link)
              (PluginRuntime.ofLink settings.handshakeTimeout manifest link) :=
            PluginRuntime.ofLink_together (known link List.mem_cons_self) found
          refine made.bind fun runtime runtime' counterpart => ?_
          refine (later _ _).bind fun made made' alike => ?_
          exact .done (.cons counterpart alike)

theorem makeAssistants_together (settings : Settings) (destinations : Catalog NameSet)
    {specs : List (String × AssistantSpec)}
    (sourced : ∀ entry ∈ specs,
      ∃ assistantId, ground.source.assistant ground.files assistantId = .ok (some entry.2))
    (scope scope' : Scope Resource) :
    Together (World.Apart suspect ground)
      (fun made made' => List.Forall₂ (fun entry entry' =>
        entry.1 = entry'.1 ∧ entry.2.Isolated suspect entry'.2) made.1 made'.1)
      (makeAssistants settings destinations specs scope)
      (makeAssistants settings destinations specs scope') := by
  induction specs generalizing scope scope' with
  | nil => exact .done .nil
  | cons entry rest induction =>
      obtain ⟨name, spec⟩ := entry
      obtain ⟨assistantId, known⟩ := sourced _ List.mem_cons_self
      have later := induction fun entry member => sourced entry (List.mem_cons_of_mem _ member)
      have names := World.Apart.inspect suspect ground (fun world => world.model.name) fun _ => rfl
      have one : Together (World.Apart suspect ground)
          (fun made made' => made.1.Isolated suspect made'.1)
          (makeAssistant settings destinations name spec scope)
          (makeAssistant settings destinations name spec scope') := by
        unfold makeAssistant
        have linked : ∀ link ∈ spec.plugins.filter (·.enabled), ground.Links link :=
          fun link member => World.links_of_enabled known member
        refine (makePlugins_together settings linked scope scope').bind fun made made' alike => ?_
        refine names.bind ?_
        rintro _ _ ⟨rfl, rfl⟩
        exact .done (AssistantRuntime.isolated_ofPlugins alike spec _ _)
      unfold makeAssistants
      refine one.bind fun made made' isolated => ?_
      refine (later _ _).bind fun others others' rest => ?_
      exact .done (.cons ⟨rfl, isolated⟩ rest)

theorem buildWorkflow_together (settings : Settings) (spec : WorkflowSpec)
    (scope : Scope Resource) :
    Together (World.Apart suspect ground)
      (fun built built' => IsolatedBuild suspect built.1 built'.1)
      (buildWorkflow settings spec scope) (buildWorkflow settings spec scope) := by
  unfold buildWorkflow
  split
  · exact .done (.error _)
  · exact .done (.error _)
  · rename_i start _ _
    refine (CheckpointStore.openFor_together spec.id).bind ?_
    rintro opened _ rfl
    cases opened with
    | error fault => exact .done (.error _)
    | ok store =>
        have empty : NodeResolution.Sourced ground {} := fun entry member => nomatch member
        refine (resolveNodes_together start.id spec.nodes empty).bind ?_
        rintro resolved _ ⟨rfl, sourced⟩
        cases resolved with
        | error fault => exact .done (.error _)
        | ok resolution =>
            refine (makeAssistants_together settings
              (resolution.destinations spec settings.allowSelfHandoff) (sourced resolution rfl)
              (scope.push (.checkpoints store)) (scope.push (.checkpoints store))).bind ?_
            intro made made' isolated
            dsimp only
            cases resolution.names.find? start.id with
            | none => exact .done (.error _)
            | some name => exact .done (.ok (.multiAgent _ _ _ _ isolated))

theorem buildFallback_together (id reason : String) :
    Together (World.Apart suspect ground) (Isolated suspect) (buildFallback id reason)
      (buildFallback id reason) := by
  unfold buildFallback
  refine (CheckpointStore.openFor_together id).bind ?_
  rintro opened _ rfl
  cases opened with
  | error fault => exact .done (.failed fault)
  | ok store => exact .done (.fallback _ reason)

theorem compile_together (settings : Settings) (id : String) :
    Together (World.Apart suspect ground) (Isolated suspect) (compile settings id)
      (compile settings id) := by
  have looks := World.Apart.inspect suspect ground
    (fun world => world.source.workflow world.files id) fun _ => rfl
  unfold compile
  split
  · exact buildFallback_together _ _
  · refine Together.giveWay.bind fun _ _ _ => looks.bind ?_
    rintro _ _ ⟨rfl, rfl⟩
    rcases ground.source.workflow ground.files id with fault | _ | spec
    · exact buildFallback_together _ _
    · exact buildFallback_together _ _
    · refine (buildWorkflow_together settings spec _).bind ?_
      rintro ⟨built, scope⟩ ⟨built', scope'⟩ same
      cases same with
      | ok isolated => exact .done (.workflow isolated)
      | error fault =>
          -- The scopes hold runtimes of the suspect, so that different resources may be released.
          have released : Together (World.Apart suspect ground) (fun _ _ => True)
              (Resource.releaseAll scope.close.1) (Resource.releaseAll scope'.close.1) :=
            World.Apart.steady (Resource.releaseAll_steady _) (Resource.releaseAll_steady _)
          exact released.bind fun _ _ _ => buildFallback_together _ _

/-- Plugin isolation: a workflow is compiled in two worlds that differ in what is found at the other
end of transports that no plugin but the suspect reaches. Both compilations end in the same way,
with the same assistants and destinations, in which the other plugins are the same; where the
suspect is not active, the others lose no tool that they would contribute beside it. Both come to an
end unless someone else is about to make a singleton. -/
theorem compile_isolated (settings : Settings) (id suspect : String) (world : World)
    (reach : Transport → Except Fault ToolServer)
    (elsewhere : ∀ other transport, other ≠ suspect → world.Reaches other transport →
      world.reach transport = reach transport) (time time' : Time) :
    Option.Rel (fun run run' => Isolated suspect run.1 run'.1)
        ((compile settings id).complete time world)
        ((compile settings id).complete time' { world with reach := reach }) ∧
      (world.reserved = [] → ((compile settings id).complete time world).isSome) := by
  have apart : World.Apart suspect world.common world { world with reach := reach } :=
    { first := rfl
      second := rfl
      reserved := rfl
      storeCount := rfl
      reach := by
        rintro _ transport different ⟨link, manifest, known, found, rfl, target⟩
        rw [Making.target_common] at target
        exact elsewhere _ transport different ⟨link, manifest, known, found, rfl, target⟩
      singletons := fun registryId => by
        cases world.singletons.find? registryId with
        | none => exact .none
        | some runtime => exact .some (.refl suspect runtime) }
  constructor
  · have both := compile_together settings id time time' world _ apart
    generalize (compile settings id).complete time world = run at both ⊢
    generalize (compile settings id).complete time' { world with reach := reach } = run' at both ⊢
    cases both with
    | none => exact .none
    | some both => exact .some both.1
  · intro free
    obtain ⟨outcome, later, final, completed, -⟩ := compile_finishes settings id time world free
    rw [completed]
    rfl

/-! ## A server that is down -/

def forecaster : PluginManifest :=
  { id := "forecaster"
    displayName := "Forecaster"
    execution := { mode := .remote, url := some "http://forecaster" } }

def atlas : PluginManifest :=
  { id := "atlas"
    displayName := "Atlas"
    execution := { mode := .remote, url := some "http://atlas" } }

/-- A guide with two plugins that both expose a tool of one name. -/
def guide : AssistantSpec :=
  { id := "guide"
    name := "Guide"
    plugins := [{ registryId := "forecaster" }, { registryId := "atlas" }] }

/-- A world with one workflow, whose only node is the guide. -/
def tourWorld : World where
  source := .memory {
    workflows := [("tour",
      { id := "tour"
        nodes := [{ id := "first", assistantId := "guide", isStart := true }] })]
    assistants := [("guide", guide)] }
  registry := {
    directories := ["plugins"]
    manifests := [("atlas", atlas), ("forecaster", forecaster)] }
  artifacts := .ofCapacity 1
  model := .ofList "script" [] { result := .ok (.assistant "(done)") }
  reach := fun _ => .ok {
    tools := .ok [{ name := "look_up" }]
    answer := fun _ _ _ => .error (.internal "no answer") }

/-- The same, but the forecaster cannot be reached. -/
def forecasterDown (transport : Transport) : Except Fault ToolServer :=
  if transport = .http "http://forecaster" then .error (.handshake "connection refused")
  else tourWorld.reach transport

theorem compile_isolated_tour :
    Option.Rel (fun run run' => Isolated "forecaster" run.1 run'.1)
        ((compile { pluginDirectories := [] } "tour").complete 0 tourWorld)
        ((compile { pluginDirectories := [] } "tour").complete 0
          { tourWorld with reach := forecasterDown }) ∧
      ((compile { pluginDirectories := [] } "tour").complete 0 tourWorld).isSome := by
  have elsewhere : ∀ other transport, other ≠ "forecaster" → tourWorld.Reaches other transport →
      tourWorld.reach transport = forecasterDown transport := by
    rintro _ transport different ⟨link, manifest, ⟨_, spec, known, listed, -⟩, found, rfl, target⟩
    have only := Catalog.mem_of_find? (Except.ok.inj known)
    cases List.mem_singleton.mp only
    rcases List.mem_pair.mp listed with rfl | rfl
    · cases found
      exact absurd rfl different
    · cases found
      have address : Except.ok (Transport.http "http://atlas") = Except.ok transport := target
      cases address
      rfl
  obtain ⟨both, ends⟩ := compile_isolated { pluginDirectories := [] } "tour" "forecaster" tourWorld
    forecasterDown elsewhere 0 0
  exact ⟨both, ends rfl⟩

end Compiler

end AssistantEngine
