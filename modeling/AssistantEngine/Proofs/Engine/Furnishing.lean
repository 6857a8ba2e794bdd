import AssistantEngine.Proofs.Engine.Provenance

/-!
What a build furnishes its assistants with. A build that begins when the manifests have been read for
the last time makes a runtime for each enabled link whose plugin they know. It comes from the present
manifest, unless it is shared.
-/

namespace AssistantEngine

open Activity (AbidesFrom Spares)
open Moment (Origin)

/-- The links to plugins of a registry, each with the manifest. -/
def PluginRegistry.linked (registry : PluginRegistry) (links : List PluginLink) :
    List (PluginLink × PluginManifest) :=
  links.filterMap fun link => (registry.find? link.registryId).map (link, ·)

/-- A specification that was in the source since the manifests were read for the last time. -/
def Eras.Specifies (eras : Eras) (spec : AssistantSpec) : Prop :=
  ∃ past assistantId, eras.late past ∧
    past.source.assistant past.files assistantId = .ok (some spec)

/-- The manifests that were read for the last time are these. -/
def Eras.Settle (eras : Eras) (registry : PluginRegistry) : Prop :=
  ∀ past, eras.late past → past.registry = registry

/-- Every link whose plugin is known has got a runtime, which comes from the manifests that were read
for the last time or is shared. -/
def Eras.Provide (eras : Eras) (registry : PluginRegistry) (moment : Moment)
    (links : List PluginLink) (runtimes : List PluginRuntime) : Prop :=
  List.Forall₂ (fun entry runtime =>
      Origin eras (PluginRuntime.sharedBy entry.2 entry.1 = false) moment
        (Making.ofLink entry.2 entry.1) runtime)
    (registry.linked links) runtimes

/-- An assistant is furnished if its enabled links have been provided for. -/
def AssistantRuntime.Furnished (eras : Eras) (registry : PluginRegistry) (moment : Moment)
    (assistant : AssistantRuntime) : Prop :=
  ∃ spec modelName destinations plugins, eras.Specifies spec ∧
    assistant = AssistantRuntime.ofPlugins spec modelName plugins destinations ∧
    eras.Provide registry moment (spec.plugins.filter (·.enabled)) plugins

/-- So are all assistants of a graph. -/
def CompiledRuntime.Furnished (eras : Eras) (registry : PluginRegistry) (moment : Moment)
    (runtime : CompiledRuntime) : Prop :=
  ∀ assistants, runtime.assistants? = some assistants →
    ∀ entry ∈ assistants, entry.2.Furnished eras registry moment

variable {eras : Eras} {scene later : Scene eras} {registry : PluginRegistry}
  {moment : Moment}

theorem Eras.Provide.mono {last : Moment} {links : List PluginLink} {runtimes : List PluginRuntime}
    (provides : eras.Provide registry moment links runtimes) (onward : moment ≤ last) :
    eras.Provide registry last links runtimes :=
  List.Forall₂.imp (fun _ _ origin => origin.mono onward) provides

theorem AssistantRuntime.Furnished.mono {last : Moment} {assistant : AssistantRuntime}
    (furnished : assistant.Furnished eras registry moment) (onward : moment ≤ last) :
    assistant.Furnished eras registry last := by
  rcases furnished with ⟨spec, modelName, destinations, plugins, known, made, provides⟩
  exact ⟨spec, modelName, destinations, plugins, known, made, provides.mono onward⟩

theorem CompiledRuntime.Furnished.mono {last : Moment} {runtime : CompiledRuntime}
    (furnished : runtime.Furnished eras registry moment) (onward : moment ≤ last) :
    runtime.Furnished eras registry last :=
  fun assistants given entry member => (furnished assistants given entry member).mono onward

namespace Scene

theorem isRecent.of_reloaded {first : Wiring} (read : scene.reloaded = some first) :
    scene.isRecent :=
  Option.isSome_iff_exists.mpr ⟨first, read⟩

/-- The manifests stay read. -/
theorem isRecent.mono (recent : scene.isRecent) (onward : scene ≤ later) : later.isRecent := by
  rcases Option.isSome_iff_exists.mp recent with ⟨first, read⟩
  exact .of_reloaded (onward.kept first read)

/-- The ground of the present world is one of the last manifests. -/
theorem isRecent.ground (recent : scene.isRecent) :
    ∃ past, eras.late past ∧ past.ground = scene.world.ground := by
  rcases scene.ground with ⟨past, during, same⟩
  unfold isRecent at recent
  rw [recent, if_pos rfl] at during
  exact ⟨past, during, same⟩

end Scene

/-! ## Stores and resources -/

theorem CheckpointStore.openFor_allows (scope : String) :
    scene.Allows (fun _ _ => True) (openFor scope) := by
  apply Scene.allows_of_spares
  intro seen
  unfold openFor
  refine Spares.giveWay.bind fun later _ _ => Spares.transact fun world => ?_
  split <;> rfl

theorem PluginRuntime.close_allows (runtime : PluginRuntime) :
    scene.Allows (fun _ _ => True) runtime.close := by
  apply Scene.allows_of_spares
  intro seen
  unfold close
  cases runtime.connection? with
  | none => trivial
  | some connection =>
      have looked : Spares World.premises (fun _ => True) seen
          (Activity.inspect (·.isClosed runtime)) := Spares.inspect fun _ _ => trivial
      refine looked.bind fun later closed _ => ?_
      split
      · trivial
      · have noted : Spares World.premises (fun _ => True) later (Activity.modify fun world =>
            { world with closedPlugins := runtime.number :: world.closedPlugins }) :=
          Spares.modify fun _ => rfl
        exact noted.bind fun _ _ _ => ToolServer.close_spares_view World.premises_hangUp connection

namespace Resource

theorem release_allows (resource : Resource) : scene.Allows (fun _ _ => True) resource.release := by
  cases resource with
  | plugin runtime => exact runtime.close_allows
  | checkpoints store =>
      apply Scene.allows_of_spares
      intro seen
      unfold release CheckpointStore.release
      refine Spares.modify fun world => ?_
      split <;> rfl

theorem releaseAll_allows (resources : List Resource) :
    scene.Allows (fun _ _ => True) (releaseAll resources) := by
  induction resources generalizing scene with
  | nil => trivial
  | cons resource rest induction =>
      exact resource.release_allows.bind fun _ _ _ _ => induction

end Resource

/-! ## Builds -/

namespace Compiler

variable {recent : Prop}

theorem resolveNodes_allows (start : String) (nodes : List WorkflowNode)
    {resolution : NodeResolution} (now : recent → scene.isRecent)
    (known : recent → ∀ entry ∈ resolution.specs, eras.Specifies entry.2) :
    scene.Allows (fun resolved _ => ∀ resolution, resolved = .ok resolution → recent →
      ∀ entry ∈ resolution.specs, eras.Specifies entry.2) (resolveNodes start nodes resolution) := by
  induction nodes generalizing scene resolution with
  | nil =>
      intro resolved same
      cases same
      exact known
  | cons node rest induction =>
      unfold resolveNodes
      refine AbidesFrom.giveWay.bind fun _ later onward _ => ?_
      have looked : later.Allows (fun found scene => found =
            scene.world.source.assistant scene.world.files node.assistantId)
          (Activity.inspect fun world => world.source.assistant world.files node.assistantId) :=
        AbidesFrom.inspect rfl
      refine looked.bind fun found last after same => ?_
      have still : recent → last.isRecent := fun holds => (now holds).mono (onward.trans after)
      split
      · intro resolved same
        cases same
      · refine induction still fun holds entry member => ?_
        rcases NodeResolution.mem_specs_add member with added | earlier
        · rcases (still holds).ground with ⟨past, during, ground⟩
          have source : past.source = last.world.source := congrArg Ground.source ground
          have files : past.files = last.world.files := congrArg Ground.files ground
          refine ⟨past, node.assistantId, during, ?_⟩
          rw [source, files, added]
          exact same.symm
        · exact known holds entry earlier
      · split
        · intro resolved same
          cases same
        · exact induction still known

theorem makePlugins_allows (settings : Settings)
    (settled : eras.Settle registry) (links : List PluginLink) (scope : Scope Resource)
    (now : recent → scene.isRecent) :
    scene.Allows (fun made later => recent → eras.Provide registry later.moment links made.1)
      (makePlugins settings links scope) := by
  induction links generalizing scene scope with
  | nil => exact fun _ => .nil
  | cons link rest induction =>
      unfold makePlugins
      have looked : scene.Allows
          (fun found _ => recent → found = registry.find? link.registryId)
          (Activity.inspect (·.registry.find? link.registryId)) := by
        refine AbidesFrom.inspect fun holds => ?_
        rcases (now holds).ground with ⟨past, during, ground⟩
        have same : past.registry = scene.world.registry := congrArg Ground.registry ground
        rw [← same, settled past during]
      refine looked.bind fun found later onward known => ?_
      have still : recent → later.isRecent := fun holds => (now holds).mono onward
      cases found with
      | none =>
          refine (induction scope still).mono fun made last _ provides holds => ?_
          unfold Eras.Provide PluginRegistry.linked
          rw [List.filterMap_cons, ← known holds]
          exact provides holds
      | some manifest =>
          refine (PluginRuntime.ofLink_allows settings.handshakeTimeout manifest link).bind
            fun runtime last after origin => ?_
          refine (induction _ fun holds => (still holds).mono after).bind
            fun made final onward provides => ?_
          intro holds
          unfold Eras.Provide PluginRegistry.linked
          rw [List.filterMap_cons, ← known holds]
          have origin := origin.mono onward
          exact .cons (origin.weaken fun own => ⟨still holds, own⟩) (provides holds)

theorem makeAssistant_allows (settings : Settings)
    (settled : eras.Settle registry) (destinations : Catalog NameSet)
    (name : String) {spec : AssistantSpec} (scope : Scope Resource)
    (now : recent → scene.isRecent) (known : recent → eras.Specifies spec) :
    scene.Allows (fun made later => recent → made.1.Furnished eras registry later.moment)
      (makeAssistant settings destinations name spec scope) := by
  unfold makeAssistant
  refine (makePlugins_allows settings settled (spec.plugins.filter (·.enabled)) scope now).bind
    fun made later _ provides => ?_
  have looked : later.Allows (fun _ _ => True) (Activity.inspect (·.model.name)) :=
    AbidesFrom.inspect trivial
  refine looked.bind fun modelName last after _ => ?_
  intro holds
  exact ⟨spec, modelName, _, made.1, known holds, rfl, (provides holds).mono after⟩

theorem makeAssistants_allows (settings : Settings)
    (settled : eras.Settle registry) (destinations : Catalog NameSet)
    {specs : List (String × AssistantSpec)} (scope : Scope Resource)
    (now : recent → scene.isRecent)
    (known : recent → ∀ entry ∈ specs, eras.Specifies entry.2) :
    scene.Allows (fun made later => recent → ∀ entry ∈ made.1,
        entry.2.Furnished eras registry later.moment)
      (makeAssistants settings destinations specs scope) := by
  induction specs generalizing scene scope with
  | nil =>
      intro holds entry member
      cases member
  | cons named rest induction =>
      rcases named with ⟨name, spec⟩
      have first (holds : recent) : eras.Specifies spec := known holds _ List.mem_cons_self
      unfold makeAssistants
      refine (makeAssistant_allows settings settled destinations name scope now first).bind
        fun one later onward furnished => ?_
      have still : recent → later.isRecent := fun holds => (now holds).mono onward
      refine (induction one.2 still fun holds entry member =>
        known holds entry (List.mem_cons_of_mem _ member)).bind fun others last after further => ?_
      intro holds entry member
      rcases List.mem_cons.mp member with rfl | other
      · exact (furnished holds).mono after
      · exact further holds entry other

theorem buildWorkflow_allows (settings : Settings)
    (settled : eras.Settle registry) (spec : WorkflowSpec)
    (scope : Scope Resource) (now : recent → scene.isRecent) :
    scene.Allows (fun built later => ∀ runtime, built.1 = .ok runtime → recent →
        runtime.Furnished eras registry later.moment)
      (buildWorkflow settings spec scope) := by
  have faulty {later : Scene eras} (fault : Fault) (scope : Scope Resource) :
      later.Allows (fun built last => ∀ runtime, built.1 = .ok runtime → recent →
          runtime.Furnished eras registry last.moment)
        (.done ((Except.error fault : Except Fault CompiledRuntime), scope)) := by
    intro runtime same
    cases same
  unfold buildWorkflow
  split
  · exact faulty _ scope
  · exact faulty _ scope
  · rename_i start _ _
    refine (CheckpointStore.openFor_allows spec.id).bind fun opened later onward _ => ?_
    cases opened with
    | error fault => exact faulty fault scope
    | ok store =>
        have still : recent → later.isRecent := fun holds => (now holds).mono onward
        refine (resolveNodes_allows start.id spec.nodes still fun _ entry member => by
          cases member).bind fun resolved last after known => ?_
        cases resolved with
        | error fault => exact faulty fault _
        | ok resolution =>
            refine (makeAssistants_allows settings settled
              (resolution.destinations spec settings.allowSelfHandoff) _
              (fun holds => (still holds).mono after) (known resolution rfl)).bind
              fun made final onward furnished => ?_
            dsimp only
            cases resolution.names.find? start.id with
            | none => exact faulty _ _
            | some name =>
                intro runtime same holds assistants given entry member
                cases same
                cases given
                exact furnished holds entry member

theorem buildFallback_allows (id reason : String) :
    scene.Allows (fun outcome later => ∀ graph, outcome.graph? = some graph → recent →
        graph.runtime.Furnished eras registry later.moment) (buildFallback id reason) := by
  unfold buildFallback
  refine (CheckpointStore.openFor_allows id).bind fun opened later _ _ => ?_
  cases opened with
  | error fault =>
      intro graph same
      cases same
  | ok store =>
      intro graph same holds assistants given
      cases same
      cases given

/-- A build that begins in recent times furnishes its graph. -/
theorem compile_allows (settings : Settings)
    (settled : eras.Settle registry) (id : String)
    (now : recent → scene.isRecent) :
    scene.Allows (fun outcome later => ∀ graph, outcome.graph? = some graph → recent →
        graph.runtime.Furnished eras registry later.moment) (compile settings id) := by
  unfold compile
  split
  · exact buildFallback_allows id requestedText
  · refine AbidesFrom.giveWay.bind fun _ later onward _ => ?_
    have looked : later.Allows (fun _ _ => True)
        (Activity.inspect fun world => world.source.workflow world.files id) :=
      AbidesFrom.inspect trivial
    refine looked.bind fun found last after _ => ?_
    split
    · exact buildFallback_allows id _
    · exact buildFallback_allows id _
    · rename_i spec
      have still : recent → last.isRecent := fun holds => (now holds).mono (onward.trans after)
      refine (buildWorkflow_allows settings settled spec { owner := id } still).bind
        fun built final _ furnished => ?_
      rcases built with ⟨fault | runtime, scope⟩
      · exact (Resource.releaseAll_allows scope.close.1).bind fun _ _ _ _ =>
          buildFallback_allows id fault.message
      · intro graph same holds
        cases same
        exact furnished runtime rfl holds

end Compiler

end AssistantEngine
