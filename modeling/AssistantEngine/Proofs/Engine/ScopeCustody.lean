import AssistantEngine.Engine.Compiler
import AssistantEngine.Proofs.Engine.Custody

/-!
What builds own. A build owns what is in its scope; if it fails it releases all of that, and
otherwise the scope goes with the graph that it yields.
-/

namespace AssistantEngine

open Activity (Keeps KeepsFrom Spares)

/-! ## Resources -/

namespace Resource

/-- The share that whoever keeps a resource has got. -/
def share : Resource → Estate
  | checkpoints _ => 0
  | plugin runtime => runtime.share false

theorem release_keeps (resource : Resource) :
    Tends (fun _ last => last = 0) resource.share resource.release := by
  cases resource with
  | checkpoints store =>
      have spares (seen : Holdings) :
          Spares World.holdings (fun _ => True) seen store.release := by
        apply Spares.modify
        intro world
        split <;> rfl
      exact (Spares.keeps spares InOrder.seenBy trivial).mono fun _ _ owns => owns.2
  | plugin runtime => exact runtime.close_keeps false

def shares (resources : List Resource) : Estate := (resources.map share).sum

theorem releaseAll_keeps (resources : List Resource) :
    Tends (fun _ last => last = 0) (shares resources) (releaseAll resources) := by
  induction resources with
  | nil => exact Keeps.done rfl
  | cons resource rest induction =>
      have split : shares (resource :: rest) = resource.share + shares rest := List.sum_cons
      rw [split]
      refine ((release_keeps resource).frame (shares rest)).bind ?_
      rintro _ last ⟨own, rfl, rfl⟩
      rw [zero_add]
      exact induction

end Resource

/-! ## Compilation -/

namespace Compiler

/-- An open scope, and what whoever has got it owns. -/
structure Holds (scope : Scope Resource) (estate : Estate) : Prop where
  isOpen : scope.closed = false
  owns : estate = Resource.shares scope.resources

theorem Holds.initial (owner : String) : Holds { owner := owner } 0 := ⟨rfl, rfl⟩

theorem Holds.push {scope : Scope Resource} {estate : Estate} (holds : Holds scope estate)
    (resource : Resource) : Holds (scope.push resource) (resource.share + estate) := by
  refine ⟨holds.isOpen, ?_⟩
  rw [holds.owns, Resource.shares, Resource.shares, Scope.push, List.map_append, List.sum_append,
    List.map_singleton, List.sum_singleton, add_comm]

/-- Closing a scope hands out all that it is worth. -/
theorem Holds.close {scope : Scope Resource} {estate : Estate} (holds : Holds scope estate) :
    estate = Resource.shares scope.close.1 := by
  rw [holds.owns, Scope.close, if_neg (by simp [holds.isOpen])]
  exact ((List.reverse_perm scope.resources).map Resource.share).sum_eq.symm

theorem openFor_spares (scope : String) (seen : Holdings) :
    Spares World.holdings (fun _ => True) seen (CheckpointStore.openFor scope) := by
  unfold CheckpointStore.openFor
  refine Spares.giveWay.bind fun later _ _ => Spares.transact fun world => ?_
  split <;> rfl

theorem resolveNodes_spares (start : String) (nodes : List WorkflowNode)
    (resolution : NodeResolution) (seen : Holdings) :
    Spares World.holdings (fun _ => True) seen (resolveNodes start nodes resolution) := by
  induction nodes generalizing resolution seen with
  | nil => trivial
  | cons node rest induction =>
      unfold resolveNodes
      refine Spares.giveWay.bind fun later _ _ => ?_
      have looked : Spares World.holdings (fun _ => True) later
          (Activity.inspect fun world => world.source.assistant world.files node.assistantId) :=
        Spares.inspect fun _ _ => trivial
      refine looked.bind fun later found _ => ?_
      split
      · trivial
      · exact induction _ _
      · split
        · trivial
        · exact induction _ _

theorem makePlugins_keeps (settings : Settings) (links : List PluginLink)
    {scope : Scope Resource} {estate : Estate} (holds : Holds scope estate) :
    Tends (fun result last => Holds result.2 last) estate (makePlugins settings links scope) := by
  induction links generalizing scope estate with
  | nil => exact Keeps.done holds
  | cons link rest induction =>
      intro world tenable
      unfold makePlugins
      refine KeepsFrom.of_inspect ?_
      split
      · exact induction holds world tenable
      · rename_i manifest _
        have making := (PluginRuntime.ofLink_keeps settings.handshakeTimeout manifest link).frame
          estate
        rw [zero_add] at making
        refine making.bind ?_ world tenable
        rintro runtime last ⟨own, rfl, rfl⟩
        have pushed : Holds
            (if runtime.kind = .perLink then scope.push (.plugin runtime) else scope)
            ((if runtime.kind = .perLink then runtime.share false else 0) + estate) := by
          split
          · exact holds.push (.plugin runtime)
          · exact (zero_add estate).symm ▸ holds
        refine (induction pushed).bind ?_
        rintro ⟨runtimes, scope⟩ last holds
        exact Keeps.done holds

theorem makeAssistant_keeps (settings : Settings) (destinations : Catalog NameSet) (name : String)
    (spec : AssistantSpec) {scope : Scope Resource} {estate : Estate} (holds : Holds scope estate) :
    Tends (fun result last => Holds result.2 last) estate
      (makeAssistant settings destinations name spec scope) := by
  unfold makeAssistant
  refine (makePlugins_keeps settings _ holds).bind ?_
  rintro ⟨plugins, scope⟩ last holds world tenable
  refine KeepsFrom.of_inspect ?_
  exact KeepsFrom.of_result holds

theorem makeAssistants_keeps (settings : Settings) (destinations : Catalog NameSet)
    (specs : List (String × AssistantSpec)) {scope : Scope Resource} {estate : Estate}
    (holds : Holds scope estate) :
    Tends (fun result last => Holds result.2 last) estate
      (makeAssistants settings destinations specs scope) := by
  induction specs generalizing scope estate with
  | nil => exact Keeps.done holds
  | cons named rest induction =>
      rcases named with ⟨name, spec⟩
      unfold makeAssistants
      refine (makeAssistant_keeps settings destinations name spec holds).bind ?_
      rintro ⟨assistant, scope⟩ last holds
      refine (induction holds).bind ?_
      rintro ⟨assistants, scope⟩ last holds
      exact Keeps.done holds

theorem buildWorkflow_keeps (settings : Settings) (spec : WorkflowSpec) {scope : Scope Resource}
    {estate : Estate} (holds : Holds scope estate) :
    Tends (fun result last => Holds result.2 last) estate (buildWorkflow settings spec scope) := by
  unfold buildWorkflow
  split
  · exact Keeps.done holds
  · exact Keeps.done holds
  · rename_i start _ _
    refine (Spares.keeps (openFor_spares spec.id) InOrder.seenBy trivial).bind ?_
    rintro opened owned ⟨_, rfl⟩
    cases opened with
    | error fault => exact Keeps.done holds
    | ok store =>
        have pushed : Holds (scope.push (.checkpoints store)) owned :=
          zero_add owned ▸ holds.push (.checkpoints store)
        refine (Spares.keeps (resolveNodes_spares start.id spec.nodes {}) InOrder.seenBy
          trivial).bind ?_
        rintro resolved last ⟨_, rfl⟩
        cases resolved with
        | error fault => exact Keeps.done pushed
        | ok resolution =>
            refine (makeAssistants_keeps settings _ _ pushed).bind ?_
            rintro ⟨assistants, scope⟩ last holds
            dsimp only
            split <;> exact Keeps.done holds

/-- What the graph of an outcome owns, through its scope. -/
def Owns (outcome : BuildOutcome) (estate : Estate) : Prop :=
  match outcome.graph? with
  | some graph => Holds graph.scope estate
  | none => estate = 0

theorem buildFallback_keeps (id reason : String) : Tends Owns 0 (buildFallback id reason) := by
  unfold buildFallback
  refine (Spares.keeps (openFor_spares id) InOrder.seenBy trivial).bind ?_
  rintro opened last ⟨_, rfl⟩
  cases opened with
  | error fault => exact Keeps.done rfl
  | ok store =>
      have pushed : Holds (({ owner := id } : Scope Resource).push (.checkpoints store)) 0 :=
        zero_add (0 : Estate) ▸ (Holds.initial id).push (.checkpoints store)
      exact Keeps.done pushed

/-- A build owns in the end what the graph keeps open that it yields. -/
theorem compile_keeps (settings : Settings) (id : String) :
    Tends Owns 0 (compile settings id) := by
  unfold compile
  split
  · exact buildFallback_keeps id requestedText
  · intro world tenable
    refine KeepsFrom.of_giveWay trivial fun world tenable => ?_
    refine KeepsFrom.of_inspect ?_
    split
    · exact buildFallback_keeps id _ world tenable
    · exact buildFallback_keeps id _ world tenable
    · rename_i spec _
      refine (buildWorkflow_keeps settings spec (Holds.initial id)).bind ?_ world tenable
      rintro ⟨built, scope⟩ last holds
      cases built with
      | ok runtime => exact Keeps.done holds
      | error fault =>
          rw [holds.close]
          refine (Resource.releaseAll_keeps scope.close.1).bind ?_
          rintro _ last rfl
          exact buildFallback_keeps id fault.message

end Compiler

end AssistantEngine
