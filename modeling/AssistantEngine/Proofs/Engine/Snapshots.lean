import AssistantEngine.Engine.Basic
import AssistantEngine.Graph.Snapshot
import AssistantEngine.Proofs.Engine.Assembly
import AssistantEngine.Proofs.RuntimeCache.Installations

/-!
Snapshots of an engine's cache. The rows come in the order of the keys, and what a row says of a
graph that is installed is true of it. A row of a key without a graph may still give a reason:
closing takes the graph out of an entry whose build is in progress, and leaves the reason there.
-/

namespace AssistantEngine

open Activity (Promises promises_bind)

namespace Compiler

/-! ## Outcomes of the compiler -/

/-- What the compiler says of its graphs is what they say of themselves. -/
abbrev Truthful (outcome : BuildOutcome) : Prop := outcome.Truthful CompiledRuntime.fallbackReason?

theorem buildFallback_promises (id reason : String) :
    (buildFallback id reason).Promises Truthful := by
  unfold buildFallback
  refine promises_bind fun opened => ?_
  cases opened with
  | error fault => exact fun graph given => by cases given
  | ok store => exact fun graph given => by cases given; rfl

/-- The graph of a workflow is not the plain conversation. -/
theorem buildWorkflow_promises (settings : Settings) (spec : WorkflowSpec)
    (scope : Scope Resource) :
    (buildWorkflow settings spec scope).Promises fun built =>
      ∀ runtime, built.1 = .ok runtime → runtime.fallbackReason? = none := by
  unfold buildWorkflow
  split
  · exact fun runtime failed => by cases failed
  · exact fun runtime failed => by cases failed
  · refine promises_bind fun opened => ?_
    cases opened with
    | error fault => exact fun runtime failed => by cases failed
    | ok store =>
        refine promises_bind fun resolved => ?_
        cases resolved with
        | error fault => exact fun runtime failed => by cases failed
        | ok resolution =>
            refine promises_bind ?_
            rintro ⟨assistants, scope⟩
            dsimp only
            split
            · exact fun runtime failed => by cases failed
            · exact fun runtime built => by cases built; rfl

theorem compile_promises (settings : Settings) (id : String) :
    (compile settings id).Promises Truthful := by
  unfold compile
  split
  · exact buildFallback_promises id requestedText
  · refine promises_bind fun _ => promises_bind fun found => ?_
    split
    · exact buildFallback_promises id _
    · exact buildFallback_promises id _
    · rename_i spec
      refine (buildWorkflow_promises settings spec _).bind ?_
      rintro ⟨built, scope⟩ plain
      cases built with
      | ok runtime => exact fun graph given => by cases given; exact (plain runtime rfl).symm
      | error fault => exact promises_bind fun _ => buildFallback_promises id fault.message

end Compiler

theorem CompiledRuntime.isSome_fallbackReason?_iff (runtime : CompiledRuntime) :
    runtime.fallbackReason?.isSome ↔ runtime.kind = .fallback := by
  unfold fallbackReason? kind
  split <;> simp

/-! ## Rows -/

/-- An entry is clean or dirty only with a graph. -/
theorem RuntimeCache.Entry.isSome_installed {Runtime Resource : Type}
    {entry : Entry Runtime Resource} (settled : entry.state = .clean ∨ entry.state = .dirty) :
    entry.installed.isSome := by
  unfold state at settled
  cases building : entry.building <;> cases installed : entry.installed <;>
    simp [building, installed] at settled ⊢

open RuntimeCache (Installed)
open RuntimeCache.State (Lingers run Tells)

/-- What can be relied on about the row of a key, given the graph that is installed under it. -/
structure SnapshotRow.Coherent (row : SnapshotRow)
    (installed : Option (Installed CompiledRuntime Resource)) (lingers : String → Prop) :
    Prop where
  /-- It shows no kind and no resources just if no graph is installed. -/
  vacant : row.kind = none ∧ row.resources = 0 ↔ installed = none
  /-- Otherwise it shows the kind of the graph and how many resources it keeps open. -/
  occupied : ∀ graph, installed = some graph →
    row.kind = some graph.graph.runtime.kind ∧ row.resources = graph.graph.scope.size
  /-- It shows a clean or a dirty graph only with its kind. -/
  settled : row.state = .clean ∨ row.state = .dirty → row.kind.isSome
  /-- With a kind it gives a reason just if that is a fallback. -/
  reasoned : ∀ kind, row.kind = some kind → (row.fallbackReason.isSome ↔ kind = .fallback)
  /-- Without a kind it gives a reason just if one is left over. -/
  left : row.kind = none → ∀ reason, row.fallbackReason = some reason ↔ lingers reason

namespace SnapshotRow

variable {settings : Settings} {Reply : Type} {start : Engine.State Reply}
  {actions : List (Engine.Action Reply)} {key : String}

theorem coherent_ofEntry
    (tells : Tells (Engine.builder settings) CompiledRuntime.fallbackReason? start actions key) :
    (ofEntry key ((run (Engine.builder settings) start actions).entry key)).Coherent
      ((run (Engine.builder settings) start actions).entry key).installed
      (Lingers (Engine.builder settings) CompiledRuntime.fallbackReason? start actions key) := by
  generalize same : (run (Engine.builder settings) start actions).entry key = entry
  have present := same ▸ tells.present
  have absent := same ▸ tells.absent
  have settled : (ofEntry key entry).state = .clean ∨ (ofEntry key entry).state = .dirty →
      (ofEntry key entry).kind.isSome := by
    intro shown
    unfold ofEntry
    rw [Option.isSome_map]
    exact RuntimeCache.Entry.isSome_installed shown
  cases installed : entry.installed with
  | none =>
      have noKind : (ofEntry key entry).kind = none := congrArg (Option.map _) installed
      refine ⟨iff_of_true ⟨noKind, ?_⟩ rfl, nofun, settled, fun kind shown => ?_,
        fun _ => absent installed⟩
      · simp [ofEntry, RuntimeCache.Entry.resources, installed]
      · rw [noKind] at shown
        cases shown
  | some graph =>
      have shown : (ofEntry key entry).kind = some graph.graph.runtime.kind :=
        congrArg (Option.map _) installed
      have size : (ofEntry key entry).resources = graph.graph.scope.size := by
        simp [ofEntry, RuntimeCache.Entry.resources, installed]
      refine ⟨iff_of_false (fun none => ?_) nofun, fun other given => ?_, settled,
        fun kind given => ?_, fun none => ?_⟩
      · exact absurd (shown.symm.trans none.1) nofun
      · cases given
        exact ⟨shown, size⟩
      · cases shown.symm.trans given
        change entry.fallbackReason.isSome ↔ _
        rw [present graph installed]
        exact graph.graph.runtime.isSome_fallbackReason?_iff
      · exact absurd (shown.symm.trans none) nofun

end SnapshotRow

/-- Whatever happens to the cache of an engine, a snapshot has one row for each key that the cache
knows, in the order of the keys, and all rows are coherent. A reason without a kind is left over
from a fallback graph that was closed while its key was being built. -/
theorem Engine.snapshot_coherent {Reply : Type} (settings : Settings) (world : World)
    (actions : List (Engine.Action Reply)) :
    let state := run (Engine.builder settings) (Engine.start world) actions
    state.snapshot.Pairwise (·.workflowId < ·.workflowId) ∧
      (∀ key, (∃ row ∈ state.snapshot, row.workflowId = key) ↔
        (state.entries.find? key).isSome) ∧
      ∀ row ∈ state.snapshot, row.Coherent (state.entry row.workflowId).installed
        (Lingers (Engine.builder settings) CompiledRuntime.fallbackReason? (Engine.start world)
          actions row.workflowId) := by
  intro state
  have ascending : state.entries.Ascending :=
    RuntimeCache.State.Reachable.ascending ⟨actions, rfl⟩
  have known (key : String) : (∃ row ∈ state.snapshot, row.workflowId = key) ↔
      (state.entries.find? key).isSome := by
    rw [← Catalog.mem_keys_iff]
    unfold RuntimeCache.State.snapshot Catalog.keys
    simp [SnapshotRow.ofEntry]
  refine ⟨List.Pairwise.map _ (fun _ _ before => before) ascending, known, fun row member => ?_⟩
  rcases List.mem_map.mp member with ⟨⟨key, entry⟩, within, rfl⟩
  have found : state.entry key = entry := by
    rw [RuntimeCache.State.entry, Catalog.find?_of_mem ascending.keys_nodup within]
    rfl
  have tells : Tells (Engine.builder settings) CompiledRuntime.fallbackReason?
      (Engine.start world) actions key :=
    RuntimeCache.State.run_tells (fun id => Compiler.compile_promises settings id.key) world
      actions key
  have coherent := SnapshotRow.coherent_ofEntry tells
  rw [show (run (Engine.builder settings) (Engine.start world) actions).entry key = entry from
    found] at coherent
  rw [show (SnapshotRow.ofEntry key entry).workflowId = key from rfl, found]
  exact coherent

/-- The cache after the plain conversation was built, and closed while it was built anew. -/
def Engine.closedEarly : Engine.State Unit :=
  run (Engine.builder { pluginDirectories := [] }) (Engine.start Compiler.officeWorld)
    [.get 0 WorkflowSpec.fallbackId, .resume (.building ⟨WorkflowSpec.fallbackId, 0⟩),
      .rebuild 1 WorkflowSpec.fallbackId, .close 2 WorkflowSpec.fallbackId]

/-- There is no graph any more, but still a reason for one. -/
theorem Engine.snapshot_leftover :
    Engine.closedEarly.snapshot = [{
      workflowId := WorkflowSpec.fallbackId
      state := .building
      kind := none
      builtEpoch := 0
      fallbackReason := some Compiler.requestedText
      resources := 0 }] ∧
    ¬ ∀ row ∈ Engine.closedEarly.snapshot,
      (row.fallbackReason.isSome ↔ row.kind = some .fallback) := by
  decide +kernel

end AssistantEngine
