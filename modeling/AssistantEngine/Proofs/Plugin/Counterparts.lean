import AssistantEngine.Assistant.Runtime
import AssistantEngine.Proofs.Catalog
import Mathlib.Data.List.Forall2

/-!
Assistants whose plugins are the same but for one. The other plugins have the same tools, or are
missing for the same reasons; and where the one plugin has failed, none of the others loses a tool
that it would contribute beside it.
-/

namespace AssistantEngine

namespace PluginRuntime

/-- Two runtimes of one plugin that expose the same tools, or have failed for the same reason,
unless they are runtimes of the plugin that makes the difference. -/
structure Counterpart (suspect : String) (runtime runtime' : PluginRuntime) : Prop where
  registryId : runtime.registryId = runtime'.registryId
  kind : runtime.kind = runtime'.kind
  tools : runtime.registryId ≠ suspect → runtime.tools = runtime'.tools
  failure : runtime.registryId ≠ suspect → runtime.failure? = runtime'.failure?

theorem Counterpart.refl (suspect : String) (runtime : PluginRuntime) :
    runtime.Counterpart suspect runtime :=
  ⟨rfl, rfl, fun _ => rfl, fun _ => rfl⟩

theorem isActive_eq_isNone (runtime : PluginRuntime) :
    runtime.isActive = runtime.failure?.isNone := by
  unfold isActive failure?
  cases runtime.state <;> rfl

theorem Counterpart.isActive {suspect : String} {runtime runtime' : PluginRuntime}
    (counterpart : runtime.Counterpart suspect runtime') (other : runtime.registryId ≠ suspect) :
    runtime.isActive = runtime'.isActive := by
  rw [isActive_eq_isNone, isActive_eq_isNone, counterpart.failure other]

end PluginRuntime

namespace AssistantRuntime

/-- The tools that an assistant owes to one plugin. -/
def contributed (assistant : AssistantRuntime) (registryId : String) : List ToolDefinition :=
  match assistant.plugins.find? registryId with
  | some plugin => assistant.pluginDefinitions registryId plugin
  | none => []

/-- A plugin contributes its own tools under the names that it owns. -/
theorem mem_contributed {assistant : AssistantRuntime} {registryId : String}
    {definition : ToolDefinition} :
    definition ∈ assistant.contributed registryId ↔
      ∃ plugin, assistant.plugins.find? registryId = some plugin ∧
        ∃ tool ∈ plugin.enabledTools,
          assistant.owners.find? tool.exposedName = some registryId ∧
            ToolDefinition.mk tool.exposedName tool.description tool.inputSchema = definition := by
  unfold contributed
  cases assistant.plugins.find? registryId with
  | none => simp
  | some plugin => simp [pluginDefinitions, and_assoc]

/-- What a plugin contributes is advertised to the model. -/
theorem mem_toolDefinitions_of_contributed {assistant : AssistantRuntime} {registryId : String}
    {definition : ToolDefinition} (member : definition ∈ assistant.contributed registryId) :
    definition ∈ assistant.toolDefinitions := by
  obtain ⟨plugin, found, tool, enabled, owned, rfl⟩ := mem_contributed.mp member
  apply List.mem_append_left
  apply List.mem_flatMap.mpr
  refine ⟨_, Catalog.mem_of_find? found, ?_⟩
  apply List.mem_map_of_mem
  exact List.mem_filter.mpr ⟨enabled, beq_iff_eq.mpr owned⟩

/-- An assistant in two worlds in which one plugin makes the difference. -/
structure Isolated (suspect : String) (assistant assistant' : AssistantRuntime) : Prop where
  id : assistant.id = assistant'.id
  name : assistant.name = assistant'.name
  instructions : assistant.instructions = assistant'.instructions
  modelName : assistant.modelName = assistant'.modelName
  destinations : assistant.destinations = assistant'.destinations
  /-- Another plugin is active in both, with the same tools, or in neither. -/
  active : ∀ other, other ≠ suspect →
    (assistant.plugins.find? other).map (·.tools) = (assistant'.plugins.find? other).map (·.tools)
  /-- Another plugin is missing from both for the same reason, or from neither. -/
  unavailable : ∀ other, other ≠ suspect →
    assistant.unavailable.find? other = assistant'.unavailable.find? other
  /-- Where the one plugin is not active, another one contributes whatever it does beside it. -/
  contributed : assistant'.plugins.find? suspect = none → ∀ other, other ≠ suspect →
    ∀ definition ∈ assistant.contributed other, definition ∈ assistant'.contributed other

variable {suspect : String} {plugins plugins' : List PluginRuntime}

/-! ## Plugins by registry id -/

/-- Of several active plugins with one registry id the last one is kept. -/
theorem find?_activePlugins (plugins : List PluginRuntime) (registryId : String) :
    (activePlugins plugins).find? registryId =
      plugins.reverse.find? fun plugin => plugin.isActive && plugin.registryId = registryId := by
  unfold activePlugins
  rw [Catalog.find?_ofList, ← List.map_reverse, ← List.filter_reverse, List.find?_map,
    List.find?_filter, Option.map_map]
  simp [Function.comp_def]

theorem find?_failures (plugins : List PluginRuntime) (registryId : String) :
    (failures plugins).find? registryId =
      (plugins.reverse.find? fun plugin =>
        plugin.failure?.isSome && plugin.registryId = registryId).bind (·.failure?) := by
  have tests : (fun plugin : PluginRuntime =>
      (plugin.failure?.map fun reason => (plugin.registryId, reason)).any (·.1 = registryId)) =
        fun plugin => plugin.failure?.isSome && plugin.registryId = registryId := by
    funext plugin
    cases plugin.failure? <;> rfl
  unfold failures
  rw [Catalog.find?_ofList, ← List.filterMap_reverse, List.find?_filterMap, tests,
    Option.map_bind]
  congr 1
  funext plugin
  simp [Function.comp_def]

/-- The first plugin that exposes a name keeps it. -/
theorem find?_claimTools (owners : Catalog String) (plugin : PluginRuntime) (name : String) :
    (claimTools owners plugin).find? name =
      (owners.find? name).or
        (if plugin.enabledTools.any (·.exposedName = name) then some plugin.registryId
        else none) := by
  unfold claimTools
  generalize plugin.enabledTools = tools
  induction tools generalizing owners with
  | nil => simp
  | cons tool rest induction =>
      rw [List.foldl_cons, induction, claimTool, Catalog.find?_insertNew, Option.or_assoc]
      congr 1
      by_cases same : tool.exposedName = name <;> simp [same]

theorem find?_toolOwners (plugins : List PluginRuntime) (name : String) :
    (toolOwners plugins).find? name =
      (plugins.find? fun plugin =>
        plugin.isActive && plugin.enabledTools.any (·.exposedName = name)).map (·.registryId) := by
  have claims : ∀ (owners : Catalog String) (plugins : List PluginRuntime),
      (plugins.foldl claimTools owners).find? name =
        (owners.find? name).or ((plugins.find? fun plugin =>
          plugin.enabledTools.any (·.exposedName = name)).map (·.registryId)) := by
    intro owners plugins
    induction plugins generalizing owners with
    | nil => simp
    | cons plugin rest induction =>
        rw [List.foldl_cons, induction, find?_claimTools, Option.or_assoc]
        congr 1
        cases exposes : plugin.enabledTools.any (·.exposedName = name) <;> simp [exposes]
  unfold toolOwners
  rw [claims, List.find?_filter, Catalog.find?_nil, Option.none_or]
  congr 2
  funext plugin
  rw [Bool.decide_and, Bool.decide_eq_true, Bool.decide_eq_true]

/-! ## The same plugins in both worlds -/

variable (alike : List.Forall₂ (PluginRuntime.Counterpart suspect) plugins plugins')

include alike

/-- Of a plugin that is not the one, both worlds find the same runtime. -/
theorem find?_alike {Value : Type} {test : PluginRuntime → Bool} {view : PluginRuntime → Value}
    (other : String)
    (agree : ∀ runtime runtime', runtime.Counterpart suspect runtime' →
      runtime.registryId = other → test runtime = test runtime' ∧ view runtime = view runtime') :
    (plugins.find? fun plugin => test plugin && plugin.registryId = other).map view =
      (plugins'.find? fun plugin => test plugin && plugin.registryId = other).map view := by
  induction alike with
  | nil => rfl
  | @cons runtime runtime' rest rest' head alike induction =>
      rw [List.find?_cons, List.find?_cons, ← head.registryId]
      by_cases own : runtime.registryId = other
      · obtain ⟨sameTest, sameView⟩ := agree runtime runtime' head own
        rw [← sameTest]
        cases test runtime with
        | true => simp [own, sameView]
        | false => simpa using induction
      · simpa [own] using induction

/-- Another plugin is active in both worlds, with the same tools, or in neither. -/
theorem active_alike {other : String} (different : other ≠ suspect) :
    ((activePlugins plugins).find? other).map (·.tools) =
      ((activePlugins plugins').find? other).map (·.tools) := by
  rw [find?_activePlugins, find?_activePlugins]
  apply find?_alike (List.rel_reverse alike) other
  intro runtime runtime' counterpart own
  have apart : runtime.registryId ≠ suspect := own.trans_ne different
  exact ⟨counterpart.isActive apart, counterpart.tools apart⟩

/-- Another plugin has failed for the same reason in both worlds, or in neither. -/
theorem failures_alike {other : String} (different : other ≠ suspect) :
    (failures plugins).find? other = (failures plugins').find? other := by
  have same := find?_alike (List.rel_reverse alike) other
    fun runtime runtime' counterpart own =>
      have reason := counterpart.failure (own.trans_ne different)
      ⟨congrArg Option.isSome reason, reason⟩
  have flat := congrArg (Option.bind · fun reason => reason) same
  rw [find?_failures, find?_failures]
  simpa only [Option.bind_map, Function.comp_def] using flat

/-- With the one plugin gone, a name that is owned by another one stays with it. -/
theorem owner_kept {other name : String} (different : other ≠ suspect)
    (gone : ∀ plugin ∈ plugins', plugin.registryId = suspect → plugin.isActive = false)
    (owned : (toolOwners plugins).find? name = some other) :
    (toolOwners plugins').find? name = some other := by
  rw [find?_toolOwners] at owned ⊢
  induction alike with
  | nil => exact owned
  | @cons runtime runtime' rest rest' head alike induction =>
      have later := induction fun plugin member => gone plugin (List.mem_cons_of_mem _ member)
      rw [List.find?_cons] at owned ⊢
      by_cases own : runtime.registryId = suspect
      · -- The one plugin may own names in the first world; it owns none in the second.
        have inactive := gone runtime' List.mem_cons_self (head.registryId ▸ own)
        rw [inactive, Bool.false_and]
        apply later
        split at owned
        · rw [Option.map_some, own, Option.some.injEq] at owned
          exact absurd owned.symm different
        · exact owned
      · have sameTools : runtime.enabledTools = runtime'.enabledTools :=
          congrArg (List.filter _) (head.tools own)
        rw [← head.isActive own, ← sameTools]
        split at owned
        · rwa [Option.map_some, ← head.registryId]
        · exact later owned

/-- Assistants that are made of the same plugins are the same but for the one. -/
theorem isolated_ofPlugins (spec : AssistantSpec) (modelName : String)
    (destinations : List String) :
    Isolated suspect (ofPlugins spec modelName plugins destinations)
      (ofPlugins spec modelName plugins' destinations) where
  id := rfl
  name := rfl
  instructions := rfl
  modelName := rfl
  destinations := rfl
  active other different := active_alike alike different
  unavailable other different := failures_alike alike different
  contributed := by
    intro absent other different definition member
    have gone : ∀ plugin ∈ plugins', plugin.registryId = suspect → plugin.isActive = false := by
      have none_active := List.find?_eq_none.mp ((find?_activePlugins _ _).symm.trans absent)
      intro plugin present own
      simpa [own] using none_active plugin (List.mem_reverse.mpr present)
    obtain ⟨plugin, found, tool, enabled, owned, made⟩ := mem_contributed.mp member
    have same := active_alike alike different
    rw [show (activePlugins plugins).find? other = some plugin from found] at same
    obtain ⟨plugin', found', sameTools⟩ := Option.map_eq_some_iff.mp same.symm
    refine mem_contributed.mpr ⟨plugin', found', tool, ?_, ?_, made⟩
    · have sameEnabled : plugin'.enabledTools = plugin.enabledTools :=
        congrArg (List.filter _) sameTools
      exact sameEnabled ▸ enabled
    · exact owner_kept alike different gone owned

end AssistantRuntime

end AssistantEngine
