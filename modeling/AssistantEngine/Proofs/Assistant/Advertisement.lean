import AssistantEngine.Proofs.Assistant.Handoffs
import AssistantEngine.Proofs.Engine.ToolCalls
import AssistantEngine.Proofs.Plugin.Counterparts
import AssistantEngine.Proofs.Plugin.Overrides

/-!
What an assistant advertises to its model, and what the advertised names stand for. The names are
distinct: one plugin exposes a name once, a name belongs to one plugin only, and handoff tools avoid
the names in use. So a name that is looked up leads back to what it was advertised for, and a call by
it reaches the server once, under the name that the server knows.
-/

namespace AssistantEngine

open Activity (Deed Runs)

/-! ## Tools of one plugin -/

namespace PluginRuntime

variable {plugin : PluginRuntime} {tool : ExposedTool} {name server : String}

/-- The tools of an active runtime are those of a server that has none twice, as some link exposes
them. -/
def FromServer (plugin : PluginRuntime) : Prop :=
  ∀ connection tools, plugin.state = .active connection tools →
    ∃ base link, (base.map (·.name)).Nodup ∧ tools = ExposedTool.ofLink base link

theorem FromServer.distinct (served : plugin.FromServer) :
    (plugin.tools.map (·.exposedName)).Nodup := by
  unfold tools
  cases held : plugin.state with
  | failed reason => exact List.nodup_nil
  | active connection tools =>
      rcases served connection tools held with ⟨base, link, distinct, rfl⟩
      exact (ExposedTool.ofLink_surface distinct link).distinct

theorem tool_of_enabled (distinct : (plugin.tools.map (·.exposedName)).Nodup)
    (member : tool ∈ plugin.enabledTools) : plugin.tool tool.exposedName = .ok tool := by
  rcases List.mem_filter.mp member with ⟨listed, enabled⟩
  have found : plugin.tools.find? (·.exposedName = tool.exposedName) = some tool :=
    ExposedTool.exposedAs_of_mem distinct listed
  rw [PluginRuntime.tool, found]
  exact if_pos enabled

/-- What deeds exchange with tool servers. -/
def exchanged (deeds : List (Deed World)) : List Exchange :=
  deeds.flatMap fun deed => deed.after.exchanges.drop deed.before.exchanges.length

/-- While a plugin is connected, a call by one name comes to an end and reaches the server once,
under the other name, whatever else goes on. -/
def Reaches (plugin : PluginRuntime) (name server : String) : Prop :=
  ∀ connection held arguments world, plugin.connection? = some connection →
    world.connection? connection = some held → world.isClosed plugin = false →
      (∀ time, ∃ result later final,
        (plugin.callTool name arguments).complete time world = some (result, later, final)) ∧
      ∀ others deeds result final,
        Runs others (plugin.callTool name arguments) world deeds result final →
          exchanged deeds = [.call connection held.transport server arguments]

/-- What a call exchanges with the server, it exchanges before it first gives way. -/
theorem intercept_exchanges {connection : ConnectionId} {held : Connection} {arguments : Json}
    {others : World → World → Prop} {world final : World} {deeds : List (Deed World)}
    {result : Except Fault CallResult} (known : world.connection? connection = some held)
    (runs : Runs others (intercept connection server arguments) world deeds result final) :
    exchanged deeds = [.call connection held.transport server arguments] := by
  have called : (ToolServer.answerCall connection server arguments world).2.exchanges =
      world.exchanges ++ [.call connection held.transport server arguments] := by
    simp only [ToolServer.answerCall, known]
    rfl
  rcases runs.of_bind with ⟨before, deeds, time, start, rfl, clock, asked⟩
  rcases clock.of_now with ⟨rfl, rfl⟩
  rcases asked.of_bind with ⟨front, back, answer, between, rfl, made, rest⟩
  rcases made.of_bind with ⟨asking, waiting, reply, later, rfl, spoke, waited⟩
  rcases spoke.of_transact with ⟨rfl, rfl, rfl⟩
  rcases waited.of_bind with ⟨idle, spent, _, after, rfl, paused, ended⟩
  rcases paused.of_giveWay with ⟨rfl, -⟩
  rcases ended.of_done with ⟨rfl, rfl, rfl⟩
  have quiet : exchanged back = [] := by
    cases told : (ToolServer.answerCall connection server arguments start).1 with
    | error fault =>
        rw [told] at rest
        rcases rest.of_done with ⟨rfl, -, -⟩
        rfl
    | ok raw =>
        rw [told] at rest
        rcases rest.of_bind with ⟨before, kept, finish, _, rfl, clock, recorded⟩
        rcases clock.of_now with ⟨rfl, rfl⟩
        rcases recorded.of_bind with ⟨registering, answering, id, _, rfl, registered, returned⟩
        rcases registered.of_transact with ⟨rfl, -, -⟩
        rcases returned.of_done with ⟨rfl, -, -⟩
        simp [exchanged, World.registerRecord]
  unfold exchanged at quiet ⊢
  simp [quiet, called]

theorem reaches_of_tool (meant : plugin.tool name = .ok tool) :
    plugin.Reaches name tool.serverName := by
  intro connection held arguments world connected known opened
  constructor
  · intro time
    obtain ⟨result, final, completed, -⟩ := callTool_reaches meant connected arguments time opened
      known
    exact ⟨result, time, final, completed⟩
  · intro others deeds result final runs
    unfold callTool at runs
    rw [meant, connected] at runs
    rcases runs.of_bind with ⟨front, back, shut, between, rfl, looked, rest⟩
    rcases looked.of_inspect with ⟨rfl, rfl, rfl⟩
    rw [opened, if_neg Bool.false_ne_true] at rest
    have spoken := intercept_exchanges known rest
    unfold exchanged at spoken ⊢
    simp [spoken]

end PluginRuntime

/-! ## Names -/

namespace AssistantRuntime

variable {assistant : AssistantRuntime} {registryId : String} {plugin : PluginRuntime}
  {definition : ToolDefinition}

theorem mem_pluginDefinitions :
    definition ∈ assistant.pluginDefinitions registryId plugin ↔
      ∃ tool ∈ plugin.enabledTools, assistant.owners.find? tool.exposedName = some registryId ∧
        ToolDefinition.mk tool.exposedName tool.description tool.inputSchema = definition := by
  simp [pluginDefinitions, and_assoc]

theorem owner_of_pluginDefinitions
    (member : definition ∈ assistant.pluginDefinitions registryId plugin) :
    assistant.owners.find? definition.name = some registryId := by
  rcases mem_pluginDefinitions.mp member with ⟨tool, -, owned, rfl⟩
  exact owned

theorem names_nodup_pluginDefinitions (distinct : (plugin.tools.map (·.exposedName)).Nodup) :
    ((assistant.pluginDefinitions registryId plugin).map (·.name)).Nodup := by
  unfold pluginDefinitions
  rw [List.map_map]
  exact ((List.filter_sublist.trans List.filter_sublist).map _).nodup distinct

variable (spec : AssistantSpec) (modelName : String) (plugins : List PluginRuntime)
  (destinations : List String)

theorem mem_of_mem_activePlugins {plugins : List PluginRuntime}
    (member : (registryId, plugin) ∈ activePlugins plugins) :
    plugin ∈ plugins ∧ plugin.isActive = true ∧ plugin.registryId = registryId := by
  rcases List.mem_map.mp (Catalog.mem_of_mem_ofList member) with ⟨listed, inside, same⟩
  rcases Prod.mk.inj same with ⟨rfl, rfl⟩
  exact ⟨(List.mem_filter.mp inside).1, (List.mem_filter.mp inside).2, rfl⟩

theorem keys_nodup_activePlugins : (activePlugins plugins).keys.Nodup :=
  (Catalog.ascending_ofList _).keys_nodup

/-- A handoff tool has no name that belongs to a plugin. -/
theorem owners_find?_handoff {handoff : HandoffTool}
    (member : handoff ∈ (ofPlugins spec modelName plugins destinations).handoffs) :
    (ofPlugins spec modelName plugins destinations).owners.find? handoff.name = none := by
  cases owned : (ofPlugins spec modelName plugins destinations).owners.find? handoff.name with
  | none => rfl
  | some owner =>
      have used := Catalog.mem_keys_of_find? owned
      exact absurd used (HandoffTool.name_not_mem_of_forDestinations member)

/-- A name that belongs to a plugin stands for that plugin. -/
theorem resolve?_of_owner {name : String}
    (owned : (ofPlugins spec modelName plugins destinations).owners.find? name = some registryId) :
    (ofPlugins spec modelName plugins destinations).resolve? name =
      ((activePlugins plugins).find? registryId).map .plugin := by
  have none_handed :
      (ofPlugins spec modelName plugins destinations).handoffs.find? (·.name = name) = none := by
    apply List.find?_eq_none.mpr
    intro handoff member same
    have free := owners_find?_handoff spec modelName plugins destinations member
    rw [of_decide_eq_true same, owned] at free
    contradiction
  unfold resolve?
  rw [none_handed, owned]
  rfl

theorem resolve?_handoff {handoff : HandoffTool}
    (member : handoff ∈ (ofPlugins spec modelName plugins destinations).handoffs) :
    (ofPlugins spec modelName plugins destinations).resolve? handoff.name =
      some (.handoff handoff) := by
  have distinct := HandoffTool.names_nodup_forDestinations
    (ofPlugins spec modelName plugins destinations).owners.keys destinations
  have found : (ofPlugins spec modelName plugins destinations).handoffs.find?
      (·.name = handoff.name) = some handoff := find?_of_nodup distinct member
  rw [resolve?, found]

variable {plugins : List PluginRuntime}

theorem names_nodup_toolDefinitions
    (distinct : ∀ plugin ∈ plugins, (plugin.tools.map (·.exposedName)).Nodup) :
    ((ofPlugins spec modelName plugins destinations).toolDefinitions.map (·.name)).Nodup := by
  unfold toolDefinitions
  rw [List.map_append, List.map_flatMap, List.map_map]
  apply List.Nodup.append
  · apply List.nodup_flatMap.mpr
    constructor
    · rintro ⟨registryId, plugin⟩ member
      exact names_nodup_pluginDefinitions (distinct plugin (mem_of_mem_activePlugins member).1)
    · -- A name in the part of two plugins would belong to both of them.
      have apart := List.pairwise_map.mp (keys_nodup_activePlugins plugins)
      apply apart.imp
      intro entry other different name here there
      rcases List.mem_map.mp here with ⟨definition, member, rfl⟩
      rcases List.mem_map.mp there with ⟨again, member', same⟩
      have owned := owner_of_pluginDefinitions member
      rw [← same, owner_of_pluginDefinitions member', Option.some.injEq] at owned
      exact different owned.symm
  · exact HandoffTool.names_nodup_forDestinations _ destinations
  · intro name contributed handed
    rcases List.mem_flatMap.mp contributed with ⟨entry, -, inside⟩
    rcases List.mem_map.mp inside with ⟨definition, member, rfl⟩
    rcases List.mem_map.mp handed with ⟨handoff, offered, same⟩
    have free := owners_find?_handoff spec modelName plugins destinations offered
    rw [show handoff.name = definition.name from same, owner_of_pluginDefinitions member] at free
    contradiction

/-! ## Calls -/

/-- Whatever an assistant advertises has a name of its own. A handoff tool is found under its name;
any other name leads to a plugin that exposes an enabled tool under it, with the advertised
description and schema, and a call reaches the server once, under the name of that entry. -/
theorem toolDefinitions_callable (served : ∀ plugin ∈ plugins, plugin.FromServer) :
    ((ofPlugins spec modelName plugins destinations).toolDefinitions.map (·.name)).Nodup ∧
      ∀ definition ∈ (ofPlugins spec modelName plugins destinations).toolDefinitions,
        (∃ handoff ∈ (ofPlugins spec modelName plugins destinations).handoffs,
            definition = handoffDefinition handoff ∧
              (ofPlugins spec modelName plugins destinations).resolve? definition.name =
                some (.handoff handoff)) ∨
          ∃ plugin ∈ plugins, ∃ tool ∈ plugin.enabledTools,
            definition = ⟨tool.exposedName, tool.description, tool.inputSchema⟩ ∧
              (ofPlugins spec modelName plugins destinations).resolve? definition.name =
                some (.plugin plugin) ∧
              plugin.Reaches definition.name tool.serverName := by
  have distinct : ∀ plugin ∈ plugins, (plugin.tools.map (·.exposedName)).Nodup :=
    fun plugin member => (served plugin member).distinct
  refine ⟨names_nodup_toolDefinitions spec modelName destinations distinct, ?_⟩
  intro definition member
  rcases List.mem_append.mp member with contributed | handed
  · right
    rcases List.mem_flatMap.mp contributed with ⟨⟨registryId, plugin⟩, held, offered⟩
    rcases mem_of_mem_activePlugins held with ⟨listed, -, -⟩
    rcases mem_pluginDefinitions.mp offered with ⟨tool, enabled, owned, rfl⟩
    refine ⟨plugin, listed, tool, enabled, rfl, ?_, ?_⟩
    · rw [resolve?_of_owner spec modelName plugins destinations owned,
        Catalog.find?_of_mem (keys_nodup_activePlugins plugins) held]
      rfl
    · exact PluginRuntime.reaches_of_tool
        (PluginRuntime.tool_of_enabled (distinct plugin listed) enabled)
  · left
    rcases List.mem_map.mp handed with ⟨handoff, offered, rfl⟩
    exact ⟨handoff, offered, rfl,
      resolve?_handoff spec modelName plugins destinations offered⟩

/-! ## Two plugins that expose the same name -/

/-- A server with one tool that has the name of a handoff tool. -/
def writingServer : List ToolInfo := [{ name := "find" }, { name := "transfer_to_critic" }]

/-- A plugin that finds pages, also under another name. -/
def pageFinder : PluginRuntime where
  number := 0
  registryId := "pages"
  kind := .perLink
  state := .active 0 (ExposedTool.ofLink [{ name := "find" }, { name := "fetch" }] {
    registryId := "pages"
    tools := [{ name := "fetch", rename := some "open" }] })

def writingDesk : PluginRuntime where
  number := 1
  registryId := "desk"
  kind := .singleton
  state := .active 1 (ExposedTool.ofLink writingServer { registryId := "desk" })

theorem toolDefinitions_callable_shadowed :
    (∀ plugin ∈ [pageFinder, writingDesk], plugin.FromServer) ∧
      let assistant := ofPlugins { id := "editor", name := "Editor", instructions := "" } "script"
        [pageFinder, writingDesk] ["Critic"]
      assistant.toolDefinitions.map (·.name) =
          ["transfer_to_critic", "find", "open", "transfer_to_critic_2"] ∧
        (assistant.toolDefinitions.map (·.name)).Nodup := by
  have served : ∀ plugin ∈ [pageFinder, writingDesk], plugin.FromServer := by
    intro plugin member connection tools active
    rcases List.mem_pair.mp member with rfl | rfl
    · cases active
      exact ⟨_, _, by decide, rfl⟩
    · cases active
      exact ⟨_, _, by decide, rfl⟩
  exact ⟨served, by decide +kernel, (toolDefinitions_callable _ "script" ["Critic"] served).1⟩

end AssistantRuntime

end AssistantEngine
