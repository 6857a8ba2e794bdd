import AssistantEngine.Engine.Compiler
import AssistantEngine.Proofs.Assistant.Advertisement

/-!
What becomes of the tools that the links of an assistant expose. A name belongs to the first active
runtime that exposes it, but it is known by registry id only: where a later link names the same
plugin, the name leads to the runtime of the last one, and what the first one alone exposes is neither
advertised nor called.
-/

namespace AssistantEngine

open Activity (Deed Runs)

namespace PluginRuntime

/-- Whether an assistant may call a tool of this plugin under a name. -/
def exposes (name : String) (plugin : PluginRuntime) : Bool :=
  plugin.isActive && plugin.enabledTools.any (·.exposedName = name)

/-- How many enabled tools have a name. -/
def timesExposed (plugin : PluginRuntime) (name : String) : Nat :=
  (plugin.enabledTools.map (·.exposedName)).count name

theorem isActive_of_exposes {plugin : PluginRuntime} {name : String}
    (exposed : plugin.exposes name = true) : plugin.isActive = true :=
  (Bool.and_eq_true_iff.mp exposed).1

theorem exposes_of_mem {plugin : PluginRuntime} {tool : ExposedTool}
    (active : plugin.isActive = true) (member : tool ∈ plugin.enabledTools) :
    plugin.exposes tool.exposedName = true := by
  unfold exposes
  rw [active, Bool.true_and, List.any_eq_true]
  exact ⟨tool, member, decide_eq_true rfl⟩

end PluginRuntime

namespace AssistantRuntime

open PluginRuntime (exposes timesExposed)

/-! ## How often a name is advertised -/

/-- How often a name is advertised to the model. -/
def timesAdvertised (assistant : AssistantRuntime) (name : String) : Nat :=
  (assistant.toolDefinitions.map (·.name)).count name

variable {assistant : AssistantRuntime} {registryId name : String} {plugin : PluginRuntime}

/-- Its owner contributes a name as often as it exposes it. -/
theorem count_pluginDefinitions (owned : assistant.owners.find? name = some registryId) :
    ((assistant.pluginDefinitions registryId plugin).map (·.name)).count name =
      plugin.timesExposed name := by
  unfold pluginDefinitions timesExposed
  rw [List.map_map, List.count_eq_countP, List.countP_map, List.countP_filter,
    List.count_eq_countP, List.countP_map]
  apply List.countP_congr
  intro tool _
  by_cases same : tool.exposedName = name
  · simp [same, owned]
  · simp [same]

/-- Nobody else contributes it. -/
theorem count_pluginDefinitions_of_ne {other : String}
    (owned : assistant.owners.find? name = some registryId) (different : other ≠ registryId) :
    ((assistant.pluginDefinitions other plugin).map (·.name)).count name = 0 := by
  apply List.count_eq_zero_of_not_mem
  intro member
  rcases List.mem_map.mp member with ⟨definition, inside, rfl⟩
  rw [owner_of_pluginDefinitions inside, Option.some.injEq] at owned
  exact different owned

/-- The contributions of some plugins none of which owns the name. -/
theorem count_contributions_of_ne {entries : Catalog PluginRuntime}
    (owned : assistant.owners.find? name = some registryId) (without : registryId ∉ entries.keys) :
    ((entries.flatMap fun entry =>
      assistant.pluginDefinitions entry.1 entry.2).map (·.name)).count name = 0 := by
  apply List.count_eq_zero_of_not_mem
  rw [List.map_flatMap]
  intro member
  rcases List.mem_flatMap.mp member with ⟨⟨other, plugin⟩, held, inside⟩
  have different : other ≠ registryId := fun same =>
    without (List.mem_map.mpr ⟨_, held, same⟩)
  have absent : ((assistant.pluginDefinitions other plugin).map (·.name)).count name = 0 :=
    count_pluginDefinitions_of_ne owned different
  exact List.count_eq_zero.mp absent inside

variable (spec : AssistantSpec) (modelName : String) (destinations : List String)
  {plugins : List PluginRuntime}

theorem count_handoffs
    (owned : (ofPlugins spec modelName plugins destinations).owners.find? name = some registryId) :
    (((ofPlugins spec modelName plugins destinations).handoffs.map handoffDefinition).map
      (·.name)).count name = 0 := by
  apply List.count_eq_zero_of_not_mem
  intro member
  rw [List.map_map] at member
  rcases List.mem_map.mp member with ⟨handoff, offered, same⟩
  have free := owners_find?_handoff spec modelName plugins destinations offered
  rw [show handoff.name = name from same, owned] at free
  contradiction

/-- A name is advertised as often as the plugin exposes it that is kept under the id of its
owner. -/
theorem timesAdvertised_eq {kept : PluginRuntime}
    (owned : (ofPlugins spec modelName plugins destinations).owners.find? name = some registryId)
    (held : (activePlugins plugins).find? registryId = some kept) :
    (ofPlugins spec modelName plugins destinations).timesAdvertised name =
      kept.timesExposed name := by
  rcases List.append_of_mem (Catalog.mem_of_find? held) with ⟨front, back, split⟩
  have distinct := keys_nodup_activePlugins plugins
  rw [split, Catalog.keys, List.map_append, List.map_cons] at distinct
  rcases List.nodup_append'.mp distinct with ⟨before, rest, apart⟩
  have early : registryId ∉ front.map (·.1) := fun member =>
    apart member List.mem_cons_self
  have late : registryId ∉ back.map (·.1) := (List.nodup_cons.mp rest).1
  have entries : (ofPlugins spec modelName plugins destinations).plugins =
      front ++ (registryId, kept) :: back := split
  unfold timesAdvertised toolDefinitions
  rw [List.map_append, List.count_append, count_handoffs spec modelName destinations owned, entries,
    List.flatMap_append, List.flatMap_cons, List.map_append, List.map_append, List.count_append,
    List.count_append, count_contributions_of_ne owned early, count_contributions_of_ne owned late,
    count_pluginDefinitions owned, Nat.zero_add, Nat.add_zero]

/-! ## Who answers under a name -/

/-- The runtime that is kept for the plugin of another one: the last active one. -/
def keptFor (plugins : List PluginRuntime) (first : PluginRuntime) : Option PluginRuntime :=
  plugins.reverse.find? fun plugin => plugin.isActive && plugin.registryId = first.registryId

/-- Where a runtime is the first to expose a name, the one that is kept for its plugin answers to the
name and says how often it is advertised. -/
theorem answers_of_first {first : PluginRuntime}
    (exposer : plugins.find? (·.exposes name) = some first) :
    ∃ kept, keptFor plugins first = some kept ∧
      (ofPlugins spec modelName plugins destinations).resolve? name = some (.plugin kept) ∧
      (ofPlugins spec modelName plugins destinations).timesAdvertised name =
        kept.timesExposed name := by
  have owned : (ofPlugins spec modelName plugins destinations).owners.find? name =
      some first.registryId := by
    change (toolOwners plugins).find? name = _
    rw [find?_toolOwners]
    exact congrArg (Option.map _) exposer
  have active : first.isActive = true :=
    PluginRuntime.isActive_of_exposes (List.find?_some exposer)
  have some_kept : (keptFor plugins first).isSome = true := by
    apply List.find?_isSome.mpr
    exact ⟨first, List.mem_reverse.mpr (List.mem_of_find?_eq_some exposer), by simp [active]⟩
  rcases Option.isSome_iff_exists.mp some_kept with ⟨kept, found⟩
  have held : (activePlugins plugins).find? first.registryId = some kept :=
    (find?_activePlugins plugins _).trans found
  refine ⟨kept, found, ?_, timesAdvertised_eq spec modelName destinations owned held⟩
  rw [resolve?_of_owner spec modelName plugins destinations owned, held]
  rfl

end AssistantRuntime

/-! ## The runtimes of links -/

namespace Compiler

variable {others : World → World → Prop} {settings : Settings} {world final : World}
  {deeds : List (Deed World)} {scope full : Scope Resource}

/-- Runtimes are made for links, one after the other, whatever the servers do and whatever else goes
on: one for each link to a plugin that is known when it is the link's turn. -/
inductive Linked (others : World → World → Prop) (timeout : HandshakeTimeout) :
    World → List PluginLink → List (Deed World) → List PluginRuntime → World → Prop where
  | nil {world : World} : Linked others timeout world [] [] [] world
  | unknown {world final : World} {link : PluginLink} {links : List PluginLink}
      {deeds : List (Deed World)} {plugins : List PluginRuntime}
      (absent : world.registry.find? link.registryId = none)
      (rest : Linked others timeout world links deeds plugins final) :
      Linked others timeout world (link :: links) (Activity.glance world :: deeds) plugins final
  | made {world between final : World} {link : PluginLink} {links : List PluginLink}
      {manifest : PluginManifest} {front back : List (Deed World)} {plugin : PluginRuntime}
      {plugins : List PluginRuntime}
      (known : world.registry.find? link.registryId = some manifest)
      (making : Runs others (PluginRuntime.ofLink timeout manifest link) world front plugin between)
      (rest : Linked others timeout between links back plugins final) :
      Linked others timeout world (link :: links) (Activity.glance world :: (front ++ back))
        (plugin :: plugins) final

theorem makePlugins_linked {links : List PluginLink} {plugins : List PluginRuntime}
    (runs : Runs others (makePlugins settings links scope) world deeds (plugins, full) final) :
    Linked others settings.handshakeTimeout world links deeds plugins final := by
  induction links generalizing scope world deeds plugins full with
  | nil =>
      rcases runs.of_done with ⟨rfl, same, rfl⟩
      cases same
      exact .nil
  | cons link rest induction =>
      unfold makePlugins at runs
      rcases runs.of_bind with ⟨_, _, found, here, rfl, asked, onward⟩
      rcases asked.of_inspect with ⟨rfl, rfl, rfl⟩
      cases known : here.registry.find? link.registryId with
      | none =>
          rw [known] at onward
          exact .unknown known (induction onward)
      | some manifest =>
          rw [known] at onward
          rcases onward.of_bind with ⟨_, _, plugin, _, rfl, making, onward⟩
          rcases onward.of_bind with ⟨_, _, ⟨later, last⟩, _, rfl, remaining, done⟩
          rcases done.of_done with ⟨rfl, same, rfl⟩
          cases same
          rw [List.append_nil, List.singleton_append]
          exact .made known making (induction remaining)

open AssistantRuntime (keptFor)

/-- Whatever the links of an assistant, a tool that the runtime of one of them exposes is advertised
once and leads to the first runtime that exposes its name exactly if that runtime is the one that is
kept for its plugin, and exposes the name once. Otherwise the name leads to the runtime that is kept,
and is advertised as often as that one exposes it. -/
theorem linked_tool_stays_iff {destinations : Catalog NameSet} {name : String}
    {spec : AssistantSpec} {assistant : AssistantRuntime}
    (runs : Runs others (makeAssistant settings destinations name spec scope) world deeds
      (assistant, full) final) :
    ∃ plugins front between,
      Linked others settings.handshakeTimeout world (spec.plugins.filter (·.enabled)) front plugins
          between ∧
      ∀ plugin ∈ plugins, plugin.isActive = true → ∀ tool ∈ plugin.enabledTools,
        ∃ first kept, plugins.find? (·.exposes tool.exposedName) = some first ∧
          keptFor plugins first = some kept ∧
          assistant.resolve? tool.exposedName = some (.plugin kept) ∧
          assistant.timesAdvertised tool.exposedName = kept.timesExposed tool.exposedName ∧
          (assistant.timesAdvertised tool.exposedName = 1 ∧
              assistant.resolve? tool.exposedName = some (.plugin first) ↔
            kept = first ∧ first.timesExposed tool.exposedName = 1) := by
  rcases runs.of_bind with ⟨_, _, ⟨plugins, scope⟩, _, rfl, making, naming⟩
  rcases naming.of_bind with ⟨_, _, modelName, _, rfl, -, made⟩
  rcases made.of_done with ⟨-, same, -⟩
  cases same
  refine ⟨plugins, _, _, makePlugins_linked making, ?_⟩
  intro plugin member active tool enabled
  have exposed := PluginRuntime.exposes_of_mem active enabled
  have some_first : (plugins.find? (·.exposes tool.exposedName)).isSome = true :=
    List.find?_isSome.mpr ⟨plugin, member, exposed⟩
  obtain ⟨first, exposer⟩ := Option.isSome_iff_exists.mp some_first
  obtain ⟨kept, found, answers, advertised⟩ := AssistantRuntime.answers_of_first spec modelName
    ((destinations.find? name).getD []) exposer
  refine ⟨first, kept, exposer, found, answers, advertised, ?_⟩
  constructor
  · rintro ⟨once, leads⟩
    rw [answers, Option.some.injEq, ToolTarget.plugin.injEq] at leads
    subst leads
    exact ⟨rfl, advertised.symm.trans once⟩
  · rintro ⟨rfl, once⟩
    exact ⟨advertised.trans once, answers⟩

/-! ## One plugin, linked twice -/

/-- A world with a plugin that can query a database. -/
def databaseWorld : World where
  registry := {
    directories := ["plugins"]
    manifests := [("sql",
      { id := "sql"
        displayName := "SQL"
        execution := { mode := .remote, url := some "http://tools" } })] }
  artifacts := .ofCapacity 1
  model := .ofList "script" [] { result := .ok (.assistant "(done)") }
  reach := fun _ => .ok {
    tools := .ok [{ name := "query" }]
    answer := fun _ _ _ => .error (.internal "no answer") }

/-- An assistant with a link for each of its databases. -/
def analyst (databases : List String) : AssistantSpec where
  id := "ann"
  name := "Ann"
  plugins := databases.map fun database =>
    { registryId := "sql", tools := [{ name := "query", rename := some ("query_" ++ database) }] }

def assembly (databases : List String) : Activity World (AssistantRuntime × Scope Resource) :=
  makeAssistant { pluginDirectories := [] } [] "Ann" (analyst databases) { owner := "desk" }

theorem linked_tool_stays_iff_database :
    ∃ deeds assistant scope final,
      Runs Eq (assembly ["orders"]) databaseWorld deeds (assistant, scope) final ∧
      assistant.toolDefinitions.map (·.name) = ["query_orders"] ∧
      ∃ plugins front between,
        Linked Eq 10000 databaseWorld (analyst ["orders"]).plugins front plugins between ∧
        ∀ plugin ∈ plugins, plugin.isActive = true → ∀ tool ∈ plugin.enabledTools,
          ∃ kept, assistant.resolve? tool.exposedName = some (.plugin kept) := by
  have advertised : ((assembly ["orders"]).complete 0 databaseWorld).map
      (fun (made, _, _) => made.1.toolDefinitions.map (·.name)) = some ["query_orders"] := by
    decide +kernel
  obtain ⟨⟨⟨assistant, scope⟩, time, final⟩, completed, names⟩ := Option.map_eq_some_iff.mp advertised
  rcases Runs.of_complete (fun _ => rfl) completed with ⟨deeds, runs⟩
  rcases linked_tool_stays_iff runs with ⟨plugins, front, between, linked, tools⟩
  refine ⟨deeds, assistant, scope, final, runs, names, plugins, front, between, linked, ?_⟩
  intro plugin member active tool enabled
  rcases tools plugin member active tool enabled with ⟨-, kept, -, -, answers, -⟩
  exact ⟨kept, answers⟩

/-- With two links the runtime of the first one is active and exposes its tool, but only the tool of
the second one is advertised. The name of the first one leads to a runtime that has no such tool. -/
theorem relinked_tools_lost :
    ∃ deeds assistant scope final,
      Runs Eq (assembly ["orders", "users"]) databaseWorld deeds (assistant, scope) final ∧
      final.plugins.map (fun plugin => (plugin.isActive, plugin.enabledTools.map (·.exposedName))) =
        [(true, ["query_orders"]), (true, ["query_users"])] ∧
      assistant.toolDefinitions.map (·.name) = ["query_users"] ∧
      assistant.owners.find? "query_orders" = some "sql" ∧
      (assistant.plugins.find? "sql").map (·.exposes "query_orders") = some false := by
  have evaluated : ((assembly ["orders", "users"]).complete 0 databaseWorld).map
      (fun (made, _, final) =>
        (final.plugins.map fun plugin =>
            (plugin.isActive, plugin.enabledTools.map (·.exposedName)),
          made.1.toolDefinitions.map (·.name), made.1.owners.find? "query_orders",
          (made.1.plugins.find? "sql").map (·.exposes "query_orders"))) =
        some ([(true, ["query_orders"]), (true, ["query_users"])], ["query_users"], some "sql",
          some false) := by
    decide +kernel
  obtain ⟨⟨⟨assistant, scope⟩, time, final⟩, completed, same⟩ := Option.map_eq_some_iff.mp evaluated
  simp only [Prod.mk.injEq] at same
  rcases Runs.of_complete (fun _ => rfl) completed with ⟨deeds, runs⟩
  exact ⟨deeds, assistant, scope, final, runs, same⟩

end Compiler

end AssistantEngine
