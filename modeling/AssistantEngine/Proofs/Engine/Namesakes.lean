import AssistantEngine.Proofs.Engine.Assembly

/-!
Which assistant a node runs. Nodes refer to assistants by id, but runtimes are known by name: of
several assistants with one name only the first that was looked up is made, and every node whose
assistant has the name runs that one.
-/

namespace AssistantEngine

open Activity (Deed Runs glance)

variable {others : World → World → Prop} {world final : World} {deeds more : List (Deed World)}

/-! ## The first of a name -/

namespace NodeResolution

variable {nodes : List LookedUp} {id name : String}

/-- The first assistant with a name that was found. -/
def firstNamed (nodes : List LookedUp) (name : String) : Option AssistantSpec :=
  (nodes.filterMap (·.2)).find? (·.name = name)

/-- What the last node with an id was resolved to, of those that were resolved. -/
def lastOf (nodes : List LookedUp) (id : String) : Option AssistantSpec :=
  (nodes.filterMap fun node => if node.1.id = id then node.2 else none).getLast?

theorem specs_find?_eq (nodes : List LookedUp) (name : String) :
    (collect nodes).specs.find? name = firstNamed nodes name := by
  unfold firstNamed
  induction nodes using List.reverseRecOn with
  | nil => rfl
  | append_singleton nodes last induction =>
      rw [collect_concat, List.filterMap_append, List.find?_append, ← induction]
      rcases last with ⟨node, _ | spec⟩
      · exact Option.or_none.symm
      · simp only [addFound, add, Catalog.find?_insertNew]
        by_cases same : spec.name = name <;> simp [same]

theorem names_find?_eq (nodes : List LookedUp) (id : String) :
    (collect nodes).names.find? id = (lastOf nodes id).map (·.name) := by
  unfold lastOf
  induction nodes using List.reverseRecOn with
  | nil => rfl
  | append_singleton nodes last induction =>
      rw [collect_concat, List.filterMap_append]
      rcases last with ⟨node, _ | spec⟩
      · simpa [addFound] using induction
      · by_cases same : node.id = id
        · simp [addFound, add, Catalog.find?_insert, same]
        · simpa [addFound, add, Catalog.find?_insert, same] using induction

/-- A node that was resolved has an assistant, and so has its name. -/
theorem lastOf_of_mem {node : WorkflowNode} {given : AssistantSpec}
    (member : (node, some given) ∈ nodes) :
    ∃ last kept, lastOf nodes node.id = some last ∧ firstNamed nodes last.name = some kept := by
  have present : given ∈ nodes.filterMap fun other =>
      if other.1.id = node.id then other.2 else none :=
    List.mem_filterMap.mpr ⟨_, member, if_pos rfl⟩
  obtain ⟨last, final⟩ := Option.isSome_iff_exists.mp
    (List.getLast?_isSome.mpr (List.ne_nil_of_mem present))
  rcases List.mem_filterMap.mp (List.mem_of_getLast? final) with ⟨other, among, resolved⟩
  split at resolved
  · have found : last ∈ nodes.filterMap (·.2) := List.mem_filterMap.mpr ⟨other, among, resolved⟩
    have named : (firstNamed nodes last.name).isSome = true :=
      List.find?_isSome.mpr ⟨last, found, decide_eq_true rfl⟩
    obtain ⟨kept, first⟩ := Option.isSome_iff_exists.mp named
    exact ⟨last, kept, final, first⟩
  · cases resolved

/-- Where no two nodes share an id, a node has the assistant that it was resolved to. -/
theorem lastOf_eq_of_mem {node : WorkflowNode} {given last : AssistantSpec}
    (nodup : (nodes.map (·.1.id)).Nodup) (member : (node, some given) ∈ nodes)
    (final : lastOf nodes node.id = some last) : last = given := by
  rcases List.mem_filterMap.mp (List.mem_of_getLast? final) with ⟨other, among, resolved⟩
  split at resolved
  · rename_i same
    obtain rfl := List.inj_on_of_nodup_map nodup among member same
    exact Option.some.inj resolved.symm
  · cases resolved

end NodeResolution

/-! ## How an assistant is built -/

namespace Compiler

open NodeResolution (collect firstNamed lastOf)

/-- An assistant was built from a specification: it has its id, name and instructions, and its plugins
are what became of the specification's enabled links, in some part of the deeds. -/
structure BuiltFrom (others : World → World → Prop) (settings : Settings)
    (deeds : List (Deed World)) (spec : AssistantSpec) (assistant : AssistantRuntime) : Prop where
  id : assistant.id = spec.id
  name : assistant.name = spec.name
  instructions : assistant.instructions = spec.instructions
  plugins : ∃ part scope full before after runtimes, part <:+: deeds ∧
    Runs others (makePlugins settings (spec.plugins.filter (·.enabled)) scope) before part
      (runtimes, full) after ∧
    assistant.plugins = AssistantRuntime.activePlugins runtimes ∧
    assistant.unavailable = AssistantRuntime.failures runtimes

theorem BuiltFrom.mono {settings : Settings} {spec : AssistantSpec} {assistant : AssistantRuntime}
    (built : BuiltFrom others settings deeds spec assistant) (inside : deeds <:+: more) :
    BuiltFrom others settings more spec assistant := by
  rcases built with ⟨id, name, instructions, part, scope, full, before, after, runtimes, within, made⟩
  exact ⟨id, name, instructions, part, scope, full, before, after, runtimes, within.trans inside,
    made⟩

theorem makeAssistant_built {settings : Settings} {destinations : Catalog NameSet} {name : String}
    {spec : AssistantSpec} {scope full : Scope Resource} {assistant : AssistantRuntime}
    (runs : Runs others (makeAssistant settings destinations name spec scope) world deeds
      (assistant, full) final) : BuiltFrom others settings deeds spec assistant := by
  unfold makeAssistant at runs
  rcases runs.of_bind with ⟨front, back, ⟨plugins, pushed⟩, between, rfl, making, naming⟩
  rcases naming.of_bind with ⟨_, _, modelName, _, rfl, -, made⟩
  rcases made.of_done with ⟨-, same, -⟩
  cases same
  exact ⟨rfl, rfl, rfl, front, scope, full, world, between, plugins,
    (List.prefix_append _ _).isInfix, making, rfl, rfl⟩

/-- Each assistant is built from the specification of its name. -/
theorem makeAssistants_built {settings : Settings} {destinations : Catalog NameSet}
    {specs : Catalog AssistantSpec} {scope full : Scope Resource}
    {assistants : Catalog AssistantRuntime}
    (runs : Runs others (makeAssistants settings destinations specs scope) world deeds
      (assistants, full) final) {name : String} {spec : AssistantSpec}
    (known : specs.find? name = some spec) :
    ∃ assistant, assistants.find? name = some assistant ∧
      BuiltFrom others settings deeds spec assistant := by
  induction specs generalizing world deeds scope assistants with
  | nil => cases known
  | cons entry rest induction =>
      rcases entry with ⟨first, given⟩
      unfold makeAssistants at runs
      rcases runs.of_bind with ⟨front, _, ⟨assistant, middle⟩, _, rfl, making, onward⟩
      rcases onward.of_bind with ⟨back, _, ⟨later, last⟩, _, rfl, remaining, done⟩
      rcases done.of_done with ⟨rfl, same, rfl⟩
      cases same
      unfold Catalog.find? at known ⊢
      split at known
      · rename_i own
        cases known
        refine ⟨assistant, if_pos own, (makeAssistant_built making).mono ?_⟩
        exact (List.prefix_append _ _).isInfix
      · rename_i different
        rcases induction remaining known with ⟨found, listed, built⟩
        refine ⟨found, (if_neg different).trans listed, built.mono ?_⟩
        rw [List.append_nil]
        exact (List.suffix_append _ _).isInfix

/-- Every node that was resolved runs an assistant: the one that was built from the first specification
with the name that it stands for. -/
theorem Assembled.built {settings : Settings} {spec : WorkflowSpec} {assembly : Assembly}
    {asked : List World} (assembled : Assembled others settings spec deeds assembly asked)
    {id : String} {last kept : AssistantSpec}
    (final : lastOf (findings spec.nodes asked) id = some last)
    (first : firstNamed (findings spec.nodes asked) last.name = some kept) :
    ∃ assistant, assembly.assistantFor? id = some assistant ∧
      BuiltFrom others settings deeds kept assistant := by
  rcases assembled.made with ⟨back, _, _, _, _, rfl, making⟩
  have known : (collect (findings spec.nodes asked)).specs.find? last.name = some kept :=
    (NodeResolution.specs_find?_eq _ _).trans first
  rcases makeAssistants_built making known with ⟨assistant, listed, built⟩
  refine ⟨assistant, ?_, built.mono (List.suffix_append _ _).isInfix⟩
  have named : assembly.names.find? id = some last.name := by
    rw [assembled.names, NodeResolution.names_find?_eq, final]
    rfl
  unfold Assembly.assistantFor?
  rw [named]
  exact listed

theorem assemble_runs_first_named {settings : Settings} {spec : WorkflowSpec}
    {scope full : Scope Resource} {assembly : Assembly}
    (runs : Runs others (assemble settings spec scope) world deeds (.ok assembly, full) final) :
    ∃ asked, asked.Sublist (deeds.map (·.before)) ∧ asked.length = spec.nodes.length ∧
      ∀ node given, (node, some given) ∈ findings spec.nodes asked →
        ∃ last kept assistant, lastOf (findings spec.nodes asked) node.id = some last ∧
          (spec.validate = .ok () → last = given) ∧
          firstNamed (findings spec.nodes asked) last.name = some kept ∧
          assembly.assistantFor? node.id = some assistant ∧
          BuiltFrom others settings deeds kept assistant := by
  rcases assemble_runs runs with ⟨asked, assembled⟩
  refine ⟨asked, assembled.asked_sublist, assembled.all, fun node given member => ?_⟩
  rcases NodeResolution.lastOf_of_mem member with ⟨last, kept, ending, first⟩
  rcases assembled.built ending first with ⟨assistant, found, built⟩
  refine ⟨last, kept, assistant, ending, fun valid => ?_, first, found, built⟩
  have nodup := WorkflowSpec.nodup_of_validate valid
  rw [← findings_ids assembled.all] at nodup
  exact NodeResolution.lastOf_eq_of_mem nodup member ending

/-- The assistant that begins in a compiled graph was built from the first specification with the name
of the one that the start node was resolved to. -/
theorem compile_begins_first_named {settings : Settings} {id : String}
    {graph : RuntimeCache.Graph CompiledRuntime Resource}
    (compiled : Runs others (compile settings id) world deeds (.workflow graph) final) :
    ∃ spec start asked given kept assistants assistant,
      (∃ deed ∈ deeds, deed.before.workflow id = .ok (some spec)) ∧ spec.starts = [start] ∧
      asked.Sublist (deeds.map (·.before)) ∧
      (start, some given) ∈ findings spec.nodes asked ∧
      firstNamed (findings spec.nodes asked) given.name = some kept ∧
      graph.runtime.topology = .multiAgent assistants given.name (max settings.maxAgentSteps 1) ∧
      assistants.find? given.name = some assistant ∧
      BuiltFrom others settings deeds kept assistant := by
  cases compile_runs compiled with
  | requested same instead => cases instead
  | refused other meanwhile answered instead => cases instead
  | missing other meanwhile answered instead => cases instead
  | abandoned other meanwhile answered tried releasing instead => cases instead
  | @built here _ spec _ _ front other meanwhile answered attempt =>
      cases attempt with
      | @built start opened back _ _ _ _ asked assistants _ name valid only opening all settled made
          default =>
          rcases start_found all (WorkflowSpec.mem_of_starts only) settled with ⟨given, found⟩
          rcases NodeResolution.lastOf_of_mem found with ⟨last, kept, ending, first⟩
          have nodup := WorkflowSpec.nodup_of_validate valid
          rw [← findings_ids all] at nodup
          obtain rfl := NodeResolution.lastOf_eq_of_mem nodup found ending
          have named : name = last.name := by
            rw [NodeResolution.names_find?_eq, ending] at default
            exact (Option.some.inj default).symm
          subst named
          have known := (NodeResolution.specs_find?_eq _ _).trans first
          rcases makeAssistants_built made known with ⟨assistant, listed, built⟩
          refine ⟨spec, start, asked, last, kept, assistants, assistant,
            ⟨_, List.mem_cons_self, answered⟩, only, ?_, found, first, rfl, listed, built.mono ?_⟩
          · refine List.Sublist.cons _ ?_
            rw [List.map_append, List.map_append, map_before_glance]
            exact (List.sublist_append_left _ _).trans (List.sublist_append_right _ _)
          · have last : back <:+ opened ++ (asked.map glance ++ back) :=
              (List.suffix_append _ _).trans (List.suffix_append _ _)
            exact (last.trans (List.suffix_cons _ _)).isInfix

/-- A node that was resolved runs the assistant that was built from the first specification with its
name, be that its own or not, and so does the assistant that begins in a compiled graph. (Of several
nodes with one id, which a valid workflow has not, the last one says what the name is.) -/
theorem nodes_run_first_named (settings : Settings) :
    (∀ spec scope world deeds assembly full final,
      Runs others (assemble settings spec scope) world deeds (.ok assembly, full) final →
      ∃ asked, asked.Sublist (deeds.map (·.before)) ∧ asked.length = spec.nodes.length ∧
        ∀ node given, (node, some given) ∈ findings spec.nodes asked →
          ∃ last kept assistant, lastOf (findings spec.nodes asked) node.id = some last ∧
            (spec.validate = .ok () → last = given) ∧
            firstNamed (findings spec.nodes asked) last.name = some kept ∧
            assembly.assistantFor? node.id = some assistant ∧
            BuiltFrom others settings deeds kept assistant) ∧
    ∀ id world deeds graph final,
      Runs others (compile settings id) world deeds (.workflow graph) final →
      ∃ spec start asked given kept assistants assistant,
        (∃ deed ∈ deeds, deed.before.workflow id = .ok (some spec)) ∧ spec.starts = [start] ∧
        asked.Sublist (deeds.map (·.before)) ∧
        (start, some given) ∈ findings spec.nodes asked ∧
        firstNamed (findings spec.nodes asked) given.name = some kept ∧
        graph.runtime.topology =
          .multiAgent assistants given.name (max settings.maxAgentSteps 1) ∧
        assistants.find? given.name = some assistant ∧
        BuiltFrom others settings deeds kept assistant :=
  ⟨fun _ _ _ _ _ _ _ runs => assemble_runs_first_named runs,
    fun _ _ _ _ _ compiled => compile_begins_first_named compiled⟩

/-- Compiles the office; answers the graph, with the name of the assistant that begins and its id. -/
def compiledOffice : Option (CompiledRuntime × String × String) :=
  ((compile { pluginDirectories := [] } "office").complete 0 officeWorld).bind fun compiled =>
    match compiled.1 with
    | .workflow graph =>
      graph.runtime.defaultAssistant?.bind fun name =>
        (graph.runtime.assistants?.bind (·.find? name)).map fun assistant =>
          (graph.runtime, name, assistant.id)
    | _ => none

theorem nodes_run_first_named_office :
    ∃ deeds graph final, ∃ spec : WorkflowSpec, ∃ start given kept,
      Runs Eq (compile { pluginDirectories := [] } "office") officeWorld deeds (.workflow graph)
        final ∧
      spec.starts = [start] ∧
      (∃ asked, (start, some given) ∈ findings spec.nodes asked ∧
        firstNamed (findings spec.nodes asked) given.name = some kept) ∧
      given.name = "Ann" ∧ kept.id = "eve" := by
  have begun : compiledOffice.map (·.2) = some ("Ann", "eve") := by decide +kernel
  rcases Option.map_eq_some_iff.mp begun with ⟨⟨runtime, name, id⟩, compiled, same⟩
  rcases Option.bind_eq_some_iff.mp compiled with ⟨⟨outcome, later, final⟩, completed, chosen⟩
  cases outcome with
  | workflow graph =>
      have compiling : ∃ deeds, Runs Eq (compile { pluginDirectories := [] } "office") officeWorld
          deeds (.workflow graph) final := Runs.of_complete (fun _ => rfl) completed
      rcases compiling with ⟨deeds, runs⟩
      rcases (nodes_run_first_named _).2 _ _ _ _ _ runs with
        ⟨spec, start, asked, given, kept, assistants, assistant, -, only, -, found, first, topology,
          listed, built⟩
      simp only [CompiledRuntime.defaultAssistant?, CompiledRuntime.assistants?, topology,
        Option.bind_some, listed, Option.map_some, Option.some.injEq, Prod.mk.injEq] at chosen
      rcases chosen with ⟨rfl, rfl, rfl⟩
      rcases Prod.mk.inj same with ⟨named, own⟩
      exact ⟨deeds, graph, final, spec, start, given, kept, runs, only, ⟨asked, found, first⟩, named,
        built.id.symm.trans own⟩
  | fallback graph reason => cases chosen
  | failed fault => cases chosen
  | panicked => cases chosen

/-- The start node of the office refers to one of the two assistants with a name, and runs the other
one; so does the graph when it begins. -/
theorem namesake_displaced :
    office.validate = .ok () ∧
      office.starts.map (fun start => (start.id, start.assistantId)) = [("door", "ann")] ∧
      officeWorld.assistant "ann" = .ok (some { id := "ann", name := "Ann" }) ∧
      (assembledOffice.bind fun result => (result.1.assistantFor? "door").map (·.id)) =
        some "eve" ∧
      compiledOffice.map (·.2) = some ("Ann", "eve") := by
  refine ⟨rfl, rfl, rfl, ?_, ?_⟩
  · decide +kernel
  · decide +kernel

end Compiler

end AssistantEngine
