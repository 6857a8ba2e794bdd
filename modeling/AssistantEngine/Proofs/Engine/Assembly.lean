import AssistantEngine.Proofs.Engine.Routing
import AssistantEngine.Proofs.Graph.Lifting

/-!
Assemblies: what the nodes of a workflow come to once they have been looked up and their assistants
made. Building a graph is an assembly between the opening of a store and the choice of the assistant
that begins. The destinations of an assembled assistant are just what the edges say, lifted from nodes
to the assistants that these were resolved to.
-/

namespace AssistantEngine

open Activity (Deed Runs glance)

variable {others : World → World → Prop} {world final : World} {deeds : List (Deed World)}

/-- The assistants of a workflow by name, and the names of the assistants by node. -/
structure Assembly where
  assistants : Catalog AssistantRuntime
  names : Catalog String

/-- The assistant that a node runs. -/
def Assembly.assistantFor? (assembly : Assembly) (node : String) : Option AssistantRuntime :=
  (assembly.names.find? node).bind assembly.assistants.find?

namespace Compiler

open NodeResolution (collect Stands Way)

/-- Makes the assistants of a workflow. -/
def assemble (settings : Settings) (spec : WorkflowSpec) (scope : Scope Resource) :
    Activity World (Except Fault Assembly × Scope Resource) := do
  match spec.startNode with
  | .error fault => return (.error fault, scope)
  | .ok start =>
    match ← resolveNodes start.id spec.nodes {} with
    | .error fault => return (.error fault, scope)
    | .ok resolution =>
      let destinations := resolution.destinations spec settings.allowSelfHandoff
      let (assistants, scope) ← makeAssistants settings destinations resolution.specs scope
      return (.ok ⟨assistants, resolution.names⟩, scope)

/-- To build a graph is to assemble a valid workflow once its store is open. -/
theorem buildWorkflow_eq (settings : Settings) (spec : WorkflowSpec) (scope : Scope Resource) :
    buildWorkflow settings spec scope =
      match spec.validate, spec.startNode with
      | .error fault, _ => return (.error fault, scope)
      | .ok _, .error fault => return (.error fault, scope)
      | .ok _, .ok start => do
        match ← CheckpointStore.openFor spec.id with
        | .error fault => return (.error fault, scope)
        | .ok store =>
          match ← assemble settings spec (scope.push (.checkpoints store)) with
          | (.error fault, scope) => return (.error fault, scope)
          | (.ok assembly, scope) =>
            match assembly.names.find? start.id with
            | none => return (.error (.build s!"start node '{start.id}' has no assistant"), scope)
            | some name =>
              return (.ok {
                workflowId := spec.id
                checkpoints := store
                topology := .multiAgent assembly.assistants name
                  (max settings.maxAgentSteps 1) }, scope) := by
  unfold buildWorkflow assemble
  cases spec.validate with
  | error fault => rfl
  | ok valid =>
      cases spec.startNode with
      | error fault => rfl
      | ok start =>
          apply congrArg (Activity.bind (CheckpointStore.openFor spec.id))
          funext opened
          cases opened with
          | error fault => rfl
          | ok store =>
              refine Eq.trans ?_ (Activity.bind_assoc _ _ _).symm
              apply congrArg (Activity.bind (resolveNodes start.id spec.nodes {}))
              funext resolved
              cases resolved with
              | error fault => rfl
              | ok resolution =>
                  refine Eq.trans ?_ (Activity.bind_assoc _ _ _).symm
                  apply congrArg (Activity.bind (makeAssistants settings
                    (resolution.destinations spec settings.allowSelfHandoff) resolution.specs
                    (scope.push (.checkpoints store))))
                  rfl

/-- How an assembly that succeeds has gone: every node was looked up, in these worlds, and then the
assistants were made. -/
structure Assembled (others : World → World → Prop) (settings : Settings) (spec : WorkflowSpec)
    (deeds : List (Deed World)) (assembly : Assembly) (asked : List World) : Prop where
  all : asked.length = spec.nodes.length
  names : assembly.names = (collect (findings spec.nodes asked)).names
  made : ∃ back scope full between final, deeds = asked.map glance ++ back ∧
    Runs others (makeAssistants settings
      ((collect (findings spec.nodes asked)).destinations spec settings.allowSelfHandoff)
      (collect (findings spec.nodes asked)).specs scope) between back (assembly.assistants, full)
      final

theorem assemble_runs {settings : Settings} {spec : WorkflowSpec} {scope full : Scope Resource}
    {assembly : Assembly}
    (runs : Runs others (assemble settings spec scope) world deeds (.ok assembly, full) final) :
    ∃ asked, Assembled others settings spec deeds assembly asked := by
  unfold assemble at runs
  split at runs
  · rcases runs.of_done with ⟨-, same, -⟩
    cases same
  · rcases runs.of_bind with ⟨_, _, resolved, between, rfl, looking, onward⟩
    rcases resolveNodes_runs looking with ⟨asked, rfl, resolving⟩
    cases resolving with
    | stopped looked settled unsettled =>
        rcases onward.of_done with ⟨-, same, -⟩
        cases same
    | resolved all settled =>
        rcases onward.of_bind with ⟨_, _, ⟨assistants, last⟩, _, rfl, making, done⟩
        rcases done.of_done with ⟨rfl, same, rfl⟩
        cases same
        rw [List.append_nil]
        exact ⟨asked, all, rfl, _, scope, full, between, final, rfl, making⟩

/-- A glance is at the world that it was taken in. -/
theorem map_before_glance (asked : List World) : (asked.map glance).map (·.before) = asked := by
  rw [List.map_map]
  exact List.map_id asked

theorem Assembled.asked_sublist {settings : Settings} {spec : WorkflowSpec} {assembly : Assembly}
    {asked : List World} (assembled : Assembled others settings spec deeds assembly asked) :
    asked.Sublist (deeds.map (·.before)) := by
  rcases assembled.made with ⟨back, _, _, _, _, rfl, _⟩
  rw [List.map_append, map_before_glance]
  exact List.sublist_append_left _ _

/-! ## Destinations -/

/-- Whenever the assistants of a valid workflow have been assembled, the destinations of each one
ascend, and they are the assistants that an edge leads to from one of its nodes; it is its own
destination only on demand. -/
theorem destinations_lifted {settings : Settings} {spec : WorkflowSpec}
    {scope full : Scope Resource} {assembly : Assembly} (valid : spec.validate = .ok ())
    (runs : Runs others (assemble settings spec scope) world deeds (.ok assembly, full) final) :
    ∃ asked, asked.Sublist (deeds.map (·.before)) ∧ asked.length = spec.nodes.length ∧
      ∀ name assistant, assembly.assistants.find? name = some assistant →
        assistant.name = name ∧ assistant.destinations.Pairwise (· < ·) ∧
          ∀ other, other ∈ assistant.destinations ↔
            Way spec (findings spec.nodes asked) name other ∧
              (other = name → settings.allowSelfHandoff = true) := by
  rcases assemble_runs runs with ⟨asked, assembled⟩
  refine ⟨asked, assembled.asked_sublist, assembled.all, fun name assistant found => ?_⟩
  rcases assembled.made with ⟨_, _, _, _, _, -, making⟩
  rcases (makeAssistants_runs making name).2 assistant found with ⟨given, _, _, known, rfl⟩
  have nodup : ((findings spec.nodes asked).map (·.1.id)).Nodup :=
    findings_ids assembled.all ▸ WorkflowSpec.nodup_of_validate valid
  refine ⟨(NodeResolution.stands_of_specs known).1, ?_, fun other => ?_⟩
  · exact (NodeResolution.destinations_tidy spec).lists name
  · exact NodeResolution.mem_destinations nodup

/-- A workflow with edges of both kinds. Two of its nodes have assistants of one name, another has
none. -/
def office : WorkflowSpec :=
  { id := "office"
    nodes := [⟨"gate", "eve", none, false⟩, ⟨"door", "ann", none, true⟩,
      ⟨"desk", "bob", none, false⟩, ⟨"yard", "cid", none, false⟩]
    edges := [⟨"door", "desk", .single⟩, ⟨"desk", "gate", .bidirectional⟩,
      ⟨"door", "gate", .single⟩, ⟨"desk", "yard", .single⟩] }

/-- A world with the assistants of the office, two of whom go by the name of Ann. -/
def officeWorld : World :=
  { source := .service {
      workflow := fun _ => .ok (some office)
      assistant := fun id =>
        .ok (if id = "cid" then none else some { id, name := if id = "bob" then "Bob" else "Ann" }) }
    registry := { directories := [] }
    artifacts := .ofCapacity 1
    model := .ofList "script" [] { result := .ok (.assistant "(done)") }
    reach := fun _ => .error (.internal "no servers") }

/-- Assembles the office. -/
def assembledOffice : Option (Assembly × Time × World) :=
  ((assemble { pluginDirectories := [] } office { owner := "office" }).complete 0 officeWorld).bind
    fun result => result.1.1.toOption.map (·, result.2)

theorem destinations_lifted_office :
    office.validate = .ok () ∧
      ∃ deeds assembly full final asked,
        Runs Eq (assemble { pluginDirectories := [] } office { owner := "office" }) officeWorld deeds
          (.ok assembly, full) final ∧
        (∀ name assistant, assembly.assistants.find? name = some assistant →
          ∀ other, other ∈ assistant.destinations ↔
            Way office (findings office.nodes asked) name other ∧ other ≠ name) ∧
        (assembly.assistants.map fun entry => (entry.1, entry.2.destinations)) =
          [("Ann", ["Bob"]), ("Bob", ["Ann"])] := by
  have lists : assembledOffice.map (fun result =>
      result.1.assistants.map fun entry => (entry.1, entry.2.destinations)) =
      some [("Ann", ["Bob"]), ("Bob", ["Ann"])] := by decide +kernel
  rcases Option.map_eq_some_iff.mp lists with ⟨⟨assembly, later, final⟩, assembled, listed⟩
  rcases Option.bind_eq_some_iff.mp assembled with ⟨⟨⟨result, full⟩, _⟩, completed, succeeded⟩
  cases result with
  | error fault => cases succeeded
  | ok made =>
      cases succeeded
      have running : ∃ deeds, Runs Eq (assemble { pluginDirectories := [] } office
          { owner := "office" }) officeWorld deeds (.ok assembly, full) final :=
        Runs.of_complete (fun _ => rfl) completed
      rcases running with ⟨deeds, runs⟩
      rcases destinations_lifted rfl runs with ⟨asked, -, -, lifted⟩
      refine ⟨rfl, deeds, assembly, full, final, asked, runs, fun name assistant found other => ?_,
        listed⟩
      rw [(lifted name assistant found).2.2 other]
      simp

end Compiler

end AssistantEngine
