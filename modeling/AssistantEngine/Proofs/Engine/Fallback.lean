import AssistantEngine.Proofs.Engine.Compilation
import AssistantEngine.Proofs.Engine.Completion

/-!
When a workflow gives way to the plain conversation. Whatever the source answers, compiling
yields the graph of the workflow if nothing prevents it, and otherwise the plain conversation,
with the first obstacle as the reason; only a database that cannot be used is a fault. No tool
server hears of an attempt that fails, and what it had opened is released.
-/

namespace AssistantEngine

open Activity (Deed Runs glance)

/-- Whether a resource has been released. -/
def Resource.IsReleased (world : World) : Resource → Prop
  | checkpoints store => world.isStoreClosed store = true
  | plugin runtime => world.isClosed runtime = true

namespace Compiler

/-! ## What the source's answers come to -/

/-- Nothing prevents the graph of a workflow. The worlds are those in which the source is asked:
for the workflow, and then for the assistants of its nodes, one after the other. -/
def Buildable (id : String) (asked : List World) : Prop :=
  id ≠ WorkflowSpec.fallbackId ∧ ∃ first later spec start, asked = first :: later ∧
    first.workflow id = .ok (some spec) ∧ spec.validate = .ok () ∧ spec.starts = [start] ∧
    later.length = spec.nodes.length ∧ ∀ look ∈ lookUps spec.nodes later, Settled start.id look

/-- The first thing that prevents the graph of a workflow, as a text. -/
inductive Obstacle (id : String) : List World → String → Prop where
  | requested (same : id = WorkflowSpec.fallbackId) : Obstacle id [] requestedText
  | source {first : World} {fault : Fault} (other : id ≠ WorkflowSpec.fallbackId)
      (answered : first.workflow id = .error fault) : Obstacle id [first] fault.message
  | missing {first : World} (other : id ≠ WorkflowSpec.fallbackId)
      (answered : first.workflow id = .ok none) : Obstacle id [first] (notFoundText id)
  | invalid {first : World} {spec : WorkflowSpec} {fault : Fault}
      (other : id ≠ WorkflowSpec.fallbackId) (answered : first.workflow id = .ok (some spec))
      (invalid : spec.validate = .error fault) : Obstacle id [first] fault.message
  | unclear {first : World} {spec : WorkflowSpec} {fault : Fault}
      (other : id ≠ WorkflowSpec.fallbackId) (answered : first.workflow id = .ok (some spec))
      (valid : spec.validate = .ok ()) (unclear : spec.startNode = .error fault) :
      Obstacle id [first] fault.message
  | unsettled {first : World} {later : List World} {spec : WorkflowSpec} {start : WorkflowNode}
      {fault : Fault} {before : List (WorkflowNode × Except Fault (Option AssistantSpec))}
      {last : WorkflowNode × Except Fault (Option AssistantSpec)}
      (other : id ≠ WorkflowSpec.fallbackId) (answered : first.workflow id = .ok (some spec))
      (valid : spec.validate = .ok ()) (only : spec.starts = [start])
      (looked : lookUps spec.nodes later = before ++ [last])
      (settled : ∀ look ∈ before, Settled start.id look)
      (unsettled : Unsettled start.id last fault) : Obstacle id (first :: later) fault.message

theorem Unsettled.not_settled {start : String} {fault : Fault}
    {look : WorkflowNode × Except Fault (Option AssistantSpec)}
    (unsettled : Unsettled start look fault) : ¬ Settled start look := by
  rintro ⟨found, answered, present⟩
  cases unsettled with
  | failed node fault => cases answered
  | absent node own =>
      cases answered
      cases present own

theorem Obstacle.not_buildable {id : String} {asked : List World} {text : String}
    (obstacle : Obstacle id asked text) : ¬ Buildable id asked := by
  rintro ⟨different, first, later, spec, start, rfl, found, valid, only, all, settled⟩
  cases obstacle with
  | source other answered => cases found.symm.trans answered
  | missing other answered => cases found.symm.trans answered
  | invalid other answered invalid =>
      cases found.symm.trans answered
      cases valid.symm.trans invalid
  | unclear other answered valid unclear =>
      cases found.symm.trans answered
      cases (WorkflowSpec.startNode_ok.mpr only).symm.trans unclear
  | unsettled other answered valid single looked before unsettled =>
      cases found.symm.trans answered
      cases only.symm.trans single
      refine unsettled.not_settled (settled _ ?_)
      rw [looked]
      exact List.mem_append_right _ (List.mem_singleton.mpr rfl)

/-! ## What a compilation comes to -/

/-- What is left of an attempt when the plain conversation takes its place: either there was
none, or it has failed and then all that it had put into its scope has been released. -/
inductive Abandoned (others : World → World → Prop) (settings : Settings) (id : String) :
    List (Deed World) → Prop where
  | unattempted {deeds : List (Deed World)} (idle : ∀ deed ∈ deeds, deed.after = deed.before) :
      Abandoned others settings id deeds
  | released {first between : World} {spec : WorkflowSpec} {fault : Fault}
      {scope : Scope Resource} {attempt releases : List (Deed World)}
      (found : first.workflow id = .ok (some spec))
      (attempted : Runs others (buildWorkflow settings spec { owner := id }) first attempt
        (.error fault, scope) between)
      (released : ∀ resource ∈ scope.resources, ∃ deed ∈ releases, resource.IsReleased deed.after) :
      Abandoned others settings id (glance first :: (attempt ++ releases))

/-- The plain conversation, with one store in its scope, which was opened for it. -/
inductive Plain (id reason : String) :
    List (Deed World) → RuntimeCache.Graph CompiledRuntime Resource → Prop where
  | opened (here : World) :
      Plain id reason [glance here, ⟨here, here.withStore⟩]
        { runtime := {
            workflowId := id
            checkpoints := ⟨here.storeCount, id⟩
            topology := .fallback reason }
          scope := { owner := id, resources := [.checkpoints ⟨here.storeCount, id⟩] } }

/-- What compiling a workflow comes to, when the source was asked in these worlds and the
database has stayed the same. -/
structure Verdict (others : World → World → Prop) (settings : Settings) (id : String)
    (database : Database) (asked : List World) (deeds : List (Deed World))
    (outcome : BuildOutcome) : Prop where
  fails : ∀ fault, outcome = .failed fault ↔ database.probe = .error fault
  returns : outcome ≠ .panicked
  builds : database.probe = .ok () → ((∃ graph, outcome = .workflow graph) ↔ Buildable id asked)
  fallsBack : ∀ graph reason, outcome = .fallback graph reason →
    Obstacle id asked reason ∧
      (∀ deed ∈ deeds, deed.after.exchanges = deed.before.exchanges) ∧
      ∃ front back, deeds = front ++ back ∧ Abandoned others settings id front ∧
        Plain id reason back graph

variable {others : World → World → Prop} {settings : Settings} {id reason : String}
  {database : Database} {asked : List World} {world final : World}
  {deeds front back : List (Deed World)} {outcome : BuildOutcome}

/-- A deed that changes neither the database nor what passes between engine and servers. -/
def Harmless (deed : Deed World) : Prop :=
  deed.after.database = deed.before.database ∧ deed.after.exchanges = deed.before.exchanges

theorem harmless_glance (asked : List World) : ∀ deed ∈ asked.map glance, Harmless deed := by
  intro deed member
  rcases List.mem_map.mp member with ⟨here, _, rfl⟩
  exact ⟨rfl, rfl⟩

theorem harmless_opening {scope : String} {result : Except Fault CheckpointStore}
    (opening : CheckpointStore.Opening others scope world deeds result final) :
    ∀ deed ∈ deeds, Harmless deed := by
  cases opening with
  | refused meanwhile refused =>
      intro deed member
      rcases List.mem_pair.mp member with rfl | rfl <;> exact ⟨rfl, rfl⟩
  | opened meanwhile usable =>
      intro deed member
      rcases List.mem_pair.mp member with rfl | rfl <;> exact ⟨rfl, rfl⟩

theorem harmless_append (first : ∀ deed ∈ front, Harmless deed)
    (second : ∀ deed ∈ back, Harmless deed) : ∀ deed ∈ front ++ back, Harmless deed := by
  intro deed member
  rcases List.mem_append.mp member with earlier | later
  · exact first deed earlier
  · exact second deed later

/-- An attempt that fails has done no harm and has nothing in its scope but stores. -/
theorem Attempt.failed {spec : WorkflowSpec} {fault : Fault} {scope : Scope Resource}
    (attempt : Attempt others settings spec { owner := id } world deeds (.error fault, scope)
      final) :
    (∀ deed ∈ deeds, Harmless deed) ∧
      ∃ stores : List CheckpointStore,
        scope = { owner := id, resources := stores.map .checkpoints } := by
  cases attempt with
  | invalid invalid => exact ⟨fun deed member => absurd member List.not_mem_nil, [], rfl⟩
  | unclear valid unclear => exact ⟨fun deed member => absurd member List.not_mem_nil, [], rfl⟩
  | unopened valid only opening => exact ⟨harmless_opening opening, [], rfl⟩
  | @unresolved _ _ _ store _ _ _ valid only opening resolving =>
      exact ⟨harmless_append (harmless_opening opening) (harmless_glance _), [store], rfl⟩

/-- Why an attempt has failed, if the database was not the reason. -/
theorem Attempt.obstacle {spec : WorkflowSpec} {fault : Fault} {scope : Scope Resource}
    (attempt : Attempt others settings spec { owner := id } world deeds (.error fault, scope) final)
    (other : id ≠ WorkflowSpec.fallbackId) (answered : world.workflow id = .ok (some spec))
    (usable : ∀ later, others world later → later.database.probe = .ok ()) :
    ∃ asked, asked.Sublist (deeds.map (·.before)) ∧ Obstacle id (world :: asked) fault.message := by
  cases attempt with
  | invalid invalid => exact ⟨[], List.nil_sublist _, .invalid other answered invalid⟩
  | unclear valid unclear => exact ⟨[], List.nil_sublist _, .unclear other answered valid unclear⟩
  | unopened valid only opening =>
      cases opening with
      | refused meanwhile refused => cases (usable _ meanwhile).symm.trans refused
  | @unresolved _ _ front _ _ _ asked valid only opening resolving =>
      cases resolving with
      | stopped looked settled unsettled =>
          refine ⟨asked, ?_, .unsettled other answered valid only looked settled unsettled⟩
          have same : (asked.map glance).map (·.before) = asked := by
            rw [List.map_map]
            exact List.map_id asked
          rw [List.map_append, same]
          exact List.sublist_append_right _ _

/-- Releasing stores one after the other. -/
theorem releaseAll_runs (stores : List CheckpointStore) {result : Unit}
    (runs : Runs others (Resource.releaseAll (stores.map .checkpoints)) world deeds result final) :
    (∀ deed ∈ deeds, Harmless deed) ∧ ∀ resource ∈ stores.map Resource.checkpoints,
      ∃ deed ∈ deeds, resource.IsReleased deed.after := by
  induction stores generalizing world deeds with
  | nil =>
      rcases runs.of_done with ⟨rfl, -, -⟩
      exact ⟨fun deed member => absurd member List.not_mem_nil,
        fun resource member => absurd member List.not_mem_nil⟩
  | cons store rest induction =>
      rcases runs.of_bind with ⟨front, back, _, between, rfl, first, second⟩
      rcases CheckpointStore.release_runs first with ⟨rfl, closed, exchanges, database⟩
      rcases induction second with ⟨harmless, released⟩
      refine ⟨harmless_append (fun deed member => ?_) harmless, fun resource member => ?_⟩
      · rcases List.mem_pair.mp member with rfl | rfl
        · exact ⟨rfl, rfl⟩
        · exact ⟨database, exchanges⟩
      · rcases List.mem_cons.mp member with same | later
        · exact ⟨⟨world, between⟩, by simp, same ▸ closed⟩
        · rcases released resource later with ⟨deed, among, done⟩
          exact ⟨deed, List.mem_append_right _ among, done⟩

/-- Whatever came before, if it has done no harm, the plain conversation is opened unless the
database is the obstacle. -/
theorem FallingBack.verdict (quiet : ∀ before after, others before after →
      after.database = before.database)
    (instead : FallingBack others id reason world back outcome final)
    (harmless : ∀ deed ∈ front, Harmless deed)
    (abandoned : Abandoned others settings id front)
    (obstacle : world.database.probe = .ok () → Obstacle id asked reason) :
    Verdict others settings id world.database asked (front ++ back) outcome := by
  cases instead with
  | refused meanwhile refused =>
      rw [quiet _ _ meanwhile] at refused
      constructor
      case fails =>
        intro other
        rw [refused]
        exact ⟨fun same => by cases same; rfl, fun same => by cases same; rfl⟩
      case returns => exact fun panicked => by cases panicked
      case builds => exact fun usable => by cases usable.symm.trans refused
      case fallsBack => exact fun graph reason fellBack => by cases fellBack
  | @opened later meanwhile usable =>
      rw [quiet _ _ meanwhile] at usable
      constructor
      case fails =>
        intro fault
        rw [usable]
        constructor <;> exact fun same => by cases same
      case returns => exact fun panicked => by cases panicked
      case builds =>
        refine fun _ => ⟨?_, fun buildable => absurd buildable (obstacle usable).not_buildable⟩
        rintro ⟨graph, built⟩
        cases built
      case fallsBack =>
        rintro graph given ⟨⟩
        have opening : ∀ deed ∈ [glance later, ⟨later, later.withStore⟩], Harmless deed := by
          intro deed member
          rcases List.mem_pair.mp member with rfl | rfl <;> exact ⟨rfl, rfl⟩
        exact ⟨obstacle usable, fun deed member =>
          (harmless_append harmless opening deed member).2, front, _, rfl, abandoned, .opened later⟩

/-- An attempt that succeeds, and what it makes of the source's answers. -/
theorem Attempt.verdict (quiet : ∀ before after, others before after →
      after.database = before.database)
    {spec : WorkflowSpec} {runtime : CompiledRuntime} {scope : Scope Resource}
    (attempt : Attempt others settings spec { owner := id } world deeds (.ok runtime, scope) final)
    (other : id ≠ WorkflowSpec.fallbackId) (answered : world.workflow id = .ok (some spec)) :
    ∃ asked, asked.Sublist ((glance world :: deeds).map (·.before)) ∧
      Verdict others settings id world.database asked (glance world :: deeds)
        (.workflow ⟨runtime, scope⟩) := by
  cases attempt with
  | @built start front back _ _ _ _ asked _ _ _ valid only opening all settled made default =>
      have usable : world.database.probe = .ok () := by
        cases opening with
        | opened meanwhile usable => exact quiet _ _ meanwhile ▸ usable
      refine ⟨world :: asked, ?_, ?_⟩
      · have same : (asked.map glance).map (·.before) = asked := by
          rw [List.map_map]
          exact List.map_id asked
        refine List.Sublist.cons_cons world ?_
        rw [List.map_append, List.map_append, same]
        exact (List.sublist_append_left _ _).trans (List.sublist_append_right _ _)
      · constructor
        case fails =>
          intro fault
          rw [usable]
          constructor <;> exact fun same => by cases same
        case returns => exact fun panicked => by cases panicked
        case builds =>
          exact fun _ => ⟨fun _ => ⟨other, world, asked, spec, start, rfl, answered, valid, only,
            all, settled⟩, fun _ => ⟨_, rfl⟩⟩
        case fallsBack => exact fun graph reason fellBack => by cases fellBack

/-- An attempt that fails is abandoned, and the plain conversation takes its place. -/
theorem abandon_verdict (quiet : ∀ before after, others before after →
      after.database = before.database)
    {spec : WorkflowSpec} {fault : Fault} {scope : Scope Resource} {between after : World}
    {releases : List (Deed World)} (other : id ≠ WorkflowSpec.fallbackId)
    (answered : world.workflow id = .ok (some spec))
    (tried : Runs others (buildWorkflow settings spec { owner := id }) world front
      (.error fault, scope) between)
    (releasing : Runs others (Resource.releaseAll scope.close.1) between releases () after)
    (instead : FallingBack others id fault.message after back outcome final) :
    ∃ asked, asked.Sublist ((glance world :: (front ++ (releases ++ back))).map (·.before)) ∧
      Verdict others settings id world.database asked
        (glance world :: (front ++ (releases ++ back))) outcome := by
  have attempt := buildWorkflow_runs tried
  rcases attempt.failed with ⟨attempted, stores, rfl⟩
  have handedOut : ({ owner := id, resources := stores.map Resource.checkpoints } :
      Scope Resource).close.1 = stores.reverse.map .checkpoints := List.map_reverse.symm
  rw [handedOut] at releasing
  rcases releaseAll_runs _ releasing with ⟨released, all⟩
  -- Neither the attempt nor the releases touch the database.
  have kept : after.database = world.database :=
    (releasing.view_final quiet fun deed member => (released deed member).1).trans
      (tried.view_final quiet fun deed member => (attempted deed member).1)
  have abandoned : Abandoned others settings id (glance world :: (front ++ releases)) := by
    refine .released answered tried fun resource member => all resource ?_
    rw [List.map_reverse]
    exact List.mem_reverse.mpr member
  have noHarm : ∀ deed ∈ glance world :: (front ++ releases), Harmless deed :=
    harmless_append (harmless_glance [world]) (harmless_append attempted released)
  have parts : glance world :: (front ++ (releases ++ back)) =
      glance world :: (front ++ releases) ++ back := by simp
  rw [← kept]
  -- Without a usable database there is no verdict on the source's answers.
  by_cases usable : world.database.probe = .ok ()
  · rcases attempt.obstacle other answered fun later meanwhile =>
      quiet _ _ meanwhile ▸ usable with ⟨asked, among, obstacle⟩
    refine ⟨world :: asked, ?_, ?_⟩
    · rw [List.map_cons, List.map_append]
      exact List.Sublist.cons_cons world (among.trans (List.sublist_append_left _ _))
    · exact parts ▸ instead.verdict quiet noHarm abandoned fun _ => obstacle
  · refine ⟨[], List.nil_sublist _, parts ▸ ?_⟩
    exact instead.verdict quiet noHarm abandoned fun usable' => absurd (kept ▸ usable') usable

theorem compile_verdict (quiet : ∀ before after, others before after →
      after.database = before.database)
    (runs : Runs others (compile settings id) world deeds outcome final) :
    ∃ asked, asked.Sublist (deeds.map (·.before)) ∧
      Verdict others settings id world.database asked deeds outcome := by
  have unattempted (asked : List World) : Abandoned others settings id (asked.map glance) := by
    refine .unattempted fun deed member => ?_
    rcases List.mem_map.mp member with ⟨here, -, rfl⟩
    rfl
  have first (here : World) (later : List (Deed World)) :
      [here].Sublist ((glance here :: later).map (·.before)) :=
    List.Sublist.cons_cons here (List.nil_sublist _)
  cases compile_runs runs with
  | requested same instead =>
      exact ⟨[], List.nil_sublist _, instead.verdict quiet (harmless_glance []) (unattempted [])
        fun _ => .requested same⟩
  | refused other meanwhile answered instead =>
      rw [← quiet _ _ meanwhile]
      exact ⟨_, first _ _, instead.verdict quiet (harmless_glance [_]) (unattempted [_])
        fun _ => .source other answered⟩
  | missing other meanwhile answered instead =>
      rw [← quiet _ _ meanwhile]
      exact ⟨_, first _ _, instead.verdict quiet (harmless_glance [_]) (unattempted [_])
        fun _ => .missing other answered⟩
  | abandoned other meanwhile answered tried releasing instead =>
      rw [← quiet _ _ meanwhile]
      exact abandon_verdict quiet other answered tried releasing instead
  | built other meanwhile answered attempt =>
      rw [← quiet _ _ meanwhile]
      exact attempt.verdict quiet other answered

/-- Compiling a workflow comes to an end, unless somebody else is about to make a singleton; and
while the database stays the same it fails just when no store can be opened, yields the
workflow's graph just when nothing prevents it, and otherwise a plain conversation that gives
the first obstacle as its reason, owns one new store, and leaves nothing else behind. -/
theorem compile_guarantee (settings : Settings) (id : String) :
    (∀ time world, world.reserved = [] → ∃ outcome later final,
      (compile settings id).complete time world = some (outcome, later, final)) ∧
    ∀ others : World → World → Prop,
      (∀ before after, others before after → after.database = before.database) →
      ∀ world deeds outcome final, Runs others (compile settings id) world deeds outcome final →
        ∃ asked, asked.Sublist (deeds.map (·.before)) ∧
          Verdict others settings id world.database asked deeds outcome := by
  refine ⟨fun time world free => ?_, fun others quiet world deeds outcome final runs => ?_⟩
  · rcases compile_finishes settings id time world free with ⟨outcome, later, final, completed, -⟩
    exact ⟨outcome, later, final, completed⟩
  · exact compile_verdict quiet runs

/-- A workflow of two nodes. -/
def desk : WorkflowSpec :=
  { id := "desk", nodes := [⟨"front", "ann", none, true⟩, ⟨"back", "bob", none, false⟩] }

/-- A world whose source knows one assistant and cannot say whether there is another. -/
def deskWorld : World :=
  { source := .service {
      workflow := fun _ => .ok (some desk)
      assistant := fun id =>
        if id = "ann" then .ok (some { id := "ann", name := "Ann" })
        else .error (.internal "source is offline") }
    registry := { directories := [] }
    artifacts := .ofCapacity 1
    model := .ofList "script" [] { result := .ok (.assistant "(done)") }
    reach := fun _ => .error (.internal "no servers") }

/-- The source is offline when it is asked for the second node, and others may change whatever
they like but the database: the conversation is plain and says so. -/
theorem compile_guarantee_offline :
    deskWorld.reserved = [] ∧
    (∀ before after : World, after.database = before.database → after.database = before.database) ∧
    ∃ asked deeds graph final,
      Runs (fun before after => after.database = before.database)
        (compile { pluginDirectories := [] } "desk") deskWorld deeds
        (.fallback graph "Internal error: source is offline") final ∧
      Obstacle "desk" asked "Internal error: source is offline" ∧ ¬ Buildable "desk" asked := by
  have guarantee := compile_guarantee { pluginDirectories := [] } "desk"
  rcases guarantee.1 0 deskWorld rfl with ⟨outcome, later, final, completed⟩
  have ran : ∃ deeds, Runs (fun before after : World => after.database = before.database)
      (compile { pluginDirectories := [] } "desk") deskWorld deeds outcome final :=
    Runs.of_complete (fun _ => rfl) completed
  rcases ran with ⟨deeds, runs⟩
  rcases guarantee.2 _ (fun _ _ same => same) deskWorld deeds outcome final runs with
    ⟨asked, -, verdict⟩
  have fellBack : ((compile { pluginDirectories := [] } "desk").complete 0 deskWorld).bind
      (·.1.reason?) = some "Internal error: source is offline" := by
    decide +kernel
  rw [completed] at fellBack
  cases outcome with
  | fallback graph reason =>
      cases fellBack
      have obstacle := (verdict.fallsBack graph _ rfl).1
      exact ⟨rfl, fun _ _ same => same, asked, deeds, graph, final, runs, obstacle,
        obstacle.not_buildable⟩
  | workflow graph => cases fellBack
  | failed fault => cases fellBack
  | panicked => cases fellBack

end Compiler

end AssistantEngine
