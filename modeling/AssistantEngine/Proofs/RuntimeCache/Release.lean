import AssistantEngine.Proofs.RuntimeCache.Freshness

/-!
Release of resources. A graph that was installed is in one place at any time: in its entry, taken
out to be retired, kept because its runtime is held, handed to a task, or released. Nobody holds
the runtime of a graph that is on its way to be released or has been.
-/

namespace AssistantEngine

namespace RuntimeCache

open History

namespace Task

variable {World Runtime Resource Reply : Type}

/-- The graphs that a task has yet to retire or to release. -/
def pledged : Task World Runtime Resource Reply → List BuildId
  | closing _ _ _ remaining _ => remaining.map (·.id)
  | orphaned id _ => [id]
  | _ => []

/-- Only those who close graphs, and orphans, are pledged to anything. -/
theorem pledged_eq_nil {task : Task World Runtime Resource Reply}
    (notClosing : ∀ call, task.name ≠ .closing call)
    (notOrphaned : ∀ id, task.name ≠ .orphaned id) :
    task.pledged = [] := by
  cases task with
  | closing call => exact absurd rfl (notClosing call)
  | orphaned id => exact absurd rfl (notOrphaned id)
  | _ => rfl

end Task

variable {World Runtime Resource Reply : Type} {builder : Builder World Runtime Resource}
variable {state next : State World Runtime Resource Reply}
variable {loose : List (Installed Runtime Resource)}

namespace State

/-- How often the graph of a build is installed. -/
def installedCount (state : State World Runtime Resource Reply) (id : BuildId) : Nat :=
  ((state.entry id.key).installed.toList.map (·.id)).count id

/-- How often a graph is to be retired or released by tasks. -/
def pledges (state : State World Runtime Resource Reply) (id : BuildId) : Nat :=
  (state.tasks.flatMap Task.pledged).count id

/-- How often a graph is kept until nobody holds its runtime. -/
def deferrals (state : State World Runtime Resource Reply) (id : BuildId) : Nat :=
  (state.deferred.map (·.1)).count id

theorem isHeld_iff {id : BuildId} :
    state.isHeld id = true ↔
      (∃ entry ∈ state.holders, entry.2 = id) ∨ ∃ task ∈ state.tasks, task.holds id = true := by
  unfold isHeld
  simp

theorem installedCount_pos {id : BuildId} {installed : Installed Runtime Resource}
    (present : (state.entry id.key).installed = some installed) (same : installed.id = id) :
    0 < state.installedCount id := by
  unfold installedCount
  rw [present]
  simp [same]

theorem pledges_append (tasks : List (Task World Runtime Resource Reply)) (id : BuildId) :
    pledges { state with tasks := state.tasks ++ tasks } id =
      state.pledges id + (tasks.flatMap Task.pledged).count id := by
  unfold pledges
  rw [List.flatMap_append, List.count_append]

/-- Dismissing tasks that are pledged to nothing changes no pledge. -/
theorem pledges_dismiss {name : TaskName} (notClosing : ∀ call, name ≠ .closing call)
    (notOrphaned : ∀ id, name ≠ .orphaned id) (id : BuildId) :
    (state.dismiss name).pledges id = state.pledges id := by
  have free (task : Task World Runtime Resource Reply) (named : task.name = name) :
      task.pledged = [] :=
    Task.pledged_eq_nil (fun call => named ▸ notClosing call) fun id => named ▸ notOrphaned id
  have same : (state.tasks.eraseP (·.name = name)).flatMap Task.pledged =
      state.tasks.flatMap Task.pledged := by
    induction state.tasks with
    | nil => rfl
    | cons task rest induction =>
        by_cases named : task.name = name
        · simp [named, free task named]
        · simp [named, induction]
  unfold pledges dismiss
  rw [same]

/-- Dismissing the task that is found gives up its pledges. -/
theorem pledges_dismiss_of_found {name : TaskName} {task : Task World Runtime Resource Reply}
    (found : state.task? name = some task) (id : BuildId) :
    (state.dismiss name).pledges id + task.pledged.count id = state.pledges id := by
  rcases dismiss_split found with ⟨front, rest, split, dismissed⟩
  unfold pledges
  rw [dismissed, split]
  simp only [List.flatMap_append, List.flatMap_cons, List.count_append]
  omega

theorem pledges_replace {task : Task World Runtime Resource Reply}
    (notClosing : ∀ call, task.name ≠ .closing call) (notOrphaned : ∀ id, task.name ≠ .orphaned id)
    (id : BuildId) : (state.replace task).pledges id = state.pledges id := by
  have free (other : Task World Runtime Resource Reply) (named : other.name = task.name) :
      other.pledged = [] :=
    Task.pledged_eq_nil (fun call => named ▸ notClosing call) fun id => named ▸ notOrphaned id
  unfold pledges replace
  dsimp only
  rw [List.flatMap_map]
  congr 1
  apply List.flatMap_congr
  intro other _
  split
  · rename_i named
    rw [free other named, free task rfl]
  · rfl

end State

/-- Nothing is under way to release a graph, nor has it been released. -/
structure Unreleased (state : State World Runtime Resource Reply) (id : BuildId) : Prop where
  unorphaned : ∀ scope, .orphaned id scope ∉ state.tasks
  unreleased : releases state.journal id = 0

/-- Every graph that was installed is in one place: in its entry, taken out and to be retired,
kept, pledged to a task, or released. -/
structure Conserved (loose : List (Installed Runtime Resource))
    (state : State World Runtime Resource Reply) : Prop where
  balanced : ∀ id, state.installedCount id + (loose.map (·.id)).count id + state.deferrals id +
    state.pledges id + releases state.journal id = installations state.journal id
  held : ∀ id, state.isHeld id = true → Unreleased state id

theorem State.pledges_pos_of_orphaned {id : BuildId} {scope : Scope Resource}
    (member : .orphaned id scope ∈ state.tasks) : 0 < state.pledges id := by
  apply List.count_pos_iff.mpr
  exact List.mem_flatMap.mpr ⟨_, member, List.mem_singleton.mpr rfl⟩

namespace Conserved

theorem initial (world : World) :
    Conserved [] ({ world := world } : State World Runtime Resource Reply) where
  balanced := fun _ => rfl
  held := by
    intro id held
    cases held

/-- A graph that is installed is not on its way to be released. -/
theorem unreleased_of_installed (conserved : Conserved loose state) (ledger : Ledger state)
    {id : BuildId} (installed : 0 < state.installedCount id) : Unreleased state id := by
  have balance := conserved.balanced id
  have atMostOnce := ledger.installations_le_one id
  constructor
  · intro scope member
    have := State.pledges_pos_of_orphaned member
    omega
  · omega

/-- A build that is in progress has no graph yet that could be released. -/
theorem unreleased_of_marked (conserved : Conserved loose state) (ledger : Ledger state)
    {key : String} {id : BuildId} (marked : (state.entry key).building = some id) :
    Unreleased state id := by
  rcases ledger.outcome_of_inProgress (ledger.inProgress_of_marked marked) with ⟨_, _, _, none, _⟩
  have balance := conserved.balanced id
  constructor
  · intro scope member
    have := State.pledges_pos_of_orphaned member
    omega
  · omega

/-- A change that leaves every graph where it is. -/
theorem change (conserved : Conserved loose state)
    (installed : ∀ key, (next.entry key).installed = (state.entry key).installed)
    (deferred : next.deferred = state.deferred) (pledges : ∀ id, next.pledges id = state.pledges id)
    (orphans : ∀ id scope, .orphaned id scope ∈ next.tasks → .orphaned id scope ∈ state.tasks)
    (held : ∀ id, next.isHeld id = true → Unreleased state id)
    (more : List Occurrence) (journal : next.journal = state.journal ++ more)
    (ungraphed : ∀ occurrence ∈ more, occurrence.concernsGraphs = false) :
    Conserved loose next := by
  have installationsEq (id : BuildId) :
      installations next.journal id = installations state.journal id := by
    rw [journal, installations_append, (counts_of_ungraphed ungraphed).1, Nat.add_zero]
  have releasesEq (id : BuildId) : releases next.journal id = releases state.journal id := by
    rw [journal, releases_append, (counts_of_ungraphed ungraphed).2, Nat.add_zero]
  constructor
  · intro id
    have balance := conserved.balanced id
    unfold State.installedCount State.deferrals at balance ⊢
    rw [installed, deferred, pledges, installationsEq, releasesEq]
    exact balance
  · intro id holds
    rcases held id holds with ⟨unorphaned, unreleased⟩
    refine ⟨fun scope member => unorphaned scope (orphans id scope member), ?_⟩
    exact (releasesEq id).trans unreleased

/-- A change of the entries that leaves the graphs. -/
theorem mark (conserved : Conserved loose state)
    (installed : ∀ key, (next.entry key).installed = (state.entry key).installed)
    (deferred : next.deferred = state.deferred) (tasks : next.tasks = state.tasks)
    (holders : next.holders = state.holders)
    (more : List Occurrence) (journal : next.journal = state.journal ++ more)
    (ungraphed : ∀ occurrence ∈ more, occurrence.concernsGraphs = false) :
    Conserved loose next := by
  refine conserved.change installed deferred ?_ ?_ ?_ more journal ungraphed
  · intro id
    unfold State.pledges
    rw [tasks]
  · rw [tasks]
    exact fun _ _ member => member
  · intro id held
    unfold State.isHeld at held
    rw [holders, tasks] at held
    exact conserved.held id held

/-- A change that leaves entries, tasks and holders. -/
theorem quiet (conserved : Conserved loose state) (entries : next.entries = state.entries)
    (deferred : next.deferred = state.deferred) (tasks : next.tasks = state.tasks)
    (holders : next.holders = state.holders)
    (more : List Occurrence) (journal : next.journal = state.journal ++ more)
    (ungraphed : ∀ occurrence ∈ more, occurrence.concernsGraphs = false) :
    Conserved loose next := by
  refine conserved.mark ?_ deferred tasks holders more journal ungraphed
  intro key
  unfold State.entry
  rw [entries]

theorem note (conserved : Conserved loose state) (occurrence : Occurrence)
    (ungraphed : occurrence.concernsGraphs = false) : Conserved loose (state.note occurrence) :=
  conserved.quiet rfl rfl rfl rfl [occurrence] rfl (by simpa using ungraphed)

/-- New holders hold only what is not on its way to be released. -/
theorem hold (conserved : Conserved loose state) (entries : next.entries = state.entries)
    (deferred : next.deferred = state.deferred) (tasks : next.tasks = state.tasks)
    (holders : List (Holder × BuildId)) (holdersEq : next.holders = state.holders ++ holders)
    (allowed : ∀ entry ∈ holders, Unreleased state entry.2)
    (more : List Occurrence) (journal : next.journal = state.journal ++ more)
    (ungraphed : ∀ occurrence ∈ more, occurrence.concernsGraphs = false) :
    Conserved loose next := by
  refine conserved.change ?_ deferred ?_ ?_ ?_ more journal ungraphed
  · intro key
    unfold State.entry
    rw [entries]
  · intro id
    unfold State.pledges
    rw [tasks]
  · rw [tasks]
    exact fun _ _ member => member
  · intro id held
    rcases State.isHeld_iff.mp held with ⟨entry, member, rfl⟩ | ⟨task, member, holds⟩
    · rw [holdersEq] at member
      rcases List.mem_append.mp member with earlier | later
      · exact conserved.held _ (State.isHeld_iff.mpr (Or.inl ⟨entry, earlier, rfl⟩))
      · exact allowed entry later
    · rw [tasks] at member
      exact conserved.held id (State.isHeld_iff.mpr (Or.inr ⟨task, member, holds⟩))

/-- A change after which there are no more holders than before. -/
theorem drop (conserved : Conserved loose state) (entries : next.entries = state.entries)
    (deferred : next.deferred = state.deferred) (tasks : next.tasks = state.tasks)
    (journal : next.journal = state.journal)
    (holders : ∀ entry ∈ next.holders, entry ∈ state.holders) : Conserved loose next := by
  refine conserved.change ?_ deferred ?_ ?_ ?_ [] ?_ (by simp)
  · intro key
    unfold State.entry
    rw [entries]
  · intro id
    unfold State.pledges
    rw [tasks]
  · rw [tasks]
    exact fun _ _ member => member
  · intro id held
    rcases State.isHeld_iff.mp held with ⟨entry, member, same⟩ | ⟨task, member, holds⟩
    · exact conserved.held id (State.isHeld_iff.mpr (Or.inl ⟨entry, holders entry member, same⟩))
    · rw [tasks] at member
      exact conserved.held id (State.isHeld_iff.mpr (Or.inr ⟨task, member, holds⟩))
  · rw [journal, List.append_nil]

/-- A build that begins has no graph. -/
theorem begin (conserved : Conserved loose state) {key : String}
    (idle : (state.entry key).building = none) :
    Conserved loose (State.startOrJoin builder state key).2 := by
  have entries := State.entry_startOrJoin builder idle
  rw [State.startOrJoin_start builder state idle] at entries ⊢
  refine conserved.change (fun other => (congrArg Entry.installed (entries other)).trans rfl) rfl
    ?_ ?_ ?_ [.started (state.nextBuild key) state.epoch] rfl (by simp)
  · intro id
    apply (State.pledges_append [_] id).trans
    rfl
  · intro id scope member
    rcases List.mem_append.mp member with present | new
    · exact present
    · cases List.mem_singleton.mp new
  · intro id held
    rcases State.isHeld_iff.mp held with ⟨entry, member, same⟩ | ⟨task, member, holds⟩
    · exact conserved.held id (State.isHeld_iff.mpr (Or.inl ⟨entry, member, same⟩))
    · rcases List.mem_append.mp member with present | new
      · exact conserved.held id (State.isHeld_iff.mpr (Or.inr ⟨task, present, holds⟩))
      · rw [List.mem_singleton.mp new] at holds
        cases holds

/-- A task that is pledged to nothing, and keeps alive only what may be kept. -/
theorem spawn (conserved : Conserved loose state) (task : Task World Runtime Resource Reply)
    (free : task.pledged = []) (allowed : ∀ id, task.holds id = true → Unreleased state id) :
    Conserved loose (state.spawn task) := by
  refine conserved.change (fun _ => rfl) rfl ?_ ?_ ?_ [] (List.append_nil _).symm (by simp)
  · intro id
    apply (State.pledges_append [task] id).trans
    simp [free]
  · intro id scope member
    rcases List.mem_append.mp member with present | new
    · exact present
    · rw [← List.mem_singleton.mp new] at free
      cases free
  · intro id held
    rcases State.isHeld_iff.mp held with ⟨entry, member, rfl⟩ | ⟨other, member, holds⟩
    · exact conserved.held _ (State.isHeld_iff.mpr (Or.inl ⟨entry, member, rfl⟩))
    · rcases List.mem_append.mp member with present | new
      · exact conserved.held id (State.isHeld_iff.mpr (Or.inr ⟨other, present, holds⟩))
      · rw [List.mem_singleton.mp new] at holds
        exact allowed id holds

/-- Whoever holds a runtime after a task is gone held it before. -/
theorem isHeld_of_dismiss {name : TaskName} {id : BuildId}
    (held : (state.dismiss name).isHeld id = true) : state.isHeld id = true := by
  rcases State.isHeld_iff.mp held with ⟨entry, member, same⟩ | ⟨task, member, holds⟩
  · exact State.isHeld_iff.mpr (Or.inl ⟨entry, member, same⟩)
  · exact State.isHeld_iff.mpr (Or.inr ⟨task, State.mem_of_mem_dismiss member, holds⟩)

theorem dismiss (conserved : Conserved loose state) {name : TaskName}
    (notClosing : ∀ call, name ≠ .closing call) (notOrphaned : ∀ id, name ≠ .orphaned id) :
    Conserved loose (state.dismiss name) := by
  refine conserved.change (fun _ => rfl) rfl (State.pledges_dismiss notClosing notOrphaned) ?_ ?_ []
    (List.append_nil _).symm (by simp)
  · intro id scope member
    exact State.mem_of_mem_dismiss member
  · intro id held
    exact conserved.held id (isHeld_of_dismiss held)

theorem count_of_key_ne {graph : Option (Installed Runtime Resource)} {key : String} {id : BuildId}
    (keyed : ∀ installed, graph = some installed → installed.id.key = key)
    (different : key ≠ id.key) :
    (graph.toList.map (·.id)).count id = 0 := by
  apply List.count_eq_zero.mpr
  intro member
  rcases List.mem_map.mp member with ⟨installed, present, same⟩
  have sameKey := keyed installed (Option.mem_toList.mp present)
  exact different (sameKey.symm.trans (congrArg BuildId.key same))

/-- The graph of an entry is taken out, and perhaps another one put in. -/
theorem exchange (conserved : Conserved loose state) (dated : Dated state) (key : String)
    (placed : Option (Installed Runtime Resource))
    (keyed : ∀ installed, placed = some installed → installed.id.key = key)
    (installed : ∀ other, (next.entry other).installed =
      if key = other then placed else (state.entry other).installed)
    (deferred : next.deferred = state.deferred) (pledges : ∀ id, next.pledges id = state.pledges id)
    (orphans : ∀ id scope, .orphaned id scope ∈ next.tasks → .orphaned id scope ∈ state.tasks)
    (held : ∀ id, next.isHeld id = true → Unreleased state id)
    (releasesEq : ∀ id, releases next.journal id = releases state.journal id)
    (installationsEq : ∀ id, installations next.journal id =
      installations state.journal id + (placed.toList.map (·.id)).count id) :
    Conserved (loose ++ (state.entry key).installed.toList) next := by
  constructor
  · intro id
    have balance := conserved.balanced id
    unfold State.deferrals at balance ⊢
    rw [List.map_append, List.count_append, deferred, pledges, releasesEq, installationsEq]
    have counted : state.installedCount id + (placed.toList.map (·.id)).count id =
        next.installedCount id + ((state.entry key).installed.toList.map (·.id)).count id := by
      unfold State.installedCount
      rw [installed]
      by_cases same : key = id.key
      · rw [if_pos same, same]
        exact Nat.add_comm _ _
      · have none := count_of_key_ne (fun graph present => (dated.present key graph present).1) same
        rw [if_neg same, count_of_key_ne keyed same, none]
    omega
  · intro id holds
    rcases held id holds with ⟨unorphaned, unreleased⟩
    refine ⟨fun scope member => unorphaned scope (orphans id scope member), ?_⟩
    exact (releasesEq id).trans unreleased

theorem evict (conserved : Conserved loose state) (dated : Dated state) (key : String) :
    Conserved (loose ++ (state.evict key).1.toList) (state.evict key).2 := by
  have entries (other : String) : ((state.evict key).2.entry other).installed =
      if key = other then none else (state.entry other).installed := by
    split
    · rename_i same
      rw [← same, State.entry_evict]
      split <;> rfl
    · rename_i different
      rw [State.entry_evict_of_ne different]
  rw [State.evict_installed]
  rcases State.evict_eq state key with ⟨catalog, parts⟩
  rw [parts] at entries ⊢
  refine conserved.exchange dated key none (fun _ empty => nomatch empty) entries rfl
    (fun _ => rfl) (fun _ _ member => member) conserved.held ?_ ?_
  · intro id
    simp [releases, Occurrence.isRelease]
  · intro id
    simp [installations, Occurrence.isInstallation]

theorem install (conserved : Conserved loose state) (ledger : Ledger state) (dated : Dated state)
    {id : BuildId} {startEpoch : Nat} {rest : Activity World (Outcome Runtime Resource)}
    (found : state.task? (.building id) = some (.building id startEpoch rest))
    (graph : Graph Runtime Resource) (reason : Option String) :
    Conserved (loose ++ (state.entry id.key).installed.toList)
      ((((state.dismiss (.building id)).install id startEpoch graph reason).setOutcome id
        (.ok ())).notifyAll id) := by
  obtain ⟨world, holders, owned, parts⟩ := State.notifyAll_eq
    (((state.dismiss (.building id)).install id startEpoch graph reason).setOutcome id (.ok ())) id
  rcases ledger.outcome_of_inProgress (State.inProgress_pos found) with ⟨_, marked, _⟩
  rw [parts]
  refine conserved.exchange dated id.key (some ⟨id, graph⟩) ?_ ?_ rfl
    (State.pledges_dismiss (fun _ => TaskName.noConfusion) fun _ => TaskName.noConfusion)
    (fun _ _ member => State.mem_of_mem_dismiss member) ?_ ?_ ?_
  · intro installed same
    cases same
    rfl
  · intro other
    refine (congrArg Entry.installed
      (State.entry_install _ id startEpoch graph reason other)).trans ?_
    split <;> rfl
  · intro other held
    rcases State.isHeld_iff.mp held with ⟨entry, member, rfl⟩ | ⟨task, member, holds⟩
    · rcases List.mem_append.mp member with earlier | later
      · exact conserved.held _ (State.isHeld_iff.mpr (Or.inl ⟨entry, earlier, rfl⟩))
      · rw [owned entry later]
        exact conserved.unreleased_of_marked ledger marked
    · exact conserved.held other
        (State.isHeld_iff.mpr (Or.inr ⟨task, State.mem_of_mem_dismiss member, holds⟩))
  · intro other
    simp [releases, State.setOutcome, State.install, State.note, State.setEntry, State.dismiss,
      Occurrence.isRelease, Function.comp_def]
  · intro other
    by_cases same : id = other <;>
      simp [installations, State.setOutcome, State.install, State.note, State.setEntry,
        State.dismiss, Occurrence.isInstallation, Function.comp_def, same]

theorem countP_filter_add {α : Type} (accepts : α → Bool) (name : α → BuildId) (values : List α)
    (id : BuildId) :
    ((values.filter accepts).map name).count id +
      ((values.filter fun value => !accepts value).map name).count id =
        (values.map name).count id := by
  induction values with
  | nil => rfl
  | cons value rest induction =>
      cases accepted : accepts value with
      | true =>
          simp only [List.filter_cons, accepted, if_true, Bool.not_true, if_false, List.map_cons,
            List.count_cons, Bool.false_eq_true]
          omega
      | false =>
          simp only [List.filter_cons, accepted, if_true, Bool.not_false, if_false, List.map_cons,
            List.count_cons, Bool.false_eq_true]
          omega

/-- What nobody holds any more is handed over to tasks of its own. -/
theorem setFree (conserved : Conserved loose state) : Conserved loose (state.releaseDropped) := by
  have same (id : BuildId) : state.releaseDropped.isHeld id = true → state.isHeld id = true := by
    intro held
    rcases State.isHeld_iff.mp held with ⟨entry, member, rfl⟩ | ⟨task, member, holds⟩
    · exact State.isHeld_iff.mpr (Or.inl ⟨entry, member, rfl⟩)
    · rcases List.mem_append.mp member with present | new
      · exact State.isHeld_iff.mpr (Or.inr ⟨task, present, holds⟩)
      · rcases List.mem_map.mp new with ⟨deferred, _, rfl⟩
        cases holds
  constructor
  · intro id
    have balance := conserved.balanced id
    have split := countP_filter_add (fun deferred => state.isHeld deferred.1) (·.1)
      state.deferred id
    have handed : ((((state.deferred.filter fun deferred => !state.isHeld deferred.1).map
          fun deferred => (Task.orphaned deferred.1 deferred.2 :
            Task World Runtime Resource Reply)).flatMap Task.pledged)) =
        (state.deferred.filter fun deferred => !state.isHeld deferred.1).map (·.1) := by
      rw [List.flatMap_map, List.map_eq_flatMap]
      rfl
    have pledgesEq : state.releaseDropped.pledges id = state.pledges id +
        ((state.deferred.filter fun deferred => !state.isHeld deferred.1).map (·.1)).count id := by
      apply (State.pledges_append _ id).trans
      rw [handed]
    have deferralsEq : state.releaseDropped.deferrals id =
        ((state.deferred.filter fun deferred => state.isHeld deferred.1).map (·.1)).count id := rfl
    change state.installedCount id + _ + _ + _ + releases state.journal id =
      installations state.journal id
    rw [pledgesEq, deferralsEq]
    unfold State.deferrals at balance
    omega
  · intro id held
    rcases conserved.held id (same id held) with ⟨unorphaned, unreleased⟩
    refine ⟨?_, unreleased⟩
    intro scope member
    rcases List.mem_append.mp member with present | new
    · exact unorphaned scope present
    · rcases List.mem_map.mp new with ⟨deferred, dropped, equal⟩
      cases equal
      have unheld := (List.mem_filter.mp dropped).2
      rw [same _ held] at unheld
      cases unheld

theorem retire (builder : Builder World Runtime Resource) (installed : Installed Runtime Resource)
    (conserved : Conserved (installed :: loose) state) :
    Conserved loose (State.retire builder state installed).2 := by
  have balance := conserved.balanced
  unfold State.retire
  split
  · constructor
    · intro id
      have before := balance id
      rw [List.map_cons, List.count_cons] at before
      have deferralsEq : ((state.deferred ++ [(installed.id, installed.graph.scope)]).map
          (·.1)).count id = state.deferrals id + if installed.id == id then 1 else 0 := by
        rw [List.map_append, List.count_append, List.map_singleton, List.count_singleton]
        rfl
      change state.installedCount id + (loose.map (·.id)).count id + _ + state.pledges id +
        releases state.journal id = installations state.journal id
      unfold State.deferrals
      rw [deferralsEq]
      omega
    · intro id held
      rcases conserved.held id held with ⟨unorphaned, unreleased⟩
      exact ⟨unorphaned, unreleased⟩
  · rename_i unheld
    constructor
    · intro id
      have before := balance id
      have installationsEq : installations (state.note (.released installed.id)).journal id =
          installations state.journal id := by
        simp [State.note, installations, Occurrence.isInstallation]
      have releasesEq : releases (state.note (.released installed.id)).journal id =
          releases state.journal id + if installed.id == id then 1 else 0 := by
        by_cases same : installed.id = id <;>
          simp [State.note, releases, Occurrence.isRelease, same]
      rw [List.map_cons, List.count_cons] at before
      change state.installedCount id + (loose.map (·.id)).count id + state.deferrals id +
        state.pledges id + releases (state.note (.released installed.id)).journal id =
          installations (state.note (.released installed.id)).journal id
      rw [installationsEq, releasesEq]
      omega
    · intro id held
      rcases conserved.held id held with ⟨unorphaned, unreleased⟩
      refine ⟨unorphaned, ?_⟩
      have different : installed.id ≠ id := fun same => unheld (same ▸ held)
      apply releases_append.trans
      rw [unreleased]
      simp [releases, Occurrence.isRelease, different]

/-- An orphaned scope is released, which has not happened before. -/
theorem release (conserved : Conserved loose state) {id : BuildId} {scope : Scope Resource}
    (found : state.task? (.orphaned id) = some (.orphaned id scope)) :
    Conserved loose ((state.dismiss (.orphaned id)).note (.released id)) := by
  have releasesEq (other : BuildId) :
      releases ((state.dismiss (.orphaned id)).note (.released id)).journal other =
        releases state.journal other + if id == other then 1 else 0 := by
    by_cases same : id = other <;>
      simp [State.note, State.dismiss, releases, Occurrence.isRelease, same]
  constructor
  · intro other
    have balance := conserved.balanced other
    have pledges : (state.dismiss (.orphaned id)).pledges other + [id].count other =
        state.pledges other := State.pledges_dismiss_of_found found other
    rw [List.count_singleton] at pledges
    have installationsEq :
        installations ((state.dismiss (.orphaned id)).note (.released id)).journal other =
          installations state.journal other := by
      simp [State.note, State.dismiss, installations, Occurrence.isInstallation]
    rw [releasesEq, installationsEq]
    change state.installedCount other + _ + state.deferrals other +
      (state.dismiss (.orphaned id)).pledges other + _ = _
    omega
  · intro other held
    rcases conserved.held other (isHeld_of_dismiss held) with ⟨unorphaned, unreleased⟩
    constructor
    · intro otherScope member
      exact unorphaned otherScope (State.mem_of_mem_dismiss member)
    · have different : id ≠ other :=
        fun same => unorphaned scope (same ▸ State.mem_of_task? found)
      rw [releasesEq, unreleased]
      simp [different]

theorem park (conserved : Conserved loose state) (call : CallId) (hadGraph : Bool)
    (current afterwards : Activity World Unit) :
    Conserved [] (state.spawn (.closing call hadGraph current loose afterwards)) := by
  constructor
  · intro id
    have balance := conserved.balanced id
    have pledges : (state.spawn (.closing call hadGraph current loose afterwards)).pledges id =
        state.pledges id + (loose.map (·.id)).count id := by
      apply (State.pledges_append _ id).trans
      simp [Task.pledged]
    change state.installedCount id + 0 + state.deferrals id + _ + releases state.journal id =
      installations state.journal id
    rw [pledges]
    omega
  · intro id held
    have heldBefore : state.isHeld id = true := by
      rcases State.isHeld_iff.mp held with ⟨entry, member, same⟩ | ⟨task, member, holds⟩
      · exact State.isHeld_iff.mpr (Or.inl ⟨entry, member, same⟩)
      · rcases List.mem_append.mp member with present | new
        · exact State.isHeld_iff.mpr (Or.inr ⟨task, present, holds⟩)
        · rw [List.mem_singleton.mp new] at holds
          cases holds
    rcases conserved.held id heldBefore with ⟨unorphaned, unreleased⟩
    refine ⟨?_, unreleased⟩
    intro scope member
    rcases List.mem_append.mp member with present | new
    · exact unorphaned scope present
    · cases List.mem_singleton.mp new

theorem unpark {call : CallId} {hadGraph : Bool} {current afterwards : Activity World Unit}
    (conserved : Conserved [] state)
    (found : state.task? (.closing call) =
      some (.closing call hadGraph current loose afterwards)) :
    Conserved loose (state.dismiss (.closing call)) := by
  constructor
  · intro id
    have balance := conserved.balanced id
    have pledges : (state.dismiss (.closing call)).pledges id + (loose.map (·.id)).count id =
        state.pledges id := State.pledges_dismiss_of_found found id
    rw [List.map_nil, List.count_nil] at balance
    change state.installedCount id + _ + state.deferrals id + _ + releases state.journal id =
      installations state.journal id
    omega
  · intro id held
    rcases conserved.held id (isHeld_of_dismiss held) with ⟨unorphaned, unreleased⟩
    exact ⟨fun scope member => unorphaned scope (State.mem_of_mem_dismiss member), unreleased⟩

end Conserved

/-- Every move leaves each graph in one place. -/
theorem conserved_kept :
    Kept builder fun situation : Situation World Runtime Resource Reply =>
      (Ledger situation.state ∧ Dated situation.state) ∧
        Conserved situation.loose situation.state := by
  rintro before after move ⟨⟨ledger, dated⟩, conserved⟩
  refine ⟨dated_kept before after move ⟨ledger, dated⟩, ?_⟩
  cases move with
  | world | elapse | subscribe | answer =>
      exact conserved.quiet rfl rfl rfl rfl [] (List.append_nil _).symm (by simp)
  | ask | closed | closedAll | refreshed => exact conserved.note _ rfl
  | fire => exact conserved.quiet rfl rfl rfl rfl [_] rfl (by simp)
  | @share loose state holder id held =>
      refine conserved.hold rfl rfl rfl [(holder, id)] rfl ?_ [] (List.append_nil _).symm (by simp)
      intro entry member
      rw [List.mem_singleton.mp member]
      exact conserved.held id held
  | drop | forget =>
      exact conserved.drop rfl rfl rfl rfl fun entry member => (List.mem_filter.mp member).1
  | request key delay =>
      rcases State.requestRebuild_eq _ key delay with same | same <;> rw [same] <;>
        exact conserved.quiet rfl rfl rfl rfl [_] rfl (by simp)
  | cancel key =>
      rcases State.cancelTimer_eq _ key with same | same <;> rw [same]
      · exact conserved
      · exact conserved.quiet rfl rfl rfl rfl [_] rfl (by simp)
  | invalidate key =>
      refine conserved.mark ?_ rfl rfl rfl [_] rfl (by simp)
      intro other
      rw [State.entry_invalidate]
      split <;> rfl
  | invalidateAll =>
      refine conserved.mark ?_ rfl rfl rfl [_] rfl (by simp)
      intro other
      rw [State.entry_invalidateAll]
      split <;> rfl
  | evict key => exact conserved.evict dated key
  | start key idle => exact conserved.begin idle
  | restart call key idle => exact (conserved.note (.asked call .rebuild key) rfl).begin idle
  | @serve loose state call key installed clean present =>
      rcases State.deliver_eq state call .get installed.id with ⟨holders, owned, parts⟩
      have sameKey := (dated.present key installed present).1
      rw [parts]
      refine conserved.hold rfl rfl rfl holders rfl ?_ [_] rfl (by simp)
      intro entry member
      rw [owned entry member]
      subst sameKey
      exact conserved.unreleased_of_installed ledger (State.installedCount_pos present rfl)
  | await call purpose key build pending =>
      apply conserved.spawn _ rfl
      intro id holds
      cases of_decide_eq_true holds
      exact conserved.unreleased_of_marked ledger pending
  | awaitRefresh key build pending =>
      apply conserved.spawn _ rfl
      intro id holds
      cases of_decide_eq_true holds
      exact conserved.unreleased_of_marked ledger pending
  | install id startEpoch rest graph reason found =>
      exact conserved.install ledger dated found graph reason
  | retire installed => exact conserved.retire builder installed
  | park call hadGraph current afterwards => exact conserved.park call hadGraph current afterwards
  | unpark call hadGraph current remaining afterwards found => exact conserved.unpark found
  | setFree => exact conserved.setFree
  | release id scope found => exact conserved.release found
  | wake | wakeRefresh | worked | finished | released =>
      exact conserved.dismiss (fun _ => TaskName.noConfusion) fun _ => TaskName.noConfusion
  | @deliver loose state call build found delivered =>
      have dismissed : Conserved loose (state.dismiss (.waiting call)) :=
        conserved.dismiss (fun _ => TaskName.noConfusion) fun _ => TaskName.noConfusion
      -- The caller held the runtime while it was waiting.
      rcases conserved.held build
          (State.isHeld_iff.mpr (Or.inr ⟨_, State.mem_of_task? found, decide_eq_true rfl⟩)) with
        ⟨unorphaned, unreleased⟩
      rcases State.deliver_eq (state.dismiss (.waiting call)) call
          .rebuild build with ⟨holders, owned, parts⟩
      rw [parts]
      refine dismissed.hold rfl rfl rfl holders rfl ?_ [_] rfl (by simp)
      intro entry member
      rw [owned entry member]
      exact ⟨fun scope member => unorphaned scope (State.mem_of_mem_dismiss member), unreleased⟩
  | @refuse loose state call build purpose text =>
      have dismissed : Conserved loose (state.dismiss (.waiting call)) :=
        conserved.dismiss (fun _ => TaskName.noConfusion) fun _ => TaskName.noConfusion
      exact dismissed.quiet rfl rfl rfl rfl [_] rfl (by simp)
  | @failRefresh loose state build =>
      have dismissed : Conserved loose (state.dismiss (.refreshing build)) :=
        conserved.dismiss (fun _ => TaskName.noConfusion) fun _ => TaskName.noConfusion
      exact dismissed.note _ rfl
  | @abandon loose state id startEpoch rest text found =>
      have dismissed : Conserved loose (state.dismiss (.building id)) :=
        conserved.dismiss (fun _ => TaskName.noConfusion) fun _ => TaskName.noConfusion
      refine dismissed.mark ?_ rfl rfl rfl [.failed id] rfl (by simp)
      intro key
      rw [State.entry_abandon]
  | @proceed loose state earlier later member continues =>
      have notClosing (call : CallId) : later.name ≠ .closing call := by
        cases continues <;> exact TaskName.noConfusion
      have notOrphaned (id : BuildId) : later.name ≠ .orphaned id := by
        cases continues <;> exact TaskName.noConfusion
      refine conserved.change (fun _ => rfl) rfl
        (State.pledges_replace notClosing notOrphaned) ?_ ?_
        [] (List.append_nil _).symm (by simp)
      · intro id scope present
        rcases State.mem_replace present with new | old
        · subst new
          exact absurd rfl (notOrphaned id)
        · exact old
      · intro id held
        rcases State.isHeld_iff.mp held with ⟨entry, present, same⟩ | ⟨task, present, holds⟩
        · exact conserved.held id (State.isHeld_iff.mpr (Or.inl ⟨entry, present, same⟩))
        · rcases State.mem_replace present with new | old
          · subst new
            refine conserved.held id (State.isHeld_iff.mpr (Or.inr ⟨earlier, member, ?_⟩))
            cases continues <;> exact holds
          · exact conserved.held id (State.isHeld_iff.mpr (Or.inr ⟨task, old, holds⟩))
  | work call held rest allowed =>
      apply conserved.spawn _ rfl
      intro id holds
      cases of_decide_eq_true holds
      exact conserved.held id allowed
  | @finish loose state id rest present =>
      apply conserved.spawn _ rfl
      intro other holds
      cases of_decide_eq_true holds
      rcases Option.map_eq_some_iff.mp present with ⟨installed, found, same⟩
      exact conserved.unreleased_of_installed ledger (State.installedCount_pos found same)
  | releasing =>
      apply conserved.spawn _ rfl
      intro id holds
      cases holds

namespace State

/-- After every step, what is kept for later is kept for a holder. -/
theorem isHeld_of_deferred {entry : BuildId × Scope Resource}
    (member : entry ∈ state.releaseDropped.deferred) :
    state.releaseDropped.isHeld entry.1 = true := by
  rcases isHeld_iff.mp (List.mem_filter.mp member).2 with ⟨holder, present, same⟩ |
    ⟨task, present, holds⟩
  · exact isHeld_iff.mpr (Or.inl ⟨holder, present, same⟩)
  · exact isHeld_iff.mpr (Or.inr ⟨task, List.mem_append_left _ present, holds⟩)

theorem Reachable.isHeld_of_deferred {world : World}
    (reachable : Reachable builder { world := world } state) {entry : BuildId × Scope Resource}
    (member : entry ∈ state.deferred) : state.isHeld entry.1 = true := by
  rcases reachable with ⟨actions, rfl⟩
  rcases List.eq_nil_or_concat actions with rfl | ⟨earlier, last, rfl⟩
  · cases member
  · rw [List.concat_eq_append, run, List.foldl_append] at member ⊢
    exact State.isHeld_of_deferred member

theorem Reachable.conserved {world : World}
    (reachable : Reachable builder { world := world } state) : Conserved [] state :=
  (conserved_kept.reachable ⟨⟨Ledger.initial world, Dated.initial world⟩, Conserved.initial world⟩
    reachable).2

end State

end RuntimeCache

end AssistantEngine
