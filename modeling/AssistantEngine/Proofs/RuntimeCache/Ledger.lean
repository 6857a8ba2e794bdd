import AssistantEngine.Proofs.RuntimeCache.History
import AssistantEngine.Proofs.RuntimeCache.Reach

/-!
The ledger of builds. A build that was started is either in progress, as a task of its own and as
the mark of its key, or has ended once, with an outcome for those who wait for it.
-/

namespace AssistantEngine

namespace RuntimeCache

open History

namespace Task

variable {World Runtime Resource Reply : Type}

/-- The build that a task waits for. -/
def awaited? : Task World Runtime Resource Reply → Option BuildId
  | waiting _ build _ => some build
  | refreshing build => some build
  | _ => none

end Task

namespace State

variable {World Runtime Resource Reply : Type}

/-- How many tasks are at work on a build. -/
def inProgress (state : State World Runtime Resource Reply) (id : BuildId) : Nat :=
  state.tasks.countP (·.name = .building id)

variable {state : State World Runtime Resource Reply}

theorem inProgress_append (tasks : List (Task World Runtime Resource Reply)) (id : BuildId) :
    inProgress { state with tasks := state.tasks ++ tasks } id =
      state.inProgress id + tasks.countP (·.name = .building id) :=
  List.countP_append

theorem inProgress_spawn_of_ne {task : Task World Runtime Resource Reply} {id : BuildId}
    (different : task.name ≠ .building id) :
    (state.spawn task).inProgress id = state.inProgress id := by
  unfold spawn
  rw [inProgress_append]
  simp [different]

theorem inProgress_dismiss_of_ne {name : TaskName} {id : BuildId}
    (different : name ≠ .building id) :
    (state.dismiss name).inProgress id = state.inProgress id :=
  countP_dismiss_of_ne different

theorem inProgress_dismiss {id : BuildId} {task : Task World Runtime Resource Reply}
    (found : state.task? (.building id) = some task) (other : BuildId) :
    (state.dismiss (.building id)).inProgress other + (if other = id then 1 else 0) =
      state.inProgress other := by
  by_cases same : other = id
  · subst same
    rw [if_pos rfl]
    exact countP_dismiss found
  · rw [if_neg same]
    apply inProgress_dismiss_of_ne
    intro equal
    exact same (TaskName.building.inj equal).symm

theorem inProgress_pos {id : BuildId} {task : Task World Runtime Resource Reply}
    (found : state.task? (.building id) = some task) : 0 < state.inProgress id :=
  List.countP_pos_iff.mpr ⟨task, mem_of_task? found, decide_eq_true (task?_name found)⟩

theorem nextBuild_eq_iff (id : BuildId) :
    state.nextBuild id.key = id ↔ (state.started.find? id.key).getD 0 = id.number := by
  constructor
  · intro same
    exact congrArg BuildId.number same
  · intro same
    unfold nextBuild
    rw [same]

end State

structure Ledger {World Runtime Resource Reply : Type}
    (state : State World Runtime Resource Reply) : Prop where
  keyed : ∀ key id, (state.entry key).building = some id → id.key = key
  marked : ∀ id, state.inProgress id = if (state.entry id.key).building = some id then 1 else 0
  balanced : ∀ id, state.inProgress id + installations state.journal id +
    failures state.journal id = starts state.journal id
  numbered : ∀ id, starts state.journal id =
    if id.number < (state.started.find? id.key).getD 0 then 1 else 0
  delivered : ∀ id, 0 < installations state.journal id ↔
    state.outcomes.lookup id = some (.ok ())
  reported : ∀ id, 0 < failures state.journal id ↔
    ∃ text, state.outcomes.lookup id = some (.error text)
  awaited : ∀ task ∈ state.tasks, ∀ build, task.awaited? = some build →
    0 < starts state.journal build

variable {World Runtime Resource Reply : Type} {builder : Builder World Runtime Resource}

namespace Ledger

variable {state next : State World Runtime Resource Reply}

theorem initial (world : World) :
    Ledger ({ world := world } : State World Runtime Resource Reply) where
  keyed := by
    intro key id marked
    cases marked
  marked := fun _ => rfl
  balanced := fun _ => rfl
  numbered := fun _ => rfl
  delivered := by simp [installations]
  reported := by simp [failures]
  awaited := by
    intro task member
    cases member

/-- What has nothing to do with builds leaves the ledger as it is. -/
theorem frame (ledger : Ledger state)
    (marks : ∀ key, (next.entry key).building = (state.entry key).building)
    (progress : ∀ id, next.inProgress id = state.inProgress id)
    (started : next.started = state.started) (outcomes : next.outcomes = state.outcomes)
    (more : List Occurrence) (journal : next.journal = state.journal ++ more)
    (unconcerned : ∀ occurrence ∈ more, occurrence.concernsBuilds = false)
    (awaited : ∀ task ∈ next.tasks, ∀ build, task.awaited? = some build →
      0 < starts state.journal build) : Ledger next := by
  have startsEq (id : BuildId) : starts next.journal id = starts state.journal id := by
    rw [journal, starts_append, (counts_of_unconcerned unconcerned).1, Nat.add_zero]
  have installationsEq (id : BuildId) :
      installations next.journal id = installations state.journal id := by
    rw [journal, installations_append, (counts_of_unconcerned unconcerned).2.1, Nat.add_zero]
  have failuresEq (id : BuildId) : failures next.journal id = failures state.journal id := by
    rw [journal, failures_append, (counts_of_unconcerned unconcerned).2.2, Nat.add_zero]
  constructor
  case keyed =>
    intro key id marked
    exact ledger.keyed key id (marks key ▸ marked)
  case marked =>
    intro id
    rw [progress, marks]
    exact ledger.marked id
  case balanced =>
    intro id
    rw [progress, installationsEq, failuresEq, startsEq]
    exact ledger.balanced id
  case numbered =>
    intro id
    rw [startsEq, started]
    exact ledger.numbered id
  case delivered =>
    intro id
    rw [installationsEq, outcomes]
    exact ledger.delivered id
  case reported =>
    intro id
    rw [failuresEq, outcomes]
    exact ledger.reported id
  case awaited =>
    intro task member build awaits
    rw [startsEq]
    exact awaited task member build awaits

/-- A change that touches neither entries nor tasks nor builds. -/
theorem quiet (ledger : Ledger state) (entries : next.entries = state.entries)
    (tasks : next.tasks = state.tasks) (started : next.started = state.started)
    (outcomes : next.outcomes = state.outcomes) (more : List Occurrence)
    (journal : next.journal = state.journal ++ more)
    (unconcerned : ∀ occurrence ∈ more, occurrence.concernsBuilds = false) : Ledger next := by
  refine ledger.frame ?_ ?_ started outcomes more journal unconcerned ?_
  · intro key
    unfold State.entry
    rw [entries]
  · intro id
    unfold State.inProgress
    rw [tasks]
  · rw [tasks]
    exact ledger.awaited

theorem inProgress_of_marked (ledger : Ledger state) {key : String} {id : BuildId}
    (marked : (state.entry key).building = some id) : 0 < state.inProgress id := by
  have progress := ledger.marked id
  rw [ledger.keyed key id marked, if_pos marked] at progress
  omega

theorem started_of_marked (ledger : Ledger state) {key : String} {id : BuildId}
    (marked : (state.entry key).building = some id) : 0 < starts state.journal id := by
  have progress := ledger.inProgress_of_marked marked
  have balance := ledger.balanced id
  omega

/-- A key whose build is in progress is marked. -/
theorem isSome_of_building (ledger : Ledger state) {id : BuildId} {startEpoch : Nat}
    {rest : Activity World (Outcome Runtime Resource)}
    (member : Task.building id startEpoch rest ∈ state.tasks) :
    (state.entry id.key).building.isSome := by
  have progress : 0 < state.inProgress id :=
    List.countP_pos_iff.mpr ⟨_, member, decide_eq_true rfl⟩
  have marked := ledger.marked id
  split at marked
  · rename_i mark
    rw [mark]
    rfl
  · omega

/-- The next build of a key has not been started yet. -/
theorem starts_nextBuild (ledger : Ledger state) (key : String) :
    starts state.journal (state.nextBuild key) = 0 := by
  rw [ledger.numbered]
  exact if_neg (Nat.lt_irrefl _)

theorem starts_le_one (ledger : Ledger state) (id : BuildId) : starts state.journal id ≤ 1 := by
  rw [ledger.numbered]
  split <;> omega

theorem installations_le_one (ledger : Ledger state) (id : BuildId) :
    installations state.journal id ≤ 1 := by
  have balance := ledger.balanced id
  have atMostOnce := ledger.starts_le_one id
  omega

theorem started_of_installed (ledger : Ledger state) {id : BuildId}
    (installed : 0 < installations state.journal id) : 0 < starts state.journal id := by
  have balance := ledger.balanced id
  omega

theorem started_of_building (ledger : Ledger state) {id : BuildId} {startEpoch : Nat}
    {rest : Activity World (Outcome Runtime Resource)}
    (member : Task.building id startEpoch rest ∈ state.tasks) : 0 < starts state.journal id := by
  have progress : 0 < state.inProgress id :=
    List.countP_pos_iff.mpr ⟨_, member, decide_eq_true rfl⟩
  have balance := ledger.balanced id
  omega

/-- While a build is in progress it has no outcome. -/
theorem outcome_of_inProgress (ledger : Ledger state) {id : BuildId}
    (progress : 0 < state.inProgress id) :
    state.inProgress id = 1 ∧ (state.entry id.key).building = some id ∧
      starts state.journal id = 1 ∧ installations state.journal id = 0 ∧
        failures state.journal id = 0 ∧ state.outcomes.lookup id = none := by
  have marked := ledger.marked id
  have balance := ledger.balanced id
  have number := ledger.numbered id
  split at marked
  · rename_i mark
    split at number
    · have noInstallation : installations state.journal id = 0 := by omega
      have noFailure : failures state.journal id = 0 := by omega
      refine ⟨marked, mark, number, noInstallation, noFailure, ?_⟩
      cases outcome : state.outcomes.lookup id with
      | none => rfl
      | some result =>
          cases result with
          | ok delivered =>
              have := (ledger.delivered id).mpr outcome
              omega
          | error text =>
              have := (ledger.reported id).mpr ⟨text, outcome⟩
              omega
    · omega
  · omega

theorem not_failed_of_marked (ledger : Ledger state) {key : String} {id : BuildId}
    (marked : (state.entry key).building = some id) : .failed id ∉ state.journal := by
  intro failed
  have counted := failures_pos_iff.mpr failed
  rcases ledger.outcome_of_inProgress (ledger.inProgress_of_marked marked) with
    ⟨_, _, _, _, none, _⟩
  omega

theorem indicator_lt_succ (number bound : Nat) :
    ((if number < bound then 1 else 0) + if bound = number then 1 else 0) =
      if number < bound + 1 then 1 else 0 := by
  split <;> split <;> split <;> omega

/-- A build that is started on an idle key is the only one in progress there. -/
theorem begin (ledger : Ledger state) {key : String}
    (idle : (state.entry key).building = none) :
    Ledger (State.startOrJoin builder state key).2 := by
  rw [State.startOrJoin_start builder state idle]
  -- The key was idle, so that the new build is the only one of it in progress.
  have old (id : BuildId) (sameKey : id.key = key) : state.inProgress id = 0 := by
    rw [ledger.marked id, sameKey, idle]
    rfl
  have startsNew (id : BuildId) :
      starts [.started (state.nextBuild key) state.epoch] id =
        if state.nextBuild key = id then 1 else 0 := by
    by_cases same : state.nextBuild key = id <;> simp [starts, Occurrence.isStart, same]
  have progress (id : BuildId) (entries : Catalog (Entry Runtime Resource))
      (started : Catalog Nat) (journal : List Occurrence) :
      State.inProgress { state with
        entries := entries
        started := started
        tasks := state.tasks ++ [.building (state.nextBuild key) state.epoch
          (builder.build (state.nextBuild key))]
        journal := journal } id =
        state.inProgress id + if state.nextBuild key = id then 1 else 0 := by
    by_cases same : state.nextBuild key = id <;>
      simp [State.inProgress, List.countP_append, Task.name, same]
  constructor
  case keyed =>
    intro other id marked
    simp only [State.entry, Catalog.find?_insert] at marked
    split at marked
    · rename_i same
      cases marked
      exact same
    · exact ledger.keyed other id marked
  case marked =>
    intro id
    rw [progress]
    simp only [State.entry, Catalog.find?_insert]
    by_cases sameKey : key = id.key
    · rw [if_pos sameKey, old id sameKey.symm]
      simp
    · have different : state.nextBuild key ≠ id :=
        fun same => sameKey (congrArg BuildId.key same)
      rw [if_neg sameKey, if_neg different]
      exact ledger.marked id
  case balanced =>
    intro id
    rw [progress]
    have balance := ledger.balanced id
    simp only [starts_append, installations_append, failures_append, startsNew]
    simp only [installations, failures, Occurrence.isInstallation, Occurrence.isFailure] at *
    simp
    omega
  case numbered =>
    intro id
    simp only [starts_append, startsNew, Catalog.find?_insert]
    by_cases sameKey : key = id.key
    · subst sameKey
      simp only [State.nextBuild_eq_iff, ledger.numbered id, if_true, Option.getD_some]
      exact indicator_lt_succ id.number ((state.started.find? id.key).getD 0)
    · have different : state.nextBuild key ≠ id :=
        fun same => sameKey (congrArg BuildId.key same)
      rw [if_neg sameKey, if_neg different]
      exact ledger.numbered id
  case delivered =>
    intro id
    rw [← ledger.delivered id]
    simp [installations, List.countP_append, Occurrence.isInstallation]
  case reported =>
    intro id
    rw [← ledger.reported id]
    simp [failures, List.countP_append, Occurrence.isFailure]
  case awaited =>
    intro task member build awaits
    rw [starts_append]
    rcases List.mem_append.mp member with present | new
    · have := ledger.awaited task present build awaits
      omega
    · rw [List.mem_singleton.mp new] at awaits
      cases awaits

/-- The end of a build takes its mark away and leaves its outcome. -/
theorem ends (ledger : Ledger state) {id : BuildId} {task : Task World Runtime Resource Reply}
    (found : state.task? (.building id) = some task) (result : Except String Unit)
    (marks : ∀ key, (next.entry key).building =
      if id.key = key then none else (state.entry key).building)
    (tasks : next.tasks = (state.dismiss (.building id)).tasks)
    (started : next.started = state.started)
    (outcomes : next.outcomes = state.outcomes ++ [(id, result)])
    (more : List Occurrence)
    (journal : next.journal = state.journal ++ .ending id result :: more)
    (unconcerned : ∀ occurrence ∈ more, occurrence.concernsBuilds = false) : Ledger next := by
  rcases ledger.outcome_of_inProgress (State.inProgress_pos found) with
    ⟨single, mark, begun, notInstalled, notFailed, noOutcome⟩
  have counts (other : BuildId) : starts more other = 0 ∧ installations more other = 0 ∧
      failures more other = 0 := counts_of_unconcerned unconcerned
  have startsEq (other : BuildId) : starts next.journal other = starts state.journal other := by
    rw [journal, starts_append, ← List.singleton_append, starts_append, (counts other).1]
    cases result <;> simp [starts, Occurrence.ending, Occurrence.isStart]
  have progress (other : BuildId) :
      next.inProgress other + (if other = id then 1 else 0) = state.inProgress other := by
    have dismissed := State.inProgress_dismiss found other
    unfold State.inProgress at dismissed ⊢
    rw [tasks]
    exact dismissed
  have lookup (other : BuildId) : next.outcomes.lookup other =
      if other = id then some result else state.outcomes.lookup other := by
    rw [outcomes, List.lookup_append]
    by_cases same : other = id
    · subst same
      simp [noOutcome]
    · have differs : (other == id) = false := beq_false_of_ne same
      simp [List.lookup_cons, same, differs]
  -- What is in progress becomes one installation or one failure, and so the balance stays.
  have installationsEq (other : BuildId) : installations next.journal other =
      installations state.journal other + if other = id ∧ result = .ok () then 1 else 0 := by
    rw [journal, installations_append, ← List.singleton_append, installations_append,
      (counts other).2.1]
    cases result <;> simp [installations, Occurrence.ending, Occurrence.isInstallation, eq_comm]
  have failuresEq (other : BuildId) : failures next.journal other =
      failures state.journal other + if other = id ∧ result ≠ .ok () then 1 else 0 := by
    rw [journal, failures_append, ← List.singleton_append, failures_append,
      (counts other).2.2]
    cases result <;> simp [failures, Occurrence.ending, Occurrence.isFailure, eq_comm]
  constructor
  case keyed =>
    intro key other marked
    rw [marks] at marked
    split at marked
    · cases marked
    · exact ledger.keyed key other marked
  case marked =>
    intro other
    have before := ledger.marked other
    have after := progress other
    rw [marks]
    by_cases sameKey : id.key = other.key
    · rw [← sameKey, mark] at before
      simp only [Option.some.injEq, eq_comm (a := id)] at before
      rw [if_pos sameKey, if_neg (fun none => by cases none)]
      omega
    · have different : other ≠ id := fun same => sameKey (same ▸ rfl)
      rw [if_neg sameKey, ← before]
      simpa [different] using after
  case balanced =>
    intro other
    have balance := ledger.balanced other
    have after := progress other
    rw [installationsEq, failuresEq, startsEq]
    by_cases same : other = id
    · subst same
      cases result <;> simp at after ⊢ <;> omega
    · simp [same] at after ⊢
      omega
  case numbered =>
    intro other
    rw [startsEq, started]
    exact ledger.numbered other
  case delivered =>
    intro other
    rw [installationsEq, lookup]
    by_cases same : other = id
    · subst same
      cases result <;> simp [notInstalled]
    · simp [same, ledger.delivered other]
  case reported =>
    intro other
    rw [failuresEq, lookup]
    by_cases same : other = id
    · subst same
      cases result <;> simp [notFailed]
    · simp [same, ledger.reported other]
  case awaited =>
    intro task member build awaits
    rw [tasks] at member
    rw [startsEq]
    exact ledger.awaited task (State.mem_of_mem_dismiss member) build awaits

/-- A change of the tasks that concerns no build. -/
theorem shift (ledger : Ledger state) (entries : next.entries = state.entries)
    (started : next.started = state.started) (outcomes : next.outcomes = state.outcomes)
    (progress : ∀ id, next.inProgress id = state.inProgress id)
    (more : List Occurrence) (journal : next.journal = state.journal ++ more)
    (unconcerned : ∀ occurrence ∈ more, occurrence.concernsBuilds = false)
    (awaited : ∀ task ∈ next.tasks, ∀ build, task.awaited? = some build →
      task ∈ state.tasks ∨ 0 < starts state.journal build) : Ledger next := by
  refine ledger.frame ?_ progress started outcomes more journal unconcerned ?_
  · intro key
    unfold State.entry
    rw [entries]
  · intro task member build awaits
    rcases awaited task member build awaits with present | begun
    · exact ledger.awaited task present build awaits
    · exact begun

/-- A task that is not at work on a build and waits for none that was not started. -/
theorem spawn (ledger : Ledger state) (task : Task World Runtime Resource Reply)
    (different : ∀ id, task.name ≠ .building id)
    (awaited : ∀ build, task.awaited? = some build → 0 < starts state.journal build) :
    Ledger (state.spawn task) := by
  refine ledger.shift rfl rfl rfl (fun id => State.inProgress_spawn_of_ne (different id)) []
    (List.append_nil _).symm (by simp) ?_
  intro other member build awaits
  rcases List.mem_append.mp member with present | new
  · exact Or.inl present
  · rw [List.mem_singleton.mp new] at awaits
    exact Or.inr (awaited build awaits)

theorem dismiss (ledger : Ledger state) (name : TaskName) (different : ∀ id, name ≠ .building id) :
    Ledger (state.dismiss name) :=
  ledger.shift rfl rfl rfl (fun id => State.inProgress_dismiss_of_ne (different id)) []
    (List.append_nil _).symm (by simp) fun _ member _ _ => Or.inl (State.mem_of_mem_dismiss member)

theorem note (ledger : Ledger state) (occurrence : Occurrence)
    (unconcerned : occurrence.concernsBuilds = false) : Ledger (state.note occurrence) :=
  ledger.quiet rfl rfl rfl rfl [occurrence] rfl (by simpa using unconcerned)

theorem deliver (ledger : Ledger state) (call : CallId) (purpose : Purpose) (id : BuildId) :
    Ledger (state.deliver call purpose id) := by
  rcases State.deliver_eq state call purpose id with ⟨holders, _, same⟩
  rw [same]
  exact ledger.quiet rfl rfl rfl rfl [.answered call purpose id.key (.ok id)] rfl
    (by simp)

end Ledger

/-- Every move keeps the ledger. -/
theorem ledger_kept :
    Kept builder fun situation : Situation World Runtime Resource Reply =>
      Ledger situation.state := by
  intro before after move ledger
  cases move with
  | world | elapse | subscribe | answer | share | drop | forget =>
      exact ledger.quiet rfl rfl rfl rfl [] (List.append_nil _).symm (by simp)
  | ask | closed | closedAll | refreshed => exact ledger.note _ rfl
  | request key delay =>
      rcases State.requestRebuild_eq _ key delay with same | same <;> rw [same]
      · exact ledger.note _ rfl
      · exact ledger.quiet rfl rfl rfl rfl [.armed _ _] rfl (by simp)
  | cancel key =>
      rcases State.cancelTimer_eq _ key with same | same <;> rw [same]
      · exact ledger
      · exact ledger.quiet rfl rfl rfl rfl [.cancelled _] rfl (by simp)
  | fire key expiry armed due =>
      exact ledger.quiet rfl rfl rfl rfl [.fired _ _] rfl (by simp)
  | invalidate key =>
      refine ledger.frame ?_ (fun _ => rfl) rfl rfl [.invalidated key] rfl
        (by simp) ledger.awaited
      intro other
      rw [State.entry_invalidate]
      split <;> rfl
  | invalidateAll =>
      refine ledger.frame ?_ (fun _ => rfl) rfl rfl [.invalidatedAll] rfl
        (by simp) ledger.awaited
      intro other
      rw [State.entry_invalidateAll]
      split <;> rfl
  | @evict loose state key =>
      have marks := State.building_evict state key
      rcases State.evict_eq state key with ⟨entries, same⟩
      rw [same] at marks ⊢
      exact ledger.frame marks (fun _ => rfl) rfl rfl [.emptied key] rfl
        (by simp) ledger.awaited
  | start key idle stale => exact ledger.begin idle
  | restart call key idle => exact (ledger.note (.asked call .rebuild key) rfl).begin idle
  | serve call key installed => exact ledger.deliver call .get installed.id
  | await call purpose key build pending =>
      refine ledger.spawn _ (fun _ => TaskName.noConfusion) ?_
      intro other awaits
      cases awaits
      exact ledger.started_of_marked pending
  | awaitRefresh key build pending =>
      refine ledger.spawn _ (fun _ => TaskName.noConfusion) ?_
      intro other awaits
      cases awaits
      exact ledger.started_of_marked pending
  | wake | wakeRefresh | worked | finished | unpark | released =>
      exact ledger.dismiss _ fun _ => TaskName.noConfusion
  | deliver call build =>
      exact (ledger.dismiss _ fun _ => TaskName.noConfusion).deliver call .rebuild build
  | refuse call build purpose text =>
      exact (ledger.dismiss (.waiting call) fun _ => TaskName.noConfusion).quiet rfl rfl rfl rfl
        [.answered _ _ _ _] rfl (by simp)
  | failRefresh | release =>
      exact (ledger.dismiss _ fun _ => TaskName.noConfusion).note _ rfl
  | @install loose state id startEpoch rest graph reason found =>
      rcases State.notifyAll_eq
          (((state.dismiss (.building id)).install id startEpoch graph reason).setOutcome id
          (.ok ())) id with ⟨world, holders, _, same⟩
      rw [same]
      refine ledger.ends found (.ok ()) ?_ rfl rfl rfl _ (List.append_assoc _ _ _) ?_
      · intro key
        refine (congrArg Entry.building
          (State.entry_install _ id startEpoch graph reason key)).trans ?_
        split <;> rfl
      · intro occurrence member
        rcases List.mem_map.mp member with ⟨position, _, notified⟩
        rw [← notified]
        rfl
  | abandon id startEpoch rest text found =>
      refine ledger.ends found (.error text) ?_ rfl rfl rfl [] rfl (by simp)
      intro key
      exact congrArg Entry.building (State.entry_abandon id text key)
  | proceed before after member continues =>
      refine ledger.shift rfl rfl rfl (fun id => State.countP_replace after _) []
        (List.append_nil _).symm (by simp) ?_
      intro task present build awaits
      rcases State.mem_replace present with new | old
      · subst new
        cases continues <;> cases awaits
      · exact Or.inl old
  | work | finish | park | releasing =>
      refine ledger.spawn _ (fun _ => TaskName.noConfusion) ?_
      intro build awaits
      cases awaits
  | retire installed =>
      unfold State.retire
      split
      · exact ledger.quiet rfl rfl rfl rfl [] (List.append_nil _).symm (by simp)
      · exact ledger.note _ rfl
  | @setFree loose state =>
      refine ledger.shift rfl rfl rfl ?_ [] (List.append_nil _).symm (by simp) ?_
      · intro id
        apply (State.inProgress_append _ id).trans
        simp [Task.name, List.countP_map]
      · intro task present build awaits
        rcases List.mem_append.mp present with old | new
        · exact Or.inl old
        · rcases List.mem_map.mp new with ⟨deferred, _, rfl⟩
          cases awaits

end RuntimeCache

end AssistantEngine
