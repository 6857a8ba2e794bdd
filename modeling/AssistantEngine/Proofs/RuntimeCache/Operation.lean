import AssistantEngine.Proofs.Catalog
import AssistantEngine.RuntimeCache.Run

/-!
What the operations of the runtime cache change, and what they leave as it is.
-/

namespace AssistantEngine

namespace RuntimeCache

namespace State

variable {World Runtime Resource Reply : Type} {builder : Builder World Runtime Resource}
variable {state : State World Runtime Resource Reply}

/-! ## Tasks by name -/

theorem task?_name {name : TaskName} {task : Task World Runtime Resource Reply}
    (found : state.task? name = some task) : task.name = name := by
  have accepted := List.find?_some found
  exact of_decide_eq_true accepted

theorem mem_of_task? {name : TaskName} {task : Task World Runtime Resource Reply}
    (found : state.task? name = some task) : task ∈ state.tasks :=
  List.mem_of_find?_eq_some found

/-- Dismissing a name takes out the task that is found under it. -/
theorem dismiss_split {name : TaskName} {task : Task World Runtime Resource Reply}
    (found : state.task? name = some task) :
    ∃ front rest, state.tasks = front ++ task :: rest ∧
      state.dismiss name = { state with tasks := front ++ rest } := by
  rcases List.find?_eq_some_iff_append.mp found with ⟨accepted, front, rest, split, refused⟩
  refine ⟨front, rest, split, ?_⟩
  have erased : state.tasks.eraseP (fun task => decide (task.name = name)) = front ++ rest := by
    rw [split, List.eraseP_append_right]
    · simp only [List.eraseP_cons, accepted, cond_true]
    · intro other member
      simpa using refused other member
  unfold dismiss
  rw [erased]

theorem mem_of_mem_dismiss {name : TaskName} {task : Task World Runtime Resource Reply}
    (member : task ∈ (state.dismiss name).tasks) : task ∈ state.tasks :=
  List.mem_of_mem_eraseP member

theorem countP_eraseP_of_disjoint {α : Type} {first second : α → Bool}
    (disjoint : ∀ value, first value → ¬ second value) (values : List α) :
    (values.eraseP first).countP second = values.countP second := by
  induction values with
  | nil => rfl
  | cons value rest induction =>
      cases erased : first value with
      | true => simp [erased, disjoint value erased]
      | false => simp [erased, List.countP_cons, induction]

/-- Dismissing a task leaves those of other names. -/
theorem countP_dismiss_of_ne {name other : TaskName} (different : name ≠ other) :
    (state.dismiss name).tasks.countP (·.name = other) =
      state.tasks.countP (·.name = other) := by
  apply countP_eraseP_of_disjoint
  intro task named
  have same := of_decide_eq_true named
  simp [same, different]

/-- Dismissing the task of a name leaves one less of them. -/
theorem countP_dismiss {name : TaskName} {task : Task World Runtime Resource Reply}
    (found : state.task? name = some task) :
    (state.dismiss name).tasks.countP (·.name = name) + 1 =
      state.tasks.countP (·.name = name) := by
  rcases dismiss_split found with ⟨front, rest, split, dismissed⟩
  rw [dismissed, split]
  simp [List.countP_append, task?_name found]
  omega

theorem find?_eraseP_of_disjoint {α : Type} {first second : α → Bool}
    (disjoint : ∀ value, first value → ¬ second value) (values : List α) :
    (values.eraseP first).find? second = values.find? second := by
  induction values with
  | nil => rfl
  | cons value rest induction =>
      cases erased : first value with
      | true => simp [erased, disjoint value erased]
      | false => simp [erased, List.find?_cons, induction]

/-- Dismissing a task leaves the one that is found under another name. -/
theorem task?_dismiss_of_ne {name other : TaskName} (different : name ≠ other) :
    (state.dismiss name).task? other = state.task? other := by
  apply find?_eraseP_of_disjoint
  intro task named
  have same := of_decide_eq_true named
  simp [same, different]

/-- Nothing is left under a name that was used once and has been dismissed. -/
theorem task?_dismiss_self {name : TaskName} {task : Task World Runtime Resource Reply}
    (once : state.tasks.countP (·.name = name) ≤ 1) (found : state.task? name = some task) :
    (state.dismiss name).task? name = none := by
  have fewer := countP_dismiss found
  have none : (state.dismiss name).tasks.countP (·.name = name) = 0 := by omega
  rw [List.countP_eq_zero] at none
  exact List.find?_eq_none.mpr none

/-- New tasks come after those that are found already. -/
theorem task?_append {name : TaskName} {task : Task World Runtime Resource Reply}
    (found : state.task? name = some task) (more : List (Task World Runtime Resource Reply)) :
    task? { state with tasks := state.tasks ++ more } name = some task := by
  unfold task? at found ⊢
  rw [List.find?_append, found]
  rfl

/-- The task that is found under a name after one of its own or another name was replaced. -/
theorem task?_replace (task : Task World Runtime Resource Reply) (name : TaskName) :
    (state.replace task).task? name =
      (state.task? name).map fun found => if found.name = task.name then task else found := by
  unfold task? replace
  rw [List.find?_map]
  have same : ((fun task => decide (Task.name task = name)) ∘
      fun found => if found.name = task.name then task else found) =
        fun found : Task World Runtime Resource Reply => decide (found.name = name) := by
    funext candidate
    by_cases equal : candidate.name = task.name <;> simp [equal]
  rw [same]

theorem task?_replace_self {task found : Task World Runtime Resource Reply}
    (present : state.task? task.name = some found) :
    (state.replace task).task? task.name = some task := by
  rw [task?_replace, present, Option.map_some, if_pos (task?_name present)]

theorem task?_replace_of_ne {name : TaskName} {task : Task World Runtime Resource Reply}
    (different : task.name ≠ name) : (state.replace task).task? name = state.task? name := by
  rw [task?_replace]
  cases present : state.task? name with
  | none => rfl
  | some found =>
      have named := task?_name present
      rw [Option.map_some, if_neg (fun same => different (same.symm.trans named))]

theorem task?_spawn (task : Task World Runtime Resource Reply) (name : TaskName) :
    (state.spawn task).task? name =
      (state.task? name).or (if task.name = name then some task else none) := by
  unfold spawn task?
  rw [List.find?_append]
  congr 1
  by_cases same : task.name = name <;> simp [same]

theorem countP_spawn (task : Task World Runtime Resource Reply) (name : TaskName) :
    (state.spawn task).tasks.countP (·.name = name) =
      state.tasks.countP (·.name = name) + if task.name = name then 1 else 0 := by
  unfold spawn
  rw [List.countP_append, List.countP_singleton]
  simp

theorem countP_spawn_of_ne {task : Task World Runtime Resource Reply} {name : TaskName}
    (different : task.name ≠ name) :
    (state.spawn task).tasks.countP (·.name = name) = state.tasks.countP (·.name = name) := by
  rw [countP_spawn, if_neg different, Nat.add_zero]

/-- What is set free is handed to orphans. -/
theorem countP_releaseDropped (name : TaskName) (notOrphaned : ∀ id, TaskName.orphaned id ≠ name) :
    state.releaseDropped.tasks.countP (·.name = name) = state.tasks.countP (·.name = name) := by
  unfold releaseDropped
  rw [List.countP_append, List.countP_map, Nat.add_eq_left, List.countP_eq_zero]
  intro entry _
  simp [Task.name, notOrphaned entry.1]

/-- A name under which nothing is found is used by no task. -/
theorem countP_of_task?_none {name : TaskName} (absent : state.task? name = none) :
    state.tasks.countP (·.name = name) = 0 := by
  rw [List.countP_eq_zero]
  exact List.find?_eq_none.mp absent

theorem countP_replace (task : Task World Runtime Resource Reply) (name : TaskName) :
    (state.replace task).tasks.countP (·.name = name) = state.tasks.countP (·.name = name) := by
  unfold replace
  rw [List.countP_map]
  apply List.countP_congr
  intro other _
  by_cases same : other.name = task.name <;> simp [same]

/-- A task after a replacement is the new one, or was there before. -/
theorem mem_replace {task other : Task World Runtime Resource Reply}
    (member : other ∈ (state.replace task).tasks) : other = task ∨ other ∈ state.tasks := by
  rcases List.mem_map.mp member with ⟨source, present, same⟩
  split at same
  · exact Or.inl same.symm
  · exact Or.inr (same ▸ present)

/-! ## Answers -/

/-- A new entry is found under its key unless there was one before. -/
theorem lookup_concat {Key Value : Type} [BEq Key] [LawfulBEq Key] [DecidableEq Key]
    (entries : List (Key × Value)) (key other : Key) (value : Value) :
    (entries ++ [(key, value)]).lookup other =
      (entries.lookup other).or (if other = key then some value else none) := by
  rw [List.lookup_append]
  congr 1
  by_cases same : other = key
  · simp [same]
  · simp [List.lookup_cons, same, beq_false_of_ne same]

theorem answer?_setAnswer (state : State World Runtime Resource Reply) (call other : CallId)
    (answer : Answer Reply) :
    (state.setAnswer call answer).answer? other =
      (state.answer? other).or (if other = call then some answer else none) :=
  lookup_concat state.answers call other answer

/-! ## Entries -/

@[simp] theorem entry_setEntry (key other : String) (entry : Entry Runtime Resource) :
    (state.setEntry key entry).entry other = if key = other then entry else state.entry other := by
  unfold State.entry setEntry
  rw [Catalog.find?_insert]
  split <;> rfl

theorem isSome_find?_of_building {key : String} {build : BuildId}
    (marked : (state.entry key).building = some build) :
    (state.entries.find? key).isSome := by
  unfold entry at marked
  cases found : state.entries.find? key with
  | none =>
      rw [found] at marked
      cases marked
  | some _ => rfl

theorem isSome_find?_of_installed {key : String} {installed : Installed Runtime Resource}
    (present : (state.entry key).installed = some installed) :
    (state.entries.find? key).isSome := by
  unfold entry at present
  cases found : state.entries.find? key with
  | none =>
      rw [found] at present
      cases present
  | some _ => rfl

theorem installed_entry (key : String) :
    (state.entry key).installed = (state.entries.find? key).bind (·.installed) := by
  unfold entry
  cases state.entries.find? key <;> rfl

/-- The graphs that are installed, key by key. -/
theorem filterMap_installed (ascending : state.entries.Ascending) :
    state.entries.keys.filterMap (fun key => (state.entry key).installed) =
      state.entries.filterMap fun entry => entry.2.installed := by
  rw [← Catalog.filterMap_find?_keys _ ascending.keys_nodup]
  apply List.filterMap_congr
  intro key _
  exact installed_entry key

theorem find?_invalidate (key other : String) :
    (state.invalidate key).entries.find? other =
      if key = other then (state.entries.find? other).map (·.invalidate (state.epoch + 1))
      else state.entries.find? other := by
  unfold invalidate note
  by_cases same : key = other
  · subst same
    cases found : state.entries.find? key <;> simp [found, Catalog.find?_insert]
  · cases found : state.entries.find? key <;> simp [same, Catalog.find?_insert]

/-- An invalidation changes the entry of its key if there is one, and no other. -/
theorem entry_invalidate (key other : String) :
    (state.invalidate key).entry other =
      if key = other ∧ (state.entries.find? other).isSome then
        (state.entry other).invalidate (state.epoch + 1)
      else state.entry other := by
  unfold entry
  rw [find?_invalidate]
  by_cases same : key = other
  · cases found : state.entries.find? other <;> simp [same]
  · simp [same]

theorem entry_invalidateAll (key : String) :
    state.invalidateAll.entry key =
      if (state.entries.find? key).isSome then (state.entry key).invalidate (state.epoch + 1)
      else state.entry key := by
  unfold invalidateAll entry note
  dsimp only
  rw [Catalog.find?_mapValues]
  cases state.entries.find? key <;> rfl

theorem evict_installed (key : String) :
    (state.evict key).1 = (state.entry key).installed := by
  unfold evict entry
  split <;> rename_i found <;> rw [found] <;> rfl

theorem find?_evict_of_ne {key other : String} (different : key ≠ other) :
    (state.evict key).2.entries.find? other = state.entries.find? other := by
  unfold evict
  split
  · rfl
  · dsimp only [note]
    split
    · rw [setEntry, Catalog.find?_insert, if_neg different]
    · rw [Catalog.find?_erase, if_neg different]

theorem entry_evict_of_ne {key other : String} (different : key ≠ other) :
    (state.evict key).2.entry other = state.entry other := by
  unfold entry
  rw [find?_evict_of_ne different]

/-- The graph that is taken out and those that are left under other keys are what there was. -/
theorem installed_evict_cons {key : String} {keys : List String} (nodup : (key :: keys).Nodup) :
    ((state.evict key).1.toList ++
        keys.filterMap fun other => ((state.evict key).2.entry other).installed) =
      (key :: keys).filterMap fun other => (state.entry other).installed := by
  have parts := List.nodup_cons.mp nodup
  have later : (keys.filterMap fun other => ((state.evict key).2.entry other).installed) =
      keys.filterMap fun other => (state.entry other).installed := by
    apply List.filterMap_congr
    intro other member
    have different : key ≠ other := fun same => parts.1 (same ▸ member)
    rw [entry_evict_of_ne different]
  rw [later, evict_installed, List.filterMap_cons]
  cases (state.entry key).installed <;> rfl

/-- An evicted entry has no graph any more. All else stays while a build is in progress, and
goes otherwise. -/
theorem entry_evict (key : String) :
    (state.evict key).2.entry key =
      if (state.entry key).building.isSome then { state.entry key with installed := none }
      else {} := by
  unfold evict
  cases found : state.entries.find? key with
  | none => simp [note, entry, found]
  | some present =>
      have same : state.entry key = present := by rw [entry, found]; rfl
      dsimp only
      rw [← same]
      split
      · exact (entry_setEntry key key _).trans (if_pos rfl)
      · rw [entry, note, Catalog.find?_erase, if_pos rfl]
        rfl

/-- Evicting leaves the marks of builds in progress. -/
theorem building_evict (state : State World Runtime Resource Reply) (key other : String) :
    ((state.evict key).2.entry other).building = (state.entry other).building := by
  by_cases same : key = other
  · subst same
    rw [entry_evict]
    cases marked : (state.entry key).building with
    | none => rfl
    | some id => exact marked
  · rw [entry_evict_of_ne same]

/-- Evicting changes nothing but the entries, and the journal tells of it. -/
theorem evict_eq (state : State World Runtime Resource Reply) (key : String) :
    ∃ entries, (state.evict key).2 =
      { state with entries := entries, journal := state.journal ++ [.emptied key] } := by
  unfold evict
  split
  · exact ⟨_, rfl⟩
  · dsimp only
    split
    · exact ⟨_, rfl⟩
    · exact ⟨_, rfl⟩

/-- A graph that is installed takes the place of the one before, and the mark of its build goes. -/
theorem entry_install (state : State World Runtime Resource Reply) (id : BuildId)
    (startEpoch : Nat) (graph : Graph Runtime Resource) (reason : Option String) (key : String) :
    (state.install id startEpoch graph reason).entry key =
      if id.key = key then
        { state.entry key with
          installed := some ⟨id, graph⟩
          fallbackReason := reason
          builtEpoch := startEpoch
          dirty := (state.entry key).invalidatedEpoch > startEpoch
          building := none }
      else state.entry key := by
  unfold install note
  apply (entry_setEntry id.key key _).trans
  split
  · rename_i same
    rw [same]
  · rfl

theorem entry_abandon (id : BuildId) (text key : String) :
    (state.abandon id text).entry key =
      { state.entry key with
        building := if id.key = key then none else (state.entry key).building } := by
  unfold abandon note setOutcome
  apply (entry_setEntry id.key key _).trans
  split
  · rename_i same
    rw [same]
  · rfl

/-! ## Looking keys up -/

theorem entryState_eq_clean_iff {key : String} :
    state.entryState key = .clean ↔
      (state.entry key).building = none ∧
        (∃ installed, (state.entry key).installed = some installed) ∧
          (state.entry key).dirty = false := by
  unfold entryState Entry.state
  cases (state.entry key).building <;> cases (state.entry key).installed <;>
    cases (state.entry key).dirty <;> simp

theorem startOrJoin_join (builder : Builder World Runtime Resource)
    (state : State World Runtime Resource Reply) {key : String} {build : BuildId}
    (pending : (state.entry key).building = some build) :
    startOrJoin builder state key = (build, state) := by
  unfold startOrJoin
  rw [pending]

/-- The next build of a key. -/
def nextBuild (state : State World Runtime Resource Reply) (key : String) : BuildId :=
  ⟨key, (state.started.find? key).getD 0⟩

theorem startOrJoin_start (builder : Builder World Runtime Resource)
    (state : State World Runtime Resource Reply) {key : String}
    (idle : (state.entry key).building = none) :
    startOrJoin builder state key =
      (state.nextBuild key,
        { state with
          entries := state.entries.insert key
            { state.entry key with building := some (state.nextBuild key) }
          started := state.started.insert key ((state.nextBuild key).number + 1)
          tasks := state.tasks ++ [.building (state.nextBuild key) state.epoch
            (builder.build (state.nextBuild key))]
          journal := state.journal ++ [.started (state.nextBuild key) state.epoch] }) := by
  unfold startOrJoin
  rw [idle]
  rfl

/-- A build that is started marks its key, and leaves the rest of the entry. -/
theorem entry_startOrJoin (builder : Builder World Runtime Resource) {key : String}
    (idle : (state.entry key).building = none) (other : String) :
    (startOrJoin builder state key).2.entry other =
      { state.entry other with
        building :=
          if key = other then some (state.nextBuild key) else (state.entry other).building } := by
  rw [startOrJoin_start builder state idle, entry, Catalog.find?_insert]
  by_cases same : key = other
  · subst same
    rw [if_pos rfl, if_pos rfl]
    rfl
  · rw [if_neg same, if_neg same]
    rfl

/-- After starting or joining a build, the key is marked with it. -/
theorem startOrJoin_building (key : String) :
    ((startOrJoin builder state key).2.entry key).building =
      some (startOrJoin builder state key).1 := by
  unfold startOrJoin
  split
  · assumption
  · simp [note, spawn, setEntry, entry, Catalog.find?_insert_self]

/-- What a look at the cache comes to. -/
theorem lookUp_cases (builder : Builder World Runtime Resource)
    (state : State World Runtime Resource Reply) (key : String) :
    (∃ build, (state.entry key).building = some build ∧
      lookUp builder state key = (.pending build, state)) ∨
    (∃ installed, state.entryState key = .clean ∧
      (state.entry key).installed = some installed ∧
        lookUp builder state key = (.ready installed.id, state)) ∨
    ((state.entry key).building = none ∧ state.entryState key ≠ .clean ∧
      lookUp builder state key =
        (.pending (startOrJoin builder state key).1, (startOrJoin builder state key).2)) := by
  cases building : (state.entry key).building with
  | some build =>
      refine Or.inl ⟨build, rfl, ?_⟩
      simp [lookUp, building]
  | none =>
      apply Or.inr
      cases present : (state.entry key).installed with
      | none =>
          refine Or.inr ⟨rfl, ?_, by simp [lookUp, building, present]⟩
          simp [entryState_eq_clean_iff, present]
      | some installed =>
          cases dirty : (state.entry key).dirty with
          | true =>
              refine Or.inr ⟨rfl, ?_, by simp [lookUp, building, present, dirty]⟩
              simp [entryState_eq_clean_iff, dirty]
          | false =>
              refine Or.inl ⟨installed, ?_, rfl, by simp [lookUp, building, present, dirty]⟩
              exact entryState_eq_clean_iff.mpr ⟨building, ⟨installed, present⟩, dirty⟩

/-! ## Activities -/

/-- Running an activity changes nothing but the world. -/
theorem eq_of_advance {Result : Type} {activity rest : Activity World Result}
    {next : State World Runtime Resource Reply} (advanced : state.advance activity = (rest, next)) :
    ∃ world, next = { state with world := world } :=
  ⟨_, (congrArg Prod.snd advanced).symm⟩

theorem eq_of_resume {Result : Type} {activity rest : Activity World Result}
    {next : State World Runtime Resource Reply} (resumed : state.resume activity = (rest, next)) :
    ∃ world, next = { state with world := world } :=
  ⟨_, (congrArg Prod.snd resumed).symm⟩

/-! ## Timers -/

theorem cancelTimer_eq (state : State World Runtime Resource Reply) (key : String) :
    state.cancelTimer key = state ∨
      state.cancelTimer key =
        { state with timers := state.timers.erase key }.note (.cancelled key) := by
  unfold cancelTimer
  split
  · exact Or.inr rfl
  · exact Or.inl rfl

theorem requestRebuild_eq (state : State World Runtime Resource Reply) (key : String)
    (delay : Time) :
    (state.requestRebuild key delay).2 = state.note (.refused key) ∨
      (state.requestRebuild key delay).2 =
        { state with timers := state.timers.insert key (state.now + delay) }.note
          (.armed key (state.now + delay)) := by
  unfold requestRebuild
  split
  · exact Or.inl rfl
  · exact Or.inr rfl

theorem entries_requestRebuild (key : String) (delay : Time) :
    (state.requestRebuild key delay).2.entries = state.entries := by
  rcases requestRebuild_eq state key delay with same | same <;> rw [same] <;> rfl

theorem entries_cancelTimer (key : String) : (state.cancelTimer key).entries = state.entries := by
  rcases cancelTimer_eq state key with same | same <;> rw [same]
  rfl

theorem entries_cancelTimers (keys : List String) :
    (keys.foldl cancelTimer state).entries = state.entries := by
  induction keys generalizing state with
  | nil => rfl
  | cons key keys induction =>
      rw [List.foldl_cons, induction, entries_cancelTimer]

/-! ## Subscribers -/

theorem notifyFrom_eq (id : BuildId) (position : Nat) (subscribers : List (Subscriber World)) :
    ∃ world holders, (∀ entry ∈ holders, entry.2 = id) ∧
      notifyFrom id position subscribers state =
        { state with
          world := world
          holders := state.holders ++ holders
          journal := state.journal ++
            (List.range' position subscribers.length).map (.notified · id) } := by
  induction subscribers generalizing state position with
  | nil => exact ⟨state.world, [], by simp, by simp [notifyFrom]⟩
  | cons subscriber rest induction =>
      unfold notifyFrom
      dsimp only
      split
      · rcases @induction
            (({ state with world := subscriber.notify id state.world }.note
            (.notified position id)).hold (.subscriber position id) id) (position + 1) with
          ⟨world, holders, owned, same⟩
        refine ⟨world, (.subscriber position id, id) :: holders, ?_, ?_⟩
        · intro entry member
          rcases List.mem_cons.mp member with first | later
          · exact first ▸ rfl
          · exact owned entry later
        · rw [same]
          simp [hold, note, List.range'_succ]
      · rcases @induction
            ({ state with world := subscriber.notify id state.world }.note (.notified position id))
            (position + 1) with ⟨world, holders, owned, same⟩
        refine ⟨world, holders, owned, ?_⟩
        rw [same]
        simp [note, List.range'_succ]

/-- Subscribers change nothing but the world and the holders, and the journal tells of them. -/
theorem notifyAll_eq (state : State World Runtime Resource Reply) (id : BuildId) :
    ∃ world holders, (∀ entry ∈ holders, entry.2 = id) ∧
      state.notifyAll id =
        { state with
          world := world
          holders := state.holders ++ holders
          journal := state.journal ++
            (List.range state.subscribers.length).map (.notified · id) } := by
  rw [List.range_eq_range']
  exact notifyFrom_eq id 0 state.subscribers

/-- A caller that is served may hold the runtime from then on. -/
theorem deliver_eq (state : State World Runtime Resource Reply) (call : CallId)
    (purpose : Purpose) (id : BuildId) :
    ∃ holders, (∀ entry ∈ holders, entry.2 = id) ∧
      state.deliver call purpose id =
        { state with
          holders := state.holders ++ holders
          answers := state.answers ++ [(call, .runtime (.ok id))]
          journal := state.journal ++ [.answered call purpose id.key (.ok id)] } := by
  unfold deliver
  dsimp only
  split
  · exact ⟨[], by simp, by simp [note, setAnswer]⟩
  · exact ⟨[(.call call, id)], by simp, rfl⟩

theorem entries_deliver (call : CallId) (purpose : Purpose) (id : BuildId) :
    (state.deliver call purpose id).entries = state.entries := by
  rcases deliver_eq state call purpose id with ⟨holders, _, same⟩
  rw [same]

theorem entries_notifyAll (state : State World Runtime Resource Reply) (id : BuildId) :
    (state.notifyAll id).entries = state.entries := by
  rcases notifyAll_eq state id with ⟨world, holders, _, same⟩
  rw [same]

/-- To retire a graph is to keep its scope for later, or to begin to close it. -/
theorem retire_eq (builder : Builder World Runtime Resource)
    (state : State World Runtime Resource Reply) (old : Installed Runtime Resource) :
    retire builder state old =
        (.done (), { state with deferred := state.deferred ++ [(old.id, old.graph.scope)] }) ∨
      retire builder state old =
        (builder.closeScope old.graph.scope, state.note (.released old.id)) := by
  unfold retire
  split
  · exact .inl rfl
  · exact .inr rfl

theorem tasks_retire (installed : Installed Runtime Resource) :
    (retire builder state installed).2.tasks = state.tasks := by
  unfold retire
  split <;> rfl

theorem mem_journal_retire (builder : Builder World Runtime Resource) {occurrence : Occurrence}
    (installed : Installed Runtime Resource) (member : occurrence ∈ state.journal) :
    occurrence ∈ (retire builder state installed).2.journal := by
  unfold retire
  split
  · exact member
  · exact List.mem_append_left _ member

theorem entries_retire (installed : Installed Runtime Resource) :
    (retire builder state installed).2.entries = state.entries := by
  unfold retire
  split <;> rfl

end State

end RuntimeCache

end AssistantEngine
