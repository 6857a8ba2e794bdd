import AssistantEngine.Proofs.Concurrency.Spares
import AssistantEngine.Proofs.RuntimeCache.Vacancy

/-!
What is installed under a key, and with which reason. Only two things touch it: the end of a build
that has a graph, and closing; everything else that happens leaves it as it is. So what is known of
all outcomes of the builder is known of every graph and of the reason that its entry gives.
-/

namespace AssistantEngine

namespace Activity

variable {World Result : Type} {holds : Result → Prop} {activity : Activity World Result}

/-- All results that an activity can come to have a property, whatever happens meanwhile. -/
def Promises (holds : Result → Prop) (activity : Activity World Result) : Prop :=
  Spares (fun _ => ()) holds () activity

theorem Promises.resume (promises : activity.Promises holds) (time : Time) (world : World) :
    (activity.resume time world).1.Promises holds :=
  (Spares.resume (fun _ => promises) time world).2 ()

theorem Promises.bind {Other : Type} {last : Other → Prop} {next : Result → Activity World Other}
    (first : activity.Promises holds)
    (second : ∀ result, holds result → (next result).Promises last) :
    (activity.bind next).Promises last :=
  Spares.bind first fun _ result held => second result held

/-- Nothing at all is promised by everybody. -/
theorem promises_nothing (activity : Activity World Result) :
    activity.Promises fun _ => True := by
  induction activity with
  | done result => trivial
  | look piece induction => exact fun time world _ => induction time world
  | put world rest induction => exact ⟨rfl, induction⟩
  | pause deadline ready rest induction => exact fun _ => induction

/-- A sequence promises what its second part promises in any case. -/
theorem promises_bind {Other : Type} {last : Other → Prop} {next : Result → Activity World Other}
    (second : ∀ result, (next result).Promises last) : (activity.bind next).Promises last :=
  Promises.bind (promises_nothing activity) fun result _ => second result

end Activity

namespace RuntimeCache

open Activity (Promises)

variable {World Runtime Resource Reply : Type} {builder : Builder World Runtime Resource}

/-- What closing makes of an entry: it loses its graph if a build is in progress, and goes
otherwise. -/
def Entry.vacated (entry : Entry Runtime Resource) : Option (Entry Runtime Resource) :=
  if entry.building.isSome then some { entry with installed := none } else none

theorem Entry.vacated_bind (entry : Option (Entry Runtime Resource)) :
    (entry.bind Entry.vacated).bind Entry.vacated = entry.bind Entry.vacated := by
  cases entry with
  | none => rfl
  | some entry =>
      change (Entry.vacated entry).bind Entry.vacated = Entry.vacated entry
      cases pending : entry.building <;> simp [Entry.vacated, pending]

/-- Whether an action closes the graph of a key. -/
def Action.Closes (key : String) : Action World Runtime Resource Reply → Prop
  | .close _ other => other = key
  | .closeAll .. => True
  | _ => False

namespace State

variable {holds : Outcome Runtime Resource → Prop}
  {start state next : State World Runtime Resource Reply}

/-- All builds in progress promise outcomes of a kind. -/
def Promising (holds : Outcome Runtime Resource → Prop)
    (state : State World Runtime Resource Reply) : Prop :=
  ∀ id epoch rest, .building id epoch rest ∈ state.tasks → rest.Promises holds

/-! ## What leaves the graphs as they are -/

/-- Nothing is installed or taken out between two states, and no entry goes. -/
structure Steady (holds : Outcome Runtime Resource → Prop)
    (start state : State World Runtime Resource Reply) : Prop where
  installed : ∀ key, (state.entry key).installed = (start.entry key).installed
  reason : ∀ key, (state.entry key).fallbackReason = (start.entry key).fallbackReason
  known : ∀ key, (start.entries.find? key).isSome → (state.entries.find? key).isSome
  promising : start.Promising holds → state.Promising holds

namespace Steady

theorem refl (state : State World Runtime Resource Reply) : Steady holds state state :=
  ⟨fun _ => rfl, fun _ => rfl, fun _ => id, id⟩

theorem trans (first : Steady holds start state) (second : Steady holds state next) :
    Steady holds start next where
  installed key := (second.installed key).trans (first.installed key)
  reason key := (second.reason key).trans (first.reason key)
  known key := second.known key ∘ first.known key
  promising := second.promising ∘ first.promising

/-- The entries stay, and no build is added. -/
theorem quiet (entries : next.entries = state.entries)
    (tasks : ∀ id epoch rest, .building id epoch rest ∈ next.tasks →
      .building id epoch rest ∈ state.tasks) : Steady holds state next where
  installed key := by simp only [entry, entries]
  reason key := by simp only [entry, entries]
  known key := by rw [entries]; exact id
  promising promised id epoch rest member := promised id epoch rest (tasks id epoch rest member)

/-- The entries and the tasks stay. -/
theorem still (entries : next.entries = state.entries) (tasks : next.tasks = state.tasks) :
    Steady holds state next :=
  quiet entries fun _ _ _ member => tasks ▸ member

theorem spawn {task : Task World Runtime Resource Reply}
    (aside : ∀ id, task.name ≠ .building id) : Steady holds state (state.spawn task) := by
  refine quiet rfl fun id epoch rest member => ?_
  rcases List.mem_append.mp member with old | new
  · exact old
  · exact absurd (congrArg Task.name (List.mem_singleton.mp new).symm) (aside id)

theorem dismiss (name : TaskName) : Steady holds state (state.dismiss name) :=
  quiet rfl fun _ _ _ member => mem_of_mem_dismiss member

theorem replace {task : Task World Runtime Resource Reply}
    (aside : ∀ id, task.name ≠ .building id) : Steady holds state (state.replace task) := by
  refine quiet rfl fun id epoch rest member => ?_
  rcases mem_replace member with new | old
  · exact absurd (congrArg Task.name new.symm) (aside id)
  · exact old

theorem deliver (call : CallId) (purpose : Purpose) (id : BuildId) :
    Steady holds state (state.deliver call purpose id) := by
  rcases deliver_eq state call purpose id with ⟨holders, _, same⟩
  rw [same]
  exact still rfl rfl

theorem requestRebuild (key : String) (delay : Time) :
    Steady holds state (state.requestRebuild key delay).2 := by
  rcases requestRebuild_eq state key delay with same | same <;> rw [same] <;> exact still rfl rfl

theorem invalidate (key : String) : Steady holds state (state.invalidate key) where
  installed other := by rw [entry_invalidate]; split <;> rfl
  reason other := by rw [entry_invalidate]; split <;> rfl
  known other present := by
    rw [find?_invalidate]
    split
    · rwa [Option.isSome_map]
    · exact present
  promising := id

theorem invalidateAll : Steady holds state state.invalidateAll where
  installed key := by rw [entry_invalidateAll]; split <;> rfl
  reason key := by rw [entry_invalidateAll]; split <;> rfl
  known key present := by
    unfold State.invalidateAll note
    dsimp only
    rw [Catalog.find?_mapValues, Option.isSome_map]
    exact present
  promising := id

section Builds

variable (yields : ∀ id, (builder.build id).Promises holds)
include yields

/-- A build that begins promises what the builder promises. -/
theorem startOrJoin (key : String) :
    Steady holds state (State.startOrJoin builder state key).2 := by
  cases pending : (state.entry key).building with
  | some build =>
      rw [startOrJoin_join builder state pending]
      exact refl state
  | none =>
      refine ⟨fun other => ?_, fun other => ?_, fun other present => ?_, fun promised => ?_⟩
      · rw [entry_startOrJoin builder pending]
      · rw [entry_startOrJoin builder pending]
      · rw [startOrJoin_start builder state pending, Catalog.find?_insert]
        split
        · rfl
        · exact present
      · rw [startOrJoin_start builder state pending]
        intro id epoch rest member
        rcases List.mem_append.mp member with old | new
        · exact promised id epoch rest old
        · cases List.mem_singleton.mp new
          exact yields _

theorem lookUp (key : String) : Steady holds state (State.lookUp builder state key).2 := by
  rcases lookUp_cases builder state key with
    ⟨build, _, found⟩ | ⟨installed, _, _, found⟩ | ⟨_, _, found⟩
  · rw [found]
    exact refl state
  · rw [found]
    exact refl state
  · rw [found]
    exact startOrJoin yields key

theorem beginGet (call : CallId) (key : String) :
    Steady holds state (State.beginGet builder state call key) := by
  have looked : Steady holds state (State.lookUp builder state key).2 := lookUp yields key
  unfold State.beginGet
  split <;> rename_i found <;> rw [found] at looked
  · exact looked.trans (deliver call .get _)
  · exact looked.trans (spawn fun _ => TaskName.noConfusion)

theorem beginRebuild (call : CallId) (key : String) :
    Steady holds state (State.beginRebuild builder state call key) :=
  (startOrJoin yields key).trans (spawn fun _ => TaskName.noConfusion)

theorem refresh (key : String) : Steady holds state (State.refresh builder state key) := by
  have looked : Steady holds state (State.lookUp builder state key).2 := lookUp yields key
  unfold State.refresh
  split <;> rename_i found <;> rw [found] at looked
  · exact looked.trans (still rfl rfl)
  · exact looked.trans (spawn fun _ => TaskName.noConfusion)

theorem fire (key : String) : Steady holds state (State.fire builder state key) := by
  have fired : Steady holds state
      ({ state with timers := state.timers.erase key }.note (.fired key state.now)) :=
    still rfl rfl
  exact (fired.trans (invalidate key)).trans (refresh yields key)

theorem receive (call : CallId) (build : BuildId) (purpose : Purpose)
    (outcome : Except String Unit) :
    Steady holds state (State.receive builder state call build purpose outcome) := by
  cases outcome with
  | error text => exact still rfl rfl
  | ok delivered =>
      cases purpose with
      | get => exact beginGet yields call build.key
      | rebuild => exact deliver call .rebuild build

end Builds

theorem beginWork (call : CallId) (held : Option BuildId) (activity : Activity World Reply) :
    Steady holds state (state.beginWork call held activity) := by
  unfold State.beginWork
  split <;> rename_i advanced <;> rcases eq_of_advance advanced with ⟨world, rfl⟩
  · exact still rfl rfl
  · have turned : Steady holds state { state with world := world } := still rfl rfl
    exact turned.trans (spawn fun _ => TaskName.noConfusion)

/-! ## Retiring graphs -/

theorem retire (graph : Installed Runtime Resource) :
    Steady holds state (State.retire builder state graph).2 :=
  still (entries_retire graph) (tasks_retire graph)

/-- What is left of the closing of graphs changes no entry, and is no build. -/
theorem closeGraphs (call : CallId) (hadGraph : Bool) (afterwards : Activity World Unit)
    (remaining : List (Installed Runtime Resource)) (current : Activity World Unit) :
    Steady holds state
      (State.closeGraphs builder call hadGraph afterwards remaining current state) := by
  induction remaining generalizing state current with
  | nil =>
      unfold State.closeGraphs
      split <;> rename_i advanced <;> rcases eq_of_advance advanced with ⟨world, rfl⟩
      · exact still rfl rfl
      · have turned : Steady holds state { state with world := world } := still rfl rfl
        exact turned.trans (spawn fun _ => TaskName.noConfusion)
  | cons graph remaining induction =>
      unfold State.closeGraphs
      split <;> rename_i advanced <;> rcases eq_of_advance advanced with ⟨world, rfl⟩
      all_goals have turned : Steady holds state { state with world := world } := still rfl rfl
      · exact (turned.trans (retire graph)).trans (induction _)
      · exact turned.trans (spawn fun _ => TaskName.noConfusion)

theorem releaseDropped : Steady holds state state.releaseDropped := by
  refine quiet rfl fun id epoch rest member => ?_
  rcases List.mem_append.mp member with old | new
  · exact old
  · rcases List.mem_map.mp new with ⟨deferred, _, same⟩
    cases same

theorem abandon (id : BuildId) (text : String) : Steady holds state (state.abandon id text) where
  installed key := by rw [entry_abandon]
  reason key := by rw [entry_abandon]
  known key present := by
    change ((state.entries.insert _ _).find? key).isSome
    rw [Catalog.find?_insert]
    split
    · rfl
    · exact present
  promising promised := promised

end Steady

/-! ## Closing -/

theorem find?_evict (key other : String) :
    (state.evict key).2.entries.find? other =
      if key = other then (state.entries.find? other).bind Entry.vacated
      else state.entries.find? other := by
  by_cases same : key = other
  · subst same
    rw [if_pos rfl]
    unfold evict
    cases found : state.entries.find? key with
    | none => exact found
    | some entry =>
        cases pending : entry.building with
        | none => simp [note, Entry.vacated, pending, Catalog.find?_erase]
        | some build => simp [note, setEntry, Entry.vacated, pending, Catalog.find?_insert]
  · rw [if_neg same, find?_evict_of_ne same]

/-- Evicting a key again makes no difference. -/
theorem find?_evictAll (state : State World Runtime Resource Reply) (keys : List String)
    (key : String) :
    (keys.foldl (fun state key => (state.evict key).2) state).entries.find? key =
      if key ∈ keys then (state.entries.find? key).bind Entry.vacated
      else state.entries.find? key := by
  induction keys generalizing state with
  | nil => simp
  | cons first keys induction =>
      rw [List.foldl_cons, induction, find?_evict]
      by_cases same : first = key
      · simp [same, Entry.vacated_bind]
      · simp [same, Ne.symm same]

theorem find?_beginClose (call : CallId) (key other : String) :
    (beginClose builder state call key).entries.find? other =
      if key = other then (state.entries.find? other).bind Entry.vacated
      else state.entries.find? other := by
  unfold beginClose
  rw [entries_closeGraphs]
  change ((state.cancelTimer key).evict key).2.entries.find? other = _
  rw [find?_evict, entries_cancelTimer]

theorem find?_beginCloseAll (call : CallId) (afterwards : Activity World Unit) (key : String) :
    (beginCloseAll builder state call afterwards).entries.find? key =
      (state.entries.find? key).bind Entry.vacated := by
  have entries : (state.timers.keys.foldl cancelTimer state).entries = state.entries :=
    entries_cancelTimers state.timers.keys
  unfold beginCloseAll
  rw [entries_closeGraphs, find?_evictAll]
  change (if key ∈ (state.timers.keys.foldl cancelTimer state).entries.keys then
    ((state.timers.keys.foldl cancelTimer state).entries.find? key).bind Entry.vacated
    else (state.timers.keys.foldl cancelTimer state).entries.find? key) = _
  rw [entries]
  split
  · rfl
  · rename_i unknown
    cases found : state.entries.find? key with
    | none => rfl
    | some entry => exact absurd (Catalog.mem_keys_of_find? found) unknown

theorem promising_evict (promised : state.Promising holds) (key : String) :
    (state.evict key).2.Promising holds := by
  rcases evict_eq state key with ⟨entries, same⟩
  rw [same]
  exact promised

theorem promising_evictAll (promised : state.Promising holds) (keys : List String) :
    (keys.foldl (fun state key => (state.evict key).2) state).Promising holds := by
  induction keys generalizing state with
  | nil => exact promised
  | cons key keys induction => exact induction (promising_evict promised key)

theorem promising_cancelTimers (promised : state.Promising holds) (keys : List String) :
    (keys.foldl cancelTimer state).Promising holds := by
  induction keys generalizing state with
  | nil => exact promised
  | cons key keys induction =>
      refine induction ?_
      rcases cancelTimer_eq state key with same | same <;> rw [same] <;> exact promised

theorem promising_beginClose (promised : state.Promising holds) (call : CallId) (key : String) :
    (beginClose builder state call key).Promising holds :=
  (Steady.closeGraphs call _ _ _ _).promising
    (promising_evict (promising_cancelTimers promised [key]) key)

theorem promising_beginCloseAll (promised : state.Promising holds) (call : CallId)
    (afterwards : Activity World Unit) :
    (beginCloseAll builder state call afterwards).Promising holds := by
  let noted := (state.timers.keys.foldl cancelTimer state).note (.closedAll call)
  have promising : noted.Promising holds := promising_cancelTimers promised state.timers.keys
  exact (Steady.closeGraphs call _ _ _ _).promising (promising_evictAll promising _)

/-! ## Steps -/

/-- What an action makes of what is installed under a key. -/
inductive Alters (holds : Outcome Runtime Resource → Prop)
    (action : Action World Runtime Resource Reply) (key : String)
    (state next : State World Runtime Resource Reply) : Prop where
  | keeps (installed : (next.entry key).installed = (state.entry key).installed)
      (reason : (next.entry key).fallbackReason = (state.entry key).fallbackReason)
      (known : (state.entries.find? key).isSome → (next.entries.find? key).isSome)
  | closes (closes : action.Closes key)
      (left : next.entries.find? key = (state.entries.find? key).bind Entry.vacated)
  | installs (id : BuildId) (graph : Graph Runtime Resource) (outcome : Outcome Runtime Resource)
      (held : holds outcome) (given : outcome.graph? = some graph)
      (installed : (next.entry key).installed = some ⟨id, graph⟩)
      (reason : (next.entry key).fallbackReason = outcome.reason?)

variable {action : Action World Runtime Resource Reply}

theorem Steady.alters (steady : Steady holds state next) (key : String) :
    Alters holds action key state next :=
  .keeps (steady.installed key) (steady.reason key) (steady.known key)

/-- What matters of two states are their entries. -/
theorem Alters.congr {earlier later : State World Runtime Resource Reply} {key : String}
    (alters : Alters holds action key state next) (before : earlier.entries = state.entries)
    (after : later.entries = next.entries) : Alters holds action key earlier later := by
  have first : earlier.entry key = state.entry key := by simp only [entry, before]
  have last : later.entry key = next.entry key := by simp only [entry, after]
  cases alters with
  | keeps installed reason known =>
      refine .keeps ?_ ?_ ?_
      · rw [first, last, installed]
      · rw [first, last, reason]
      · rw [before, after]
        exact known
  | closes closes left => exact .closes closes (by rw [before, after, left])
  | installs id graph outcome held given installed reason =>
      exact .installs id graph outcome held given (last ▸ installed) (last ▸ reason)

/-- What happens after a new graph was installed changes no entry, and begins no build. -/
theorem beginClose_alters (call : CallId) (key other : String) :
    Alters holds (.close call key) other state (beginClose builder state call key) := by
  have left : (beginClose builder state call key).entries.find? other = _ :=
    find?_beginClose call key other
  by_cases same : key = other
  · rw [if_pos same] at left
    exact .closes same left
  · rw [if_neg same] at left
    refine .keeps ?_ ?_ fun known => ?_
    · exact congrArg (fun entry => (entry.getD {}).installed) left
    · exact congrArg (fun entry => (entry.getD {}).fallbackReason) left
    · exact (congrArg Option.isSome left).trans known

theorem entries_replaceGraph (id : BuildId) (startEpoch : Nat) (graph : Graph Runtime Resource)
    (reason : Option String) :
    (replaceGraph builder state id startEpoch graph reason).entries =
      (state.install id startEpoch graph reason).entries := by
  unfold replaceGraph
  dsimp only
  split
  · exact entries_notifyAll _ id
  · rename_i old _
    split <;> rename_i advanced <;> rcases eq_of_advance advanced with ⟨world, rfl⟩ <;>
      exact (entries_retire old).trans (entries_notifyAll _ id)

theorem promising_notifyAll (promised : state.Promising holds) (id : BuildId) :
    (state.notifyAll id).Promising holds := by
  rcases notifyAll_eq state id with ⟨world, holders, _, same⟩
  rw [same]
  exact promised

theorem promising_replaceGraph (promised : state.Promising holds) (id : BuildId)
    (startEpoch : Nat) (graph : Graph Runtime Resource) (reason : Option String) :
    (replaceGraph builder state id startEpoch graph reason).Promising holds := by
  have placed : ((state.install id startEpoch graph reason).setOutcome id (.ok ())).Promising
      holds := promised
  have told := promising_notifyAll placed id
  unfold replaceGraph
  dsimp only
  split
  · exact told
  · rename_i old _
    have retired : (State.retire builder _ old).2.Promising holds :=
      (Steady.retire old).promising told
    split <;> rename_i advanced <;> rcases eq_of_advance advanced with ⟨world, rfl⟩
    · exact retired
    · exact (Steady.spawn fun _ => TaskName.noConfusion).promising retired

/-- The graph of a build that ends is installed, and the entries of other keys stay. -/
theorem replaceGraph_alters {id : BuildId} {outcome : Outcome Runtime Resource}
    {graph : Graph Runtime Resource} (held : holds outcome) (given : outcome.graph? = some graph)
    (startEpoch : Nat) (key : String) :
    Alters holds action key state
      (replaceGraph builder state id startEpoch graph outcome.reason?) := by
  have placed : Alters holds action key state
      (state.install id startEpoch graph outcome.reason?) := by
    have entered := entry_install state id startEpoch graph outcome.reason? key
    by_cases same : id.key = key
    · rw [if_pos same] at entered
      exact .installs id graph outcome held given (congrArg Entry.installed entered)
        (congrArg Entry.fallbackReason entered)
    · rw [if_neg same] at entered
      refine .keeps (congrArg Entry.installed entered) (congrArg Entry.fallbackReason entered) ?_
      intro present
      change ((state.entries.insert id.key _).find? key).isSome
      rwa [Catalog.find?_insert, if_neg same]
  exact placed.congr rfl (entries_replaceGraph id startEpoch graph outcome.reason?)

/-- A build that ends installs its graph, or leaves what there is. -/
theorem finishBuild_alters {outcome : Outcome Runtime Resource} (held : holds outcome)
    (id : BuildId) (startEpoch : Nat) (key : String) :
    Alters holds action key state (finishBuild builder state id startEpoch outcome) := by
  cases outcome with
  | workflow graph => exact replaceGraph_alters held rfl startEpoch key
  | fallback graph reason => exact replaceGraph_alters held rfl startEpoch key
  | failed fault => exact (Steady.abandon id _).alters key
  | panicked => exact (Steady.abandon id _).alters key

theorem promising_finishBuild (promised : state.Promising holds) (id : BuildId) (startEpoch : Nat)
    (outcome : Outcome Runtime Resource) :
    (finishBuild builder state id startEpoch outcome).Promising holds := by
  cases outcome with
  | workflow graph => exact promising_replaceGraph promised id startEpoch graph none
  | fallback graph reason => exact promising_replaceGraph promised id startEpoch graph (some reason)
  | failed fault => exact (Steady.abandon id _).promising promised
  | panicked => exact (Steady.abandon id _).promising promised

section Steps

variable (yields : ∀ id, (builder.build id).Promises holds)
include yields

/-- A task that is no build leaves the graphs as they are when it goes on. -/
theorem Steady.proceed {task : Task World Runtime Resource Reply}
    (aside : ∀ id, task.name ≠ .building id) :
    Steady holds state (State.proceed builder state task) := by
  have dismissed (name : TaskName) : Steady holds state (state.dismiss name) := .dismiss name
  have turned (world : World) : Steady holds state { state with world := world } := .still rfl rfl
  cases task with
  | building id => exact absurd rfl (aside id)
  | waiting call build purpose =>
      unfold State.proceed
      dsimp only
      split
      · exact (dismissed _).trans (.receive yields call build purpose _)
      · exact .refl state
  | refreshing build =>
      unfold State.proceed
      dsimp only
      split
      · exact (dismissed _).trans (.refresh yields build.key)
      · exact (dismissed _).trans (.still rfl rfl)
      · exact .refl state
  | finishing id rest =>
      unfold State.proceed
      dsimp only
      split <;> rename_i resumed <;> rcases eq_of_resume resumed with ⟨world, rfl⟩
      · exact (turned world).trans (.dismiss _)
      · exact (turned world).trans (.replace fun _ => TaskName.noConfusion)
  | orphaned id scope =>
      have released (world : World) : Steady holds state
          { (state.dismiss (.orphaned id)).note (.released id) with world := world } :=
        (dismissed _).trans (.still rfl rfl)
      unfold State.proceed
      dsimp only
      split <;> rename_i advanced <;> rcases eq_of_advance advanced with ⟨world, rfl⟩
      · exact released world
      · exact (released world).trans (.spawn fun _ => TaskName.noConfusion)
  | releasing id rest =>
      unfold State.proceed
      dsimp only
      split <;> rename_i resumed <;> rcases eq_of_resume resumed with ⟨world, rfl⟩
      · exact (turned world).trans (.dismiss _)
      · exact (turned world).trans (.replace fun _ => TaskName.noConfusion)
  | closing call hadGraph current remaining afterwards =>
      unfold State.proceed
      dsimp only
      cases resumed : state.resume current with
      | mk left next =>
          rcases eq_of_resume resumed with ⟨world, rfl⟩
          exact ((turned world).trans (.dismiss _)).trans (.closeGraphs call _ _ _ _)
  | working call held rest =>
      unfold State.proceed
      dsimp only
      split <;> rename_i resumed <;> rcases eq_of_resume resumed with ⟨world, rfl⟩
      · exact ((turned world).trans (.dismiss (.working call))).trans (.still rfl rfl)
      · exact (turned world).trans (.replace fun _ => TaskName.noConfusion)

/-- A task that goes on installs a graph if it is a build that ends with one. -/
theorem proceed_alters {task : Task World Runtime Resource Reply} (promised : state.Promising holds)
    (member : task ∈ state.tasks) :
    (∀ key, Alters holds action key state (State.proceed builder state task)) ∧
      (State.proceed builder state task).Promising holds := by
  have aside (steady : Steady holds state (State.proceed builder state task)) :
      (∀ key, Alters holds action key state (State.proceed builder state task)) ∧
        (State.proceed builder state task).Promising holds :=
    ⟨steady.alters, steady.promising promised⟩
  cases task with
  | building id startEpoch rest =>
      have rests : (rest.resume state.now state.world).1.Promises holds :=
        (promised id startEpoch rest member).resume state.now state.world
      unfold State.proceed
      dsimp only
      split
      · rename_i outcome next resumed
        have ended : (rest.resume state.now state.world).1 = .done outcome :=
          congrArg Prod.fst resumed
        rcases eq_of_resume resumed with ⟨world, rfl⟩
        rw [ended] at rests
        let remaining := { state with world := world }.dismiss (.building id)
        have promising : remaining.Promising holds :=
          (Steady.dismiss (.building id)).promising promised
        have alters (key : String) : Alters holds action key remaining
            (finishBuild builder remaining id startEpoch outcome) :=
          finishBuild_alters rests id startEpoch key
        exact ⟨fun key => (alters key).congr rfl rfl,
          promising_finishBuild promising id startEpoch outcome⟩
      · rename_i further next _ resumed
        have left : (rest.resume state.now state.world).1 = further := congrArg Prod.fst resumed
        rcases eq_of_resume resumed with ⟨world, rfl⟩
        refine ⟨fun key => .keeps rfl rfl fun known => known, fun other epoch activity within => ?_⟩
        rcases mem_replace within with new | old
        · cases new
          exact left ▸ rests
        · exact promised other epoch activity old
  | _ => exact aside (.proceed yields fun _ => TaskName.noConfusion)

/-- Every action keeps what is installed, closes it, or is the end of a build. -/
theorem perform_alters (promised : state.Promising holds)
    (action : Action World Runtime Resource Reply) :
    (∀ key, Alters holds action key state (perform builder state action)) ∧
      (perform builder state action).Promising holds := by
  have quietly {next : State World Runtime Resource Reply} (steady : Steady holds state next) :
      (∀ key, Alters holds action key state next) ∧ next.Promising holds :=
    ⟨steady.alters, steady.promising promised⟩
  cases action with
  | get call key =>
      have asked : Steady holds state (state.note (.asked call .get key)) := .still rfl rfl
      exact quietly (asked.trans (.beginGet yields call key))
  | rebuild call key =>
      have asked : Steady holds state (state.note (.asked call .rebuild key)) := .still rfl rfl
      exact quietly (asked.trans (.beginRebuild yields call key))
  | work call held activity =>
      unfold perform
      dsimp only
      split
      · exact quietly (.beginWork call held activity)
      · exact quietly (.refl state)
  | invalidate key => exact quietly (.invalidate key)
  | invalidateAll => exact quietly .invalidateAll
  | requestRebuild key delay => exact quietly (.requestRebuild key delay)
  | close call key =>
      exact ⟨beginClose_alters call key, promising_beginClose promised call key⟩
  | closeAll call afterwards =>
      exact ⟨fun key => .closes trivial (find?_beginCloseAll call afterwards key),
        promising_beginCloseAll promised call afterwards⟩
  | subscribe subscriber => exact quietly (.still rfl rfl)
  | share holder id =>
      unfold perform
      dsimp only
      split
      · exact quietly (.still rfl rfl)
      · exact quietly (.refl state)
  | drop holder => exact quietly (.still rfl rfl)
  | forget call => exact quietly (.still rfl rfl)
  | edit change => exact quietly (.still rfl rfl)
  | elapse duration => exact quietly (.still rfl rfl)
  | fire key =>
      unfold perform
      dsimp only
      split
      · split
        · exact quietly (.fire yields key)
        · exact quietly (.refl state)
      · exact quietly (.refl state)
  | resume name =>
      unfold perform
      dsimp only
      split
      · rename_i task found
        split
        · exact proceed_alters yields promised (mem_of_task? found)
        · exact quietly (.refl state)
      · exact quietly (.refl state)

theorem step_alters (promised : state.Promising holds)
    (action : Action World Runtime Resource Reply) :
    (∀ key, Alters holds action key state (step builder state action)) ∧
      (step builder state action).Promising holds := by
  rcases perform_alters yields promised action with ⟨alters, promising⟩
  exact ⟨fun key => (alters key).congr rfl rfl, Steady.releaseDropped.promising promising⟩

end Steps

/-! ## Runs -/

/-- The reason that is left over under a key: its graph was closed during a build, and ever since
the key has had an entry, without a graph. -/
def Lingers (builder : Builder World Runtime Resource) (reasonOf : Runtime → Option String)
    (start : State World Runtime Resource Reply)
    (actions : List (Action World Runtime Resource Reply)) (key reason : String) : Prop :=
  ∃ front action back, actions = front ++ action :: back ∧ action.Closes key ∧
    ((run builder start front).entry key).building.isSome ∧
    (∃ installed, ((run builder start front).entry key).installed = some installed ∧
      reasonOf installed.graph.runtime = some reason) ∧
    ∀ between, between <+: back →
      let later := run builder start (front ++ action :: between)
      (later.entries.find? key).isSome ∧ (later.entry key).installed = none

namespace Lingers

variable {reasonOf : Runtime → Option String} {actions : List (Action World Runtime Resource Reply)}
  {key reason : String}

/-- A reason is left over when a graph is closed during a build. -/
theorem begin (closes : action.Closes key)
    (building : ((run builder start actions).entry key).building.isSome)
    {installed : Installed Runtime Resource}
    (present : ((run builder start actions).entry key).installed = some installed)
    (because : reasonOf installed.graph.runtime = some reason)
    (known : ((run builder start (actions ++ [action])).entries.find? key).isSome)
    (gone : ((run builder start (actions ++ [action])).entry key).installed = none) :
    Lingers builder reasonOf start (actions ++ [action]) key reason := by
  refine ⟨actions, action, [], rfl, closes, building, ⟨installed, present, because⟩, ?_⟩
  intro between within
  cases List.prefix_nil.mp within
  exact ⟨known, gone⟩

/-- It stays while the entry does and has no graph. -/
theorem extend (lingers : Lingers builder reasonOf start actions key reason)
    (known : ((run builder start (actions ++ [action])).entries.find? key).isSome)
    (gone : ((run builder start (actions ++ [action])).entry key).installed = none) :
    Lingers builder reasonOf start (actions ++ [action]) key reason := by
  rcases lingers with ⟨front, closing, back, rfl, closes, building, present, since⟩
  refine ⟨front, closing, back ++ [action], by simp, closes, building, present, ?_⟩
  intro between within
  rcases List.prefix_concat_iff.mp within with rfl | earlier
  · rw [List.append_assoc] at known gone
    exact ⟨known, gone⟩
  · exact since between earlier

theorem vacant (lingers : Lingers builder reasonOf start actions key reason) :
    ((run builder start actions).entries.find? key).isSome ∧
      ((run builder start actions).entry key).installed = none := by
  rcases lingers with ⟨front, closing, back, rfl, _, _, _, since⟩
  exact since back List.prefix_rfl

/-- What is left over after a further action was so before, or this action has left it. -/
theorem of_concat (lingers : Lingers builder reasonOf start (actions ++ [action]) key reason) :
    Lingers builder reasonOf start actions key reason ∨
      action.Closes key ∧ ((run builder start actions).entry key).building.isSome ∧
        ∃ installed, ((run builder start actions).entry key).installed = some installed ∧
          reasonOf installed.graph.runtime = some reason := by
  rcases lingers with ⟨front, closing, back, split, closes, building, present, since⟩
  rcases List.eq_nil_or_concat back with rfl | ⟨earlier, last, rfl⟩
  · rcases List.append_inj' split rfl with ⟨rfl, same⟩
    cases same
    exact .inr ⟨closes, building, present⟩
  · have whole : actions ++ [action] = (front ++ closing :: earlier) ++ [last] := by
      simpa using split
    rcases List.append_inj' whole rfl with ⟨rfl, _⟩
    refine .inl ⟨front, closing, earlier, rfl, closes, building, present, ?_⟩
    intro between within
    exact since between (within.trans (List.concat_eq_append ▸ List.prefix_append earlier [last]))

end Lingers

end State

/-- An outcome says of its graph what the graph says of itself. -/
def Outcome.Truthful (reasonOf : Runtime → Option String)
    (outcome : Outcome Runtime Resource) : Prop :=
  ∀ graph, outcome.graph? = some graph → outcome.reason? = reasonOf graph.runtime

namespace State

variable {reasonOf : Runtime → Option String} {start : State World Runtime Resource Reply}
  {actions : List (Action World Runtime Resource Reply)}
  {action : Action World Runtime Resource Reply} {key : String}

/-- What an entry tells after a run. -/
structure Tells (builder : Builder World Runtime Resource) (reasonOf : Runtime → Option String)
    (start : State World Runtime Resource Reply)
    (actions : List (Action World Runtime Resource Reply)) (key : String) : Prop where
  /-- It gives the reason of the graph that is installed. -/
  present : ∀ installed, ((run builder start actions).entry key).installed = some installed →
    ((run builder start actions).entry key).fallbackReason = reasonOf installed.graph.runtime
  /-- Where no graph is installed, it gives the reason that is left over. -/
  absent : ((run builder start actions).entry key).installed = none → ∀ reason,
    ((run builder start actions).entry key).fallbackReason = some reason ↔
      Lingers builder reasonOf start actions key reason

namespace Tells

/-- A key without an entry tells nothing. -/
theorem unknown (gone : (run builder start actions).entries.find? key = none) :
    Tells builder reasonOf start actions key := by
  have vacant : (run builder start actions).entry key = {} := by rw [entry, gone]; rfl
  refine ⟨fun installed present => ?_, fun _ reason => ⟨fun given => ?_, fun lingers => ?_⟩⟩
  · rw [vacant] at present
    cases present
  · rw [vacant] at given
    cases given
  · have known := lingers.vacant.1
    rw [gone] at known
    cases known

theorem keep (tells : Tells builder reasonOf start actions key)
    (installed : ((run builder start (actions ++ [action])).entry key).installed =
      ((run builder start actions).entry key).installed)
    (reason : ((run builder start (actions ++ [action])).entry key).fallbackReason =
      ((run builder start actions).entry key).fallbackReason)
    (known : ((run builder start actions).entries.find? key).isSome →
      ((run builder start (actions ++ [action])).entries.find? key).isSome) :
    Tells builder reasonOf start (actions ++ [action]) key where
  present graph present := reason.trans (tells.present graph (installed ▸ present))
  absent gone because := by
    have before : ((run builder start actions).entry key).installed = none := installed ▸ gone
    rw [reason, tells.absent before because]
    constructor
    · exact fun lingers => lingers.extend (known lingers.vacant.1) gone
    · intro lingers
      rcases lingers.of_concat with earlier | ⟨_, _, graph, present, _⟩
      · exact earlier
      · rw [before] at present
        cases present

/-- Where a graph is closed during a build, its reason is left over. -/
theorem vacate (tells : Tells builder reasonOf start actions key) (closes : action.Closes key)
    (building : ((run builder start actions).entry key).building.isSome)
    (known : ((run builder start (actions ++ [action])).entries.find? key).isSome)
    (left : (run builder start (actions ++ [action])).entry key =
      { (run builder start actions).entry key with installed := none }) :
    Tells builder reasonOf start (actions ++ [action]) key where
  present graph present := by
    rw [left] at present
    cases present
  absent gone because := by
    have reason := congrArg Entry.fallbackReason left
    dsimp only at reason
    rw [reason]
    cases present : ((run builder start actions).entry key).installed with
    | none =>
        rw [tells.absent present because]
        constructor
        · exact fun lingers => lingers.extend known gone
        · intro lingers
          rcases lingers.of_concat with earlier | ⟨_, _, graph, installed, _⟩
          · exact earlier
          · rw [present] at installed
            cases installed
    | some graph =>
        rw [tells.present graph present]
        constructor
        · exact fun same => .begin closes building present same known gone
        · intro lingers
          rcases lingers.of_concat with earlier | ⟨_, _, other, installed, same⟩
          · have vacant := earlier.vacant.2
            rw [present] at vacant
            cases vacant
          · rw [present] at installed
            cases installed
            exact same

theorem alter (tells : Tells builder reasonOf start actions key)
    (alters : Alters (Outcome.Truthful reasonOf) action key (run builder start actions)
      (run builder start (actions ++ [action]))) :
    Tells builder reasonOf start (actions ++ [action]) key := by
  cases alters with
  | keeps installed reason known => exact tells.keep installed reason known
  | closes closes left =>
      cases found : (run builder start actions).entries.find? key with
      | none =>
          rw [found] at left
          exact unknown left
      | some entry =>
          have same : (run builder start actions).entry key = entry := by
            rw [State.entry, found]
            rfl
          rw [found] at left
          change _ = Entry.vacated entry at left
          unfold Entry.vacated at left
          split at left
          · rename_i building
            refine tells.vacate closes (same ▸ building) (left ▸ rfl) ?_
            rw [State.entry, left, same]
            rfl
          · exact unknown left
  | installs id graph outcome truthful given installed reason =>
      refine ⟨fun other present => ?_, fun gone => ?_⟩
      · rw [installed] at present
        cases present
        exact reason.trans (truthful graph given)
      · rw [installed] at gone
        cases gone

end Tells

/-- What entries tell after every run. -/
theorem run_tells (yields : ∀ id, (builder.build id).Promises (Outcome.Truthful reasonOf))
    (world : World) (actions : List (Action World Runtime Resource Reply)) (key : String) :
    Tells builder reasonOf { world := world } actions key := by
  have both : (∀ key, Tells builder reasonOf { world := world } actions key) ∧
      (run builder { world := world } actions).Promising (Outcome.Truthful reasonOf) := by
    induction actions using List.reverseRecOn with
    | nil => exact ⟨fun key => .unknown rfl, fun id epoch rest => nofun⟩
    | append_singleton actions action induction =>
        rcases step_alters yields induction.2 action with ⟨alters, promising⟩
        have stepped : run builder { world := world } (actions ++ [action]) = _ :=
          run_concat builder { world := world } actions action
        exact ⟨fun key => (induction.1 key).alter (stepped ▸ alters key), stepped ▸ promising⟩
  exact both.1 key

end State

end RuntimeCache

end AssistantEngine
