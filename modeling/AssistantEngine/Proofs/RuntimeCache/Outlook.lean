import AssistantEngine.Proofs.RuntimeCache.Step

/-!
What the runtime cache looks like from one key: the entry of the key, its timer, its builds and
those who wait for them, and what the journal tells about it. Every operation changes the outlook
of its own key in a definite way, and no other.
-/

namespace AssistantEngine

namespace RuntimeCache

/-! ## What is about a key -/

namespace TaskName

/-- The key that a task is about, if every call is about one. -/
def key? (keyOf : CallId → String) : TaskName → Option String
  | waiting call => some (keyOf call)
  | closing call => some (keyOf call)
  | refreshing id => some id.key
  | building id => some id.key
  | finishing id => some id.key
  | orphaned id => some id.key
  | releasing id => some id.key
  | working _ => none

/-- Whether a task is part of getting a runtime: it builds one or waits for it. -/
def serves : TaskName → Bool
  | waiting _ => true
  | refreshing _ => true
  | building _ => true
  | _ => false

/-- Whether a task is part of getting a runtime for a key. -/
def serving (keyOf : CallId → String) (key : String) (name : TaskName) : Bool :=
  name.serves && name.key? keyOf = some key

theorem serving_of_serves {keyOf : CallId → String} {key : String} {name : TaskName}
    (serves : name.serves = true) (concerns : (name.key? keyOf).all (· = key)) :
    name.serving keyOf key := by
  cases name <;> simp_all [serving, TaskName.serves, key?]

end TaskName

namespace Occurrence

/-- The key that an occurrence is about, if it is not about all of them. -/
def key? : Occurrence → Option String
  | asked _ _ key => some key
  | started id _ => some id.key
  | installed id => some id.key
  | failed id => some id.key
  | notified _ id => some id.key
  | invalidated key => some key
  | invalidatedAll => none
  | armed key _ => some key
  | refused key => some key
  | fired key _ => some key
  | cancelled key => some key
  | refreshed key _ => some key
  | answered _ _ key _ => some key
  | closed _ key _ => some key
  | closedAll _ => none
  | emptied key => some key
  | released id => some id.key

/-- An occurrence without its epoch; the closing of scopes is left out. -/
def undated : Occurrence → Option Occurrence
  | started id _ => some (started id 0)
  | released _ => none
  | other => some other

/-- What an occurrence tells about a key. -/
def about (key : String) (occurrence : Occurrence) : Option Occurrence :=
  if occurrence.key?.all (· = key) then occurrence.undated else none

theorem about_of_ne {key other : String} {occurrence : Occurrence}
    (elsewhere : occurrence.key? = some other) (different : other ≠ key) :
    occurrence.about key = none := by
  unfold about
  rw [elsewhere]
  simp [different]

@[simp] theorem about_released (key : String) (id : BuildId) : (released id).about key = none := by
  unfold about
  split <;> rfl

end Occurrence

structure Outlook (World Runtime Resource Reply : Type) where
  now : Time
  entry : Option (Entry Runtime Resource)
  timer : Option Time
  /-- How many builds of the key have been started. -/
  started : Nat
  /-- What the builds have delivered, by number. -/
  outcomes : Nat → Option (Except String Unit)
  runtimes : Nat → Option Runtime
  /-- The tasks that are part of getting a runtime for the key. -/
  tasks : List (Task World Runtime Resource Reply)
  subscribers : List (Subscriber World)
  events : List Occurrence

namespace State

variable {World Runtime Resource Reply : Type} {builder : Builder World Runtime Resource}
variable {state : State World Runtime Resource Reply}

def outlook (state : State World Runtime Resource Reply) (keyOf : CallId → String)
    (key : String) : Outlook World Runtime Resource Reply where
  now := state.now
  entry := state.entries.find? key
  timer := state.timers.find? key
  started := (state.started.find? key).getD 0
  outcomes number := state.outcomes.lookup ⟨key, number⟩
  runtimes number := state.runtimes.lookup ⟨key, number⟩
  tasks := state.tasks.filter (·.name.serving keyOf key)
  subscribers := state.subscribers
  events := state.journal.filterMap (Occurrence.about key)

theorem serving_of_mem {keyOf : CallId → String} {key : String}
    {task : Task World Runtime Resource Reply}
    (member : task ∈ (state.outlook keyOf key).tasks) : task.name.serving keyOf key = true :=
  (List.mem_filter.mp member).2

/-! ## How the small operations change the outlook -/

section Small

variable (state) (keyOf : CallId → String) (key : String)

theorem outlook_note (occurrence : Occurrence) :
    (state.note occurrence).outlook keyOf key =
      { state.outlook keyOf key with
        events := (state.outlook keyOf key).events ++ (occurrence.about key).toList } := by
  unfold outlook note
  cases told : occurrence.about key <;> simp [told]

theorem outlook_spawn (task : Task World Runtime Resource Reply) :
    (state.spawn task).outlook keyOf key =
      { state.outlook keyOf key with
        tasks := (state.outlook keyOf key).tasks ++
          if task.name.serving keyOf key then [task] else [] } := by
  unfold outlook spawn
  cases mine : task.name.serving keyOf key <;> simp [mine]

/-- What is said of a task by its name alone is said of all tasks of that name. -/
theorem filter_eraseP_name (accepts : TaskName → Bool) (name : TaskName)
    (tasks : List (Task World Runtime Resource Reply)) :
    (tasks.eraseP (·.name = name)).filter (fun task => accepts task.name) =
      (tasks.filter fun task => accepts task.name).eraseP (·.name = name) := by
  induction tasks with
  | nil => rfl
  | cons task rest induction =>
      by_cases named : task.name = name
      · subst named
        rw [List.eraseP_cons_of_pos (by simp)]
        cases accepted : accepts task.name with
        | true => simp [accepted]
        | false =>
            rw [List.filter_cons_of_neg (by simp [accepted])]
            symm
            apply List.eraseP_of_forall_not
            intro other member same
            have kept := (List.mem_filter.mp member).2
            rw [of_decide_eq_true same, accepted] at kept
            cases kept
      · cases accepted : accepts task.name <;> simp [accepted, named, induction]

theorem outlook_dismiss (name : TaskName) :
    (state.dismiss name).outlook keyOf key =
      { state.outlook keyOf key with
        tasks := (state.outlook keyOf key).tasks.eraseP (·.name = name) } := by
  unfold outlook dismiss
  rw [filter_eraseP_name]

theorem outlook_replace (task : Task World Runtime Resource Reply) :
    (state.replace task).outlook keyOf key =
      { state.outlook keyOf key with
        tasks := (state.outlook keyOf key).tasks.map fun other =>
          if other.name = task.name then task else other } := by
  unfold outlook replace
  rw [List.filter_map]
  have same : (fun other : Task World Runtime Resource Reply => other.name.serving keyOf key) ∘
      (fun other => if other.name = task.name then task else other) =
        fun other => other.name.serving keyOf key := by
    funext other
    by_cases named : other.name = task.name <;> simp [named]
  rw [same]

theorem outlook_setEntry (other : String) (entry : Entry Runtime Resource) :
    (state.setEntry other entry).outlook keyOf key =
      { state.outlook keyOf key with
        entry := if other = key then some entry else (state.outlook keyOf key).entry } := by
  unfold outlook setEntry
  rw [Catalog.find?_insert]

theorem outlook_setOutcome (id : BuildId) (outcome : Except String Unit) :
    (state.setOutcome id outcome).outlook keyOf key =
      { state.outlook keyOf key with
        outcomes := fun number => ((state.outlook keyOf key).outcomes number).or
          (if (⟨key, number⟩ : BuildId) = id then some outcome else none) } := by
  unfold outlook setOutcome
  simp only [Outlook.mk.injEq, true_and, and_true]
  funext number
  exact lookup_concat state.outcomes id ⟨key, number⟩ outcome

end Small

/-! ## Builds under their own keys -/

/-- The graph and the mark of an entry belong to builds of its key. -/
structure Keyed (state : State World Runtime Resource Reply) (key : String) : Prop where
  installed : ∀ installed, (state.entry key).installed = some installed → installed.id.key = key
  building : ∀ id, (state.entry key).building = some id → id.key = key

theorem Keyed.invalidate {key : String} (keyed : state.Keyed key) :
    (state.invalidate key).Keyed key := by
  have same : (state.invalidate key).entry key = (state.entry key).invalidate (state.epoch + 1) ∨
      (state.invalidate key).entry key = state.entry key := by
    rw [entry_invalidate]
    split
    · exact Or.inl rfl
    · exact Or.inr rfl
  constructor
  · intro installed present
    apply keyed.installed installed
    rcases same with same | same <;> rw [same] at present <;> exact present
  · intro id marked
    apply keyed.building id
    rcases same with same | same <;> rw [same] at marked <;> exact marked

/-- The build that yields, or has yielded, what was found. -/
def Finding.build : Finding → BuildId
  | ready id => id
  | pending build => build

/-- What a look at the cache finds belongs to the key that was looked up. -/
theorem Keyed.lookUp {key : String} (keyed : state.Keyed key) :
    (lookUp builder state key).1.build.key = key := by
  rcases lookUp_cases builder state key with
    ⟨build, pending, found⟩ | ⟨installed, _, present, found⟩ | ⟨idle, _, found⟩
  · rw [found]
    exact keyed.building build pending
  · rw [found]
    exact keyed.installed installed present
  · rw [found, startOrJoin_start builder state idle]
    rfl

/-! ## Operations that pass a key by -/

/-- From a key nothing is to be seen of a change, except that there may be a later epoch. -/
structure Passes (keyOf : CallId → String) (key : String)
    (before after : State World Runtime Resource Reply) : Prop where
  outlook : after.outlook keyOf key = before.outlook keyOf key
  epoch : before.epoch ≤ after.epoch

namespace Passes

variable {keyOf : CallId → String} {key other : String}
variable {next last : State World Runtime Resource Reply}

theorem refl : Passes keyOf key state state := ⟨rfl, Nat.le_refl _⟩

theorem trans (first : Passes keyOf key state next) (second : Passes keyOf key next last) :
    Passes keyOf key state last :=
  ⟨second.outlook.trans first.outlook, Nat.le_trans first.epoch second.epoch⟩

theorem note {occurrence : Occurrence} (silent : occurrence.about key = none) :
    Passes keyOf key state (state.note occurrence) := by
  constructor
  · rw [outlook_note, silent]
    simp
  · exact Nat.le_refl _

theorem note_of_ne {occurrence : Occurrence} (elsewhere : occurrence.key? = some other)
    (different : other ≠ key) : Passes keyOf key state (state.note occurrence) :=
  note (Occurrence.about_of_ne elsewhere different)

theorem spawn {task : Task World Runtime Resource Reply}
    (elsewhere : task.name.serving keyOf key = false) :
    Passes keyOf key state (state.spawn task) := by
  constructor
  · rw [outlook_spawn, elsewhere]
    simp
  · exact Nat.le_refl _

theorem dismiss {name : TaskName} (elsewhere : name.serving keyOf key = false) :
    Passes keyOf key state (state.dismiss name) := by
  have same : (state.outlook keyOf key).tasks.eraseP (·.name = name) =
      (state.outlook keyOf key).tasks := by
    apply List.eraseP_of_forall_not
    intro task member named
    have mine := serving_of_mem member
    rw [of_decide_eq_true named, elsewhere] at mine
    cases mine
  constructor
  · rw [outlook_dismiss, same]
  · exact Nat.le_refl _

theorem replace {task : Task World Runtime Resource Reply}
    (elsewhere : task.name.serving keyOf key = false) :
    Passes keyOf key state (state.replace task) := by
  have same : ((state.outlook keyOf key).tasks.map fun other =>
      if other.name = task.name then task else other) =
        (state.outlook keyOf key).tasks.map id := by
    apply List.map_congr_left
    intro other member
    apply if_neg
    intro named
    have mine := serving_of_mem member
    rw [named, elsewhere] at mine
    cases mine
  constructor
  · rw [outlook_replace, same, List.map_id]
  · exact Nat.le_refl _

theorem setEntry (different : other ≠ key) (entry : Entry Runtime Resource) :
    Passes keyOf key state (state.setEntry other entry) := by
  constructor
  · rw [outlook_setEntry, if_neg different]
  · exact Nat.le_refl _

theorem setOutcome {id : BuildId} (different : id.key ≠ key) (outcome : Except String Unit) :
    Passes keyOf key state (state.setOutcome id outcome) := by
  constructor
  · rw [outlook_setOutcome]
    have never : ∀ number, (⟨key, number⟩ : BuildId) ≠ id := by
      intro number same
      exact different (congrArg BuildId.key same).symm
    simp [never]
  · exact Nat.le_refl _

theorem advance {Result : Type} {activity rest : Activity World Result}
    (advanced : state.advance activity = (rest, next)) : Passes keyOf key state next := by
  rcases eq_of_advance advanced with ⟨world, rfl⟩
  exact ⟨rfl, Nat.le_refl _⟩

theorem resume {Result : Type} {activity rest : Activity World Result}
    (resumed : state.resume activity = (rest, next)) : Passes keyOf key state next := by
  rcases eq_of_resume resumed with ⟨world, rfl⟩
  exact ⟨rfl, Nat.le_refl _⟩

theorem setAnswer (call : CallId) (answer : Answer Reply) :
    Passes keyOf key state (state.setAnswer call answer) :=
  ⟨rfl, Nat.le_refl _⟩

/-! ### Operations on another key -/

section Elsewhere

variable (different : other ≠ key)
include different

theorem startOrJoin : Passes keyOf key state (State.startOrJoin builder state other).2 := by
  cases building : (state.entry other).building with
  | some build =>
      rw [startOrJoin_join builder state building]
      exact refl
  | none =>
      rw [startOrJoin_start builder state building]
      let id := state.nextBuild other
      let marked := state.setEntry other { state.entry other with building := some id }
      let counted := { marked with started := marked.started.insert other (id.number + 1) }
      let spawned := counted.spawn (.building id state.epoch (builder.build id))
      have marks : Passes keyOf key state marked := setEntry different _
      have counts : Passes keyOf key marked counted := by
        constructor
        · unfold State.outlook
          simp only [counted, Catalog.find?_insert, if_neg different]
        · exact Nat.le_refl _
      have spawns : Passes keyOf key counted spawned := by
        apply spawn
        simp [TaskName.serving, TaskName.serves, TaskName.key?, Task.name, id, nextBuild, different]
      have notes : Passes keyOf key spawned (spawned.note (.started id state.epoch)) :=
        note_of_ne rfl different
      exact ((marks.trans counts).trans spawns).trans notes

theorem lookUp : Passes keyOf key state (State.lookUp builder state other).2 := by
  rcases lookUp_cases builder state other with
    ⟨build, _, found⟩ | ⟨installed, _, _, found⟩ | ⟨_, _, found⟩
  · rw [found]
    exact refl
  · rw [found]
    exact refl
  · rw [found]
    exact startOrJoin different

theorem invalidate : Passes keyOf key state (state.invalidate other) := by
  let advanced : State World Runtime Resource Reply :=
    { state with epoch := state.epoch + 1, entries := (state.invalidate other).entries }
  have marks : Passes keyOf key state advanced := by
    constructor
    · unfold State.outlook
      simp only [advanced, find?_invalidate, if_neg different]
    · exact Nat.le_succ _
  have notes : Passes keyOf key advanced (advanced.note (.invalidated other)) :=
    note_of_ne rfl different
  exact marks.trans notes

theorem insertTimer (deadline : Time) :
    Passes keyOf key state { state with timers := state.timers.insert other deadline } := by
  constructor
  · unfold State.outlook
    simp only [Catalog.find?_insert, if_neg different]
  · exact Nat.le_refl _

theorem eraseTimer :
    Passes keyOf key state { state with timers := state.timers.erase other } := by
  constructor
  · unfold State.outlook
    simp only [Catalog.find?_erase, if_neg different]
  · exact Nat.le_refl _

theorem requestRebuild (delay : Time) :
    Passes keyOf key state (state.requestRebuild other delay).2 := by
  rcases requestRebuild_eq state other delay with refused | armed
  · rw [refused]
    exact note_of_ne rfl different
  · rw [armed]
    exact (insertTimer different _).trans (note_of_ne rfl different)

theorem cancelTimer : Passes keyOf key state (state.cancelTimer other) := by
  rcases cancelTimer_eq state other with same | cancelled
  · rw [same]
    exact refl
  · rw [cancelled]
    exact (eraseTimer different).trans (note_of_ne rfl different)

theorem evict : Passes keyOf key state (state.evict other).2 := by
  rcases evict_eq state other with ⟨entries, evicted⟩
  have others : (state.evict other).2.entries.find? key = state.entries.find? key :=
    find?_evict_of_ne different
  rw [evicted] at others ⊢
  let taken := { state with entries := entries }
  have takes : Passes keyOf key state taken := by
    constructor
    · unfold State.outlook
      simp only [taken, others]
    · exact Nat.le_refl _
  have notes : Passes keyOf key taken (taken.note (.emptied other)) := note_of_ne rfl different
  exact takes.trans notes

end Elsewhere

/-! ### Operations on a build of another key -/

section Foreign

variable {id : BuildId} (different : id.key ≠ key)
include different

theorem deliver (call : CallId) (purpose : Purpose) :
    Passes keyOf key state (state.deliver call purpose id) := by
  rcases deliver_eq state call purpose id with ⟨holders, _, delivered⟩
  rw [delivered]
  have notes : Passes keyOf key state (state.note (.answered call purpose id.key (.ok id))) :=
    note_of_ne rfl different
  exact notes.trans ⟨rfl, Nat.le_refl _⟩

theorem refuse (call : CallId) (purpose : Purpose) (text : String) :
    Passes keyOf key state (state.refuse call purpose id.key text) := by
  have notes : Passes keyOf key state
      (state.note (.answered call purpose id.key (.error (.build text)))) :=
    note_of_ne rfl different
  exact notes.trans (setAnswer call _)

theorem notifyAll : Passes keyOf key state (state.notifyAll id) := by
  rcases notifyAll_eq state id with ⟨world, holders, _, notified⟩
  rw [notified]
  have silent : ((List.range state.subscribers.length).map (Occurrence.notified · id)).filterMap
      (Occurrence.about key) = [] := by
    rw [List.filterMap_map, List.filterMap_eq_nil_iff]
    intro position _
    exact Occurrence.about_of_ne rfl different
  constructor
  · unfold State.outlook
    simp only [List.filterMap_append, silent, List.append_nil]
  · exact Nat.le_refl _

theorem install (startEpoch : Nat) (graph : Graph Runtime Resource) (reason : Option String) :
    Passes keyOf key state (state.install id startEpoch graph reason) := by
  let entry := state.entry id.key
  let placed := state.setEntry id.key
    { entry with
      installed := some ⟨id, graph⟩
      fallbackReason := reason
      builtEpoch := startEpoch
      dirty := entry.invalidatedEpoch > startEpoch
      building := none }
  let listed := { placed with runtimes := placed.runtimes ++ [(id, graph.runtime)] }
  have places : Passes keyOf key state placed := setEntry different _
  have lists : Passes keyOf key placed listed := by
    have never : ∀ number, (⟨key, number⟩ : BuildId) ≠ id := by
      intro number same
      exact different (congrArg BuildId.key same).symm
    constructor
    · unfold State.outlook
      simp [listed, lookup_concat, never]
    · exact Nat.le_refl _
  have notes : Passes keyOf key listed (listed.note (.installed id)) := note_of_ne rfl different
  exact (places.trans lists).trans notes

theorem abandon (text : String) : Passes keyOf key state (state.abandon id text) := by
  let freed := state.setEntry id.key { state.entry id.key with building := none }
  have frees : Passes keyOf key state freed := setEntry different _
  have notes : Passes keyOf key freed (freed.note (.failed id)) := note_of_ne rfl different
  exact (frees.trans notes).trans (setOutcome different _)

end Foreign

/-! ### Retiring graphs -/

theorem retire (installed : Installed Runtime Resource) :
    Passes keyOf key state (State.retire builder state installed).2 := by
  unfold State.retire
  split
  · exact ⟨rfl, Nat.le_refl _⟩
  · exact note (Occurrence.about_released key installed.id)

theorem releaseDropped : Passes keyOf key state state.releaseDropped := by
  constructor
  · unfold State.outlook State.releaseDropped
    simp [List.filter_map, Function.comp_def, TaskName.serving, TaskName.serves, Task.name]
  · exact Nat.le_refl _

theorem closeGraphs (call : CallId) (hadGraph : Bool) (afterwards : Activity World Unit)
    (remaining : List (Installed Runtime Resource)) (current : Activity World Unit) :
    Passes keyOf key state
      (State.closeGraphs builder call hadGraph afterwards remaining current state) := by
  induction remaining generalizing state current with
  | nil =>
      unfold State.closeGraphs
      split
      · rename_i next advanced
        exact (advance advanced).trans (setAnswer call _)
      · rename_i rest next _ advanced
        exact (advance advanced).trans (spawn rfl)
  | cons graph remaining induction =>
      unfold State.closeGraphs
      split
      · rename_i next advanced
        exact ((advance advanced).trans (retire graph)).trans (induction _)
      · rename_i rest next _ advanced
        exact (advance advanced).trans (spawn rfl)

/-! ### Calls and tasks of another key -/

theorem serving_eq_false {name : TaskName} (elsewhere : name.key? keyOf = some other)
    (different : other ≠ key) : name.serving keyOf key = false := by
  unfold TaskName.serving
  rw [elsewhere]
  simp [different]

section Calls

variable (different : other ≠ key) (keyed : state.Keyed other)
include different keyed

theorem beginGet {call : CallId} (assigned : keyOf call = other) :
    Passes keyOf key state (State.beginGet builder state call other) := by
  have looks : Passes keyOf key state (State.lookUp builder state other).2 := lookUp different
  have own : (State.lookUp builder state other).1.build.key = other := keyed.lookUp
  unfold State.beginGet
  split
  · rename_i id next found
    rw [found] at looks own
    exact looks.trans (deliver (own.trans_ne different) call .get)
  · rename_i build next found
    rw [found] at looks
    have elsewhere : (TaskName.waiting call).serving keyOf key = false :=
      serving_eq_false (congrArg some assigned) different
    exact looks.trans (spawn elsewhere)

theorem refresh : Passes keyOf key state (State.refresh builder state other) := by
  have looks : Passes keyOf key state (State.lookUp builder state other).2 := lookUp different
  have own : (State.lookUp builder state other).1.build.key = other := keyed.lookUp
  unfold State.refresh
  split
  · rename_i id next found
    rw [found] at looks
    exact looks.trans (note_of_ne rfl different)
  · rename_i build next found
    rw [found] at looks own
    have elsewhere : (TaskName.refreshing build).serving keyOf key = false :=
      serving_eq_false rfl (own.trans_ne different)
    exact looks.trans (spawn elsewhere)

theorem fire : Passes keyOf key state (State.fire builder state other) := by
  let rung := ({ state with timers := state.timers.erase other }).note (.fired other state.now)
  have rings : Passes keyOf key state rung :=
    (eraseTimer different).trans (note_of_ne rfl different)
  have keyedRung : rung.Keyed other := ⟨keyed.installed, keyed.building⟩
  exact (rings.trans (invalidate different)).trans (refresh different keyedRung.invalidate)

end Calls

theorem beginRebuild (different : other ≠ key) {call : CallId}
    (assigned : keyOf call = other) :
    Passes keyOf key state (State.beginRebuild builder state call other) := by
  have elsewhere : (TaskName.waiting call).serving keyOf key = false :=
    serving_eq_false (congrArg some assigned) different
  exact (startOrJoin different).trans (spawn elsewhere)

theorem beginClose (different : other ≠ key) (call : CallId) :
    Passes keyOf key state (State.beginClose builder state call other) := by
  have cancels : Passes keyOf key state (state.cancelTimer other) := cancelTimer different
  have evicts : Passes keyOf key (state.cancelTimer other)
      ((state.cancelTimer other).evict other).2 :=
    evict different
  exact ((cancels.trans evicts).trans (note_of_ne rfl different)).trans (closeGraphs _ _ _ _ _)

/-- What comes after a new graph has been installed and announced passes every key by. -/
theorem replaceGraph (id : BuildId) (startEpoch : Nat) (graph : Graph Runtime Resource)
    (reason : Option String) :
    Passes keyOf key
      (((state.install id startEpoch graph reason).setOutcome id (.ok ())).notifyAll id)
      (State.replaceGraph builder state id startEpoch graph reason) := by
  unfold State.replaceGraph
  dsimp only
  split
  · exact refl
  · rename_i old occupied
    generalize ((state.install id startEpoch graph reason).setOutcome id (.ok ())).notifyAll id =
      installed
    have retires : Passes keyOf key installed (State.retire builder installed old).2 := retire old
    split
    · rename_i advanced
      exact retires.trans (advance advanced)
    · rename_i advanced
      exact (retires.trans (advance advanced)).trans (spawn rfl)

theorem finishBuild {id : BuildId} (different : id.key ≠ key) (startEpoch : Nat)
    (outcome : Outcome Runtime Resource) :
    Passes keyOf key state (State.finishBuild builder state id startEpoch outcome) := by
  have installs (graph : Graph Runtime Resource) (reason : Option String) : Passes keyOf key state
      (((state.install id startEpoch graph reason).setOutcome id (.ok ())).notifyAll id) :=
    ((install different _ _ _).trans (setOutcome different _)).trans (notifyAll different)
  cases outcome with
  | workflow graph => exact (installs graph none).trans (replaceGraph id startEpoch graph none)
  | fallback graph reason =>
      exact (installs graph reason).trans (replaceGraph id startEpoch graph reason)
  | failed fault => exact abandon different _
  | panicked => exact abandon different _

/-! ### Tasks -/

/-- A task that is not part of getting a runtime passes every key by. -/
theorem proceed_of_not_serves {task : Task World Runtime Resource Reply}
    (aside : task.name.serves = false) :
    Passes keyOf key state (State.proceed builder state task) := by
  have elsewhere : task.name.serving keyOf key = false := by
    unfold TaskName.serving
    rw [aside, Bool.false_and]
  cases task with
  | waiting call build purpose => cases aside
  | refreshing build => cases aside
  | building id startEpoch rest => cases aside
  | finishing id rest =>
      unfold State.proceed
      dsimp only
      split
      · rename_i resumed
        exact (resume resumed).trans (dismiss elsewhere)
      · rename_i resumed
        exact (resume resumed).trans (replace elsewhere)
  | orphaned id scope =>
      have frees : Passes keyOf key state (state.dismiss (.orphaned id)) := dismiss elsewhere
      have notes : Passes keyOf key (state.dismiss (.orphaned id))
          ((state.dismiss (.orphaned id)).note (.released id)) :=
        note (Occurrence.about_released key id)
      unfold State.proceed
      dsimp only
      split
      · rename_i advanced
        exact (frees.trans notes).trans (advance advanced)
      · rename_i advanced
        exact ((frees.trans notes).trans (advance advanced)).trans (spawn elsewhere)
  | releasing id rest =>
      unfold State.proceed
      dsimp only
      split
      · rename_i resumed
        exact (resume resumed).trans (dismiss elsewhere)
      · rename_i resumed
        exact (resume resumed).trans (replace elsewhere)
  | closing call hadGraph current remaining afterwards =>
      have resumes : Passes keyOf key state (state.resume current).2 := resume rfl
      exact (resumes.trans (dismiss elsewhere)).trans (closeGraphs _ _ _ _ _)
  | working call held rest =>
      unfold State.proceed
      dsimp only
      split
      · rename_i resumed
        exact ((resume resumed).trans (dismiss elsewhere)).trans (setAnswer call _)
      · rename_i resumed
        exact (resume resumed).trans (replace elsewhere)

theorem receive {build : BuildId} (different : build.key ≠ key)
    (keyed : state.Keyed build.key) {call : CallId} (assigned : keyOf call = build.key)
    (purpose : Purpose) (outcome : Except String Unit) :
    Passes keyOf key state (State.receive builder state call build purpose outcome) := by
  cases outcome with
  | error text => exact refuse different call purpose text
  | ok delivered =>
      cases purpose with
      | rebuild => exact deliver different call .rebuild
      | get => exact beginGet different keyed assigned

/-- A task of another key passes a key by. -/
theorem proceed {task : Task World Runtime Resource Reply}
    (own : task.name.key? keyOf = some other) (different : other ≠ key)
    (honest : ∀ call build purpose, task = .waiting call build purpose → build.key = other)
    (keyed : state.Keyed other) :
    Passes keyOf key state (State.proceed builder state task) := by
  have elsewhere : task.name.serving keyOf key = false := serving_eq_false own different
  have frees : Passes keyOf key state (state.dismiss task.name) := dismiss elsewhere
  cases task with
  | waiting call build purpose =>
      cases honest call build purpose rfl
      have keyedRest : (state.dismiss (.waiting call)).Keyed build.key :=
        ⟨keyed.installed, keyed.building⟩
      unfold State.proceed
      dsimp only
      split
      · rename_i outcome delivered
        exact frees.trans (receive different keyedRest (Option.some.inj own) purpose outcome)
      · exact refl
  | refreshing build =>
      cases own
      unfold State.proceed
      dsimp only
      split
      · exact frees.trans (refresh different ⟨keyed.installed, keyed.building⟩)
      · exact frees.trans (note_of_ne rfl different)
      · exact refl
  | building id startEpoch rest =>
      cases own
      unfold State.proceed
      dsimp only
      split
      · rename_i resumed
        exact ((resume resumed).trans (dismiss elsewhere)).trans
          (finishBuild different startEpoch _)
      · rename_i resumed
        exact (resume resumed).trans (replace elsewhere)
  | finishing id rest => exact proceed_of_not_serves rfl
  | orphaned id scope => exact proceed_of_not_serves rfl
  | releasing id rest => exact proceed_of_not_serves rfl
  | closing call hadGraph current remaining afterwards => exact proceed_of_not_serves rfl
  | working call held rest => exact proceed_of_not_serves rfl

end Passes

end State

end RuntimeCache

end AssistantEngine
