import Mathlib.Data.List.Forall2
import AssistantEngine.Proofs.Concurrency.Parallel
import AssistantEngine.Proofs.RuntimeCache.Outlook

/-!
States that resemble each other from one key. They differ in what other keys have, and in the
numbers of their epochs; what matters of an epoch, whether it lies before the last invalidation
of the key, is the same in both. Operations on the key keep the resemblance.
-/

namespace AssistantEngine

namespace RuntimeCache

namespace Entry

variable {Runtime Resource : Type}

/-- An entry without its epochs. -/
def undated (entry : Entry Runtime Resource) : Entry Runtime Resource :=
  { entry with builtEpoch := 0, invalidatedEpoch := 0 }

end Entry

/-- The present epoch, and that of the last invalidation of a key. -/
structure Clock where
  present : Nat
  invalidated : Nat

/-- Two tasks of one key that are at the same point, by clocks of their own. -/
inductive Task.Resembles {World Runtime Resource Reply : Type} (key : String)
    (clock clock' : Clock) :
    Task World Runtime Resource Reply → Task World Runtime Resource Reply → Prop where
  | waiting (call : CallId) (build : BuildId) (purpose : Purpose) (own : build.key = key) :
      Resembles key clock clock' (.waiting call build purpose) (.waiting call build purpose)
  | refreshing (build : BuildId) (own : build.key = key) :
      Resembles key clock clock' (.refreshing build) (.refreshing build)
  | building (id : BuildId) {startEpoch startEpoch' : Nat}
      {rest rest' : Activity World (Outcome Runtime Resource)} (own : id.key = key)
      (parallel : rest.Parallel rest')
      (stale : startEpoch < clock.invalidated ↔ startEpoch' < clock'.invalidated)
      (begun : startEpoch ≤ clock.present) (begun' : startEpoch' ≤ clock'.present) :
      Resembles key clock clock' (.building id startEpoch rest) (.building id startEpoch' rest')

namespace Task.Resembles

variable {World Runtime Resource Reply : Type} {key : String} {clock clock' : Clock}
variable {task task' : Task World Runtime Resource Reply}

theorem name_eq (same : Task.Resembles key clock clock' task task') : task.name = task'.name := by
  cases same <;> rfl

/-- Time goes on. -/
theorem later (same : Task.Resembles key clock clock' task task') {present present' : Nat}
    (after : clock.present ≤ present) (after' : clock'.present ≤ present') :
    Task.Resembles key ⟨present, clock.invalidated⟩ ⟨present', clock'.invalidated⟩ task task' := by
  cases same with
  | waiting call build purpose own => exact .waiting call build purpose own
  | refreshing build own => exact .refreshing build own
  | building id own parallel stale begun begun' =>
      exact .building id own parallel stale (Nat.le_trans begun after) (Nat.le_trans begun' after')

/-- An invalidation is later than every build that has been started. -/
theorem invalidated (same : Task.Resembles key clock clock' task task') :
    Task.Resembles key ⟨clock.present + 1, clock.present + 1⟩
      ⟨clock'.present + 1, clock'.present + 1⟩ task task' := by
  cases same with
  | waiting call build purpose own => exact .waiting call build purpose own
  | refreshing build own => exact .refreshing build own
  | building id own parallel stale begun begun' =>
      have stale : ∀ {epoch present : Nat}, epoch ≤ present → epoch < present + 1 := by
        intro epoch present begun
        omega
      exact .building id own parallel (iff_of_true (stale begun) (stale begun'))
        (Nat.le_succ_of_le begun) (Nat.le_succ_of_le begun')

/-- Where nothing has been invalidated, no build is stale. -/
theorem fresh (same : Task.Resembles key clock clock' task task') :
    Task.Resembles key ⟨clock.present, 0⟩ ⟨clock'.present, 0⟩ task task' := by
  cases same with
  | waiting call build purpose own => exact .waiting call build purpose own
  | refreshing build own => exact .refreshing build own
  | building id own parallel stale begun begun' =>
      exact .building id own parallel (by simp) begun begun'

end Task.Resembles

/-- The epoch of the last invalidation. -/
def Outlook.invalidated {World Runtime Resource Reply : Type}
    (outlook : Outlook World Runtime Resource Reply) : Nat :=
  (outlook.entry.getD {}).invalidatedEpoch

/-- Two outlooks of one key that differ in epochs only, where these are the present ones. -/
structure Outlook.Resembles {World Runtime Resource Reply : Type} (key : String)
    (epoch epoch' : Nat) (outlook outlook' : Outlook World Runtime Resource Reply) : Prop where
  now : outlook.now = outlook'.now
  entry : outlook.entry.map Entry.undated = outlook'.entry.map Entry.undated
  timer : outlook.timer = outlook'.timer
  started : outlook.started = outlook'.started
  outcomes : outlook.outcomes = outlook'.outcomes
  runtimes : outlook.runtimes = outlook'.runtimes
  tasks : List.Forall₂
    (Task.Resembles key ⟨epoch, outlook.invalidated⟩ ⟨epoch', outlook'.invalidated⟩)
    outlook.tasks outlook'.tasks
  subscribers : outlook.subscribers = outlook'.subscribers
  events : outlook.events = outlook'.events
  past : outlook.invalidated ≤ epoch
  past' : outlook'.invalidated ≤ epoch'
  installed : ∀ entry, outlook.entry = some entry →
    ∀ installed, entry.installed = some installed → installed.id.key = key
  building : ∀ entry, outlook.entry = some entry →
    ∀ id, entry.building = some id → id.key = key

namespace State

variable {World Runtime Resource Reply : Type} {builder : Builder World Runtime Resource}
variable {keyOf : CallId → String} {key : String}
variable {state state' next next' : State World Runtime Resource Reply}

/-- The clock by which the builds of a key go. -/
def clock (state : State World Runtime Resource Reply) (key : String) : Clock :=
  ⟨state.epoch, (state.entry key).invalidatedEpoch⟩

/-- Two states that are alike from one key. -/
def Resembles (keyOf : CallId → String) (key : String)
    (state state' : State World Runtime Resource Reply) : Prop :=
  Outlook.Resembles key state.epoch state'.epoch (state.outlook keyOf key)
    (state'.outlook keyOf key)

namespace Resembles

/-! ## What is the same -/

theorem undated_entry (state : State World Runtime Resource Reply) (key : String) :
    (state.entry key).undated = ((state.entries.find? key).map Entry.undated).getD {} := by
  unfold entry
  cases state.entries.find? key <;> rfl

theorem entries_eq (same : Resembles keyOf key state state') :
    (state.entry key).undated = (state'.entry key).undated := by
  rw [undated_entry, undated_entry]
  exact congrArg (·.getD {}) same.entry

theorem building_eq (same : Resembles keyOf key state state') :
    (state.entry key).building = (state'.entry key).building := by
  have entries := congrArg Entry.building same.entries_eq
  exact entries

theorem installed_eq (same : Resembles keyOf key state state') :
    (state.entry key).installed = (state'.entry key).installed := by
  have entries := congrArg Entry.installed same.entries_eq
  exact entries

theorem dirty_eq (same : Resembles keyOf key state state') :
    (state.entry key).dirty = (state'.entry key).dirty := by
  have entries := congrArg Entry.dirty same.entries_eq
  exact entries

theorem fallbackReason_eq (same : Resembles keyOf key state state') :
    (state.entry key).fallbackReason = (state'.entry key).fallbackReason := by
  have entries := congrArg Entry.fallbackReason same.entries_eq
  exact entries

theorem entryState_eq (same : Resembles keyOf key state state') :
    state.entryState key = state'.entryState key := by
  unfold entryState Entry.state
  rw [same.building_eq, same.installed_eq, same.dirty_eq]

theorem nextBuild_eq (same : Resembles keyOf key state state') :
    state.nextBuild key = state'.nextBuild key :=
  congrArg (BuildId.mk key) same.started

theorem keyed (same : Resembles keyOf key state state') : state.Keyed key := by
  constructor
  · intro installed present
    rcases Option.isSome_iff_exists.mp (isSome_find?_of_installed present) with ⟨entry, found⟩
    rw [State.entry, found] at present
    exact same.installed entry found installed present
  · intro id marked
    rcases Option.isSome_iff_exists.mp (isSome_find?_of_building marked) with ⟨entry, found⟩
    rw [State.entry, found] at marked
    exact same.building entry found id marked

/-! ## Small operations on both sides -/

theorem passes (same : Resembles keyOf key state state') (first : Passes keyOf key state next)
    (second : Passes keyOf key state' next') : Resembles keyOf key next next' := by
  unfold Resembles
  rw [first.outlook, second.outlook]
  exact {
    same with
    tasks := same.tasks.imp fun _ _ alike => alike.later first.epoch second.epoch
    past := Nat.le_trans same.past first.epoch
    past' := Nat.le_trans same.past' second.epoch }

theorem note (same : Resembles keyOf key state state') {occurrence occurrence' : Occurrence}
    (told : occurrence.about key = occurrence'.about key) :
    Resembles keyOf key (state.note occurrence) (state'.note occurrence') := by
  unfold Resembles
  rw [outlook_note, outlook_note, told]
  exact { same with events := congrArg (· ++ (occurrence'.about key).toList) same.events }

theorem spawn (same : Resembles keyOf key state state')
    {task task' : Task World Runtime Resource Reply}
    (alike : Task.Resembles key (state.clock key) (state'.clock key) task task') :
    Resembles keyOf key (state.spawn task) (state'.spawn task') := by
  unfold Resembles
  rw [outlook_spawn, outlook_spawn, alike.name_eq]
  refine { same with tasks := List.rel_append same.tasks ?_ }
  split
  · exact .cons alike .nil
  · exact .nil

theorem dismiss (same : Resembles keyOf key state state') (name : TaskName) :
    Resembles keyOf key (state.dismiss name) (state'.dismiss name) := by
  have fewer : ∀ {clock clock' : Clock} {tasks tasks' : List (Task World Runtime Resource Reply)},
      List.Forall₂ (Task.Resembles key clock clock') tasks tasks' →
        List.Forall₂ (Task.Resembles key clock clock') (tasks.eraseP (·.name = name))
          (tasks'.eraseP (·.name = name)) := by
    intro clock clock' tasks tasks' alike
    induction alike with
    | nil => exact .nil
    | cons head rest induction =>
        rw [List.eraseP_cons, List.eraseP_cons, head.name_eq, cond_eq_ite, cond_eq_ite]
        split
        · exact rest
        · exact .cons head induction
  unfold Resembles
  rw [outlook_dismiss, outlook_dismiss]
  exact { same with tasks := fewer same.tasks }

theorem replace (same : Resembles keyOf key state state')
    {task task' : Task World Runtime Resource Reply}
    (alike : Task.Resembles key (state.clock key) (state'.clock key) task task') :
    Resembles keyOf key (state.replace task) (state'.replace task') := by
  unfold Resembles
  rw [outlook_replace, outlook_replace, alike.name_eq]
  refine { same with tasks := ?_ }
  rw [List.forall₂_map_left_iff, List.forall₂_map_right_iff]
  apply same.tasks.imp
  intro other other' matched
  rw [matched.name_eq]
  split
  · exact alike
  · exact matched

theorem setOutcome (same : Resembles keyOf key state state') (id : BuildId)
    (outcome : Except String Unit) :
    Resembles keyOf key (state.setOutcome id outcome) (state'.setOutcome id outcome) := by
  unfold Resembles
  rw [outlook_setOutcome, outlook_setOutcome]
  refine { same with outcomes := ?_ }
  rw [same.outcomes]

/-- The entry and the epoch are changed, and every task is alike by the new clocks. -/
theorem changeEntry (same : Resembles keyOf key state state')
    {entries entries' : Catalog (Entry Runtime Resource)}
    {entry entry' : Option (Entry Runtime Resource)} (found : entries.find? key = entry)
    (found' : entries'.find? key = entry') {epoch epoch' : Nat}
    (alike : entry.map Entry.undated = entry'.map Entry.undated)
    (clocks : ∀ task task' : Task World Runtime Resource Reply,
      Task.Resembles key (state.clock key) (state'.clock key) task task' →
      Task.Resembles key ⟨epoch, (entry.getD {}).invalidatedEpoch⟩
        ⟨epoch', (entry'.getD {}).invalidatedEpoch⟩ task task')
    (past : (entry.getD {}).invalidatedEpoch ≤ epoch)
    (past' : (entry'.getD {}).invalidatedEpoch ≤ epoch')
    (installed : ∀ present, entry = some present →
      ∀ installed, present.installed = some installed → installed.id.key = key)
    (building : ∀ present, entry = some present →
      ∀ id, present.building = some id → id.key = key) :
    Resembles keyOf key { state with entries := entries, epoch := epoch }
      { state' with entries := entries', epoch := epoch' } := by
  subst found found'
  exact {
    same with
    entry := alike
    tasks := same.tasks.imp clocks
    past := past
    past' := past'
    installed := installed
    building := building }

/-- The entry is changed in the same way, and the last invalidation stays as it is. -/
theorem setEntry (same : Resembles keyOf key state state')
    {entry entry' : Entry Runtime Resource} (alike : entry.undated = entry'.undated)
    (kept : entry.invalidatedEpoch = (state.entry key).invalidatedEpoch)
    (kept' : entry'.invalidatedEpoch = (state'.entry key).invalidatedEpoch)
    (installed : ∀ installed, entry.installed = some installed → installed.id.key = key)
    (building : ∀ id, entry.building = some id → id.key = key) :
    Resembles keyOf key (state.setEntry key entry) (state'.setEntry key entry') := by
  apply same.changeEntry (Catalog.find?_insert_self _ _ _) (Catalog.find?_insert_self _ _ _)
    (congrArg some alike)
  case clocks =>
    intro task task' matched
    change Task.Resembles key ⟨_, entry.invalidatedEpoch⟩ ⟨_, entry'.invalidatedEpoch⟩ task task'
    rw [kept, kept']
    exact matched
  case past => exact Nat.le_trans (Nat.le_of_eq kept) same.past
  case past' => exact Nat.le_trans (Nat.le_of_eq kept') same.past'
  case installed =>
    intro present here
    cases here
    exact installed
  case building =>
    intro present here
    cases here
    exact building

theorem eraseEntry (same : Resembles keyOf key state state') :
    Resembles keyOf key { state with entries := state.entries.erase key }
      { state' with entries := state'.entries.erase key } := by
  have gone (entries : Catalog (Entry Runtime Resource)) :
      (entries.erase key).find? key = none := by
    rw [Catalog.find?_erase, if_pos rfl]
  apply same.changeEntry (gone _) (gone _) rfl
  case clocks => exact fun _ _ matched => matched.fresh
  case past => exact Nat.zero_le _
  case past' => exact Nat.zero_le _
  case installed => exact fun _ here => nomatch here
  case building => exact fun _ here => nomatch here

/-- An invalidation advances the clocks of both, and no build is younger than it. -/
theorem advance (same : Resembles keyOf key state state')
    {entries entries' : Catalog (Entry Runtime Resource)}
    (marks : entries.find? key =
      (state.entries.find? key).map (Entry.invalidate · (state.epoch + 1)))
    (marks' : entries'.find? key =
      (state'.entries.find? key).map (Entry.invalidate · (state'.epoch + 1))) :
    Resembles keyOf key { state with entries := entries, epoch := state.epoch + 1 }
      { state' with entries := entries', epoch := state'.epoch + 1 } := by
  have alike : (state.entries.find? key).map Entry.undated =
    (state'.entries.find? key).map Entry.undated := same.entry
  have keyed := same.keyed
  cases found : state.entries.find? key with
  | none =>
      rw [found] at marks alike
      have found' : state'.entries.find? key = none :=
        Option.map_eq_none_iff.mp alike.symm
      rw [found'] at marks'
      -- A key without an entry keeps no trace of the invalidation: its builds stay fresh.
      apply same.changeEntry marks marks' rfl
      case clocks =>
        intro task task' matched
        have fresh := matched.fresh
        exact fresh.later (Nat.le_succ _) (Nat.le_succ _)
      case past => exact Nat.zero_le _
      case past' => exact Nat.zero_le _
      case installed => exact fun _ here => nomatch here
      case building => exact fun _ here => nomatch here
  | some entry =>
      rw [found] at marks alike
      rcases Option.map_eq_some_iff.mp alike.symm with ⟨entry', found', alike'⟩
      rw [found'] at marks'
      have present : state.entry key = entry := by rw [State.entry, found, Option.getD_some]
      rw [← present] at marks alike'
      have invalidated : ((state.entry key).invalidate (state.epoch + 1)).undated =
          (entry'.invalidate (state'.epoch + 1)).undated :=
        congrArg (fun entry : Entry Runtime Resource => { entry with dirty := true }) alike'.symm
      apply same.changeEntry marks marks' (congrArg some invalidated)
      case clocks => exact fun _ _ matched => matched.invalidated
      case past => exact Nat.le_refl _
      case past' => exact Nat.le_refl _
      case installed =>
        intro other here
        cases here
        exact keyed.installed
      case building =>
        intro other here
        cases here
        exact keyed.building

theorem count (same : Resembles keyOf key state state') (number : Nat) :
    Resembles keyOf key { state with started := state.started.insert key number }
      { state' with started := state'.started.insert key number } := by
  refine { same with started := ?_ }
  simp only [outlook, Catalog.find?_insert_self]

theorem setTimer (same : Resembles keyOf key state state') (deadline : Time) :
    Resembles keyOf key { state with timers := state.timers.insert key deadline }
      { state' with timers := state'.timers.insert key deadline } := by
  refine { same with timer := ?_ }
  simp only [outlook, Catalog.find?_insert_self]

theorem eraseTimer (same : Resembles keyOf key state state') :
    Resembles keyOf key { state with timers := state.timers.erase key }
      { state' with timers := state'.timers.erase key } := by
  refine { same with timer := ?_ }
  simp only [outlook, Catalog.find?_erase, if_pos]

theorem listRuntime (same : Resembles keyOf key state state') (id : BuildId) (runtime : Runtime) :
    Resembles keyOf key { state with runtimes := state.runtimes ++ [(id, runtime)] }
      { state' with runtimes := state'.runtimes ++ [(id, runtime)] } := by
  refine { same with runtimes := ?_ }
  funext number
  have before : state.runtimes.lookup ⟨key, number⟩ = state'.runtimes.lookup ⟨key, number⟩ :=
    congrFun same.runtimes number
  simp only [outlook, lookup_concat, before]

theorem elapse (same : Resembles keyOf key state state') {duration duration' : Time}
    (now : (state.elapse duration).now = (state'.elapse duration').now) :
    Resembles keyOf key (state.elapse duration) (state'.elapse duration') :=
  { same with now := now }

theorem subscribe (same : Resembles keyOf key state state') (subscriber : Subscriber World) :
    Resembles keyOf key { state with subscribers := state.subscribers ++ [subscriber] }
      { state' with subscribers := state'.subscribers ++ [subscriber] } :=
  { same with subscribers := congrArg (· ++ [subscriber]) same.subscribers }

/-! ## Getting a runtime -/

theorem outcome_eq (same : Resembles keyOf key state state') {build : BuildId}
    (own : build.key = key) : state.outcomes.lookup build = state'.outcomes.lookup build := by
  subst own
  exact congrFun same.outcomes build.number

theorem deliver (same : Resembles keyOf key state state') (call : CallId) (purpose : Purpose)
    (id : BuildId) :
    Resembles keyOf key (state.deliver call purpose id) (state'.deliver call purpose id) := by
  rcases deliver_eq state call purpose id with ⟨holders, _, delivered⟩
  rcases deliver_eq state' call purpose id with ⟨holders', _, delivered'⟩
  rw [delivered, delivered']
  have notes := same.note (rfl : (Occurrence.answered call purpose id.key (.ok id)).about key = _)
  exact notes.passes ⟨rfl, Nat.le_refl _⟩ ⟨rfl, Nat.le_refl _⟩

theorem refuse (same : Resembles keyOf key state state') (call : CallId) (purpose : Purpose)
    (text : String) :
    Resembles keyOf key (state.refuse call purpose key text)
      (state'.refuse call purpose key text) := by
  have notes := same.note
    (rfl : (Occurrence.answered call purpose key (.error (.build text))).about key = _)
  exact notes.passes (.setAnswer call _) (.setAnswer call _)

section Builds

variable (uniform : ∀ id, (builder.build id).Parallel (builder.build id))
include uniform

theorem startOrJoin (same : Resembles keyOf key state state') :
    (State.startOrJoin builder state key).1 = (State.startOrJoin builder state' key).1 ∧
      Resembles keyOf key (State.startOrJoin builder state key).2
        (State.startOrJoin builder state' key).2 := by
  cases building : (state.entry key).building with
  | some build =>
      have building' : (state'.entry key).building = some build := same.building_eq ▸ building
      rw [startOrJoin_join builder state building, startOrJoin_join builder state' building']
      exact ⟨rfl, same⟩
  | none =>
      have idle' : (state'.entry key).building = none := same.building_eq ▸ building
      rw [startOrJoin_start builder state building, startOrJoin_start builder state' idle',
        ← same.nextBuild_eq]
      let id := state.nextBuild key
      have marked : Entry.undated { state.entry key with building := some id } =
          Entry.undated { state'.entry key with building := some id } :=
        congrArg (fun entry : Entry Runtime Resource => { entry with building := some id })
          same.entries_eq
      have marks := same.setEntry marked rfl rfl same.keyed.installed (by
        intro other here
        exact Option.some.inj here ▸ rfl)
      have counts := marks.count (id.number + 1)
      -- The build begins at the present epochs, and no invalidation is later than these.
      have spawns := counts.spawn (Task.Resembles.building id rfl (uniform id)
        (iff_of_false (Nat.not_lt.mpr counts.past) (Nat.not_lt.mpr counts.past'))
        (Nat.le_refl _) (Nat.le_refl _))
      have told : (Occurrence.started id state.epoch).about key =
          (Occurrence.started id state'.epoch).about key := rfl
      exact ⟨rfl, spawns.note told⟩

theorem lookUp (same : Resembles keyOf key state state') :
    (State.lookUp builder state key).1 = (State.lookUp builder state' key).1 ∧
      Resembles keyOf key (State.lookUp builder state key).2
        (State.lookUp builder state' key).2 := by
  have starts := same.startOrJoin uniform
  unfold State.lookUp
  dsimp only
  rw [same.building_eq, same.installed_eq, same.dirty_eq]
  split
  · exact ⟨rfl, same⟩
  · exact ⟨rfl, same⟩
  · exact ⟨congrArg Finding.pending starts.1, starts.2⟩

theorem beginGet (same : Resembles keyOf key state state') (call : CallId) :
    Resembles keyOf key (State.beginGet builder state call key)
      (State.beginGet builder state' call key) := by
  have looks := same.lookUp uniform
  have own : (State.lookUp builder state key).1.build.key = key := same.keyed.lookUp
  unfold State.beginGet
  generalize State.lookUp builder state key = looked at looks own ⊢
  generalize State.lookUp builder state' key = looked' at looks ⊢
  rcases looked with ⟨finding, next⟩
  rcases looked' with ⟨finding', next'⟩
  cases (looks.1 : finding = finding')
  cases finding with
  | ready id => exact looks.2.deliver call .get id
  | pending build => exact looks.2.spawn (.waiting call build .get own)

theorem refresh (same : Resembles keyOf key state state') :
    Resembles keyOf key (State.refresh builder state key) (State.refresh builder state' key) := by
  have looks := same.lookUp uniform
  have own : (State.lookUp builder state key).1.build.key = key := same.keyed.lookUp
  unfold State.refresh
  generalize State.lookUp builder state key = looked at looks own ⊢
  generalize State.lookUp builder state' key = looked' at looks ⊢
  rcases looked with ⟨finding, next⟩
  rcases looked' with ⟨finding', next'⟩
  cases (looks.1 : finding = finding')
  cases finding with
  | ready id => exact looks.2.note rfl
  | pending build => exact looks.2.spawn (.refreshing build own)

theorem beginRebuild (same : Resembles keyOf key state state') (call : CallId) :
    Resembles keyOf key (State.beginRebuild builder state call key)
      (State.beginRebuild builder state' call key) := by
  have starts := same.startOrJoin uniform
  have marked : ((State.startOrJoin builder state key).2.entry key).building =
      some (State.startOrJoin builder state key).1 := startOrJoin_building key
  have own := starts.2.keyed.building _ marked
  unfold State.beginRebuild
  generalize State.startOrJoin builder state key = started at starts own ⊢
  generalize State.startOrJoin builder state' key = started' at starts ⊢
  rcases started with ⟨build, next⟩
  rcases started' with ⟨build', next'⟩
  cases (starts.1 : build = build')
  exact starts.2.spawn (.waiting call build .rebuild own)

end Builds

/-! ## Invalidation and timers -/

theorem invalidate (same : Resembles keyOf key state state') :
    Resembles keyOf key (state.invalidate key) (state'.invalidate key) := by
  have marks (state : State World Runtime Resource Reply) :
      (state.invalidate key).entries.find? key =
        (state.entries.find? key).map (Entry.invalidate · (state.epoch + 1)) := by
    rw [find?_invalidate, if_pos rfl]
  exact (same.advance (marks state) (marks state')).note rfl

theorem invalidateAll (same : Resembles keyOf key state state') :
    Resembles keyOf key state.invalidateAll state'.invalidateAll :=
  (same.advance (Catalog.find?_mapValues _ _ _) (Catalog.find?_mapValues _ _ _)).note rfl

theorem armed_eq (same : Resembles keyOf key state state') :
    state.timers.contains key = state'.timers.contains key := by
  unfold Catalog.contains
  rw [show state.timers.find? key = state'.timers.find? key from same.timer]

theorem requestRebuild (same : Resembles keyOf key state state') (delay : Time) :
    Resembles keyOf key (state.requestRebuild key delay).2 (state'.requestRebuild key delay).2 := by
  have deadline : state.now + delay = state'.now + delay := congrArg (· + delay) same.now
  unfold State.requestRebuild
  rw [same.armed_eq, deadline]
  split
  · exact same.note rfl
  · exact (same.setTimer (state'.now + delay)).note rfl

theorem cancelTimer (same : Resembles keyOf key state state') :
    Resembles keyOf key (state.cancelTimer key) (state'.cancelTimer key) := by
  unfold State.cancelTimer
  rw [same.armed_eq]
  split
  · exact same.eraseTimer.note rfl
  · exact same

theorem fire (uniform : ∀ id, (builder.build id).Parallel (builder.build id))
    (same : Resembles keyOf key state state') :
    Resembles keyOf key (State.fire builder state key) (State.fire builder state' key) := by
  have rings := same.eraseTimer.note
    (congrArg (fun time => (Occurrence.fired key time).about key) same.now)
  exact rings.invalidate.refresh uniform

/-! ## Closing -/

theorem evict (same : Resembles keyOf key state state') :
    (state.evict key).1 = (state'.evict key).1 ∧
      Resembles keyOf key (state.evict key).2 (state'.evict key).2 := by
  have alike : (state.entries.find? key).map Entry.undated =
    (state'.entries.find? key).map Entry.undated := same.entry
  constructor
  · rw [evict_installed, evict_installed, same.installed_eq]
  · unfold State.evict
    cases found : state.entries.find? key with
    | none =>
        rw [found] at alike
        rw [Option.map_eq_none_iff.mp alike.symm]
        exact same.note rfl
    | some entry =>
        rw [found] at alike
        rcases Option.map_eq_some_iff.mp alike.symm with ⟨entry', found', alike'⟩
        have present : state.entry key = entry := by rw [State.entry, found, Option.getD_some]
        have present' : state'.entry key = entry' := by rw [State.entry, found', Option.getD_some]
        have pending : (state.entry key).building.isSome = (state'.entry key).building.isSome :=
          congrArg Option.isSome same.building_eq
        rw [found']
        dsimp only
        rw [← present, ← present', pending]
        split
        · have emptied :
              ({ state.entry key with installed := none } : Entry Runtime Resource).undated =
                ({ state'.entry key with installed := none } : Entry Runtime Resource).undated := by
            have taken := congrArg (fun entry : Entry Runtime Resource =>
              ({ entry with installed := none } : Entry Runtime Resource)) same.entries_eq
            exact taken
          have takes := same.setEntry emptied rfl rfl (fun _ here => by cases here)
            same.keyed.building
          exact takes.note rfl
        · exact same.eraseEntry.note rfl

theorem beginClose (same : Resembles keyOf key state state') (call : CallId) :
    Resembles keyOf key (State.beginClose builder state call key)
      (State.beginClose builder state' call key) := by
  have evicts := same.cancelTimer.evict
  unfold State.beginClose
  generalize State.evict (state.cancelTimer key) key = evicted at evicts ⊢
  generalize State.evict (state'.cancelTimer key) key = evicted' at evicts ⊢
  rcases evicted with ⟨graph, next⟩
  rcases evicted' with ⟨graph', next'⟩
  cases (evicts.1 : graph = graph')
  have notes := evicts.2.note (rfl : (Occurrence.closed call key graph.isSome).about key = _)
  exact notes.passes (.closeGraphs _ _ _ _ _) (.closeGraphs _ _ _ _ _)

/-! ## Builds that end -/

theorem notifyAll (same : Resembles keyOf key state state') (id : BuildId) :
    Resembles keyOf key (state.notifyAll id) (state'.notifyAll id) := by
  rcases notifyAll_eq state id with ⟨world, holders, _, notified⟩
  rcases notifyAll_eq state' id with ⟨world', holders', _, notified'⟩
  rw [notified, notified']
  have events : state.journal.filterMap (Occurrence.about key) =
    state'.journal.filterMap (Occurrence.about key) := same.events
  have subscribers : state.subscribers = state'.subscribers := same.subscribers
  refine { same with events := ?_ }
  simp only [outlook, List.filterMap_append, events, subscribers]

theorem abandon (same : Resembles keyOf key state state') {id : BuildId} (own : id.key = key)
    (text : String) : Resembles keyOf key (state.abandon id text) (state'.abandon id text) := by
  subst own
  have freed : Entry.undated { state.entry id.key with building := none } =
      Entry.undated { state'.entry id.key with building := none } := by
    have entries := congrArg
      (fun entry : Entry Runtime Resource => { entry with building := none }) same.entries_eq
    exact entries
  have frees := same.setEntry freed rfl rfl same.keyed.installed (fun _ here => nomatch here)
  exact (frees.note rfl).setOutcome id (.error text)

/-- A graph is dirty in both if it is dirty in one: its build is stale by both clocks or by
neither. -/
theorem install (same : Resembles keyOf key state state') {id : BuildId} (own : id.key = key)
    {startEpoch startEpoch' : Nat}
    (stale : startEpoch < (state.entry key).invalidatedEpoch ↔
      startEpoch' < (state'.entry key).invalidatedEpoch)
    (graph : Graph Runtime Resource) (reason : Option String) :
    Resembles keyOf key (state.install id startEpoch graph reason)
      (state'.install id startEpoch' graph reason) := by
  subst own
  have dirty : decide ((state.entry id.key).invalidatedEpoch > startEpoch) =
      decide ((state'.entry id.key).invalidatedEpoch > startEpoch') := decide_eq_decide.mpr stale
  unfold State.install
  dsimp only
  rw [dirty]
  let placed (state : State World Runtime Resource Reply) (startEpoch : Nat) :
      Entry Runtime Resource :=
    { state.entry id.key with
      installed := some ⟨id, graph⟩
      fallbackReason := reason
      builtEpoch := startEpoch
      dirty := decide ((state'.entry id.key).invalidatedEpoch > startEpoch')
      building := none }
  have alike : (placed state startEpoch).undated = (placed state' startEpoch').undated := rfl
  have own : ∀ installed, (placed state startEpoch).installed = some installed →
      installed.id.key = id.key := by
    intro installed here
    cases here
    rfl
  have places := same.setEntry alike rfl rfl own (fun _ here => nomatch here)
  exact (places.listRuntime id graph.runtime).note rfl

theorem finishBuild (same : Resembles keyOf key state state') {id : BuildId} (own : id.key = key)
    {startEpoch startEpoch' : Nat}
    (stale : startEpoch < (state.entry key).invalidatedEpoch ↔
      startEpoch' < (state'.entry key).invalidatedEpoch)
    (outcome : Outcome Runtime Resource) :
    Resembles keyOf key (State.finishBuild builder state id startEpoch outcome)
      (State.finishBuild builder state' id startEpoch' outcome) := by
  have replaces (graph : Graph Runtime Resource) (reason : Option String) :
      Resembles keyOf key (State.replaceGraph builder state id startEpoch graph reason)
        (State.replaceGraph builder state' id startEpoch' graph reason) := by
    have installs := same.install own stale graph reason
    have announces := (installs.setOutcome id (.ok ())).notifyAll id
    exact announces.passes (.replaceGraph id startEpoch graph reason)
      (.replaceGraph id startEpoch' graph reason)
  cases outcome with
  | workflow graph => exact replaces graph none
  | fallback graph reason => exact replaces graph reason
  | failed fault => exact same.abandon own _
  | panicked => exact same.abandon own _

/-! ## Tasks that go on -/

theorem task?_eq_find? (state : State World Runtime Resource Reply) {name : TaskName}
    (mine : name.serving keyOf key) :
    state.task? name = (state.outlook keyOf key).tasks.find? (·.name = name) := by
  unfold State.task? outlook
  dsimp only
  rw [List.find?_filter]
  congr 1
  funext task
  by_cases named : task.name = name
  · subst named
    simp [mine]
  · simp [named]

/-- A task of the key is found in both states or in neither. -/
theorem task? (same : Resembles keyOf key state state') {name : TaskName}
    (mine : name.serving keyOf key) :
    (state.task? name = none ∧ state'.task? name = none) ∨
      ∃ task task', state.task? name = some task ∧ state'.task? name = some task' ∧
        Task.Resembles key (state.clock key) (state'.clock key) task task' := by
  have find : ∀ {tasks tasks' : List (Task World Runtime Resource Reply)},
      List.Forall₂ (Task.Resembles key (state.clock key) (state'.clock key)) tasks tasks' →
        (tasks.find? (·.name = name) = none ∧ tasks'.find? (·.name = name) = none) ∨
          ∃ task task', tasks.find? (·.name = name) = some task ∧
            tasks'.find? (·.name = name) = some task' ∧
              Task.Resembles key (state.clock key) (state'.clock key) task task' := by
    intro tasks tasks' alike
    induction alike with
    | nil => exact Or.inl ⟨rfl, rfl⟩
    | @cons task task' rest rest' head alike induction =>
        by_cases named : task.name = name
        · have named' : task'.name = name := head.name_eq ▸ named
          exact Or.inr ⟨task, task', by simp [named], by simp [named'], head⟩
        · have named' : ¬ task'.name = name := head.name_eq ▸ named
          rw [List.find?_cons_of_neg (by simpa using named),
            List.find?_cons_of_neg (by simpa using named')]
          exact induction
  rw [task?_eq_find? state mine, task?_eq_find? state' mine]
  exact find same.tasks

/-- A caller waits for a build of the key that its call is about. -/
theorem waiting (same : Resembles keyOf key state state') {name : TaskName}
    (mine : name.serving keyOf key) {call : CallId} {build : BuildId} {purpose : Purpose}
    (found : state.task? name = some (.waiting call build purpose)) : build.key = key := by
  rcases same.task? mine with ⟨absent, _⟩ | ⟨task, task', present, _, alike⟩
  · rw [absent] at found
    cases found
  · rw [present] at found
    cases found
    cases alike with
    | waiting call build purpose own => exact own

theorem isReady_eq (same : Resembles keyOf key state state')
    {task task' : Task World Runtime Resource Reply}
    (alike : Task.Resembles key (state.clock key) (state'.clock key) task task') :
    state.isReady task = state'.isReady task' := by
  cases alike with
  | waiting call build purpose own => exact congrArg Option.isSome (same.outcome_eq own)
  | refreshing build own => exact congrArg Option.isSome (same.outcome_eq own)
  | building id own parallel stale begun begun' =>
      have now : state.now = state'.now := same.now
      unfold State.isReady
      dsimp only
      rw [now]
      exact parallel.isReady_eq state'.now state.world state'.world

theorem receive (uniform : ∀ id, (builder.build id).Parallel (builder.build id))
    (same : Resembles keyOf key state state') (call : CallId) {build : BuildId}
    (own : build.key = key) (purpose : Purpose) (outcome : Except String Unit) :
    Resembles keyOf key (State.receive builder state call build purpose outcome)
      (State.receive builder state' call build purpose outcome) := by
  subst own
  cases outcome with
  | error text => exact same.refuse call purpose text
  | ok delivered =>
      cases purpose with
      | rebuild => exact same.deliver call .rebuild build
      | get => exact same.beginGet uniform call

theorem proceed (uniform : ∀ id, (builder.build id).Parallel (builder.build id))
    (same : Resembles keyOf key state state') {task task' : Task World Runtime Resource Reply}
    (alike : Task.Resembles key (state.clock key) (state'.clock key) task task') :
    Resembles keyOf key (State.proceed builder state task)
      (State.proceed builder state' task') := by
  cases alike with
  | waiting call build purpose own =>
      unfold State.proceed
      dsimp only
      rw [same.outcome_eq own]
      split
      · rename_i outcome delivered
        exact (same.dismiss _).receive uniform call own purpose outcome
      · exact same
  | refreshing build own =>
      subst own
      unfold State.proceed
      dsimp only
      rw [same.outcome_eq rfl]
      split
      · exact (same.dismiss _).refresh uniform
      · exact (same.dismiss _).note rfl
      · exact same
  | @building id startEpoch startEpoch' rest rest' own parallel stale begun begun' =>
      have now : state.now = state'.now := same.now
      have goesOn : (state.resume rest).1.Parallel (state'.resume rest').1 := by
        unfold State.resume
        dsimp only
        rw [now]
        exact parallel.resume state'.now state.world state'.world
      have resumes : Resembles keyOf key (state.resume rest).2 (state'.resume rest').2 :=
        same.passes (.resume rfl) (.resume rfl)
      have stale' : startEpoch < ((state.resume rest).2.entry key).invalidatedEpoch ↔
        startEpoch' < ((state'.resume rest').2.entry key).invalidatedEpoch := stale
      have begun : startEpoch ≤ (state.resume rest).2.epoch := begun
      have begun' : startEpoch' ≤ (state'.resume rest').2.epoch := begun'
      unfold State.proceed
      dsimp only
      generalize state.resume rest = resumed at goesOn resumes stale' begun ⊢
      generalize state'.resume rest' = resumed' at goesOn resumes stale' begun' ⊢
      rcases resumed with ⟨after, next⟩
      rcases resumed' with ⟨after', next'⟩
      cases goesOn with
      | done outcome => exact (resumes.dismiss _).finishBuild own stale' outcome
      | look further => exact resumes.replace (.building id own (.look further) stale' begun begun')
      | put world other further =>
          exact resumes.replace (.building id own (.put world other further) stale' begun begun')
      | pause deadline ready further =>
          exact resumes.replace
            (.building id own (.pause deadline ready further) stale' begun begun')

end Resembles

end State

end RuntimeCache

end AssistantEngine
