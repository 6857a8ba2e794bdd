import AssistantEngine.Proofs.RuntimeCache.Independence
import AssistantEngine.Proofs.RuntimeCache.Release
import AssistantEngine.Proofs.RuntimeCache.Vacancy

/-!
Requested rebuilds. The first request for a key arms its timer, and those that follow are refused
until the timer fires at its deadline or is cancelled because its key is closed. Whatever a rebuild
gets that was fired, was built after the firing.
-/

namespace AssistantEngine

namespace RuntimeCache

open History

namespace Occurrence

/-- The key whose timer an occurrence is about. -/
def timer? : Occurrence → Option String
  | armed key _ => some key
  | refused key => some key
  | fired key _ => some key
  | cancelled key => some key
  | _ => none

end Occurrence

namespace History

/-- What happened to the timers of a key, in order. -/
def timings (journal : List Occurrence) (key : String) : List Occurrence :=
  journal.filter (·.timer? = some key)

variable {journal more : List Occurrence}

@[simp] theorem timings_append (key : String) :
    timings (journal ++ more) key = timings journal key ++ timings more key :=
  List.filter_append _ _

theorem timings_singleton (occurrence : Occurrence) (key : String) :
    timings [occurrence] key = if occurrence.timer? = some key then [occurrence] else [] := by
  by_cases own : occurrence.timer? = some key <;> simp [timings, own]

theorem timings_of_untimed (untimed : ∀ occurrence ∈ more, occurrence.timer? = none)
    (key : String) : timings more key = [] := by
  refine List.filter_eq_nil_iff.mpr fun occurrence member => ?_
  simp [untimed occurrence member]

end History

/-- The clock, when the timer of a key expires, if one is armed, and what happened to it and to
those before it. -/
structure Timer where
  now : Time
  deadline? : Option Time
  past : List Occurrence

variable {World Runtime Resource Reply : Type} {builder : Builder World Runtime Resource}
variable {state next : State World Runtime Resource Reply} {key other : String}

def State.timer (state : State World Runtime Resource Reply) (key : String) : Timer where
  now := state.now
  deadline? := state.timers.find? key
  past := timings state.journal key

/-! ## Operations that have nothing to do with timers -/

/-- A change in which no time passes and no timer is touched. -/
structure Untimed (state next : State World Runtime Resource Reply) : Prop where
  now : next.now = state.now
  timers : next.timers = state.timers
  journal : ∃ more, next.journal = state.journal ++ more ∧
    ∀ occurrence ∈ more, occurrence.timer? = none

namespace Untimed

theorem timer (untimed : Untimed state next) (key : String) :
    next.timer key = state.timer key := by
  rcases untimed.journal with ⟨more, grown, silent⟩
  unfold State.timer
  rw [untimed.now, untimed.timers, grown, timings_append, timings_of_untimed silent,
    List.append_nil]

theorem ofJournal (more : List Occurrence) (now : next.now = state.now)
    (timers : next.timers = state.timers) (journal : next.journal = state.journal ++ more)
    (silent : ∀ occurrence ∈ more, occurrence.timer? = none) : Untimed state next :=
  ⟨now, timers, more, journal, silent⟩

theorem quiet (now : next.now = state.now) (timers : next.timers = state.timers)
    (journal : next.journal = state.journal) : Untimed state next :=
  .ofJournal [] now timers (journal.trans (List.append_nil _).symm) (by simp)

theorem note (occurrence : Occurrence) (now : next.now = state.now)
    (timers : next.timers = state.timers) (journal : next.journal = state.journal ++ [occurrence])
    (silent : occurrence.timer? = none) : Untimed state next :=
  .ofJournal [occurrence] now timers journal (by simpa using silent)

theorem refl : Untimed state state := .quiet rfl rfl rfl

theorem trans {between : State World Runtime Resource Reply} (first : Untimed state between)
    (second : Untimed between next) : Untimed state next := by
  rcases first.journal with ⟨early, begun, silent⟩
  rcases second.journal with ⟨late, ended, still⟩
  exact .ofJournal (early ++ late) (second.now.trans first.now)
    (second.timers.trans first.timers) (by rw [ended, begun, List.append_assoc])
    (List.forall_mem_append.mpr ⟨silent, still⟩)

theorem startOrJoin (builder : Builder World Runtime Resource)
    (state : State World Runtime Resource Reply) (key : String) :
    Untimed state (State.startOrJoin builder state key).2 := by
  cases building : (state.entry key).building with
  | some build =>
      rw [State.startOrJoin_join builder state building]
      exact refl
  | none =>
      rw [State.startOrJoin_start builder state building]
      exact .note _ rfl rfl rfl rfl

theorem lookUp (builder : Builder World Runtime Resource)
    (state : State World Runtime Resource Reply) (key : String) :
    Untimed state (State.lookUp builder state key).2 := by
  rcases State.lookUp_cases builder state key with
    ⟨build, _, found⟩ | ⟨installed, _, _, found⟩ | ⟨_, _, found⟩ <;> rw [found]
  · exact refl
  · exact refl
  · exact startOrJoin builder state key

theorem deliver (state : State World Runtime Resource Reply) (call : CallId) (purpose : Purpose)
    (id : BuildId) : Untimed state (state.deliver call purpose id) := by
  rcases State.deliver_eq state call purpose id with ⟨holders, _, same⟩
  rw [same]
  exact .note _ rfl rfl rfl rfl

theorem beginGet (builder : Builder World Runtime Resource)
    (state : State World Runtime Resource Reply) (call : CallId) (key : String) :
    Untimed state (State.beginGet builder state call key) := by
  have looked := lookUp builder state key
  unfold State.beginGet
  split <;> rename_i found <;> rw [found] at looked
  · exact looked.trans (deliver _ call .get _)
  · exact looked.trans (.quiet rfl rfl rfl)

theorem beginRebuild (builder : Builder World Runtime Resource)
    (state : State World Runtime Resource Reply) (call : CallId) (key : String) :
    Untimed state (State.beginRebuild builder state call key) :=
  (startOrJoin builder state key).trans (.quiet rfl rfl rfl)

theorem refresh (builder : Builder World Runtime Resource)
    (state : State World Runtime Resource Reply) (key : String) :
    Untimed state (State.refresh builder state key) := by
  have looked := lookUp builder state key
  unfold State.refresh
  split <;> rename_i found <;> rw [found] at looked
  · exact looked.trans (.note _ rfl rfl rfl rfl)
  · exact looked.trans (.quiet rfl rfl rfl)

theorem receive (builder : Builder World Runtime Resource)
    (state : State World Runtime Resource Reply) (call : CallId) (build : BuildId)
    (purpose : Purpose) (outcome : Except String Unit) :
    Untimed state (State.receive builder state call build purpose outcome) := by
  cases outcome with
  | error text => exact .note _ rfl rfl rfl rfl
  | ok _ =>
      cases purpose with
      | get => exact beginGet builder state call build.key
      | rebuild => exact deliver state call .rebuild build

theorem beginWork (state : State World Runtime Resource Reply) (call : CallId)
    (held : Option BuildId) (activity : Activity World Reply) :
    Untimed state (state.beginWork call held activity) := by
  unfold State.beginWork
  split <;> rename_i advanced <;> rcases State.eq_of_advance advanced with ⟨world, rfl⟩ <;>
    exact .quiet rfl rfl rfl

theorem retire (builder : Builder World Runtime Resource)
    (state : State World Runtime Resource Reply) (old : Installed Runtime Resource) :
    Untimed state (State.retire builder state old).2 := by
  rcases State.retire_eq builder state old with held | free
  · rw [held]
    exact .quiet rfl rfl rfl
  · rw [free]
    exact .note _ rfl rfl rfl rfl

theorem notifyAll (state : State World Runtime Resource Reply) (id : BuildId) :
    Untimed state (state.notifyAll id) := by
  rcases State.notifyAll_eq state id with ⟨world, holders, _, same⟩
  rw [same]
  refine .ofJournal _ rfl rfl rfl fun occurrence member => ?_
  rcases List.mem_map.mp member with ⟨position, _, rfl⟩
  rfl

theorem replaceGraph (builder : Builder World Runtime Resource)
    (state : State World Runtime Resource Reply) (id : BuildId) (startEpoch : Nat)
    (graph : Graph Runtime Resource) (reason : Option String) :
    Untimed state (State.replaceGraph builder state id startEpoch graph reason) := by
  let installed := (state.install id startEpoch graph reason).setOutcome id (.ok ())
  have installing : Untimed state installed := .note (.installed id) rfl rfl rfl rfl
  have told := installing.trans (notifyAll installed id)
  unfold State.replaceGraph
  dsimp only
  split
  · exact told
  · rename_i old _
    have retired := told.trans (retire builder _ old)
    split <;> rename_i advanced <;> rcases State.eq_of_advance advanced with ⟨world, rfl⟩ <;>
      exact retired.trans (.quiet rfl rfl rfl)

theorem finishBuild (builder : Builder World Runtime Resource)
    (state : State World Runtime Resource Reply) (id : BuildId) (startEpoch : Nat)
    (outcome : Outcome Runtime Resource) :
    Untimed state (State.finishBuild builder state id startEpoch outcome) := by
  cases outcome with
  | workflow graph => exact replaceGraph builder state id startEpoch graph none
  | fallback graph reason => exact replaceGraph builder state id startEpoch graph (some reason)
  | failed fault => exact .note (.failed id) rfl rfl rfl rfl
  | panicked => exact .note (.failed id) rfl rfl rfl rfl

theorem evict (state : State World Runtime Resource Reply) (key : String) :
    Untimed state (state.evict key).2 := by
  rcases State.evict_eq state key with ⟨entries, same⟩
  rw [same]
  exact .note _ rfl rfl rfl rfl

theorem evictAll (state : State World Runtime Resource Reply) (keys : List String) :
    Untimed state (keys.foldl (fun state key => (state.evict key).2) state) := by
  induction keys generalizing state with
  | nil => exact refl
  | cons key keys induction => exact (evict state key).trans (induction _)

theorem closeGraphs (call : CallId) (hadGraph : Bool) (afterwards : Activity World Unit)
    (remaining : List (Installed Runtime Resource)) (current : Activity World Unit)
    (state : State World Runtime Resource Reply) :
    Untimed state
      (State.closeGraphs builder call hadGraph afterwards remaining current state) := by
  induction remaining generalizing state current with
  | nil =>
      unfold State.closeGraphs
      split <;> rename_i advanced <;> rcases State.eq_of_advance advanced with ⟨world, rfl⟩ <;>
        exact .quiet rfl rfl rfl
  | cons graph remaining induction =>
      unfold State.closeGraphs
      split <;> rename_i advanced <;> rcases State.eq_of_advance advanced with ⟨world, rfl⟩
      · have ended : Untimed state { state with world := world } := .quiet rfl rfl rfl
        exact (ended.trans (retire builder _ graph)).trans (induction _ _)
      · exact .quiet rfl rfl rfl

theorem proceed (builder : Builder World Runtime Resource)
    (state : State World Runtime Resource Reply)
    (task : Task World Runtime Resource Reply) :
    Untimed state (State.proceed builder state task) := by
  have dismissing (world : World) :
      Untimed state (State.dismiss { state with world := world } task.name) := .quiet rfl rfl rfl
  cases task with
  | waiting call build purpose =>
      unfold State.proceed
      dsimp only
      split
      · exact (dismissing state.world).trans (receive builder _ call build purpose _)
      · exact refl
  | refreshing build =>
      unfold State.proceed
      dsimp only
      split
      · exact (dismissing state.world).trans (refresh builder _ build.key)
      · exact .note _ rfl rfl rfl rfl
      · exact refl
  | building id startEpoch rest =>
      unfold State.proceed
      dsimp only
      split <;> rename_i resumed <;> rcases State.eq_of_resume resumed with ⟨world, rfl⟩
      · exact (dismissing world).trans (finishBuild builder _ id startEpoch _)
      · exact .quiet rfl rfl rfl
  | closing call hadGraph current remaining afterwards =>
      unfold State.proceed
      dsimp only
      cases resumed : state.resume current with
      | mk after next =>
      rcases State.eq_of_resume resumed with ⟨world, rfl⟩
      exact (dismissing world).trans (closeGraphs call hadGraph afterwards remaining after _)
  | orphaned id scope =>
      unfold State.proceed
      dsimp only
      split <;> rename_i advanced <;> rcases State.eq_of_advance advanced with ⟨world, rfl⟩ <;>
        exact .note (.released id) rfl rfl rfl rfl
  | finishing | releasing | working =>
      unfold State.proceed
      dsimp only
      split <;> rename_i resumed <;> rcases State.eq_of_resume resumed with ⟨world, rfl⟩ <;>
        exact .quiet rfl rfl rfl

end Untimed

/-! ## What a step does to the timer of a key -/

/-- Whether an action closes a key. -/
def Action.closes (key : String) : Action World Runtime Resource Reply → Bool
  | close _ other => other = key
  | closeAll _ _ => true
  | _ => false

namespace Timer

/-- The timer of a key that is closed. -/
def cancel (key : String) (timer : Timer) : Timer :=
  match timer.deadline? with
  | some _ => ⟨timer.now, none, timer.past ++ [.cancelled key]⟩
  | none => timer

theorem cancel_idem (timer : Timer) : (timer.cancel key).cancel key = timer.cancel key := by
  unfold cancel
  cases armed : timer.deadline? with
  | none => simp [armed]
  | some deadline => rfl

end Timer

/-- What an action can do to the timer of a key. -/
inductive Turn (key : String) :
    Action World Runtime Resource Reply → Timer → Timer → Prop
  | idle (action) (timer) : Turn key action timer timer
  /-- Time does not pass the deadline. -/
  | waited (duration) (timer : Timer) (now : Time)
      (bounded : ∀ deadline, timer.deadline? = some deadline → now ≤ max timer.now deadline) :
      Turn key (.elapse duration) timer { timer with now := now }
  | armed (delay now : Time) (past) :
      Turn key (.requestRebuild key delay) ⟨now, none, past⟩
        ⟨now, some (now + delay), past ++ [.armed key (now + delay)]⟩
  | refused (delay now deadline : Time) (past) :
      Turn key (.requestRebuild key delay) ⟨now, some deadline, past⟩
        ⟨now, some deadline, past ++ [.refused key]⟩
  | fired (now deadline : Time) (past) (due : deadline ≤ now) :
      Turn key (.fire key) ⟨now, some deadline, past⟩ ⟨now, none, past ++ [.fired key now]⟩
  | cancelled (action) (closing : action.closes key) (now deadline : Time) (past) :
      Turn key action ⟨now, some deadline, past⟩ ⟨now, none, past ++ [.cancelled key]⟩

namespace State

theorem timer_note (state : State World Runtime Resource Reply) {occurrence : Occurrence}
    (about : occurrence.timer? = some other) :
    (state.note occurrence).timer key =
      if other = key then
        ⟨state.now, state.timers.find? key, timings state.journal key ++ [occurrence]⟩
      else state.timer key := by
  unfold timer note
  rw [timings_append, timings_singleton, about]
  by_cases same : other = key <;> simp [same]

/-! ### Requests -/

/-- A request arms a timer just if the key has none. -/
theorem requestRebuild_granted (delay : Time) :
    (state.requestRebuild key delay).1 = true ↔ state.timers.find? key = none := by
  unfold requestRebuild Catalog.contains
  cases state.timers.find? key <;> simp

theorem requestRebuild_of_vacant (vacant : state.timers.find? key = none) (delay : Time) :
    state.requestRebuild key delay =
      (true, { state with
        timers := state.timers.insert key (state.now + delay)
        journal := state.journal ++ [.armed key (state.now + delay)] }) := by
  unfold requestRebuild Catalog.contains
  rw [vacant]
  rfl

theorem requestRebuild_of_armed {deadline : Time}
    (armed : state.timers.find? key = some deadline) (delay : Time) :
    state.requestRebuild key delay = (false, state.note (.refused key)) := by
  unfold requestRebuild Catalog.contains
  rw [armed]
  rfl

theorem timer_requestRebuild_of_ne (different : other ≠ key) (delay : Time) :
    (state.requestRebuild other delay).2.timer key = state.timer key := by
  rcases requestRebuild_eq state other delay with refused | armed
  · rw [refused, timer_note state rfl, if_neg different]
  · rw [armed, timer_note _ rfl, if_neg different]
    unfold timer
    rw [Catalog.find?_insert, if_neg different]

/-! ### Cancellations -/

theorem timer_erase (state : State World Runtime Resource Reply) {occurrence : Occurrence}
    (about : occurrence.timer? = some other) :
    ({ state with timers := state.timers.erase other }.note occurrence).timer key =
      if other = key then ⟨state.now, none, timings state.journal key ++ [occurrence]⟩
      else state.timer key := by
  rw [timer_note _ about]
  by_cases same : other = key
  · simp [same, Catalog.find?_erase]
  · simp [timer, same, Catalog.find?_erase]

theorem timer_cancelTimer (state : State World Runtime Resource Reply) (key other : String) :
    (state.cancelTimer other).timer key =
      if other = key then (state.timer key).cancel key else state.timer key := by
  unfold cancelTimer Catalog.contains
  cases armed : state.timers.find? other with
  | none =>
      by_cases same : other = key
      · subst same
        simp [Timer.cancel, timer, armed]
      · simp [same]
  | some deadline =>
      rw [Option.isSome_some, if_pos rfl, timer_erase state rfl]
      by_cases same : other = key
      · subst same
        simp [Timer.cancel, timer, armed]
      · simp [same]

theorem timer_cancelTimers (keys : List String) :
    (keys.foldl cancelTimer state).timer key =
      if key ∈ keys then (state.timer key).cancel key else state.timer key := by
  induction keys generalizing state with
  | nil => rfl
  | cons other keys induction =>
      rw [List.foldl_cons, induction, timer_cancelTimer]
      by_cases same : other = key
      · subst same
        simp [Timer.cancel_idem]
      · simp [same, Ne.symm same]

/-- Closing all keys cancels the timer of each. -/
theorem timer_cancelAll :
    (state.timers.keys.foldl cancelTimer state).timer key = (state.timer key).cancel key := by
  rw [timer_cancelTimers]
  split
  · rfl
  · rename_i absent
    have none : state.timers.find? key = none := by
      rwa [Catalog.mem_keys_iff, Bool.not_eq_true, Option.isSome_eq_false_iff,
        Option.isNone_iff_eq_none] at absent
    simp [Timer.cancel, timer, none]

theorem timer_beginClose (call : CallId) (other : String) :
    (beginClose builder state call other).timer key =
      if other = key then (state.timer key).cancel key else state.timer key := by
  let evicted := ((state.cancelTimer other).evict other).2
  have emptying : Untimed (state.cancelTimer other) evicted := .evict _ other
  have told : Untimed evicted (evicted.note (.closed call other
      ((state.cancelTimer other).evict other).1.isSome)) := .note _ rfl rfl rfl rfl
  unfold beginClose
  rw [(Untimed.closeGraphs call _ _ _ _ _).timer key, ← timer_cancelTimer]
  exact (emptying.trans told).timer key

theorem timer_beginCloseAll (call : CallId) (afterwards : Activity World Unit) :
    (beginCloseAll builder state call afterwards).timer key = (state.timer key).cancel key := by
  let cancelled := state.timers.keys.foldl cancelTimer state
  have told : Untimed cancelled (cancelled.note (.closedAll call)) := .note _ rfl rfl rfl rfl
  unfold beginCloseAll
  rw [(Untimed.closeGraphs call _ _ _ _ _).timer key, ← timer_cancelAll]
  exact (told.trans (Untimed.evictAll _ _)).timer key

/-! ### Firing -/

theorem timer_fire (builder : Builder World Runtime Resource)
    (state : State World Runtime Resource Reply) (key other : String) :
    (fire builder state other).timer key =
      if other = key then ⟨state.now, none, timings state.journal key ++ [.fired key state.now]⟩
      else state.timer key := by
  let fired := { state with timers := state.timers.erase other }.note (.fired other state.now)
  -- All that follows the firing itself has nothing to do with timers.
  have invalidated : Untimed fired (fired.invalidate other) := .note _ rfl rfl rfl rfl
  have refreshed := invalidated.trans (.refresh builder _ other)
  refine (refreshed.timer key).trans ?_
  refine (timer_erase state rfl).trans ?_
  split
  · rename_i same
    rw [same]
  · rfl

end State

namespace Turn

theorem ofUntimed (action : Action World Runtime Resource Reply) (untimed : Untimed state next) :
    Turn key action (state.timer key) (next.timer key) := by
  rw [untimed.timer]
  exact .idle action _

theorem ofClosing {action : Action World Runtime Resource Reply} (closing : action.closes key)
    (timer : Timer) : Turn key action timer (timer.cancel key) := by
  rcases timer with ⟨now, deadline?, past⟩
  cases deadline? with
  | none => exact .idle _ _
  | some deadline => exact .cancelled _ closing now deadline past

theorem requestRebuild (delay : Time) :
    Turn key (.requestRebuild other delay : Action World Runtime Resource Reply) (state.timer key)
      ((state.requestRebuild other delay).2.timer key) := by
  by_cases same : other = key
  · subst same
    cases armed : state.timers.find? other with
    | none =>
        let deadline := state.now + delay
        let inserted := { state with timers := state.timers.insert other deadline }
        have noted : (inserted.note (.armed other deadline)).timer other =
            ⟨state.now, inserted.timers.find? other,
              timings state.journal other ++ [.armed other deadline]⟩ :=
          (State.timer_note inserted rfl).trans (if_pos rfl)
        rw [Catalog.find?_insert_self] at noted
        rw [State.requestRebuild_of_vacant armed, State.timer, armed]
        exact noted ▸ .armed delay state.now _
    | some deadline =>
        rw [State.requestRebuild_of_armed armed, State.timer_note state rfl, if_pos rfl,
          State.timer, armed]
        exact .refused delay state.now deadline _
  · rw [State.timer_requestRebuild_of_ne same]
    exact .idle _ _

theorem elapse (duration : Time) :
    Turn key (.elapse duration : Action World Runtime Resource Reply) (state.timer key)
      ((state.elapse duration).timer key) := by
  refine .waited duration (state.timer key) (state.elapse duration).now fun deadline armed => ?_
  exact State.now_elapse_le (Catalog.mem_values_of_find? armed) duration

theorem fire {expiry : Time} (armed : state.timers.find? other = some expiry)
    (due : expiry ≤ state.now) :
    Turn key (.fire other : Action World Runtime Resource Reply) (state.timer key)
      ((State.fire builder state other).timer key) := by
  rw [State.timer_fire]
  split
  · rename_i same
    subst same
    rw [State.timer, armed]
    exact .fired state.now expiry _ due
  · exact .idle _ _

end Turn

/-- What a step does to the timer of a key, by what the action is. -/
theorem State.step_turn (builder : Builder World Runtime Resource)
    (state : State World Runtime Resource Reply) (key : String)
    (action : Action World Runtime Resource Reply) :
    Turn key action (state.timer key) ((step builder state action).timer key) := by
  change Turn key action (state.timer key) ((perform builder state action).timer key)
  cases action with
  | get call own =>
      have asking : Untimed state (state.note (.asked call .get own)) := .note _ rfl rfl rfl rfl
      exact .ofUntimed _ (asking.trans (.beginGet builder _ call own))
  | rebuild call own =>
      have asking : Untimed state (state.note (.asked call .rebuild own)) :=
        .note _ rfl rfl rfl rfl
      exact .ofUntimed _ (asking.trans (.beginRebuild builder _ call own))
  | work call held activity =>
      unfold perform
      dsimp only
      split
      · exact .ofUntimed _ (.beginWork state call held activity)
      · exact .idle _ _
  | invalidate | invalidateAll => exact .ofUntimed _ (.note _ rfl rfl rfl rfl)
  | requestRebuild own delay => exact .requestRebuild delay
  | close call own =>
      unfold perform
      rw [timer_beginClose]
      split
      · rename_i same
        have closing : (Action.close call own : Action World Runtime Resource Reply).closes key :=
          decide_eq_true same
        exact .ofClosing closing _
      · exact .idle _ _
  | closeAll call afterwards =>
      unfold perform
      rw [timer_beginCloseAll]
      exact .ofClosing rfl _
  | share holder id =>
      unfold perform
      dsimp only
      split
      · exact .ofUntimed _ (.quiet rfl rfl rfl)
      · exact .idle _ _
  | subscribe | drop | forget | edit => exact .ofUntimed _ (.quiet rfl rfl rfl)
  | elapse duration => exact .elapse duration
  | fire own =>
      unfold perform
      dsimp only
      split
      · rename_i expiry armed
        split
        · rename_i due
          exact .fire armed due
        · exact .idle _ _
      · exact .idle _ _
  | resume name =>
      unfold perform
      dsimp only
      split
      · split
        · exact .ofUntimed _ (.proceed builder state _)
        · exact .idle _ _
      · exact .idle _ _

/-! ## The timers of a key over a run -/

/-- The record of the timers of a key, with the deadline of the one that is armed at its end: each
is armed when there is none, stands while requests are refused, and then fires at its very deadline
or is cancelled. -/
inductive TimerHistory (key : String) : List Occurrence → Option Time → Prop
  | nil : TimerHistory key [] none
  | armed {past} (deadline : Time) (before : TimerHistory key past none) :
      TimerHistory key (past ++ [.armed key deadline]) (some deadline)
  | refused {past deadline} (before : TimerHistory key past (some deadline)) :
      TimerHistory key (past ++ [.refused key]) (some deadline)
  | fired {past deadline} (before : TimerHistory key past (some deadline)) :
      TimerHistory key (past ++ [.fired key deadline]) none
  | cancelled {past deadline} (before : TimerHistory key past (some deadline)) :
      TimerHistory key (past ++ [.cancelled key]) none

namespace Timer

/-- The record is in order, and the deadline is not over. -/
structure Lawful (key : String) (timer : Timer) : Prop where
  history : TimerHistory key timer.past timer.deadline?
  timely : ∀ deadline, timer.deadline? = some deadline → timer.now ≤ deadline

/-- A timer still stands some time later, with the same deadline. Whoever asked for one meanwhile
was refused. -/
structure Stands (key : String) (deadline : Time) (timer later : Timer) : Prop where
  armed : later.deadline? = some deadline
  timely : later.now ≤ deadline
  refusals : ∃ count, later.past = timer.past ++ List.replicate count (.refused key)

theorem Stands.trans {deadline : Time} {timer between later : Timer}
    (first : Stands key deadline timer between) (second : Stands key deadline between later) :
    Stands key deadline timer later where
  armed := second.armed
  timely := second.timely
  refusals := by
    rcases first.refusals with ⟨early, begun⟩
    rcases second.refusals with ⟨late, ended⟩
    refine ⟨early + late, ?_⟩
    rw [ended, begun, List.replicate_add, List.append_assoc]

end Timer

/-- The end of a timer: it fires at its deadline, or is cancelled because its key is closed. -/
inductive Ending (key : String) (deadline : Time) :
    Action World Runtime Resource Reply → Timer → Timer → Prop
  | fired (past) :
      Ending key deadline (.fire key) ⟨deadline, some deadline, past⟩
        ⟨deadline, none, past ++ [.fired key deadline]⟩
  | cancelled (action) (closing : action.closes key) (now : Time) (past) :
      Ending key deadline action ⟨now, some deadline, past⟩
        ⟨now, none, past ++ [.cancelled key]⟩

namespace Turn

variable {action : Action World Runtime Resource Reply} {timer later : Timer}

theorem lawful (turn : Turn key action timer later) (lawful : timer.Lawful key) :
    later.Lawful key := by
  cases turn with
  | idle => exact lawful
  | waited duration timer now bounded =>
      refine ⟨lawful.history, fun deadline armed => ?_⟩
      exact Nat.le_trans (bounded deadline armed)
        (Nat.max_le.mpr ⟨lawful.timely deadline armed, Nat.le_refl _⟩)
  | armed delay now past =>
      refine ⟨.armed _ lawful.history, fun deadline armed => ?_⟩
      cases armed
      exact Nat.le_add_right now delay
  | refused delay now deadline past => exact ⟨.refused lawful.history, lawful.timely⟩
  | fired now deadline past due =>
      have punctual : now = deadline := Nat.le_antisymm (lawful.timely deadline rfl) due
      subst punctual
      exact ⟨.fired lawful.history, fun _ armed => nomatch armed⟩
  | cancelled _ closing now deadline past =>
      exact ⟨.cancelled lawful.history, fun _ armed => nomatch armed⟩

/-- While a timer is armed, an action leaves it standing or ends it. -/
theorem stands_or_ends {deadline : Time} (turn : Turn key action timer later)
    (armed : timer.deadline? = some deadline) (timely : timer.now ≤ deadline) :
    timer.Stands key deadline later ∨ Ending key deadline action timer later := by
  cases turn with
  | idle => exact .inl ⟨armed, timely, 0, (List.append_nil _).symm⟩
  | waited duration timer now bounded =>
      refine .inl ⟨armed, ?_, 0, (List.append_nil _).symm⟩
      exact Nat.le_trans (bounded deadline armed) (Nat.max_le.mpr ⟨timely, Nat.le_refl _⟩)
  | armed delay now past => cases armed
  | refused delay now deadline past => exact .inl ⟨armed, timely, 1, rfl⟩
  | fired now deadline past due =>
      cases armed
      have punctual : now = deadline := Nat.le_antisymm timely due
      subst punctual
      exact .inr (.fired past)
  | cancelled _ closing now deadline past =>
      cases armed
      exact .inr (.cancelled action closing now past)

end Turn

namespace State

theorem run_lawful (lawful : (state.timer key).Lawful key)
    (actions : List (Action World Runtime Resource Reply)) :
    ((run builder state actions).timer key).Lawful key := by
  induction actions generalizing state with
  | nil => exact lawful
  | cons action actions induction =>
      exact induction ((step_turn builder state key action).lawful lawful)

theorem Reachable.timer_lawful {world : World}
    (reachable : Reachable builder { world := world } state) (key : String) :
    (state.timer key).Lawful key := by
  rcases reachable with ⟨actions, rfl⟩
  exact run_lawful ⟨.nil, fun _ armed => by cases armed⟩ actions

/-- After a run, a timer that was armed still stands, or it has ended on the way. -/
theorem run_stands_or_ends {deadline : Time} (armed : state.timers.find? key = some deadline)
    (timely : state.now ≤ deadline) (actions : List (Action World Runtime Resource Reply)) :
    (state.timer key).Stands key deadline ((run builder state actions).timer key) ∨
      ∃ front action rest, actions = front ++ action :: rest ∧
        (state.timer key).Stands key deadline ((run builder state front).timer key) ∧
        Ending key deadline action ((run builder state front).timer key)
          ((run builder state (front ++ [action])).timer key) := by
  -- From the end: the last action finds the timer standing, or it has ended before.
  induction actions using List.reverseRecOn with
  | nil => exact .inl ⟨armed, timely, 0, (List.append_nil _).symm⟩
  | append_singleton earlier last induction =>
      rcases induction with stands | ⟨front, action, rest, rfl, stands, ends⟩
      · have turn := step_turn builder (run builder state earlier) key last
        rw [← run_concat] at turn
        rcases turn.stands_or_ends stands.armed stands.timely with still | ends
        · exact .inl (stands.trans still)
        · exact .inr ⟨earlier, last, [], rfl, stands, ends⟩
      · exact .inr ⟨front, action, rest ++ [last], List.append_assoc _ _ _, stands, ends⟩

end State

/-! ## What a fired rebuild gets -/

/-- A build that is up to date after its key was invalidated was started after that. -/
theorem History.started_of_current {past more : List Occurrence} {id : BuildId}
    (begun : 0 < starts (past ++ more) id) (current : ¬ Invalidated (past ++ more) id)
    (outdated : .invalidated id.key ∈ more) :
    (∃ epoch, .started id epoch ∈ more) ∧ ∀ epoch, .started id epoch ∉ past := by
  have invalidates : ∃ occurrence ∈ more, occurrence.invalidates id.key :=
    ⟨_, outdated, decide_eq_true rfl⟩
  have fresh : ¬ 0 < starts past id := fun earlier =>
    current (invalidated_append.mpr (.inr (.inl ⟨earlier, invalidates⟩)))
  rw [starts_append] at begun
  refine ⟨starts_pos_iff.mp (by omega), fun epoch member => ?_⟩
  exact fresh (starts_pos_iff.mpr ⟨epoch, member⟩)

namespace State

theorem step_fire {deadline : Time} (armed : state.timers.find? key = some deadline)
    (due : deadline ≤ state.now) :
    step builder state (.fire key) = (fire builder state key).releaseDropped := by
  unfold step perform
  dsimp only
  rw [armed]
  dsimp only
  rw [if_pos due]

/-- A timer that fires tells so, and invalidates its key, before all that follows. -/
theorem journal_run_fire (builder : Builder World Runtime Resource) {deadline : Time}
    (ascending : state.entries.Ascending)
    (armed : state.timers.find? key = some deadline) (due : deadline ≤ state.now)
    (actions : List (Action World Runtime Resource Reply)) :
    ∃ rest, (run builder state (.fire key :: actions)).journal =
      state.journal ++ .fired key state.now :: .invalidated key :: rest := by
  let fired := { state with timers := state.timers.erase key }.note (.fired key state.now)
  have told : (fired.invalidate key).journal =
      state.journal ++ [.fired key state.now, .invalidated key] := List.append_assoc _ _ _
  have refreshing : Moves builder ⟨[], fired.invalidate key⟩
      ⟨[], (fire builder state key).releaseDropped⟩ := .tail (refresh_moves [] key) .setFree
  have firing : Moves builder ⟨[], state⟩ ⟨[], step builder state (.fire key)⟩ :=
    step_moves ascending (.fire key)
  have onward : Moves builder ⟨[], step builder state (.fire key)⟩
      ⟨[], run builder state (.fire key :: actions)⟩ :=
    run_moves (ascending_kept.moves firing ascending) actions
  rw [← step_fire armed due] at refreshing
  rcases (grown_kept _).moves (refreshing.trans onward) List.prefix_rfl with ⟨rest, grown⟩
  refine ⟨rest, ?_⟩
  rw [← grown]
  change (fired.invalidate key).journal ++ rest = _
  rw [told, List.append_assoc]
  rfl

/-- A requested rebuild that was fired gets a graph whose build was started after the firing. -/
theorem Reachable.refreshed_after_firing {world : World} {deadline : Time}
    (reachable : Reachable builder { world := world } state)
    (armed : state.timers.find? key = some deadline) (due : deadline ≤ state.now)
    (actions : List (Action World Runtime Resource Reply)) :
    ∃ segment, (run builder state (.fire key :: actions)).journal =
        state.journal ++ .fired key state.now :: segment ∧
      ∀ before after id, segment = before ++ .refreshed key (.ok id) :: after →
        id.key = key ∧ (∃ epoch, .started id epoch ∈ before) ∧
          ∀ epoch, .started id epoch ∉ state.journal := by
  rcases journal_run_fire builder reachable.ascending armed due actions with ⟨rest, journal⟩
  refine ⟨.invalidated key :: rest, journal, fun before after id split => ?_⟩
  -- The invalidation comes first, and who is served later is served what was started after it.
  rcases List.cons_eq_append_iff.mp split with ⟨_, wrong⟩ | ⟨between, rfl, _⟩
  · cases wrong
  have whole : (run builder state (.fire key :: actions)).journal =
      ((state.journal ++ [.fired key state.now]) ++ .invalidated key :: between) ++
        .refreshed key (.ok id) :: after := by
    rw [journal, split]
    simp
  have served := (reachable.extend (.fire key :: actions)).dated.2.served _ _ _ whole key id
    ⟨rfl, rfl⟩
  rcases served with ⟨rfl, begun, _, current⟩
  rcases started_of_current begun current List.mem_cons_self with ⟨later, none⟩
  exact ⟨rfl, later, fun epoch member => none epoch (List.mem_append_left _ member)⟩

theorem releaseDropped_of_held (held : ∀ entry ∈ state.deferred, state.isHeld entry.1 = true) :
    state.releaseDropped = state := by
  have kept : state.deferred.filter (fun entry => state.isHeld entry.1) = state.deferred :=
    List.filter_eq_self.mpr held
  have dropped : state.deferred.filter (fun entry => !state.isHeld entry.1) = [] :=
    List.filter_eq_nil_iff.mpr fun entry member => by simp [held entry member]
  unfold releaseDropped
  rw [kept, dropped]
  simp

theorem Reachable.timers_ascending {world : World}
    (reachable : Reachable builder { world := world } state) : state.timers.Ascending :=
  timers_ascending_kept.reachable Catalog.ascending_nil reachable

end State

/-- What can be relied on about requested rebuilds. -/
structure Coalesced (builder : Builder World Runtime Resource)
    (state : State World Runtime Resource Reply) : Prop where
  /-- A key has one timer at most. -/
  single : state.timers.keys.Nodup
  /-- Every timer so far was armed when its key had none, and then fired at its deadline or was
  cancelled, but for the one that is armed now; and that one is not overdue. -/
  lawful : ∀ key, (state.timer key).Lawful key
  /-- A request is granted just if its key has no timer. -/
  granted : ∀ key delay,
    (state.requestRebuild key delay).1 = true ↔ state.timers.find? key = none
  /-- A request that is granted arms a timer, and does nothing else. -/
  armed : ∀ key delay, state.timers.find? key = none →
    State.step builder state (.requestRebuild key delay) =
      { state with
        timers := state.timers.insert key (state.now + delay)
        journal := state.journal ++ [.armed key (state.now + delay)] }
  /-- A request that is refused changes nothing. -/
  refused : ∀ key delay deadline, state.timers.find? key = some deadline →
    State.step builder state (.requestRebuild key delay) = state.note (.refused key)
  /-- After any run, a timer that is armed now still stands, or it has fired at its deadline or has
  been cancelled on the way. -/
  ends : ∀ key deadline, state.timers.find? key = some deadline → ∀ actions,
    (state.timer key).Stands key deadline ((State.run builder state actions).timer key) ∨
      ∃ front action rest, actions = front ++ action :: rest ∧
        (state.timer key).Stands key deadline ((State.run builder state front).timer key) ∧
        Ending key deadline action ((State.run builder state front).timer key)
          ((State.run builder state (front ++ [action])).timer key)
  /-- A timer that is due can fire. -/
  fires : ∀ key, state.timers.find? key = some state.now →
    Ending key state.now (.fire key : Action World Runtime Resource Reply) (state.timer key)
      ((State.step builder state (.fire key)).timer key)
  /-- Closing a key cancels its timer. -/
  cancels : ∀ key action, action.closes key →
    (State.step builder state action).timer key = (state.timer key).cancel key
  /-- After a timer has fired, the rebuilds of its key get graphs whose builds were started after
  the firing, and so after all the requests that the timer had stood for. -/
  fresh : ∀ key, state.timers.find? key = some state.now → ∀ actions, ∃ segment,
    (State.run builder state (.fire key :: actions)).journal =
        state.journal ++ .fired key state.now :: segment ∧
      ∀ before after id, segment = before ++ .refreshed key (.ok id) :: after →
        id.key = key ∧ (∃ epoch, .started id epoch ∈ before) ∧
          ∀ epoch, .started id epoch ∉ state.journal

namespace State

/-- The timers of all keys in any state that can be reached. -/
theorem Reachable.coalesced {world : World}
    (reachable : Reachable builder { world := world } state) : Coalesced builder state where
  single := reachable.timers_ascending.keys_nodup
  lawful := reachable.timer_lawful
  granted := fun _ delay => requestRebuild_granted delay
  armed := by
    intro key delay vacant
    change ((state.requestRebuild key delay).2).releaseDropped = _
    rw [requestRebuild_of_vacant vacant]
    exact releaseDropped_of_held fun entry member => reachable.isHeld_of_deferred member
  refused := by
    intro key delay deadline armed
    change ((state.requestRebuild key delay).2).releaseDropped = _
    rw [requestRebuild_of_armed armed]
    exact releaseDropped_of_held fun entry member => reachable.isHeld_of_deferred member
  ends := fun key deadline armed =>
    run_stands_or_ends armed ((reachable.timer_lawful key).timely deadline armed)
  fires := by
    intro key armed
    have fired := timer_fire builder state key key
    rw [if_pos rfl] at fired
    rw [step_fire armed (Nat.le_refl _)]
    change Ending key state.now (.fire key) (state.timer key) ((fire builder state key).timer key)
    rw [fired, timer, armed]
    exact .fired _
  cancels := by
    intro key action closing
    change (perform builder state action).timer key = _
    cases action with
    | close call other =>
        have same : other = key := of_decide_eq_true closing
        exact (timer_beginClose call other).trans (if_pos same)
    | closeAll call afterwards => exact timer_beginCloseAll call afterwards
    | _ => cases closing
  fresh := fun _ armed => reachable.refreshed_after_firing armed (Nat.le_refl _)

/-- A key whose graph is installed and whose rebuild was requested twice, when the timer is due. -/
def requestedTwice : State Unit Unit Unit Unit :=
  run Builder.instant { world := () }
    [.get 0 "a", .resume (.building ⟨"a", 0⟩), .requestRebuild "a" 5, .requestRebuild "a" 9,
      .elapse 20]

/-- The second request is refused. The timer fires once, at the deadline of the first, and the
rebuild gets a graph whose build had not been started before. -/
theorem Reachable.coalesced_twice :
    timings requestedTwice.journal "a" = [.armed "a" 5, .refused "a"] ∧
      Ending "a" 5 (.fire "a" : Action Unit Unit Unit Unit) (requestedTwice.timer "a")
        ((step Builder.instant requestedTwice (.fire "a")).timer "a") ∧
      ∃ before, (run Builder.instant requestedTwice [.fire "a", .resume (.building ⟨"a", 1⟩),
          .resume (.refreshing ⟨"a", 1⟩)]).journal =
            before ++ [.refreshed "a" (.ok ⟨"a", 1⟩)] ∧
        ∀ epoch, .started ⟨"a", 1⟩ epoch ∉ requestedTwice.journal := by
  have reachable : Reachable Builder.instant { world := () } requestedTwice := ⟨_, rfl⟩
  have due : requestedTwice.timers.find? "a" = some requestedTwice.now := rfl
  refine ⟨rfl, reachable.coalesced.fires "a" due, ?_⟩
  rcases reachable.coalesced.fresh "a" due [.resume (.building ⟨"a", 1⟩),
    .resume (.refreshing ⟨"a", 1⟩)] with ⟨segment, journal, fresh⟩
  let rebuilding : List Occurrence :=
    [.invalidated "a", .started ⟨"a", 1⟩ 1, .installed ⟨"a", 1⟩]
  have ran : (run Builder.instant requestedTwice [.fire "a", .resume (.building ⟨"a", 1⟩),
      .resume (.refreshing ⟨"a", 1⟩)]).journal = requestedTwice.journal ++
        .fired "a" requestedTwice.now :: (rebuilding ++ [.refreshed "a" (.ok ⟨"a", 1⟩)]) := rfl
  have rebuilt : segment = rebuilding ++ [.refreshed "a" (.ok ⟨"a", 1⟩)] :=
    (List.cons.inj (List.append_cancel_left (journal.symm.trans ran))).2
  refine ⟨requestedTwice.journal ++ .fired "a" requestedTwice.now :: rebuilding, ?_,
    (fresh _ _ _ rebuilt).2.2⟩
  rw [ran, List.append_assoc]
  rfl

end State

end RuntimeCache

end AssistantEngine
