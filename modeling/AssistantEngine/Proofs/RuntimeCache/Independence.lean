import AssistantEngine.Proofs.RuntimeCache.Reach
import AssistantEngine.Proofs.RuntimeCache.Resemblance

/-!
Keys do not interfere. What happens to one key in a run is what happens to it in the run that is
left when all that concerns other keys is taken out, although invalidations of other keys advance
the epoch that all keys share.
-/

namespace AssistantEngine

namespace RuntimeCache

namespace Action

variable {World Runtime Resource Reply : Type}

/-- The key that an action is about, where every call is about one. -/
def key? (keyOf : CallId → String) : Action World Runtime Resource Reply → Option String
  | get _ key => some key
  | rebuild _ key => some key
  | work _ held _ => held.map (·.key)
  | invalidate key => some key
  | requestRebuild key _ => some key
  | close _ key => some key
  | share _ id => some id.key
  | fire key => some key
  | resume name => name.key? keyOf
  | _ => none

/-- A call is made for the key that it is about. -/
def Assigned (keyOf : CallId → String) : Action World Runtime Resource Reply → Prop
  | get call key => keyOf call = key
  | rebuild call key => keyOf call = key
  | close call key => keyOf call = key
  | _ => True

end Action

namespace State

variable {World Runtime Resource Reply : Type} {builder : Builder World Runtime Resource}
variable {keyOf : CallId → String} {key other : String}
variable {state state' : State World Runtime Resource Reply}

/-! ## Actions on other keys -/

namespace Passes

theorem beginWork (call : CallId) (held : Option BuildId) (activity : Activity World Reply) :
    Passes keyOf key state (state.beginWork call held activity) := by
  unfold State.beginWork
  split
  · rename_i advanced
    exact (advance advanced).trans (setAnswer call _)
  · rename_i advanced
    exact (advance advanced).trans (spawn rfl)

theorem resume_of_not_serves {name : TaskName} (aside : name.serves = false) :
    Passes keyOf key state (State.perform builder state (.resume name)) := by
  unfold State.perform
  dsimp only
  split
  · rename_i task found
    split
    · exact proceed_of_not_serves (task?_name found ▸ aside)
    · exact refl
  · exact refl

/-- An action on one key passes the others by. -/
theorem perform {action : Action World Runtime Resource Reply}
    (concerns : action.key? keyOf = some other) (different : other ≠ key)
    (assigned : action.Assigned keyOf) (alike : state.Resembles keyOf other state) :
    Passes keyOf key state (State.perform builder state action) := by
  have keyed := alike.keyed
  cases action with
  | get call own =>
      cases concerns
      have asks : Passes keyOf key state (state.note (.asked call .get other)) :=
        note_of_ne rfl different
      have keyedAsking : (state.note (.asked call .get other)).Keyed other :=
        ⟨keyed.installed, keyed.building⟩
      exact asks.trans (beginGet different keyedAsking assigned)
  | rebuild call own =>
      cases concerns
      have asks : Passes keyOf key state (state.note (.asked call .rebuild other)) :=
        note_of_ne rfl different
      exact asks.trans (beginRebuild different assigned)
  | work call held activity =>
      unfold State.perform
      dsimp only
      split
      · exact beginWork call held activity
      · exact refl
  | invalidate own =>
      cases concerns
      exact invalidate different
  | requestRebuild own delay =>
      cases concerns
      exact requestRebuild different delay
  | close call own =>
      cases concerns
      exact beginClose different call
  | share holder id =>
      unfold State.perform
      dsimp only
      split
      · exact ⟨rfl, Nat.le_refl _⟩
      · exact refl
  | fire own =>
      cases concerns
      unfold State.perform
      dsimp only
      split
      · split
        · exact fire different keyed
        · exact refl
      · exact refl
  | resume name =>
      unfold State.perform
      dsimp only
      split
      · rename_i task found
        split
        · have honest : ∀ call build purpose, task = .waiting call build purpose →
              build.key = other := by
            intro call build purpose same
            subst same
            have named : TaskName.waiting call = name := task?_name found
            have concerned : name.key? keyOf = some other := concerns
            have mine : name.serving keyOf other :=
              TaskName.serving_of_serves (named ▸ rfl) (by simp [concerned])
            exact alike.waiting mine found
          exact proceed (task?_name found ▸ concerns) different honest keyed
        · exact refl
      · exact refl
  | invalidateAll => cases concerns
  | closeAll call afterwards => cases concerns
  | subscribe subscriber => cases concerns
  | drop holder => cases concerns
  | forget call => cases concerns
  | edit change => cases concerns
  | elapse duration => cases concerns

end Passes

/-! ## Actions on the key itself, and on no key in particular -/

namespace Resembles

/-- The same operation on several keys in turn, once on each, resembles in both if it does on the
key in question. -/
theorem foldl {operation : State World Runtime Resource Reply → String →
      State World Runtime Resource Reply}
    (own : ∀ {state state' : State World Runtime Resource Reply},
      Resembles keyOf key state state' →
        Resembles keyOf key (operation state key) (operation state' key))
    (elsewhere : ∀ {state : State World Runtime Resource Reply} {other : String}, other ≠ key →
      Passes keyOf key state (operation state other))
    {keys keys' : List String} (nodup : keys.Nodup) (nodup' : keys'.Nodup)
    (concerned : key ∈ keys ↔ key ∈ keys') (same : Resembles keyOf key state state') :
    Resembles keyOf key (keys.foldl operation state) (keys'.foldl operation state') := by
  -- The keys before and after the one in question may differ, since they are passed by.
  have passes : ∀ (keys : List String) (state : State World Runtime Resource Reply), key ∉ keys →
      Passes keyOf key state (keys.foldl operation state) := by
    intro keys
    induction keys with
    | nil => exact fun _ _ => .refl
    | cons other rest induction =>
        intro state absent
        have different : other ≠ key := fun same => absent (same ▸ List.mem_cons_self)
        have later : key ∉ rest := fun member => absent (List.mem_cons_of_mem _ member)
        exact (elsewhere different).trans (induction _ later)
  have apart : ∀ {front rest : List String}, (front ++ key :: rest).Nodup →
      key ∉ front ∧ key ∉ rest := by
    intro front rest nodup
    have parts := List.nodup_append.mp nodup
    constructor
    · intro member
      exact parts.2.2 key member key List.mem_cons_self rfl
    · exact (List.nodup_cons.mp parts.2.1).1
  by_cases member : key ∈ keys
  · rcases List.append_of_mem member with ⟨front, rest, split⟩
    rcases List.append_of_mem (concerned.mp member) with ⟨front', rest', split'⟩
    subst split split'
    have first := apart nodup
    have second := apart nodup'
    rw [List.foldl_append, List.foldl_append, List.foldl_cons, List.foldl_cons]
    have before := same.passes (passes front state first.1) (passes front' state' second.1)
    exact (own before).passes (passes rest _ first.2) (passes rest' _ second.2)
  · have absent' : key ∉ keys' := fun member' => member (concerned.mpr member')
    exact same.passes (passes keys state member) (passes keys' state' absent')

theorem beginCloseAll (same : Resembles keyOf key state state')
    (entries : state.entries.Ascending) (entries' : state'.entries.Ascending)
    (timers : state.timers.Ascending) (timers' : state'.timers.Ascending) (call : CallId)
    (afterwards : Activity World Unit) :
    Resembles keyOf key (State.beginCloseAll builder state call afterwards)
      (State.beginCloseAll builder state' call afterwards) := by
  have armed : key ∈ state.timers.keys ↔ key ∈ state'.timers.keys := by
    have timer : state.timers.find? key = state'.timers.find? key := same.timer
    rw [Catalog.mem_keys_iff, Catalog.mem_keys_iff, timer]
  have known : key ∈ state.entries.keys ↔ key ∈ state'.entries.keys := by
    have alike : (state.entries.find? key).map Entry.undated =
      (state'.entries.find? key).map Entry.undated := same.entry
    have present := congrArg Option.isSome alike
    rw [Option.isSome_map, Option.isSome_map] at present
    rw [Catalog.mem_keys_iff, Catalog.mem_keys_iff, present]
  have cancels := same.foldl (fun same => same.cancelTimer) Passes.cancelTimer timers.keys_nodup
    timers'.keys_nodup armed
  have closes := cancels.note (rfl : (Occurrence.closedAll call).about key = _)
  have evicts := closes.foldl (fun same => same.evict.2) Passes.evict entries.keys_nodup
    entries'.keys_nodup known
  have kept : ∀ state : State World Runtime Resource Reply,
      ((state.timers.keys.foldl State.cancelTimer state).note (.closedAll call)).entries =
        state.entries := by
    intro state
    exact entries_cancelTimers state.timers.keys
  unfold State.beginCloseAll
  dsimp only
  rw [kept, kept]
  exact evicts.passes (.closeGraphs _ _ _ _ _) (.closeGraphs _ _ _ _ _)

/-- An action on the key, or on none in particular. -/
theorem perform (uniform : ∀ id, (builder.build id).Parallel (builder.build id))
    (same : Resembles keyOf key state state')
    (entries : state.entries.Ascending) (entries' : state'.entries.Ascending)
    (timers : state.timers.Ascending) (timers' : state'.timers.Ascending)
    {action : Action World Runtime Resource Reply}
    (concerns : (action.key? keyOf).all (· = key))
    (passage : ∀ duration, action = .elapse duration →
      (state.elapse duration).now = (state'.elapse duration).now) :
    Resembles keyOf key (State.perform builder state action)
      (State.perform builder state' action) := by
  cases action with
  | get call own =>
      cases of_decide_eq_true concerns
      exact (same.note rfl).beginGet uniform call
  | rebuild call own =>
      cases of_decide_eq_true concerns
      exact (same.note rfl).beginRebuild uniform call
  | work call held activity =>
      have works : ∀ state : State World Runtime Resource Reply,
          Passes keyOf key state (State.perform builder state (.work call held activity)) := by
        intro state
        unfold State.perform
        dsimp only
        split
        · exact .beginWork call held activity
        · exact .refl
      exact same.passes (works state) (works state')
  | invalidate own =>
      cases of_decide_eq_true concerns
      exact same.invalidate
  | invalidateAll => exact same.invalidateAll
  | requestRebuild own delay =>
      cases of_decide_eq_true concerns
      exact same.requestRebuild delay
  | close call own =>
      cases of_decide_eq_true concerns
      exact same.beginClose call
  | closeAll call afterwards =>
      exact same.beginCloseAll entries entries' timers timers' call afterwards
  | subscribe subscriber => exact same.subscribe subscriber
  | share holder id =>
      have shares : ∀ state : State World Runtime Resource Reply,
          Passes keyOf key state (State.perform builder state (.share holder id)) := by
        intro state
        unfold State.perform
        dsimp only
        split
        · exact ⟨rfl, Nat.le_refl _⟩
        · exact .refl
      exact same.passes (shares state) (shares state')
  | drop holder => exact same.passes ⟨rfl, Nat.le_refl _⟩ ⟨rfl, Nat.le_refl _⟩
  | forget call => exact same.passes ⟨rfl, Nat.le_refl _⟩ ⟨rfl, Nat.le_refl _⟩
  | edit change => exact same.passes ⟨rfl, Nat.le_refl _⟩ ⟨rfl, Nat.le_refl _⟩
  | elapse duration => exact same.elapse (passage duration rfl)
  | fire own =>
      cases of_decide_eq_true concerns
      have timer : state.timers.find? key = state'.timers.find? key := same.timer
      have now : state.now = state'.now := same.now
      unfold State.perform
      dsimp only
      rw [timer, now]
      split
      · split
        · exact same.fire uniform
        · exact same
      · exact same
  | resume name =>
      cases serves : name.serves with
      | false =>
          exact same.passes (.resume_of_not_serves serves) (.resume_of_not_serves serves)
      | true =>
          have mine : name.serving keyOf key := TaskName.serving_of_serves serves concerns
          unfold State.perform
          dsimp only
          rcases same.task? mine with ⟨absent, absent'⟩ | ⟨task, task', found, found', alike⟩
          · rw [absent, absent']
            exact same
          · rw [found, found']
            dsimp only
            rw [same.isReady_eq alike]
            split
            · exact same.proceed uniform alike
            · exact same

end Resembles

/-! ## Timers of other keys -/

theorem find?_timers_of_passes {next : State World Runtime Resource Reply}
    (passes : Passes keyOf key state next) : next.timers.find? key = state.timers.find? key :=
  congrArg Outlook.timer passes.outlook

/-- What is about no key in particular arms no timer. -/
theorem timer_none_of_neutral {action : Action World Runtime Resource Reply}
    (neutral : action.key? keyOf = none) (unarmed : state.timers.find? key = none) :
    (perform builder state action).timers.find? key = none := by
  have kept : ∀ {next : State World Runtime Resource Reply}, Passes keyOf key state next →
      next.timers.find? key = none := by
    intro next passes
    rw [find?_timers_of_passes passes, unarmed]
  cases action with
  | get call own => cases neutral
  | rebuild call own => cases neutral
  | work call held activity =>
      unfold perform
      dsimp only
      split
      · exact kept (.beginWork call held activity)
      · exact unarmed
  | invalidate own => cases neutral
  | invalidateAll => exact unarmed
  | requestRebuild own delay => cases neutral
  | close call own => cases neutral
  | closeAll call afterwards =>
      have cancels : ∀ (keys : List String) (state : State World Runtime Resource Reply),
          state.timers.find? key = none →
            (keys.foldl State.cancelTimer state).timers.find? key = none := by
        intro keys
        induction keys with
        | nil => exact fun _ unarmed => unarmed
        | cons other rest induction =>
            intro state unarmed
            apply induction
            rcases cancelTimer_eq state other with same | cancelled
            · rw [same, unarmed]
            · rw [cancelled, note, Catalog.find?_erase, unarmed, ite_self]
      have evicts : ∀ (keys : List String) (state : State World Runtime Resource Reply),
          (keys.foldl (fun state other => (State.evict state other).2) state).timers =
            state.timers := by
        intro keys
        induction keys with
        | nil => exact fun _ => rfl
        | cons other rest induction =>
            intro state
            rcases evict_eq state other with ⟨entries, evicted⟩
            rw [List.foldl_cons, induction, evicted]
      have closes : ∀ (hadGraph : Bool) (graphs : List (Installed Runtime Resource))
          (state : State World Runtime Resource Reply), Passes keyOf key state
            (State.closeGraphs builder call hadGraph afterwards graphs (.done ()) state) :=
        fun hadGraph graphs _ => .closeGraphs call hadGraph afterwards graphs (.done ())
      unfold perform beginCloseAll
      dsimp only
      rw [find?_timers_of_passes (closes _ _ _), evicts]
      exact cancels state.timers.keys state unarmed
  | subscribe subscriber => exact unarmed
  | share holder id => cases neutral
  | drop holder => exact unarmed
  | forget call => exact unarmed
  | edit change => exact unarmed
  | elapse duration => exact unarmed
  | fire own => cases neutral
  | resume name =>
      apply kept
      apply Passes.resume_of_not_serves
      cases name with
      | working call => rfl
      | _ => cases neutral

/-! ## The part of a run that concerns a key -/

/-- What is left of an action for a key: an action on another key is taken out, and time passes by
as much as it did. -/
def part? (keyOf : CallId → String) (key : String) (state : State World Runtime Resource Reply) :
    Action World Runtime Resource Reply → Option (Action World Runtime Resource Reply)
  | .elapse duration => some (.elapse ((state.elapse duration).now - state.now))
  | action => if (action.key? keyOf).all (· = key) then some action else none

/-- What is left of a run for a key. -/
def project (builder : Builder World Runtime Resource) (keyOf : CallId → String) (key : String) :
    State World Runtime Resource Reply → List (Action World Runtime Resource Reply) →
      List (Action World Runtime Resource Reply)
  | _, [] => []
  | state, action :: rest =>
    (state.part? keyOf key action).toList ++
      project builder keyOf key (step builder state action) rest

theorem part?_of_ne_elapse {action : Action World Runtime Resource Reply}
    (atOnce : ∀ duration, action ≠ .elapse duration) :
    state.part? keyOf key action =
      if (action.key? keyOf).all (· = key) then some action else none := by
  cases action with
  | elapse duration => exact absurd rfl (atOnce duration)
  | _ => rfl

theorem project_append (state : State World Runtime Resource Reply)
    (earlier later : List (Action World Runtime Resource Reply)) :
    project builder keyOf key state (earlier ++ later) =
      project builder keyOf key state earlier ++
        project builder keyOf key (run builder state earlier) later := by
  induction earlier generalizing state with
  | nil => rfl
  | cons action earlier induction =>
      rw [List.cons_append, project, project, induction, List.append_assoc]
      rfl

/-! ## Runs side by side -/

theorem timers_ascending_kept :
    Kept builder fun situation : Situation World Runtime Resource Reply =>
      situation.state.timers.Ascending := by
  intro before after move ascending
  cases move with
  | @request loose state own delay =>
      change (state.requestRebuild own delay).2.timers.Ascending
      rcases requestRebuild_eq state own delay with refused | armed
      · rw [refused]
        exact ascending
      · rw [armed]
        exact ascending.insert own _
  | @cancel loose state own =>
      change (state.cancelTimer own).timers.Ascending
      rcases cancelTimer_eq state own with same | cancelled
      · rw [same]
        exact ascending
      · rw [cancelled]
        exact ascending.erase own
  | fire own => exact ascending.erase own
  | @evict loose state own =>
      rcases evict_eq state own with ⟨entries, evicted⟩
      change (state.evict own).2.timers.Ascending
      rw [evicted]
      exact ascending
  | start own idle =>
      rw [startOrJoin_start builder _ idle]
      exact ascending
  | @restart loose state call own idle =>
      rw [startOrJoin_start builder (state.note (.asked call .rebuild own)) idle]
      exact ascending
  | @serve loose state call own installed =>
      rcases deliver_eq state call .get installed.id with ⟨holders, _, delivered⟩
      change (state.deliver call .get installed.id).timers.Ascending
      rw [delivered]
      exact ascending
  | @deliver loose state call build =>
      rcases deliver_eq (state.dismiss (.waiting call)) call .rebuild build with
        ⟨holders, _, delivered⟩
      change ((state.dismiss (.waiting call)).deliver call .rebuild build).timers.Ascending
      rw [delivered]
      exact ascending
  | @install loose state id startEpoch rest graph reason =>
      let installed := (((state.dismiss (.building id)).install id startEpoch graph
        reason).setOutcome id (.ok ()))
      rcases notifyAll_eq installed id with ⟨world, holders, _, notified⟩
      change (installed.notifyAll id).timers.Ascending
      rw [notified]
      exact ascending
  | @retire loose state installed =>
      change (State.retire builder state installed).2.timers.Ascending
      unfold State.retire
      split
      · exact ascending
      · exact ascending
  | _ => exact ascending

/-- A state in which every key has what belongs to it. -/
structure Coherent (keyOf : CallId → String) (state : State World Runtime Resource Reply) :
    Prop where
  alike : ∀ key, state.Resembles keyOf key state
  entries : state.entries.Ascending
  timers : state.timers.Ascending

theorem Coherent.initial (world : World) :
    Coherent keyOf ({ world := world } : State World Runtime Resource Reply) where
  alike _ :=
    { now := rfl
      entry := rfl
      timer := rfl
      started := rfl
      outcomes := rfl
      runtimes := rfl
      tasks := .nil
      subscribers := rfl
      events := rfl
      past := Nat.le_refl _
      past' := Nat.le_refl _
      installed := fun _ found => nomatch found
      building := fun _ found => nomatch found }
  entries := Catalog.ascending_nil
  timers := Catalog.ascending_nil

theorem Coherent.step (uniform : ∀ id, (builder.build id).Parallel (builder.build id))
    (coherent : Coherent keyOf state) {action : Action World Runtime Resource Reply}
    (assigned : action.Assigned keyOf) : Coherent keyOf (step builder state action) := by
  have moves : Moves builder ⟨[], state⟩ ⟨[], State.step builder state action⟩ :=
    step_moves coherent.entries action
  constructor
  · intro key
    by_cases concerns : (action.key? keyOf).all (· = key)
    · have performs := (coherent.alike key).perform uniform coherent.entries coherent.entries
        coherent.timers coherent.timers concerns (fun _ _ => rfl)
      exact performs.passes .releaseDropped .releaseDropped
    · cases own : action.key? keyOf with
      | none => simp [own] at concerns
      | some other =>
          have different : other ≠ key := by simpa [own] using concerns
          have passes : Passes keyOf key state (State.perform builder state action) :=
            .perform own different assigned (coherent.alike other)
          exact (coherent.alike key).passes (passes.trans .releaseDropped)
            (passes.trans .releaseDropped)
  · exact ascending_kept.moves moves coherent.entries
  · exact timers_ascending_kept.moves moves coherent.timers

/-! ### Time -/

theorem min?_eq_some {expiry : Time} (next : state.nextExpiry? = some expiry) :
    expiry ∈ state.timers.values ∧ ∀ other ∈ state.timers.values, expiry ≤ other :=
  List.min?_eq_some_iff.mp next

/-- When time has passed, in terms of the next timer. -/
theorem now_elapse (duration : Time) :
    (state.elapse duration).now =
      match state.nextExpiry? with
      | some expiry => min (state.now + duration) (max state.now expiry)
      | none => state.now + duration := rfl

theorem now_le_elapse (duration : Time) : state.now ≤ (state.elapse duration).now := by
  rw [now_elapse]
  cases state.nextExpiry? with
  | none => exact Nat.le_add_right _ _
  | some expiry => exact Nat.le_min.mpr ⟨Nat.le_add_right _ _, Nat.le_max_left _ _⟩

/-- Time does not pass the deadline of any timer. -/
theorem now_elapse_le {deadline : Time} (armed : deadline ∈ state.timers.values)
    (duration : Time) : (state.elapse duration).now ≤ max state.now deadline := by
  rw [now_elapse]
  cases next : state.nextExpiry? with
  | none =>
      have empty : state.timers.values = [] := List.min?_eq_none_iff.mp next
      rw [empty] at armed
      cases armed
  | some expiry =>
      have earlier : expiry ≤ deadline := (min?_eq_some next).2 deadline armed
      exact Nat.le_trans (Nat.min_le_right _ _)
        (Nat.max_le.mpr ⟨Nat.le_max_left _ _, Nat.le_trans earlier (Nat.le_max_right _ _)⟩)

/-- Where every timer that is armed in one state is armed in another, as much time can pass in the
one as passes in the other. -/
theorem elapse_now (now : state.now = state'.now)
    (timers : ∀ expiry ∈ state'.timers.values, expiry ∈ state.timers.values) (duration : Time) :
    (state'.elapse ((state.elapse duration).now - state.now)).now =
      (state.elapse duration).now := by
  have whole : state.now + ((state.elapse duration).now - state.now) =
      (state.elapse duration).now := Nat.add_sub_cancel' (now_le_elapse duration)
  -- Time stops at the first timer. The second state has fewer timers, so its first is no earlier.
  rw [now_elapse, ← now]
  cases next' : state'.nextExpiry? with
  | none => exact whole
  | some expiry' =>
      have stops : (state.elapse duration).now ≤ max state.now expiry' :=
        now_elapse_le (timers expiry' (min?_eq_some next').1) duration
      dsimp only
      rw [whole]
      exact Nat.min_eq_left stops

/-! ### The run that is left -/

/-- A run, and the run that is left of it for a key. -/
structure Accompanies (keyOf : CallId → String) (key : String)
    (full alone : State World Runtime Resource Reply) : Prop where
  coherent : Coherent keyOf full
  coherent' : Coherent keyOf alone
  alike : full.Resembles keyOf key alone
  lonely : ∀ other, other ≠ key → alone.timers.find? other = none

namespace Accompanies

variable {full alone : State World Runtime Resource Reply}

theorem timers (accompanies : Accompanies keyOf key full alone) :
    ∀ expiry ∈ alone.timers.values, expiry ∈ full.timers.values := by
  intro expiry member
  rcases List.mem_map.mp member with ⟨⟨other, _⟩, present, rfl⟩
  have armed := Catalog.find?_of_mem accompanies.coherent'.timers.keys_nodup present
  have own : other = key := by
    by_contra different
    rw [accompanies.lonely other different] at armed
    cases armed
  subst own
  have timer : full.timers.find? other = alone.timers.find? other := accompanies.alike.timer
  exact Catalog.mem_values_of_find? (timer.trans armed)

section Step

variable (uniform : ∀ id, (builder.build id).Parallel (builder.build id))
include uniform

/-- Both make a step on the key, or on none in particular. -/
theorem together (accompanies : Accompanies keyOf key full alone)
    {action action' : Action World Runtime Resource Reply} (assigned : action.Assigned keyOf)
    (assigned' : action'.Assigned keyOf) (concerns : (action'.key? keyOf).all (· = key))
    (performs : (perform builder full action).Resembles keyOf key
      (perform builder alone action')) :
    Accompanies keyOf key (State.step builder full action) (State.step builder alone action') := by
  constructor
  · exact accompanies.coherent.step uniform assigned
  · exact accompanies.coherent'.step uniform assigned'
  -- Scopes that nobody holds are released in both, though they need not be the same.
  · exact performs.passes .releaseDropped .releaseDropped
  · intro other different
    have unarmed := accompanies.lonely other different
    have drops : (State.step builder alone action').timers.find? other =
        (perform builder alone action').timers.find? other := rfl
    rw [drops]
    cases own : action'.key? keyOf with
    | none => exact timer_none_of_neutral own unarmed
    | some owner =>
        have same : owner = key := by simpa [own] using concerns
        have passes : Passes keyOf other alone (perform builder alone action') :=
          .perform own (same.trans_ne different.symm) assigned' (accompanies.coherent'.alike owner)
        rw [find?_timers_of_passes passes, unarmed]

theorem step (accompanies : Accompanies keyOf key full alone)
    {action : Action World Runtime Resource Reply} (assigned : action.Assigned keyOf) :
    Accompanies keyOf key (State.step builder full action)
      (run builder alone (full.part? keyOf key action).toList) := by
  have alike := accompanies.alike
  by_cases passage : ∃ duration, action = .elapse duration
  · rcases passage with ⟨duration, rfl⟩
    have now := elapse_now alike.now accompanies.timers duration
    exact accompanies.together uniform assigned trivial rfl (alike.elapse now.symm)
  · have atOnce : ∀ duration, action ≠ .elapse duration :=
      fun duration same => passage ⟨duration, same⟩
    rw [part?_of_ne_elapse atOnce]
    by_cases concerns : (action.key? keyOf).all (· = key)
    · rw [if_pos concerns]
      have performs := alike.perform uniform accompanies.coherent.entries
        accompanies.coherent'.entries accompanies.coherent.timers accompanies.coherent'.timers
        concerns (fun duration same => absurd same (atOnce duration))
      exact accompanies.together uniform assigned assigned concerns performs
    · rw [if_neg concerns]
      cases own : action.key? keyOf with
      | none => simp [own] at concerns
      | some other =>
          have different : other ≠ key := by simpa [own] using concerns
          have passes : Passes keyOf key full (perform builder full action) :=
            .perform own different assigned (accompanies.coherent.alike other)
          exact {
            coherent := accompanies.coherent.step uniform assigned
            coherent' := accompanies.coherent'
            alike := alike.passes (passes.trans .releaseDropped) .refl
            lonely := accompanies.lonely }

theorem run (accompanies : Accompanies keyOf key full alone)
    {actions : List (Action World Runtime Resource Reply)}
    (assigned : ∀ action ∈ actions, action.Assigned keyOf) :
    Accompanies keyOf key (State.run builder full actions)
      (State.run builder alone (project builder keyOf key full actions)) := by
  induction actions generalizing full alone with
  | nil => exact accompanies
  | cons action actions induction =>
      have first := accompanies.step uniform (assigned action List.mem_cons_self)
      have rest := induction first
        fun other member => assigned other (List.mem_cons_of_mem _ member)
      have split : State.run builder alone (project builder keyOf key full (action :: actions)) =
          State.run builder (State.run builder alone (full.part? keyOf key action).toList)
            (project builder keyOf key (State.step builder full action) actions) :=
        List.foldl_append
      rw [split]
      exact rest

end Step

theorem initial (world : World) :
    Accompanies keyOf key ({ world := world } : State World Runtime Resource Reply)
      { world := world } where
  coherent := .initial world
  coherent' := .initial world
  alike := (Coherent.initial world).alike key
  lonely _ _ := rfl

end Accompanies

/-! ## What a key goes through -/

/-- What there is to know about one key at a moment of a run, epochs apart. -/
structure Course (Runtime Resource : Type) where
  entry : EntryState
  installed : Option (Installed Runtime Resource)
  fallbackReason : Option String
  /-- The build that is in progress. -/
  building : Option BuildId
  /-- When the timer of the key expires. -/
  timer : Option Time
  /-- The next build of the key; it tells how many there have been. -/
  next : BuildId
  /-- The runtimes of the builds so far, by number. -/
  runtimes : Nat → Option Runtime
  /-- What callers asked and were answered, the builds that were started and ended, those who were
  told of new runtimes, and the timers that were armed, refused, fired and cancelled. -/
  events : List Occurrence

def course (state : State World Runtime Resource Reply) (key : String) :
    Course Runtime Resource where
  entry := state.entryState key
  installed := (state.entry key).installed
  fallbackReason := (state.entry key).fallbackReason
  building := (state.entry key).building
  timer := state.timers.find? key
  next := state.nextBuild key
  runtimes number := state.runtime? ⟨key, number⟩
  events := state.journal.filterMap (Occurrence.about key)

/-- Whether an action can be taken: a timer can fire when it is due, and a task can go on when its
pause is over. -/
def admits (state : State World Runtime Resource Reply) :
    Action World Runtime Resource Reply → Bool
  | .fire key => (state.timers.find? key).any (· ≤ state.now)
  | .resume name => (state.task? name).any state.isReady
  | _ => true

theorem Resembles.course_eq (same : Resembles keyOf key state state') :
    state.course key = state'.course key := by
  have events : state.journal.filterMap (Occurrence.about key) =
    state'.journal.filterMap (Occurrence.about key) := same.events
  have timer : state.timers.find? key = state'.timers.find? key := same.timer
  have runtimes : (fun number => state.runtime? ⟨key, number⟩) =
    fun number => state'.runtime? ⟨key, number⟩ := same.runtimes
  unfold course
  rw [same.entryState_eq, same.installed_eq, same.fallbackReason_eq, same.building_eq, timer,
    same.nextBuild_eq, runtimes, events]

theorem Resembles.admits_fire (same : Resembles keyOf key state state') :
    state.admits (.fire key) = state'.admits (.fire key) := by
  have timer : state.timers.find? key = state'.timers.find? key := same.timer
  have now : state.now = state'.now := same.now
  unfold admits
  dsimp only
  rw [timer, now]

theorem Resembles.admits_resume (same : Resembles keyOf key state state') {name : TaskName}
    (mine : name.serving keyOf key) :
    state.admits (.resume name) = state'.admits (.resume name) := by
  unfold admits
  dsimp only
  rcases same.task? mine with ⟨absent, absent'⟩ | ⟨task, task', found, found', alike⟩
  · rw [absent, absent']
    rfl
  · rw [found, found']
    exact same.isReady_eq alike

/-- Where builds do not listen to the world, the part of a run that concerns a key is a run of its
own: after every piece of it the key has come as far as in the whole run, and the same can happen
to it next. -/
theorem course_project (uniform : ∀ id, (builder.build id).Parallel (builder.build id))
    (keyOf : CallId → String) (key : String) (world : World)
    (earlier later : List (Action World Runtime Resource Reply))
    (assigned : ∀ action ∈ earlier ++ later, action.Assigned keyOf) :
    let start : State World Runtime Resource Reply := { world := world }
    let full := run builder start earlier
    let alone := run builder start (project builder keyOf key start earlier)
    project builder keyOf key start (earlier ++ later) =
        project builder keyOf key start earlier ++ project builder keyOf key full later ∧
      alone.course key = full.course key ∧
      alone.admits (.fire key) = full.admits (.fire key) ∧
      ∀ name, name.serving keyOf key →
        alone.admits (.resume name) = full.admits (.resume name) := by
  have begins : Accompanies keyOf key ({ world := world } : State World Runtime Resource Reply)
      { world := world } := .initial world
  have accompanies := begins.run uniform
    fun action member => assigned action (List.mem_append_left later member)
  have alike := accompanies.alike
  exact ⟨project_append _ earlier later, alike.course_eq.symm, alike.admits_fire.symm,
    fun name mine => (alike.admits_resume mine).symm⟩

/-- A graph that is invalidated while it is built is dirty from the start, however often another
key is invalidated before and meanwhile. -/
theorem course_project_dirty :
    let keyOf : CallId → String := fun call => if call = 1 then "mail" else "news"
    let start : State Unit Unit Unit Unit := { world := () }
    let actions : List (Action Unit Unit Unit Unit) :=
      [.invalidate "mail", .get 0 "news", .get 1 "mail", .invalidate "news", .invalidate "mail",
        .resume (.building ⟨"mail", 0⟩), .resume (.building ⟨"news", 0⟩)]
    let full := run Builder.instant start actions
    let alone := run Builder.instant start (project Builder.instant keyOf "news" start actions)
    full.epoch = 3 ∧ alone.epoch = 1 ∧ full.entryState "news" = .dirty ∧
      alone.course "news" = full.course "news" := by
  intro keyOf start actions full alone
  have uniform : ∀ id, (Builder.instant.build id).Parallel (Builder.instant.build id) :=
    fun id => .done _
  have assigned : ∀ action ∈ actions ++ [], action.Assigned keyOf := by
    simp [actions, Action.Assigned, keyOf]
  have same := course_project uniform keyOf "news" () actions [] assigned
  have drift : full.epoch = 3 := by decide +kernel
  have drift' : alone.epoch = 1 := by decide +kernel
  have dirty : full.entryState "news" = .dirty := by decide +kernel
  exact ⟨drift, drift', dirty, same.2.1⟩

end State

end RuntimeCache

end AssistantEngine
