import AssistantEngine.Engine.Basic
import AssistantEngine.Proofs.Catalog
import AssistantEngine.Proofs.Engine.Contact
import AssistantEngine.Proofs.RuntimeCache.Work

/-!
Shared plugin runtimes, asked for by any number of callers side by side. Only a caller that has the
reservation of a plugin looks for its runtime a second time, and makes it if there is still none. It
gives the reservation back when the runtime is entered, so that nobody makes another one.
-/

namespace AssistantEngine

open Activity (Spares)
open RuntimeCache (CallId BuildId)

/-- The shared runtimes, and who is about to make one. -/
def World.desk (world : World) : Catalog PluginRuntime × List String :=
  (world.singletons, world.reserved)

theorem World.desk_unaffected : World.Unaffected World.desk where
  join _ _ := rfl
  hangUp _ _ _ := rfl
  make _ _ := rfl

theorem World.dialled_unaffected : World.Unaffected World.dialled where
  join _ _ := rfl
  make _ _ := rfl
  hangUp world id transport :=
    (world.dialled_record (.close id transport)).trans (List.append_nil _)

namespace PluginRuntime

variable {timeout : HandshakeTimeout} {registryId : String} {time : Time} {world : World}

/-! ## The pieces of a request -/

/-- The runtime that was made becomes the shared one, and the reservation is given back. -/
def enter (registryId : String) (runtime : PluginRuntime) : Activity World PluginRuntime := do
  Activity.giveWay
  Activity.modify fun world =>
    { world with singletons := world.singletons.insert registryId runtime }
  unreserve registryId
  return runtime

/-- With the reservation, the shared runtime is looked for again. -/
def lookAgain (timeout : HandshakeTimeout) (registryId : String) : Activity World PluginRuntime := do
  Activity.giveWay
  match ← Activity.inspect (·.singletons.find? registryId) with
  | some runtime =>
    unreserve registryId
    return runtime
  | none => (makeSingleton timeout registryId).bind (enter registryId)

/-- Without a shared runtime, the reservation is waited for. -/
def queue (timeout : HandshakeTimeout) (registryId : String) : Activity World PluginRuntime :=
  (reserve registryId).bind fun _ => lookAgain timeout registryId

theorem singleton_eq (timeout : HandshakeTimeout) (registryId : String) :
    singleton timeout registryId =
      Activity.pause none (fun _ => true) (Activity.look fun _ world =>
        match world.singletons.find? registryId with
        | some runtime => .done runtime
        | none => queue timeout registryId) := rfl

theorem resume_singleton :
    (singleton timeout registryId).resume time world =
      match world.singletons.find? registryId with
      | some runtime => (.done runtime, world)
      | none => (queue timeout registryId, world) := by
  rw [singleton_eq]
  change Activity.advance time (match world.singletons.find? registryId with
    | some runtime => _
    | none => _) world = _
  cases world.singletons.find? registryId <;> rfl

theorem resume_lookAgain :
    (lookAgain timeout registryId).resume time world =
      match world.singletons.find? registryId with
      | some runtime => (.done runtime, { world with reserved := world.reserved.erase registryId })
      | none => ((makeSingleton timeout registryId).bind (enter registryId)).advance time world := by
  unfold lookAgain
  change Activity.advance time (match world.singletons.find? registryId with
    | some runtime => _
    | none => _) world = _
  cases world.singletons.find? registryId <;> rfl

/-- A runtime that was made is not entered before the next pause. -/
theorem advance_enter (making : Activity World PluginRuntime) :
    (making.bind (enter registryId)).advance time world =
      ((making.advance time world).1.bind (enter registryId), (making.advance time world).2) := by
  rw [Activity.advance_bind]
  rcases making.advance time world with ⟨left, after⟩
  cases left <;> rfl

theorem resume_enter (making : Activity World PluginRuntime) (left : making.result? = none) :
    (making.bind (enter registryId)).resume time world =
      ((making.resume time world).1.bind (enter registryId), (making.resume time world).2) := by
  cases making with
  | done runtime => cases left
  | look next => exact advance_enter (next time world)
  | put changed rest => exact advance_enter rest
  | pause deadline ready rest => exact advance_enter rest

end PluginRuntime

namespace SharedRuntimes

open PluginRuntime (enter lookAgain queue)

/-! ## How far a request has come -/

/-- Whether a call is outside, waits for the reservation, has it, or makes the runtime. -/
inductive Stage where
  | outside
  | waiting
  | reserving
  | making
deriving DecidableEq

/-- Whether a call has the reservation. -/
def Stage.holds : Stage → Bool
  | outside => false
  | waiting => false
  | reserving => true
  | making => true

/-- What is left of a request for the shared runtime of a plugin. -/
inductive Along (registryId : String) : Stage → Activity World PluginRuntime → Prop where
  | asked (timeout : HandshakeTimeout) :
      Along registryId .waiting (PluginRuntime.singleton timeout registryId)
  | queued (timeout : HandshakeTimeout) : Along registryId .waiting (queue timeout registryId)
  | again (timeout : HandshakeTimeout) : Along registryId .reserving (lookAgain timeout registryId)
  | making (rest : Activity World PluginRuntime)
      (spares : ∀ {View : Type} {view : World → View}, World.Unaffected view → ∀ seen,
        Spares view (fun _ => True) seen rest) :
      Along registryId .making (rest.bind (enter registryId))

/-- What a piece of a request does: it leads from stage to stage, leaves a rest and a world, and asks
for some connections. -/
inductive Goes (registryId : String) (world : World) :
    Stage → Stage → Activity World PluginRuntime → World → List Transport → Prop where
  | finds {runtime : PluginRuntime} (shared : world.singletons.find? registryId = some runtime) :
      Goes registryId world .waiting .outside (.done runtime) world []
  | queues {left : Activity World PluginRuntime} (along : Along registryId .waiting left) :
      Goes registryId world .waiting .waiting left world []
  | takes {left : Activity World PluginRuntime} (free : registryId ∉ world.reserved)
      (along : Along registryId .reserving left) :
      Goes registryId world .waiting .reserving left
        { world with reserved := registryId :: world.reserved } []
  | returns {runtime : PluginRuntime} (shared : world.singletons.find? registryId = some runtime) :
      Goes registryId world .reserving .outside (.done runtime)
        { world with reserved := world.reserved.erase registryId } []
  | begins {left : Activity World PluginRuntime} {after : World} {added : List Transport}
      (vacant : world.singletons.find? registryId = none) (along : Along registryId .making left)
      (desk : after.desk = world.desk) (dialled : after.dialled = world.dialled ++ added)
      (few : added.length ≤ 1) : Goes registryId world .reserving .making left after added
  | works {left : Activity World PluginRuntime} {after : World} (along : Along registryId .making left)
      (desk : after.desk = world.desk) (dialled : after.dialled = world.dialled) :
      Goes registryId world .making .making left after []
  | enters (runtime : PluginRuntime) :
      Goes registryId world .making .outside (.done runtime)
        { world with
          singletons := world.singletons.insert registryId runtime
          reserved := world.reserved.erase registryId } []

variable {registryId : String} {world after : World} {stage next : Stage}
  {rest left : Activity World PluginRuntime} {added : List Transport}

theorem Goes.dialled (goes : Goes registryId world stage next left after added) :
    after.dialled = world.dialled ++ added := by
  cases goes with
  | begins vacant along desk dialled few => exact dialled
  | works along desk dialled => exact dialled.trans (List.append_nil _).symm
  | finds shared => exact (List.append_nil _).symm
  | queues along => exact (List.append_nil _).symm
  | takes free along => exact (List.append_nil _).symm
  | returns shared => exact (List.append_nil _).symm
  | enters runtime => exact (List.append_nil _).symm

/-- Every piece of a request is one of these. -/
theorem Along.goes (along : Along registryId stage rest) {time : Time}
    (ready : rest.isReady time world = true) :
    ∃ next added, Goes registryId world stage next (rest.resume time world).1
      (rest.resume time world).2 added := by
  cases along with
  | asked timeout =>
      rw [PluginRuntime.resume_singleton]
      cases shared : world.singletons.find? registryId with
      | some runtime => exact ⟨_, _, .finds shared⟩
      | none => exact ⟨_, _, .queues (.queued timeout)⟩
  | queued timeout =>
      have free : registryId ∉ world.reserved := by
        intro taken
        have waits : (queue timeout registryId).isReady time world =
            (!world.reserved.contains registryId || false) := rfl
        rw [waits, List.contains_iff_mem.mpr taken] at ready
        contradiction
      exact ⟨_, _, .takes free (.again timeout)⟩
  | again timeout =>
      rw [PluginRuntime.resume_lookAgain]
      cases shared : world.singletons.find? registryId with
      | some runtime => exact ⟨_, _, .returns shared⟩
      | none =>
          rcases (Making.singleton registryId).run_advance timeout time world with
            ⟨left, after, added, begun, dialled, few, kept, spares⟩
          have first : (PluginRuntime.makeSingleton timeout registryId).advance time world =
              (left, after) := begun
          have desk := kept World.desk_unaffected fun _ _ => rfl
          dsimp only
          rw [PluginRuntime.advance_enter, first]
          exact ⟨_, _, .begins shared (.making left spares) desk dialled few⟩
  | making rest spares =>
      cases ended : rest.result? with
      | some runtime =>
          cases rest with
          | done given => exact ⟨_, _, .enters given⟩
          | look next => cases ended
          | put changed rest => cases ended
          | pause deadline ready rest => cases ended
      | none =>
          rw [PluginRuntime.resume_enter rest ended]
          have desk := (Spares.resume (spares World.desk_unaffected) time world).1
          have dialled := (Spares.resume (spares World.dialled_unaffected) time world).1
          refine ⟨_, _, .works (.making _ ?_) desk dialled⟩
          intro View view unaffected
          exact (Spares.resume (spares unaffected) time world).2

/-! ## The reservations -/

/-- What calls of which it is known what they seek have to do with the shared runtimes: how far they
have come, and which connections they have asked for. -/
structure Orderly (seeks : CallId → Option String) (stage : CallId → Stage) (world : World)
    (begun : List (CallId × Transport)) : Prop where
  /-- A plugin is reserved while a call has its reservation. -/
  reserved : ∀ call registryId, seeks call = some registryId → (stage call).holds = true →
    registryId ∈ world.reserved
  /-- No other call has it then. -/
  alone : ∀ call other registryId, seeks call = some registryId → seeks other = some registryId →
    (stage call).holds = true → (stage other).holds = true → call = other
  nodup : world.reserved.Nodup
  /-- A runtime is only made where there is none. -/
  vacant : ∀ call registryId, seeks call = some registryId → stage call = .making →
    world.singletons.find? registryId = none
  /-- Who has asked for a connection makes the runtime still, or it is entered. -/
  entered : ∀ entry ∈ begun, ∀ registryId, seeks entry.1 = some registryId →
    stage entry.1 = .making ∨ (world.singletons.find? registryId).isSome = true
  once : ∀ registryId, begun.countP (fun entry => seeks entry.1 = some registryId) ≤ 1

namespace Orderly

variable {seeks : CallId → Option String} {stages : CallId → Stage} {begun : List (CallId × Transport)}
  {call : CallId}

/-- Before anything has happened nobody has a reservation. -/
theorem start (seeks : CallId → Option String) (world : World) (unreserved : world.reserved = []) :
    Orderly seeks (fun _ => .outside) world [] where
  reserved _ _ _ holds := nomatch holds
  alone _ _ _ _ _ holds := nomatch holds
  nodup := unreserved ▸ List.nodup_nil
  vacant _ _ _ making := nomatch making
  entered _ member := absurd member List.not_mem_nil
  once _ := Nat.zero_le 1

/-- What the others do leaves the desk as it is. -/
theorem meanwhile (orderly : Orderly seeks stages world begun) (desk : after.desk = world.desk) :
    Orderly seeks stages after begun := by
  have singletons : after.singletons = world.singletons := congrArg Prod.fst desk
  have reservations : after.reserved = world.reserved := congrArg Prod.snd desk
  exact {
    reserved := reservations ▸ orderly.reserved
    alone := orderly.alone
    nodup := reservations ▸ orderly.nodup
    vacant := singletons ▸ orderly.vacant
    entered := singletons ▸ orderly.entered
    once := orderly.once }

/-- Calls that seek no shared runtime may ask for connections as they like. -/
theorem aside (orderly : Orderly seeks stages world begun) (seeksNone : seeks call = none)
    (added : List Transport) : Orderly seeks stages world (begun ++ added.map (call, ·)) where
  reserved := orderly.reserved
  alone := orderly.alone
  nodup := orderly.nodup
  vacant := orderly.vacant
  entered entry member registryId sought := by
    rcases List.mem_append.mp member with old | new
    · exact orderly.entered entry old registryId sought
    · rcases List.mem_map.mp new with ⟨transport, _, rfl⟩
      rw [seeksNone] at sought
      contradiction
  once registryId := by
    have none_new : (added.map (call, ·)).countP (fun entry => seeks entry.1 = some registryId) = 0 := by
      apply List.countP_eq_zero.mpr
      intro entry member
      rcases List.mem_map.mp member with ⟨transport, _, rfl⟩
      simp [seeksNone]
    rw [List.countP_append, none_new, Nat.add_zero]
    exact orderly.once registryId

/-- A call that waits, or has no business any more, comes or goes. -/
theorem restage (orderly : Orderly seeks stages world begun) (idle : (stages call).holds = false)
    (free : stage.holds = false) : Orderly seeks (Function.update stages call stage) world begun := by
  have same (other : CallId) :
      (Function.update stages call stage other).holds = (stages other).holds := by
    by_cases here : other = call
    · rw [here, Function.update_self, free, idle]
    · rw [Function.update_of_ne here]
  have making (other : CallId) :
      Function.update stages call stage other = .making ↔ stages other = .making := by
    by_cases here : other = call
    · rw [here, Function.update_self]
      constructor
      · intro made
        rw [made] at free
        contradiction
      · intro made
        rw [made] at idle
        contradiction
    · rw [Function.update_of_ne here]
  exact {
    reserved := fun other registryId sought holds =>
      orderly.reserved other registryId sought (same other ▸ holds)
    alone := fun first second registryId sought sought' holds holds' =>
      orderly.alone first second registryId sought sought' (same first ▸ holds)
        (same second ▸ holds')
    nodup := orderly.nodup
    vacant := fun other registryId sought made =>
      orderly.vacant other registryId sought ((making other).mp made)
    entered := fun entry member registryId sought =>
      (orderly.entered entry member registryId sought).imp (making entry.1).mpr id
    once := orderly.once }

/-- A call takes the reservation of the plugin whose runtime it seeks. -/
theorem take (orderly : Orderly seeks stages world begun) (sought : seeks call = some registryId)
    (waits : stages call = .waiting) (free : registryId ∉ world.reserved) :
    Orderly seeks (Function.update stages call .reserving)
      { world with reserved := registryId :: world.reserved } begun where
  reserved other registryId' sought' holds := by
    by_cases here : other = call
    · subst here
      cases sought.symm.trans sought'
      exact List.mem_cons_self
    · rw [Function.update_of_ne here] at holds
      exact List.mem_cons_of_mem _ (orderly.reserved other registryId' sought' holds)
  alone first second registryId' sought₁ sought₂ holds₁ holds₂ := by
    -- Nobody else can have the reservation, since it was free.
    have others (other : CallId) (different : other ≠ call) (seeking : seeks other = some registryId)
        (holds : (Function.update stages call Stage.reserving other).holds = true) : False := by
      rw [Function.update_of_ne different] at holds
      exact free (orderly.reserved other registryId seeking holds)
    by_cases first_here : first = call
    · subst first_here
      cases sought.symm.trans sought₁
      by_contra different
      exact others second (Ne.symm different) sought₂ holds₂
    · by_cases second_here : second = call
      · subst second_here
        cases sought.symm.trans sought₂
        exact absurd holds₁ fun holds => others first first_here sought₁ holds
      · rw [Function.update_of_ne first_here] at holds₁
        rw [Function.update_of_ne second_here] at holds₂
        exact orderly.alone first second registryId' sought₁ sought₂ holds₁ holds₂
  nodup := List.nodup_cons.mpr ⟨free, orderly.nodup⟩
  vacant other registryId' sought' making := by
    by_cases here : other = call
    · rw [here, Function.update_self] at making
      contradiction
    · rw [Function.update_of_ne here] at making
      exact orderly.vacant other registryId' sought' making
  entered entry member registryId' sought' := by
    have before := orderly.entered entry member registryId' sought'
    by_cases here : entry.1 = call
    · rw [here, waits] at before
      exact .inr (before.resolve_left nofun)
    · rwa [Function.update_of_ne here]
  once := orderly.once

/-- The call with the reservation gives it back once there is a shared runtime. -/
theorem giveBack (orderly : Orderly seeks stages world begun) (sought : seeks call = some registryId)
    (holds : (stages call).holds = true) {singletons : Catalog PluginRuntime}
    (same : ∀ other, other ≠ registryId → singletons.find? other = world.singletons.find? other)
    (shared : (singletons.find? registryId).isSome = true) :
    Orderly seeks (Function.update stages call .outside)
      { world with
        singletons := singletons
        reserved := world.reserved.erase registryId } begun := by
  -- Whoever has a reservation afterwards has that of another plugin.
  have others (other : CallId) (registryId' : String) (sought' : seeks other = some registryId')
      (holds' : (Function.update stages call Stage.outside other).holds = true) :
      other ≠ call ∧ registryId' ≠ registryId ∧ (stages other).holds = true := by
    have different : other ≠ call := by
      intro here
      rw [here, Function.update_self] at holds'
      contradiction
    rw [Function.update_of_ne different] at holds'
    refine ⟨different, ?_, holds'⟩
    rintro rfl
    exact different (orderly.alone other call registryId' sought' sought holds' holds)
  exact {
    reserved := fun other registryId' sought' holds' => by
      rcases others other registryId' sought' holds' with ⟨_, apart, held⟩
      exact (List.mem_erase_of_ne apart).mpr (orderly.reserved other registryId' sought' held)
    alone := fun first second registryId' sought₁ sought₂ holds₁ holds₂ =>
      orderly.alone first second registryId' sought₁ sought₂
        (others first registryId' sought₁ holds₁).2.2 (others second registryId' sought₂ holds₂).2.2
    nodup := orderly.nodup.erase registryId
    vacant := fun other registryId' sought' making => by
      rcases others other registryId' sought' (making ▸ rfl) with ⟨different, apart, _⟩
      rw [Function.update_of_ne different] at making
      exact (same registryId' apart).trans (orderly.vacant other registryId' sought' making)
    entered := fun entry member registryId' sought' => by
      by_cases own : registryId' = registryId
      · exact .inr (own ▸ shared)
      · have different : entry.1 ≠ call := fun here => by
          rw [here, sought, Option.some.injEq] at sought'
          exact own sought'.symm
        dsimp only
        rw [Function.update_of_ne different, same registryId' own]
        exact orderly.entered entry member registryId' sought'
    once := orderly.once }

/-- The call with the reservation begins to make the runtime, and asks for one connection at most. -/
theorem begin (orderly : Orderly seeks stages world begun) (sought : seeks call = some registryId)
    (reserves : stages call = .reserving) (vacant : world.singletons.find? registryId = none)
    {added : List Transport} (few : added.length ≤ 1) :
    Orderly seeks (Function.update stages call .making) world (begun ++ added.map (call, ·)) := by
  have holds (other : CallId) :
      (Function.update stages call Stage.making other).holds = (stages other).holds := by
    by_cases here : other = call
    · rw [here, Function.update_self, reserves]
      rfl
    · rw [Function.update_of_ne here]
  -- Whoever had asked before would make the runtime with the same reservation, or have entered it.
  have none_before : ∀ entry ∈ begun, seeks entry.1 ≠ some registryId := by
    intro entry member sought'
    rcases orderly.entered entry member registryId sought' with making | shared
    · have here := orderly.alone entry.1 call registryId sought' sought (making ▸ rfl)
        (reserves ▸ rfl)
      rw [here, reserves] at making
      contradiction
    · rw [vacant] at shared
      contradiction
  exact {
    reserved := fun other registryId' sought' held =>
      orderly.reserved other registryId' sought' (holds other ▸ held)
    alone := fun first second registryId' sought₁ sought₂ held₁ held₂ =>
      orderly.alone first second registryId' sought₁ sought₂ (holds first ▸ held₁)
        (holds second ▸ held₂)
    nodup := orderly.nodup
    vacant := fun other registryId' sought' making => by
      by_cases here : other = call
      · rw [here, sought, Option.some.injEq] at sought'
        exact sought' ▸ vacant
      · rw [Function.update_of_ne here] at making
        exact orderly.vacant other registryId' sought' making
    entered := fun entry member registryId' sought' => by
      by_cases here : entry.1 = call
      · exact .inl (by rw [here, Function.update_self])
      · rw [Function.update_of_ne here]
        rcases List.mem_append.mp member with old | new
        · exact orderly.entered entry old registryId' sought'
        · rcases List.mem_map.mp new with ⟨transport, _, rfl⟩
          exact absurd rfl here
    once := fun registryId' => by
      rw [List.countP_append]
      by_cases own : registryId' = registryId
      · subst own
        have before : begun.countP (fun entry => seeks entry.1 = some registryId') = 0 :=
          List.countP_eq_zero.mpr fun entry member => by simpa using none_before entry member
        have later : (added.map (call, ·)).countP (fun entry => seeks entry.1 = some registryId') ≤
            (added.map (call, ·)).length := List.countP_le_length
        rw [List.length_map] at later
        omega
      · have later : (added.map (call, ·)).countP (fun entry => seeks entry.1 = some registryId') =
            0 := by
          apply List.countP_eq_zero.mpr
          intro entry member
          rcases List.mem_map.mp member with ⟨transport, _, rfl⟩
          simpa [sought] using Ne.symm own
        rw [later, Nat.add_zero]
        exact orderly.once registryId' }

/-- Every piece of a request keeps the order. -/
theorem goes (orderly : Orderly seeks stages world begun) (sought : seeks call = some registryId)
    (here : stages call = stage) (goes : Goes registryId world stage next left after added) :
    Orderly seeks (Function.update stages call next) after (begun ++ added.map (call, ·)) := by
  cases goes with
  | finds shared =>
      rw [List.map_nil, List.append_nil]
      exact orderly.restage (here ▸ rfl) rfl
  | queues along =>
      rw [List.map_nil, List.append_nil]
      exact orderly.restage (here ▸ rfl) rfl
  | takes free along =>
      rw [List.map_nil, List.append_nil]
      exact orderly.take sought here free
  | returns shared =>
      rw [List.map_nil, List.append_nil]
      exact orderly.giveBack sought (here ▸ rfl) (fun _ _ => rfl) (Option.isSome_iff_exists.mpr ⟨_, shared⟩)
  | begins vacant along desk dialled few =>
      have moved := orderly.meanwhile desk
      have singletons : after.singletons = world.singletons := congrArg Prod.fst desk
      exact moved.begin sought here (singletons ▸ vacant) few
  | works along desk dialled =>
      rw [List.map_nil, List.append_nil, ← here, Function.update_eq_self]
      exact orderly.meanwhile desk
  | enters runtime =>
      rw [List.map_nil, List.append_nil]
      apply orderly.giveBack sought (here ▸ rfl)
      · intro other different
        rw [Catalog.find?_insert, if_neg (Ne.symm different)]
      · rw [Catalog.find?_insert_self]
        rfl

end Orderly

end SharedRuntimes

end AssistantEngine
