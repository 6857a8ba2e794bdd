import AssistantEngine.Proofs.Engine.SharedRuntimes

/-!
Runs in which callers ask for plugin runtimes, directly or for a link, and go on in any order. For
each plugin at most one handshake begins that makes its shared runtime, and whoever is answered has
the runtime that is shared.
-/

namespace AssistantEngine

open Activity (Spares)
open RuntimeCache (CallId BuildId Task TaskName Builder Answer)
open RuntimeCache.State (Working)

namespace SharedRuntimes

/-! ## Runs -/

/-- What a caller asks for. -/
inductive Request where
  | shared (timeout : HandshakeTimeout) (registryId : String)
  | linked (timeout : HandshakeTimeout) (manifest : PluginManifest) (link : PluginLink)

namespace Request

def activity : Request → Activity World PluginRuntime
  | shared timeout registryId => PluginRuntime.singleton timeout registryId
  | linked timeout manifest link => PluginRuntime.ofLink timeout manifest link

/-- The plugin whose shared runtime is asked for. -/
def sought? : Request → Option String
  | shared _ registryId => some registryId
  | linked _ manifest link =>
    if manifest.isConfigFree && link.isPlain then some manifest.id else none

/-- A request is for a shared runtime, or leaves those alone. -/
theorem begins (request : Request) :
    (∃ timeout registryId, request.sought? = some registryId ∧
        request.activity = PluginRuntime.singleton timeout registryId) ∨
      request.sought? = none ∧
        ∀ seen, Spares World.desk (fun _ => True) seen request.activity := by
  cases request with
  | shared timeout registryId => exact .inl ⟨timeout, registryId, rfl, rfl⟩
  | linked timeout manifest link =>
      by_cases plain : (manifest.isConfigFree && link.isPlain) = true
      · exact .inl ⟨timeout, manifest.id, if_pos plain, if_pos plain⟩
      · have own : (linked timeout manifest link).activity =
            PluginRuntime.forLink timeout manifest link := if_neg plain
        refine .inr ⟨if_neg plain, fun seen => ?_⟩
        rw [own]
        exact (Making.perLink manifest link).run_spares World.desk_unaffected (fun _ _ => rfl) timeout

end Request

/-- What happens in a run: a caller asks, a caller goes on up to its next pause, time passes, or
something else goes on that leaves the shared runtimes and their reservations as they are. -/
inductive Event where
  | ask (call : CallId) (held : Option BuildId) (request : Request)
  | proceed (call : CallId)
  | elapse (duration : Time)
  | meanwhile (change : World → World) (aloof : ∀ world, (change world).desk = world.desk)

namespace Event

def action : Event → Engine.Action PluginRuntime
  | ask call held request => .work call held request.activity
  | proceed call => .resume (.working call)
  | elapse duration => .elapse duration
  | meanwhile change _ => .edit change

def request? : Event → Option (CallId × Request)
  | ask call _ request => some (call, request)
  | _ => none

/-- The caller whose turn it is. -/
def caller? : Event → Option CallId
  | ask call _ _ => some call
  | proceed call => some call
  | _ => none

end Event

def requests (events : List Event) : List (CallId × Request) := events.filterMap Event.request?

/-- The plugin whose shared runtime a call seeks. -/
def seeks (events : List Event) (call : CallId) : Option String :=
  ((requests events).lookup call).bind Request.sought?

abbrev State := Engine.State PluginRuntime

abbrev EngineBuilder := Builder World CompiledRuntime Resource

/-- The connections for which a caller has asked in its turn. -/
def dials (before after : State) (event : Event) : List (CallId × Transport) :=
  match event.caller? with
  | some call => (after.world.dialled.drop before.world.dialled.length).map (call, ·)
  | none => []

/-- The handshakes that begin in a run, with the calls that begin them. -/
def handshakes (builder : EngineBuilder) (state : State) : List Event → List (CallId × Transport)
  | [] => []
  | event :: rest =>
    let next := RuntimeCache.State.step builder state event.action
    dials state next event ++ handshakes builder next rest

/-- Each call asks once. -/
theorem lookup_of_mem {entries : List (CallId × Request)} (distinct : (entries.map (·.1)).Nodup)
    {entry : CallId × Request} (member : entry ∈ entries) :
    entries.lookup entry.1 = some entry.2 := by
  induction entries with
  | nil => exact absurd member List.not_mem_nil
  | cons first rest induction =>
      rw [List.map_cons, List.nodup_cons] at distinct
      rw [List.lookup_cons]
      rcases List.mem_cons.mp member with rfl | later
      · rw [beq_self_eq_true]
      · have different : (entry.1 == first.1) = false := by
          rw [beq_eq_false_iff_ne]
          exact fun same => distinct.1 (same ▸ List.mem_map_of_mem later)
        rw [different]
        exact induction distinct.2 later

def run (builder : EngineBuilder) (state : State) (events : List Event) : State :=
  RuntimeCache.State.run builder state (events.map Event.action)

/-! ## Where calls stand -/

/-- How far a call has come, by what it asks for, its task and its answer. -/
inductive Stands (singletons : Catalog PluginRuntime) (call : CallId) :
    Option Request → Stage → Option (Task World CompiledRuntime Resource PluginRuntime) →
      Option (Answer PluginRuntime) → Prop where
  | idle (request : Option Request) : Stands singletons call request .outside none none
  /-- A runtime for one link alone is being made. -/
  | aside {request : Request} (apart : request.sought? = none) (held : Option BuildId)
      {rest : Activity World PluginRuntime}
      (spares : ∀ seen, Spares World.desk (fun _ => True) seen rest) :
      Stands singletons call (some request) .outside (some (.working call held rest)) none
  | along {request : Request} {registryId : String} (sought : request.sought? = some registryId)
      (held : Option BuildId) {stage : Stage} {rest : Activity World PluginRuntime}
      (along : Along registryId stage rest) :
      Stands singletons call (some request) stage (some (.working call held rest)) none
  | answered {request : Request} {runtime : PluginRuntime}
      (shared : ∀ registryId, request.sought? = some registryId →
        singletons.find? registryId = some runtime) :
      Stands singletons call (some request) .outside none (some (.reply runtime))

variable {registryId : String} {world after : World} {stage next : Stage}
  {rest left : Activity World PluginRuntime} {added : List Transport} {call : CallId}

theorem Along.unfinished (along : Along registryId stage rest) : rest.result? = none := by
  cases along with
  | asked timeout => rfl
  | queued timeout => rfl
  | again timeout => rfl
  | making rest spares => cases rest <;> rfl

/-- A piece ends with the shared runtime, or the request goes on. -/
theorem Goes.lands (goes : Goes registryId world stage next left after added) :
    (next = .outside ∧ ∃ runtime, left = .done runtime ∧
      after.singletons.find? registryId = some runtime) ∨ Along registryId next left := by
  cases goes with
  | finds shared => exact .inl ⟨rfl, _, rfl, shared⟩
  | queues along => exact .inr along
  | takes free along => exact .inr along
  | returns shared => exact .inl ⟨rfl, _, rfl, shared⟩
  | begins vacant along desk dialled few => exact .inr along
  | works along desk dialled => exact .inr along
  | enters runtime => exact .inl ⟨rfl, _, rfl, Catalog.find?_insert_self _ _ _⟩

/-- A runtime that is shared stays shared. -/
theorem Goes.keeps (goes : Goes registryId world stage next left after added)
    (vacant : stage = .making → world.singletons.find? registryId = none) {other : String}
    {runtime : PluginRuntime} (shared : world.singletons.find? other = some runtime) :
    after.singletons.find? other = some runtime := by
  cases goes with
  | finds found => exact shared
  | queues along => exact shared
  | takes free along => exact shared
  | returns found => exact shared
  | begins empty along desk dialled few =>
      have singletons : after.singletons = world.singletons := congrArg Prod.fst desk
      rwa [singletons]
  | works along desk dialled =>
      have singletons : after.singletons = world.singletons := congrArg Prod.fst desk
      rwa [singletons]
  | enters made =>
      have different : registryId ≠ other := by
        rintro rfl
        rw [vacant rfl] at shared
        contradiction
      rw [Catalog.find?_insert, if_neg different]
      exact shared

theorem Stands.keep {singletons singletons' : Catalog PluginRuntime} {request : Option Request}
    {task : Option (Task World CompiledRuntime Resource PluginRuntime)}
    {answer : Option (Answer PluginRuntime)}
    (stands : Stands singletons call request stage task answer)
    (kept : ∀ other runtime, singletons.find? other = some runtime →
      singletons'.find? other = some runtime) :
    Stands singletons' call request stage task answer := by
  cases stands with
  | idle => exact .idle request
  | aside apart held spares => exact .aside apart held spares
  | along sought held along => exact .along sought held along
  | answered shared => exact .answered fun registryId sought => kept _ _ (shared registryId sought)

/-- A call that has something left to do has no answer. -/
theorem Stands.of_task {singletons : Catalog PluginRuntime} {request : Option Request}
    {held : Option BuildId} {answer : Option (Answer PluginRuntime)}
    (stands : Stands singletons call request stage (some (.working call held rest)) answer) :
    answer = none ∧ ∃ given, request = some given ∧
      (given.sought? = none ∧ stage = .outside ∧
          (∀ seen, Spares World.desk (fun _ => True) seen rest) ∨
        ∃ registryId, given.sought? = some registryId ∧ Along registryId stage rest) := by
  cases stands with
  | aside apart held spares => exact ⟨rfl, _, rfl, .inl ⟨apart, rfl, spares⟩⟩
  | along sought held along => exact ⟨rfl, _, rfl, .inr ⟨_, sought, along⟩⟩

theorem Stands.of_silent {singletons : Catalog PluginRuntime} {request : Option Request}
    (stands : Stands singletons call request stage none none) : stage = .outside := by
  cases stands
  rfl

theorem Stands.of_answer {singletons : Catalog PluginRuntime} {request : Option Request}
    {task : Option (Task World CompiledRuntime Resource PluginRuntime)} {runtime : PluginRuntime}
    (stands : Stands singletons call request stage task (some (.reply runtime)))
    (sought : request.bind Request.sought? = some registryId) :
    singletons.find? registryId = some runtime := by
  cases stands with
  | answered shared => exact shared registryId sought

/-- The invariant of a run in which it is known what each call asks for. -/
structure Ongoing (asked : CallId → Option Request) (state : State) (stages : CallId → Stage)
    (begun : List (CallId × Transport)) : Prop where
  working : state.Working
  orderly : Orderly (fun call => (asked call).bind Request.sought?) stages state.world begun
  stands : ∀ call, Stands state.world.singletons call (asked call) (stages call)
    (state.task? (.working call)) (state.answer? call)

namespace Ongoing

variable {asked : CallId → Option Request} {state after : State} {stages stages' : CallId → Stage}
  {begun begun' : List (CallId × Transport)} {builder : EngineBuilder} {held : Option BuildId}
  {request : Request} {piece : Activity World PluginRuntime × World}

/-- A step that concerns one call. -/
theorem change (ongoing : Ongoing asked state stages begun) (call : CallId)
    (working : after.Working)
    (orderly : Orderly (fun call => (asked call).bind Request.sought?) stages' after.world begun')
    (kept : ∀ other runtime, state.world.singletons.find? other = some runtime →
      after.world.singletons.find? other = some runtime)
    (elsewhere : ∀ other, other ≠ call →
      after.task? (.working other) = state.task? (.working other) ∧
        after.answer? other = state.answer? other ∧ stages' other = stages other)
    (here : Stands after.world.singletons call (asked call) (stages' call)
      (after.task? (.working call)) (after.answer? call)) :
    Ongoing asked after stages' begun' where
  working := working
  orderly := orderly
  stands other := by
    by_cases same : other = call
    · exact same ▸ here
    · rcases elsewhere other same with ⟨task, answer, stays⟩
      rw [task, answer, stays]
      exact (ongoing.stands other).keep kept

/-- A call that makes a runtime for its link alone begins or goes on. -/
theorem stands_aside {singletons : Catalog PluginRuntime} (apart : request.sought? = none)
    (spares : ∀ seen, Spares World.desk (fun _ => True) seen left) :
    Stands singletons call (some request) .outside (RuntimeCache.State.leftOver call held left)
      (left.result?.map .reply) := by
  unfold RuntimeCache.State.leftOver
  cases ended : left.result? with
  | some runtime =>
      refine .answered fun registryId sought => ?_
      rw [apart] at sought
      contradiction
  | none => exact .aside apart held spares

/-- A call that seeks a shared runtime goes on. -/
theorem stands_along {singletons : Catalog PluginRuntime}
    (sought : request.sought? = some registryId)
    (lands : (next = .outside ∧ ∃ runtime, left = .done runtime ∧
      singletons.find? registryId = some runtime) ∨ Along registryId next left) :
    Stands singletons call (some request) next (RuntimeCache.State.leftOver call held left)
      (left.result?.map .reply) := by
  rcases lands with ⟨rfl, runtime, rfl, shared⟩ | along
  · refine .answered fun registryId' sought' => ?_
    rw [sought, Option.some.injEq] at sought'
    exact sought' ▸ shared
  · unfold RuntimeCache.State.leftOver
    rw [along.unfinished]
    exact .along sought held along

/-- A caller's next turn. -/
theorem proceed (ongoing : Ongoing asked state stages begun) (call : CallId) :
    ∃ stages', Ongoing asked (RuntimeCache.State.step builder state (.resume (.working call)))
      stages' (begun ++ dials state
        (RuntimeCache.State.step builder state (.resume (.working call))) (.proceed call)) := by
  have stays : dials state state (.proceed call) = [] := by simp [dials, Event.caller?]
  by_cases able : ∃ held rest, state.task? (.working call) = some (.working call held rest) ∧
      rest.isReady state.now state.world = true
  · rcases able with ⟨held, rest, found, ready⟩
    have stands := ongoing.stands call
    rw [found] at stands
    rcases stands.of_task with ⟨unanswered, request, given, standing⟩
    rw [ongoing.working.step_ready found ready]
    have task : (state.moveOn call held (rest.resume state.now state.world)).task? (.working call) =
        RuntimeCache.State.leftOver call held (rest.resume state.now state.world).1 :=
      Working.task?_moveOn_self ongoing.working found
    have answer : (state.moveOn call held (rest.resume state.now state.world)).answer? call =
        (rest.resume state.now state.world).1.result?.map .reply := by
      rw [Working.answer?_moveOn, unanswered, if_pos rfl, Option.none_or]
    have elsewhere (other : CallId) (different : other ≠ call) :
        (state.moveOn call held (rest.resume state.now state.world)).task? (.working other) =
            state.task? (.working other) ∧
          (state.moveOn call held (rest.resume state.now state.world)).answer? other =
            state.answer? other := by
      refine ⟨Working.task?_moveOn_of_ne different, ?_⟩
      rw [Working.answer?_moveOn, if_neg different, Option.or_none]
    rcases standing with ⟨apart, outside, spares⟩ | ⟨registryId, sought, along⟩
    · have piece := Spares.resume spares state.now state.world
      refine ⟨stages, ongoing.change call (ongoing.working.moveOn) ?_ ?_ ?_ ?_⟩
      · rw [Working.world_moveOn]
        have seeksNone : (asked call).bind Request.sought? = none := by rw [given]; exact apart
        exact (ongoing.orderly.meanwhile piece.1).aside seeksNone _
      · intro other runtime shared
        have singletons : (rest.resume state.now state.world).2.singletons =
            state.world.singletons := congrArg Prod.fst piece.1
        rwa [Working.world_moveOn, singletons]
      · intro other different
        exact ⟨(elsewhere other different).1, (elsewhere other different).2, rfl⟩
      · rw [task, answer, given, outside]
        exact stands_aside apart piece.2
    · rcases along.goes ready with ⟨next, added, goes⟩
      refine ⟨Function.update stages call next,
        ongoing.change call (ongoing.working.moveOn) ?_ ?_ ?_ ?_⟩
      · have seeking : (asked call).bind Request.sought? = some registryId := by
          rw [given]
          exact sought
        have news : dials state (state.moveOn call held (rest.resume state.now state.world))
            (.proceed call) = added.map (call, ·) := by
          simp [dials, Event.caller?, Working.world_moveOn, goes.dialled]
        rw [news, Working.world_moveOn]
        exact ongoing.orderly.goes seeking rfl goes
      · intro other runtime shared
        rw [Working.world_moveOn]
        refine goes.keeps (fun making => ?_) shared
        have seeking : (asked call).bind Request.sought? = some registryId := by
          rw [given]
          exact sought
        exact ongoing.orderly.vacant call registryId seeking making
      · intro other different
        exact ⟨(elsewhere other different).1, (elsewhere other different).2,
          Function.update_of_ne different _ _⟩
      · rw [task, answer, given, Function.update_self, Working.world_moveOn]
        exact stands_along sought goes.lands
  · have idle : RuntimeCache.State.step builder state (.resume (.working call)) = state := by
      apply ongoing.working.step_idle
      intro held rest found
      by_contra ready
      exact able ⟨held, rest, found, Bool.of_not_eq_false ready⟩
    rw [idle, stays, List.append_nil]
    exact ⟨stages, ongoing⟩

/-- A caller that was not known asks for a runtime. -/
theorem ask (ongoing : Ongoing asked state stages begun) {call : CallId}
    (held : Option BuildId) (given : asked call = some request)
    (absent : state.task? (.working call) = none) (silent : state.answer? call = none) :
    ∃ stages', Ongoing asked (RuntimeCache.State.step builder state (.work call held request.activity))
      stages' (begun ++ dials state
        (RuntimeCache.State.step builder state (.work call held request.activity))
        (.ask call held request)) := by
  have outside : stages call = .outside := by
    have stands := ongoing.stands call
    rw [absent, silent] at stands
    exact stands.of_silent
  rw [ongoing.working.step_work]
  split
  · generalize begins : request.activity.advance state.now state.world = piece
    have task : (state.setOut call held piece).task? (.working call) =
        RuntimeCache.State.leftOver call held piece.1 := Working.task?_setOut_self absent
    have answer : (state.setOut call held piece).answer? call = piece.1.result?.map .reply := by
      rw [Working.answer?_setOut, silent, if_pos rfl, Option.none_or]
    have elsewhere (other : CallId) (different : other ≠ call) :
        (state.setOut call held piece).task? (.working other) = state.task? (.working other) ∧
          (state.setOut call held piece).answer? other = state.answer? other := by
      refine ⟨Working.task?_setOut_of_ne different, ?_⟩
      rw [Working.answer?_setOut, if_neg different, Option.or_none]
    have working : (state.setOut call held piece).Working := ongoing.working.setOut absent
    rcases request.begins with ⟨timeout, registryId, sought, singleton⟩ | ⟨apart, spares⟩
    · -- A request for a shared runtime does nothing before it first gives way.
      have first : piece = (PluginRuntime.singleton timeout registryId, state.world) := by
        rw [← begins, singleton]
        rfl
      have news : dials state (state.setOut call held piece) (.ask call held request) = [] := by
        simp [dials, Event.caller?, Working.world_setOut, first]
      refine ⟨Function.update stages call .waiting, ongoing.change call working ?_ ?_ ?_ ?_⟩
      · have still : piece.2 = state.world := by rw [first]
        rw [news, List.append_nil, Working.world_setOut, still]
        have idle : (stages call).holds = false := outside ▸ rfl
        have free : Stage.waiting.holds = false := rfl
        exact ongoing.orderly.restage idle free
      · intro other runtime shared
        rwa [Working.world_setOut, first]
      · intro other different
        exact ⟨(elsewhere other different).1, (elsewhere other different).2,
          Function.update_of_ne different _ _⟩
      · rw [task, answer, given, Function.update_self, first]
        exact stands_along sought (.inr (.asked timeout))
    · have kept : piece.2.desk = state.world.desk ∧
          ∀ later, Spares World.desk (fun _ => True) later piece.1 :=
        begins ▸ (spares state.world.desk).advance state.now
      refine ⟨stages, ongoing.change call working ?_ ?_ ?_ ?_⟩
      · rw [Working.world_setOut]
        have seeksNone : (asked call).bind Request.sought? = none := by rw [given]; exact apart
        exact (ongoing.orderly.meanwhile kept.1).aside seeksNone _
      · intro other runtime shared
        have singletons : piece.2.singletons = state.world.singletons :=
          congrArg Prod.fst kept.1
        rwa [Working.world_setOut, singletons]
      · intro other different
        exact ⟨(elsewhere other different).1, (elsewhere other different).2, rfl⟩
      · rw [task, answer, given, outside]
        exact stands_aside apart kept.2
  · have stays : dials state state (.ask call held request) = [] := by simp [dials, Event.caller?]
    rw [stays, List.append_nil]
    exact ⟨stages, ongoing⟩

/-- What concerns no caller. -/
theorem calm (ongoing : Ongoing asked state stages begun) (working : after.Working)
    (desk : after.world.desk = state.world.desk) (tasks : after.tasks = state.tasks)
    (answers : after.answers = state.answers) : Ongoing asked after stages begun where
  working := working
  orderly := ongoing.orderly.meanwhile desk
  stands call := by
    have singletons : after.world.singletons = state.world.singletons := congrArg Prod.fst desk
    unfold RuntimeCache.State.task? RuntimeCache.State.answer?
    rw [singletons, tasks, answers]
    exact ongoing.stands call

/-- Whatever happens in a run keeps the invariant. -/
theorem step (ongoing : Ongoing asked state stages begun) (event : Event)
    (known : ∀ entry, event.request? = some entry → asked entry.1 = some entry.2 ∧
      state.task? (.working entry.1) = none ∧ state.answer? entry.1 = none) :
    ∃ stages', Ongoing asked (RuntimeCache.State.step builder state event.action) stages'
      (begun ++ dials state (RuntimeCache.State.step builder state event.action) event) := by
  cases event with
  | ask call held request =>
      rcases known _ rfl with ⟨given, absent, silent⟩
      exact ongoing.ask held given absent silent
  | proceed call => exact ongoing.proceed call
  | elapse duration =>
      have stepped : RuntimeCache.State.step builder state (.elapse duration) =
          state.elapse duration := RuntimeCache.State.step_of_perform rfl ongoing.working.undeferred
      change ∃ stages', Ongoing asked (RuntimeCache.State.step builder state (.elapse duration))
        stages' (begun ++ [])
      rw [stepped, List.append_nil]
      exact ⟨stages, ongoing.calm ⟨ongoing.working.undeferred, ongoing.working.tasks,
        ongoing.working.once⟩ rfl rfl rfl⟩
  | meanwhile change aloof =>
      have stepped : RuntimeCache.State.step builder state (.edit change) =
          { state with world := change state.world } :=
        RuntimeCache.State.step_of_perform rfl ongoing.working.undeferred
      change ∃ stages', Ongoing asked (RuntimeCache.State.step builder state (.edit change))
        stages' (begun ++ [])
      rw [stepped, List.append_nil]
      exact ⟨stages, ongoing.calm ⟨ongoing.working.undeferred, ongoing.working.tasks,
        ongoing.working.once⟩ (aloof state.world) rfl rfl⟩

/-- A call that has not asked yet has nothing to do, and no answer. -/
theorem untouched (working : state.Working) (event : Event) {other : CallId}
    (unasked : ∀ entry, event.request? = some entry → entry.1 ≠ other)
    (absent : state.task? (.working other) = none) (silent : state.answer? other = none) :
    (RuntimeCache.State.step builder state event.action).task? (.working other) = none ∧
      (RuntimeCache.State.step builder state event.action).answer? other = none := by
  cases event with
  | ask call held request =>
      have different : other ≠ call := (unasked _ rfl).symm
      have stepped : RuntimeCache.State.step builder state (Event.ask call held request).action = _ :=
        working.step_work _
      rw [stepped]
      split
      · rw [Working.task?_setOut_of_ne different, Working.answer?_setOut, if_neg different,
          Option.or_none]
        exact ⟨absent, silent⟩
      · exact ⟨absent, silent⟩
  | proceed call =>
      by_cases able : ∃ held rest, state.task? (.working call) = some (.working call held rest) ∧
          rest.isReady state.now state.world = true
      · rcases able with ⟨held, rest, found, ready⟩
        have different : other ≠ call := by
          rintro rfl
          rw [absent] at found
          contradiction
        have stepped : RuntimeCache.State.step builder state (Event.proceed call).action = _ :=
          working.step_ready found ready
        rw [stepped, Working.task?_moveOn_of_ne different, Working.answer?_moveOn, if_neg different,
          Option.or_none]
        exact ⟨absent, silent⟩
      · have idle : RuntimeCache.State.step builder state (Event.proceed call).action = state := by
          apply working.step_idle
          intro held rest found
          by_contra ready
          exact able ⟨held, rest, found, Bool.of_not_eq_false ready⟩
        rw [idle]
        exact ⟨absent, silent⟩
  | elapse duration =>
      have stepped : RuntimeCache.State.step builder state (Event.elapse duration).action =
          state.elapse duration := RuntimeCache.State.step_of_perform rfl working.undeferred
      rw [stepped]
      exact ⟨absent, silent⟩
  | meanwhile change aloof =>
      have stepped : RuntimeCache.State.step builder state (Event.meanwhile change aloof).action =
          { state with world := change state.world } :=
        RuntimeCache.State.step_of_perform rfl working.undeferred
      rw [stepped]
      exact ⟨absent, silent⟩

/-- The invariant holds in every run. -/
theorem run (ongoing : Ongoing asked state stages begun) (builder : EngineBuilder)
    (events : List Event) (distinct : ((requests events).map (·.1)).Nodup)
    (known : ∀ entry ∈ requests events, asked entry.1 = some entry.2 ∧
      state.task? (.working entry.1) = none ∧ state.answer? entry.1 = none) :
    ∃ stages', Ongoing asked (SharedRuntimes.run builder state events) stages'
      (begun ++ handshakes builder state events) := by
  induction events generalizing state stages begun with
  | nil => exact ⟨stages, by simpa [SharedRuntimes.run, RuntimeCache.State.run, handshakes] using ongoing⟩
  | cons event rest induction =>
      have first : ∀ entry, event.request? = some entry → asked entry.1 = some entry.2 ∧
          state.task? (.working entry.1) = none ∧ state.answer? entry.1 = none :=
        fun entry asks => known entry (List.mem_filterMap.mpr ⟨event, List.mem_cons_self, asks⟩)
      have later : ∀ entry ∈ requests rest, entry ∈ requests (event :: rest) := fun entry member =>
        List.Sublist.mem member ((List.sublist_cons_self event rest).filterMap _)
      have others : ((requests rest).map (·.1)).Nodup :=
        (((List.sublist_cons_self event rest).filterMap _).map _).nodup distinct
      have silent : ∀ entry ∈ requests rest, asked entry.1 = some entry.2 ∧
          (RuntimeCache.State.step builder state event.action).task? (.working entry.1) = none ∧
            (RuntimeCache.State.step builder state event.action).answer? entry.1 = none := by
        intro entry member
        rcases known entry (later entry member) with ⟨given, absent, silent⟩
        refine ⟨given, untouched ongoing.working event ?_ absent silent⟩
        intro asking asks same
        have listed : requests (event :: rest) = asking :: requests rest := by
          unfold requests
          rw [List.filterMap_cons, asks]
        rw [listed, List.map_cons, List.nodup_cons] at distinct
        exact distinct.1 (same ▸ List.mem_map_of_mem member)
      rcases ongoing.step event first with ⟨next, stepped⟩
      rcases induction stepped others silent with ⟨last, ended⟩
      exact ⟨last, (List.append_assoc _ _ _).symm ▸ ended⟩

end Ongoing

/-- However callers ask for runtimes, directly or for links, and in whatever order they go on: for
each plugin at most one handshake is ever begun by a call that seeks its shared runtime, so no two of
them are under way at the same time; and every such call that is answered has the very runtime that is
shared in the end, be it active or failed. -/
theorem shared_once (builder : EngineBuilder) (world : World) (unreserved : world.reserved = [])
    (events : List Event) (distinct : ((requests events).map (·.1)).Nodup) (registryId : String) :
    (handshakes builder (Engine.start world) events).countP
        (fun (call, _) => seeks events call = some registryId) ≤ 1 ∧
      ∀ call runtime, seeks events call = some registryId →
        (run builder (Engine.start world) events).answer? call = some (.reply runtime) →
        (run builder (Engine.start world) events).world.singletons.find? registryId =
          some runtime := by
  have initial : Ongoing ((requests events).lookup ·) (Engine.start world) (fun _ => .outside) [] := {
    working := ⟨rfl, fun task member => absurd member List.not_mem_nil, fun name => Nat.zero_le 1⟩
    orderly := .start _ world unreserved
    stands := fun call => .idle _ }
  have fresh : ∀ entry ∈ requests events, (requests events).lookup entry.1 = some entry.2 ∧
      (Engine.start world : State).task? (.working entry.1) = none ∧
        (Engine.start world : State).answer? entry.1 = none :=
    fun entry member => ⟨lookup_of_mem distinct member, rfl, rfl⟩
  rcases initial.run builder events distinct fresh with ⟨stages, ended⟩
  constructor
  · exact ended.orderly.once registryId
  · intro call runtime sought answered
    have stands := ended.stands call
    rw [answered] at stands
    exact stands.of_answer sought

/-- Two callers want the same runtime, one of them for a link, and take turns while the server takes
its time. -/
def forecasts : List Event :=
  let weather : PluginManifest :=
    { id := "weather"
      displayName := "Weather"
      execution := { mode := .remote, url := some "http://tools" } }
  [.ask 0 none (.shared 1000 "weather"),
    .ask 1 none (.linked 1000 weather { registryId := "weather" }),
    .proceed 0, .proceed 1, .proceed 0, .proceed 1, .proceed 0, .proceed 0, .proceed 1,
    .elapse 500, .proceed 0, .proceed 0, .elapse 400, .proceed 0, .proceed 0, .proceed 1, .proceed 1]

/-- The state in which both have been answered. -/
def forecastsEnd : State :=
  run (Engine.builder { pluginDirectories := ["plugins"] })
    (Engine.start (Handshake.forecastWorld 400)) forecasts

/-- Whether an answer is an active runtime. -/
def isActiveReply : Answer PluginRuntime → Bool
  | .reply runtime => runtime.isActive
  | .runtime _ => false
  | .closed _ => false

theorem shared_once_forecasts :
    ∃ runtime, runtime.isActive = true ∧ forecastsEnd.answer? 0 = some (.reply runtime) ∧
      forecastsEnd.answer? 1 = some (.reply runtime) := by
  have replied : ∀ call ∈ [0, 1], (forecastsEnd.answer? call).any isActiveReply = true := by
    decide +kernel
  have answers (call : CallId) (member : call ∈ [0, 1]) :
      ∃ runtime, runtime.isActive = true ∧ forecastsEnd.answer? call = some (.reply runtime) := by
    have active := replied call member
    cases answered : forecastsEnd.answer? call with
    | none =>
        rw [answered] at active
        contradiction
    | some answer =>
        rw [answered] at active
        cases answer with
        | reply runtime => exact ⟨runtime, active, rfl⟩
        | runtime result => contradiction
        | closed hadGraph => contradiction
  rcases answers 0 (by decide) with ⟨first, active, toFirst⟩
  rcases answers 1 (by decide) with ⟨second, _, toSecond⟩
  have shared := (shared_once (Engine.builder { pluginDirectories := ["plugins"] })
    (Handshake.forecastWorld 400) rfl forecasts (by decide +kernel) "weather").2
  have toBoth : first = second := by
    have byFirst := shared 0 first (by decide +kernel) toFirst
    have bySecond := shared 1 second (by decide +kernel) toSecond
    rw [byFirst, Option.some.injEq] at bySecond
    exact bySecond
  exact ⟨first, active, toFirst, toBoth ▸ toSecond⟩

end SharedRuntimes

end AssistantEngine
