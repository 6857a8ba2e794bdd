import AssistantEngine.Proofs.Concurrency.Conduct
import AssistantEngine.Proofs.RuntimeCache.Step

/-!
What everybody at the runtime cache may rely on. If builds, releases, subscribers and callers lead from
each scene to later ones of its era only, so does every step of the cache, and what a build says of the graph that
it yields stays true of that graph.
-/

namespace AssistantEngine

namespace RuntimeCache

open Activity (Abides Follows Lasting)

/-- The scenes in which the parties at a cache work, and what is to hold of the graph of a build. -/
structure Regard (World Scene Era Runtime : Type) [Preorder Scene] where
  world : Scene → World
  era : Scene → Era
  fits : BuildId → Runtime → Scene → Prop
  lasting : ∀ id, Lasting (fits id)

variable {World Scene Era Runtime Resource Reply : Type} [Preorder Scene]

namespace Regard

/-- A scene with this world may follow. -/
def Leads (regard : Regard World Scene Era Runtime) (scene : Scene) (changed : World) : Prop :=
  ∃ next, Follows regard.era scene next ∧ regard.world next = changed

/-- The graph of a build fits, if there is one. -/
def Yields (regard : Regard World Scene Era Runtime) (id : BuildId) (outcome : Outcome Runtime Resource)
    (scene : Scene) : Prop :=
  ∀ graph, outcome.graph? = some graph → regard.fits id graph.runtime scene

/-- An activity whose result does not matter. -/
abbrev Calm {Result : Type} (regard : Regard World Scene Era Runtime) (scene : Scene)
    (activity : Activity World Result) : Prop :=
  Abides regard.world regard.era (fun _ _ => True) scene activity

/-- What is left of a task abides. -/
def Minds (regard : Regard World Scene Era Runtime) (scene : Scene) :
    Task World Runtime Resource Reply → Prop
  | .building id _ rest => Abides regard.world regard.era (regard.Yields id) scene rest
  | .finishing _ rest => regard.Calm scene rest
  | .releasing _ rest => regard.Calm scene rest
  | .closing _ _ current _ afterwards => regard.Calm scene current ∧ regard.Calm scene afterwards
  | .working _ _ rest => regard.Calm scene rest
  | .waiting .. | .refreshing _ | .orphaned .. => True

/-- An action by which a scene turns into one that follows. -/
inductive Permits (regard : Regard World Scene Era Runtime) (scene : Scene) :
    Action World Runtime Resource Reply → Prop where
  | get (call : CallId) (key : String) : Permits regard scene (.get call key)
  | rebuild (call : CallId) (key : String) : Permits regard scene (.rebuild call key)
  | work (call : CallId) (held : Option BuildId) (activity : Activity World Reply)
      (calm : regard.Calm scene activity) : Permits regard scene (.work call held activity)
  | invalidate (key : String) : Permits regard scene (.invalidate key)
  | invalidateAll : Permits regard scene .invalidateAll
  | requestRebuild (key : String) (delay : Time) : Permits regard scene (.requestRebuild key delay)
  | close (call : CallId) (key : String) : Permits regard scene (.close call key)
  | subscribe (subscriber : Subscriber World)
      (leads : ∀ id scene, regard.Leads scene (subscriber.notify id (regard.world scene))) :
      Permits regard scene (.subscribe subscriber)
  | share (holder : Holder) (id : BuildId) : Permits regard scene (.share holder id)
  | drop (holder : Holder) : Permits regard scene (.drop holder)
  | forget (call : CallId) : Permits regard scene (.forget call)
  | edit (change : World → World)
      (leads : regard.Leads scene (change (regard.world scene))) :
      Permits regard scene (.edit change)
  | elapse (duration : Time) : Permits regard scene (.elapse duration)
  | fire (key : String) : Permits regard scene (.fire key)
  | resume (task : TaskName) : Permits regard scene (.resume task)

variable {regard : Regard World Scene Era Runtime} {scene later : Scene}

theorem yields_lasting (regard : Regard World Scene Era Runtime) (id : BuildId) :
    Lasting fun (outcome : Outcome Runtime Resource) scene => regard.Yields id outcome scene :=
  fun _ _ _ onward yields graph found => regard.lasting id _ _ _ onward (yields graph found)

theorem calm_lasting {Result : Type} : Lasting fun (_ : Result) (_ : Scene) => True :=
  fun _ _ _ _ => id

theorem Minds.shift {task : Task World Runtime Resource Reply} (minds : regard.Minds scene task)
    (onward : scene ≤ later) : regard.Minds later task := by
  cases task with
  | closing => exact ⟨minds.1.shift onward, minds.2.shift onward⟩
  | building => exact Abides.shift minds onward
  | finishing => exact Abides.shift minds onward
  | releasing => exact Abides.shift minds onward
  | working => exact Abides.shift minds onward
  | _ => trivial

end Regard

/-- Builder, subscribers and tasks abide, and the graphs that there have been fit. -/
structure Concord (regard : Regard World Scene Era Runtime) (builder : Builder World Runtime Resource)
    (scene : Scene) (state : State World Runtime Resource Reply) : Prop where
  world : regard.world scene = state.world
  build : ∀ id, Abides regard.world regard.era (regard.Yields id) scene (builder.build id)
  release : ∀ resource, regard.Calm scene (builder.release resource)
  subscribers : ∀ subscriber ∈ state.subscribers, ∀ id scene,
    regard.Leads scene (subscriber.notify id (regard.world scene))
  tasks : ∀ task ∈ state.tasks, regard.Minds scene task
  runtimes : ∀ entry ∈ state.runtimes, regard.fits entry.1 entry.2 scene

/-- From the scene on there is concord in the end. -/
def Concords (regard : Regard World Scene Era Runtime) (builder : Builder World Runtime Resource)
    (scene : Scene) (state : State World Runtime Resource Reply) : Prop :=
  ∃ later, Follows regard.era scene later ∧ Concord regard builder later state

namespace Concord

variable {regard : Regard World Scene Era Runtime} {builder : Builder World Runtime Resource}
  {scene : Scene} {state next : State World Runtime Resource Reply}

theorem concords (concord : Concord regard builder scene state) :
    Concords regard builder scene state :=
  ⟨scene, .refl _ scene, concord⟩

/-- The scene has turned into a later one. -/
theorem shift {later : Scene} {changed : World} (concord : Concord regard builder scene state)
    (onward : scene ≤ later) (same : regard.world later = changed) :
    Concord regard builder later { state with world := changed } where
  world := same
  build id := (concord.build id).shift onward
  release resource := (concord.release resource).shift onward
  subscribers := concord.subscribers
  tasks task member := (concord.tasks task member).shift onward
  runtimes entry member := regard.lasting _ _ _ _ onward (concord.runtimes entry member)

/-- What has nothing to do with the world, the tasks and the graphs. -/
theorem quiet (concord : Concord regard builder scene state) (world : next.world = state.world)
    (tasks : next.tasks = state.tasks) (runtimes : next.runtimes = state.runtimes)
    (subscribers : next.subscribers = state.subscribers) : Concord regard builder scene next where
  world := concord.world.trans world.symm
  build := concord.build
  release := concord.release
  subscribers := subscribers ▸ concord.subscribers
  tasks := tasks ▸ concord.tasks
  runtimes := runtimes ▸ concord.runtimes

theorem note (concord : Concord regard builder scene state) (occurrence : Occurrence) :
    Concord regard builder scene (state.note occurrence) :=
  concord.quiet rfl rfl rfl rfl

theorem spawn {task : Task World Runtime Resource Reply}
    (concord : Concord regard builder scene state) (minds : regard.Minds scene task) :
    Concord regard builder scene (state.spawn task) where
  world := concord.world
  build := concord.build
  release := concord.release
  subscribers := concord.subscribers
  tasks other member := by
    rcases List.mem_append.mp member with old | new
    · exact concord.tasks other old
    · exact List.mem_singleton.mp new ▸ minds
  runtimes := concord.runtimes

theorem dismiss (concord : Concord regard builder scene state) (name : TaskName) :
    Concord regard builder scene (state.dismiss name) where
  world := concord.world
  build := concord.build
  release := concord.release
  subscribers := concord.subscribers
  tasks task member := concord.tasks task (List.mem_of_mem_eraseP member)
  runtimes := concord.runtimes

theorem replace {task : Task World Runtime Resource Reply}
    (concord : Concord regard builder scene state) (minds : regard.Minds scene task) :
    Concord regard builder scene (state.replace task) where
  world := concord.world
  build := concord.build
  release := concord.release
  subscribers := concord.subscribers
  tasks other member := by
    rcases State.mem_replace member with new | old
    · exact new ▸ minds
    · exact concord.tasks other old
  runtimes := concord.runtimes

/-! ## Activities -/

variable {Result : Type} {activity left : Activity World Result} {ends : Result → Scene → Prop}

/-- An activity that begins leads to a later scene. -/
theorem advance (concord : Concord regard builder scene state) (lasting : Lasting ends)
    (abides : Abides regard.world regard.era ends scene activity)
    (ran : state.advance activity = (left, next)) :
    ∃ later, Follows regard.era scene later ∧ Concord regard builder later next ∧
      Abides regard.world regard.era ends later left := by
  rcases (abides scene le_rfl).advance lasting state.now with ⟨later, onward, same, abiding⟩
  rw [concord.world] at same abiding
  have advanced : Concord regard builder later (state.advance activity).2 :=
    concord.shift onward.le same
  have abiding : Abides regard.world regard.era ends later (state.advance activity).1 := abiding
  rw [ran] at advanced abiding
  exact ⟨later, onward, advanced, abiding⟩

/-- So does one that goes on. -/
theorem resume (concord : Concord regard builder scene state) (lasting : Lasting ends)
    (abides : Abides regard.world regard.era ends scene activity)
    (ran : state.resume activity = (left, next)) :
    ∃ later, Follows regard.era scene later ∧ Concord regard builder later next ∧
      Abides regard.world regard.era ends later left := by
  rcases abides.resume lasting state.now with ⟨later, onward, same, abiding⟩
  rw [concord.world] at same abiding
  have advanced : Concord regard builder later (state.resume activity).2 :=
    concord.shift onward.le same
  have abiding : Abides regard.world regard.era ends later (state.resume activity).1 := abiding
  rw [ran] at advanced abiding
  exact ⟨later, onward, advanced, abiding⟩

theorem closeScope (concord : Concord regard builder scene state) (scope : Scope Resource) :
    regard.Calm scene (builder.closeScope scope) := by
  unfold Builder.closeScope
  induction scope.close.1 with
  | nil => exact fun _ _ => trivial
  | cons resource rest induction =>
      intro later onward
      exact (concord.release resource later onward).bind fun _ last after _ =>
        induction last (onward.trans after)

/-! ## Looking up and building -/

theorem deliver (concord : Concord regard builder scene state) (call : CallId) (purpose : Purpose)
    (id : BuildId) : Concord regard builder scene (state.deliver call purpose id) := by
  rcases State.deliver_eq state call purpose id with ⟨holders, _, same⟩
  rw [same]
  exact concord.quiet rfl rfl rfl rfl

theorem startOrJoin (concord : Concord regard builder scene state) (key : String) :
    Concord regard builder scene (State.startOrJoin builder state key).2 := by
  cases building : (state.entry key).building with
  | some build =>
      rw [State.startOrJoin_join builder state building]
      exact concord
  | none =>
      have begun : Concord regard builder scene
          (state.spawn (.building (state.nextBuild key) state.epoch
            (builder.build (state.nextBuild key)))) := concord.spawn (concord.build _)
      rw [State.startOrJoin_start builder state building]
      exact begun.quiet rfl rfl rfl rfl

theorem lookUp (concord : Concord regard builder scene state) (key : String) :
    Concord regard builder scene (State.lookUp builder state key).2 := by
  rcases State.lookUp_cases builder state key with
    ⟨build, _, found⟩ | ⟨installed, _, _, found⟩ | ⟨_, _, found⟩
  · rw [found]
    exact concord
  · rw [found]
    exact concord
  · rw [found]
    exact concord.startOrJoin key

theorem beginGet (concord : Concord regard builder scene state) (call : CallId) (key : String) :
    Concord regard builder scene (State.beginGet builder state call key) := by
  have looked := concord.lookUp key
  unfold State.beginGet
  split
  · rename_i id next found
    rw [found] at looked
    exact looked.deliver call .get id
  · rename_i build next found
    rw [found] at looked
    exact looked.spawn trivial

theorem beginRebuild (concord : Concord regard builder scene state) (call : CallId)
    (key : String) : Concord regard builder scene (State.beginRebuild builder state call key) :=
  (concord.startOrJoin key).spawn trivial

theorem invalidate (concord : Concord regard builder scene state) (key : String) :
    Concord regard builder scene (state.invalidate key) :=
  concord.quiet rfl rfl rfl rfl

theorem refresh (concord : Concord regard builder scene state) (key : String) :
    Concord regard builder scene (State.refresh builder state key) := by
  have looked := concord.lookUp key
  unfold State.refresh
  split
  · rename_i id next found
    rw [found] at looked
    exact looked.note _
  · rename_i build next found
    rw [found] at looked
    exact looked.spawn trivial

theorem fire (concord : Concord regard builder scene state) (key : String) :
    Concord regard builder scene (State.fire builder state key) := by
  have fired : Concord regard builder scene
      ({ state with timers := state.timers.erase key }.note (.fired key state.now)) :=
    concord.quiet rfl rfl rfl rfl
  exact (fired.invalidate key).refresh key

theorem requestRebuild (concord : Concord regard builder scene state) (key : String)
    (delay : Time) : Concord regard builder scene (state.requestRebuild key delay).2 := by
  rcases State.requestRebuild_eq state key delay with same | same
  · rw [same]
    exact concord.note _
  · rw [same]
    exact concord.quiet rfl rfl rfl rfl

theorem cancelTimer (concord : Concord regard builder scene state) (key : String) :
    Concord regard builder scene (state.cancelTimer key) := by
  rcases State.cancelTimer_eq state key with same | same
  · rw [same]
    exact concord
  · rw [same]
    exact concord.quiet rfl rfl rfl rfl

/-! ## Retiring and closing graphs -/

theorem retire (concord : Concord regard builder scene state) (graph : Installed Runtime Resource) :
    Concord regard builder scene (State.retire builder state graph).2 ∧
      regard.Calm scene (State.retire builder state graph).1 := by
  rcases State.retire_eq builder state graph with same | same
  · rw [same]
    exact ⟨concord.quiet rfl rfl rfl rfl, fun _ _ => trivial⟩
  · rw [same]
    exact ⟨concord.note _, concord.closeScope _⟩

theorem releaseDropped (concord : Concord regard builder scene state) :
    Concord regard builder scene state.releaseDropped where
  world := concord.world
  build := concord.build
  release := concord.release
  subscribers := concord.subscribers
  tasks task member := by
    rcases List.mem_append.mp member with old | new
    · exact concord.tasks task old
    · rcases List.mem_map.mp new with ⟨dropped, _, rfl⟩
      trivial
  runtimes := concord.runtimes

theorem evict (concord : Concord regard builder scene state) (key : String) :
    Concord regard builder scene (state.evict key).2 := by
  rcases State.evict_eq state key with ⟨entries, changed⟩
  rw [changed]
  exact concord.quiet rfl rfl rfl rfl

theorem closeGraphs (concord : Concord regard builder scene state) (call : CallId)
    (hadGraph : Bool) {current afterwards : Activity World Unit}
    (calm : regard.Calm scene current) (thereafter : regard.Calm scene afterwards)
    (remaining : List (Installed Runtime Resource)) :
    Concords regard builder scene
      (State.closeGraphs builder call hadGraph afterwards remaining current state) := by
  induction remaining generalizing scene state current with
  | nil =>
      have whole : regard.Calm scene (current.bind fun _ => afterwards) := fun later onward =>
        (calm later onward).bind fun _ last after _ => thereafter last (onward.trans after)
      unfold State.closeGraphs
      split
      · rename_i next ran
        rcases concord.advance Regard.calm_lasting whole ran with ⟨later, onward, advanced, _⟩
        exact ⟨later, onward, advanced.quiet rfl rfl rfl rfl⟩
      · rename_i rest next _ ran
        rcases concord.advance Regard.calm_lasting whole ran with
          ⟨later, onward, advanced, abiding⟩
        exact ⟨later, onward, advanced.spawn ⟨abiding, fun _ _ => trivial⟩⟩
  | cons graph remaining induction =>
      unfold State.closeGraphs
      split
      · rename_i next ran
        rcases concord.advance Regard.calm_lasting calm ran with ⟨later, onward, advanced, _⟩
        rcases advanced.retire graph with ⟨retired, closing⟩
        rcases induction retired closing (thereafter.shift onward.le) with ⟨last, after, closed⟩
        exact ⟨last, onward.trans after, closed⟩
      · rename_i rest next _ ran
        rcases concord.advance Regard.calm_lasting calm ran with ⟨later, onward, advanced, abiding⟩
        exact ⟨later, onward, advanced.spawn ⟨abiding, thereafter.shift onward.le⟩⟩

theorem beginClose (concord : Concord regard builder scene state) (call : CallId) (key : String) :
    Concords regard builder scene (State.beginClose builder state call key) :=
  have nothing : regard.Calm scene (.done () : Activity World Unit) := fun _ _ => trivial
  (((concord.cancelTimer key).evict key).note _).closeGraphs call _ nothing nothing _

/-! ## Finishing builds -/

theorem notifyFrom (concord : Concord regard builder scene state) (id : BuildId) (position : Nat)
    {told : List (Subscriber World)} (known : ∀ subscriber ∈ told, subscriber ∈ state.subscribers) :
    Concords regard builder scene (State.notifyFrom id position told state) := by
  induction told generalizing scene state position with
  | nil => exact concord.concords
  | cons subscriber rest induction =>
      have member := known subscriber List.mem_cons_self
      rcases concord.subscribers subscriber member id scene with ⟨later, onward, same⟩
      rw [concord.world] at same
      have informed := (concord.shift onward.le same).note (.notified position id)
      unfold State.notifyFrom
      dsimp only
      split
      · have held : Concord regard builder later
            (({ state with world := subscriber.notify id state.world }.note
              (.notified position id)).hold (.subscriber position id) id) :=
          informed.quiet rfl rfl rfl rfl
        rcases induction held (position + 1) fun other within =>
          known other (List.mem_cons_of_mem _ within) with ⟨last, after, ended⟩
        exact ⟨last, onward.trans after, ended⟩
      · rcases induction informed (position + 1) fun other within =>
          known other (List.mem_cons_of_mem _ within) with ⟨last, after, ended⟩
        exact ⟨last, onward.trans after, ended⟩

theorem install {graph : Graph Runtime Resource} {id : BuildId}
    (concord : Concord regard builder scene state) (fits : regard.fits id graph.runtime scene)
    (startEpoch : Nat) (reason : Option String) :
    Concord regard builder scene (state.install id startEpoch graph reason) where
  world := concord.world
  build := concord.build
  release := concord.release
  subscribers := concord.subscribers
  tasks := concord.tasks
  runtimes entry member := by
    rcases List.mem_append.mp member with old | new
    · exact concord.runtimes entry old
    · exact List.mem_singleton.mp new ▸ fits

theorem replaceGraph {graph : Graph Runtime Resource} {id : BuildId}
    (concord : Concord regard builder scene state) (fits : regard.fits id graph.runtime scene)
    (startEpoch : Nat) (reason : Option String) :
    Concords regard builder scene (State.replaceGraph builder state id startEpoch graph reason) := by
  have placed : Concord regard builder scene
      ((state.install id startEpoch graph reason).setOutcome id (.ok ())) :=
    (concord.install fits startEpoch reason).quiet rfl rfl rfl rfl
  rcases placed.notifyFrom id 0 (fun _ member => member) with ⟨later, onward, told⟩
  unfold State.replaceGraph
  dsimp only
  split
  · exact ⟨later, onward, told⟩
  · rename_i old _
    rcases told.retire old with ⟨retired, closing⟩
    split
    · rename_i final ran
      rcases retired.advance Regard.calm_lasting closing ran with ⟨last, after, advanced, _⟩
      exact ⟨last, onward.trans after, advanced⟩
    · rename_i rest final _ ran
      rcases retired.advance Regard.calm_lasting closing ran with ⟨last, after, advanced, abiding⟩
      exact ⟨last, onward.trans after, advanced.spawn abiding⟩

theorem finishBuild {outcome : Outcome Runtime Resource} {id : BuildId}
    (concord : Concord regard builder scene state) (yields : regard.Yields id outcome scene)
    (startEpoch : Nat) :
    Concords regard builder scene (State.finishBuild builder state id startEpoch outcome) := by
  cases outcome with
  | workflow graph => exact concord.replaceGraph (yields graph rfl) startEpoch none
  | fallback graph reason => exact concord.replaceGraph (yields graph rfl) startEpoch (some reason)
  | failed fault => exact ⟨scene, .refl _ scene, concord.quiet rfl rfl rfl rfl⟩
  | panicked => exact ⟨scene, .refl _ scene, concord.quiet rfl rfl rfl rfl⟩

/-! ## Steps -/

theorem receive (concord : Concord regard builder scene state) (call : CallId) (build : BuildId)
    (purpose : Purpose) (outcome : Except String Unit) :
    Concord regard builder scene (State.receive builder state call build purpose outcome) := by
  cases outcome with
  | error text => exact concord.quiet rfl rfl rfl rfl
  | ok delivered =>
      cases purpose with
      | get => exact concord.beginGet call build.key
      | rebuild => exact concord.deliver call .rebuild build

theorem proceed (concord : Concord regard builder scene state)
    {task : Task World Runtime Resource Reply} (minds : regard.Minds scene task) :
    Concords regard builder scene (State.proceed builder state task) := by
  cases task with
  | waiting call build purpose =>
      unfold State.proceed
      dsimp only
      split
      · exact ((concord.dismiss _).receive call build purpose _).concords
      · exact concord.concords
  | refreshing build =>
      unfold State.proceed
      dsimp only
      split
      · exact ((concord.dismiss _).refresh build.key).concords
      · exact ((concord.dismiss _).note _).concords
      · exact concord.concords
  | building id startEpoch rest =>
      unfold State.proceed
      dsimp only
      split
      · rename_i outcome next resumed
        rcases concord.resume (regard.yields_lasting id) minds resumed with
          ⟨later, onward, advanced, yields⟩
        rcases (advanced.dismiss _).finishBuild (yields later le_rfl) startEpoch with
          ⟨last, after, finished⟩
        exact ⟨last, onward.trans after, finished⟩
      · rename_i left next _ resumed
        rcases concord.resume (regard.yields_lasting id) minds resumed with
          ⟨later, onward, advanced, abiding⟩
        exact ⟨later, onward, advanced.replace abiding⟩
  | finishing id rest =>
      unfold State.proceed
      dsimp only
      split
      · rename_i next resumed
        rcases concord.resume Regard.calm_lasting minds resumed with ⟨later, onward, advanced, _⟩
        exact ⟨later, onward, advanced.dismiss _⟩
      · rename_i left next _ resumed
        rcases concord.resume Regard.calm_lasting minds resumed with
          ⟨later, onward, advanced, abiding⟩
        exact ⟨later, onward, advanced.replace abiding⟩
  | orphaned id scope =>
      have released := (concord.dismiss (.orphaned id)).note (.released id)
      have calm := released.closeScope scope
      unfold State.proceed
      dsimp only
      split
      · rename_i next ran
        rcases released.advance Regard.calm_lasting calm ran with ⟨later, onward, advanced, _⟩
        exact ⟨later, onward, advanced⟩
      · rename_i rest next _ ran
        rcases released.advance Regard.calm_lasting calm ran with ⟨later, onward, advanced, abiding⟩
        exact ⟨later, onward, advanced.spawn abiding⟩
  | releasing id rest =>
      unfold State.proceed
      dsimp only
      split
      · rename_i next resumed
        rcases concord.resume Regard.calm_lasting minds resumed with ⟨later, onward, advanced, _⟩
        exact ⟨later, onward, advanced.dismiss _⟩
      · rename_i left next _ resumed
        rcases concord.resume Regard.calm_lasting minds resumed with
          ⟨later, onward, advanced, abiding⟩
        exact ⟨later, onward, advanced.replace abiding⟩
  | closing call hadGraph current remaining afterwards =>
      unfold State.proceed
      dsimp only
      cases resumed : state.resume current with
      | mk left next =>
          rcases concord.resume Regard.calm_lasting minds.1 resumed with
            ⟨later, onward, advanced, abiding⟩
          rcases (advanced.dismiss (.closing call)).closeGraphs call hadGraph abiding
            (minds.2.shift onward.le) remaining with ⟨last, after, closed⟩
          exact ⟨last, onward.trans after, closed⟩
  | working call held rest =>
      unfold State.proceed
      dsimp only
      split
      · rename_i reply next resumed
        rcases concord.resume Regard.calm_lasting minds resumed with ⟨later, onward, advanced, _⟩
        exact ⟨later, onward, (advanced.dismiss (.working call)).quiet rfl rfl rfl rfl⟩
      · rename_i left next _ resumed
        rcases concord.resume Regard.calm_lasting minds resumed with
          ⟨later, onward, advanced, abiding⟩
        exact ⟨later, onward, advanced.replace abiding⟩

theorem beginWork {activity : Activity World Reply} (concord : Concord regard builder scene state)
    (calm : regard.Calm scene activity) (call : CallId) (held : Option BuildId) :
    Concords regard builder scene (state.beginWork call held activity) := by
  unfold State.beginWork
  split
  · rename_i reply next ran
    rcases concord.advance Regard.calm_lasting calm ran with ⟨later, onward, advanced, _⟩
    exact ⟨later, onward, advanced.quiet rfl rfl rfl rfl⟩
  · rename_i rest next _ ran
    rcases concord.advance Regard.calm_lasting calm ran with ⟨later, onward, advanced, abiding⟩
    exact ⟨later, onward, advanced.spawn abiding⟩

theorem perform {action : Action World Runtime Resource Reply}
    (concord : Concord regard builder scene state) (permits : regard.Permits scene action) :
    Concords regard builder scene (State.perform builder state action) := by
  cases permits with
  | get call key => exact ((concord.note _).beginGet call key).concords
  | rebuild call key => exact ((concord.note _).beginRebuild call key).concords
  | work call held activity calm =>
      unfold State.perform
      dsimp only
      split
      · exact concord.beginWork calm call held
      · exact concord.concords
  | invalidate key => exact (concord.invalidate key).concords
  | invalidateAll => exact ⟨scene, .refl _ scene, concord.quiet rfl rfl rfl rfl⟩
  | requestRebuild key delay => exact (concord.requestRebuild key delay).concords
  | close call key => exact concord.beginClose call key
  | subscribe subscriber leads =>
      refine ⟨scene, .refl _ scene, { concord with subscribers := ?_ }⟩
      intro other member
      rcases List.mem_append.mp member with old | new
      · exact concord.subscribers other old
      · exact List.mem_singleton.mp new ▸ leads
  | share holder id =>
      unfold State.perform
      dsimp only
      split
      · exact ⟨scene, .refl _ scene, concord.quiet rfl rfl rfl rfl⟩
      · exact concord.concords
  | drop holder => exact ⟨scene, .refl _ scene, concord.quiet rfl rfl rfl rfl⟩
  | forget call => exact ⟨scene, .refl _ scene, concord.quiet rfl rfl rfl rfl⟩
  | edit change leads =>
      rcases leads with ⟨later, onward, same⟩
      rw [concord.world] at same
      exact ⟨later, onward, concord.shift onward.le same⟩
  | elapse duration => exact ⟨scene, .refl _ scene, concord.quiet rfl rfl rfl rfl⟩
  | fire key =>
      unfold State.perform
      dsimp only
      split
      · split
        · exact (concord.fire key).concords
        · exact concord.concords
      · exact concord.concords
  | resume name =>
      unfold State.perform
      dsimp only
      split
      · rename_i task found
        split
        · exact concord.proceed (concord.tasks task (State.mem_of_task? found))
        · exact concord.concords
      · exact concord.concords

/-- Whatever is done, a scene follows in which there is concord again. -/
theorem run {actions : List (Action World Runtime Resource Reply)}
    (concord : Concord regard builder scene state)
    (permits : ∀ front action back, actions = front ++ action :: back → ∀ later,
      Follows regard.era scene later → regard.world later = (State.run builder state front).world →
        regard.Permits later action) :
    Concords regard builder scene (State.run builder state actions) := by
  induction actions generalizing scene state with
  | nil => exact concord.concords
  | cons action actions induction =>
      have permitted := permits [] action actions rfl scene (.refl _ scene) concord.world
      rcases concord.perform permitted with ⟨later, onward, performed⟩
      have further : ∀ front next back, actions = front ++ next :: back → ∀ last,
          Follows regard.era later last →
            regard.world last =
              (State.run builder (State.step builder state action) front).world →
                regard.Permits last next :=
        fun front next back split last after same =>
          permits (action :: front) next back (split ▸ rfl) last (onward.trans after) same
      rcases induction performed.releaseDropped further with ⟨last, after, ended⟩
      exact ⟨last, onward.trans after, ended⟩

/-- Of a graph something else may be said, if that follows where it has been built already, or is
being built. -/
theorem reconsider {fits : BuildId → Runtime → Scene → Prop} (lasting : ∀ id, Lasting (fits id))
    (concord : Concord regard builder scene state)
    (build : ∀ id, Abides regard.world regard.era
      ({ regard with fits := fits, lasting := lasting }.Yields id) scene (builder.build id))
    (building : ∀ id startEpoch rest, .building id startEpoch rest ∈ state.tasks →
      ∀ runtime scene, fits id runtime scene)
    (built : ∀ entry ∈ state.runtimes, fits entry.1 entry.2 scene) :
    Concord { regard with fits := fits, lasting := lasting } builder scene state where
  world := concord.world
  build := build
  release := concord.release
  subscribers := concord.subscribers
  tasks task member := by
    have minds := concord.tasks task member
    cases task with
    | building id startEpoch rest =>
        unfold Regard.Minds at minds ⊢
        exact minds.mono fun outcome later _ _ graph _ =>
          building id startEpoch rest member graph.runtime later
    | _ => exact minds
  runtimes := built

end Concord

end RuntimeCache

end AssistantEngine
