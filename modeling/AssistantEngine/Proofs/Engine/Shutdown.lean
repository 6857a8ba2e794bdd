import AssistantEngine.Engine.Basic
import AssistantEngine.Proofs.Engine.Account
import AssistantEngine.Proofs.Engine.ScopeCustody
import AssistantEngine.Proofs.RuntimeCache.Stewardship
import AssistantEngine.Proofs.RuntimeCache.Vacancy

/-!
What a shutdown leaves open. It closes the graphs and the singletons that there are when it
takes its share. A build that is in progress then is left to finish, and so what such builds
bring later stays; all else that had a connection has closed it, and nothing closes one twice.
-/

namespace AssistantEngine

open Activity (Spares Trades)
open RuntimeCache (Accounts CallId Charge Installed Newer TaskName)

/-! ## Invocations -/

/-- Turns open no connection and close none. -/
theorem World.aloof_holdings : Aloof holdings where
  model _ _ := rfl
  answerCall target tool arguments world := by
    unfold ToolServer.answerCall
    split
    · rfl
    · rename_i connection _
      have changed := holdings_updateConnection
        (world.record (.call target connection.transport tool arguments)) target
        (fun connection => { connection with calls := connection.calls ++ [tool] }) id fun _ => rfl
      rw [List.modify_id] at changed
      exact changed
  registerRecord _ _ := rfl

theorem CompiledRuntime.invoke_spares (runtime : CompiledRuntime) (thread text : String)
    (seen : Holdings) :
    Spares World.holdings (fun _ => True) seen (runtime.invoke thread text) :=
  runtime.invoke_spares_view World.aloof_holdings (fun _ _ => rfl) thread text seen

namespace Engine

variable {settings : Settings} {world : World} {actions : List (Action TurnReply)}
variable {called final state : State TurnReply} {runtime : PluginRuntime} {share : Share}

/-! ## The accounts of the engine -/

/-- The engine accounts for the connections of its plugin runtimes. -/
def charge : Charge World Resource Holdings Estate := ⟨InOrder, World.holdings, Resource.share⟩

theorem careful (settings : Settings) : charge.Careful (builder settings) where
  seen := InOrder.seenBy
  build id := by
    refine (Compiler.compile_keeps settings id.key).mono fun outcome estate owns => ?_
    unfold Compiler.Owns at owns
    unfold Charge.outcomeShare
    split
    · rename_i graph found
      rw [found] at owns
      exact owns.close
    · rename_i none
      rw [none] at owns
      exact owns
  release := Resource.release_keeps

/-- What the engine is used for: the operations on runtimes, invocations, and changes of whatever
is not about connections. -/
inductive Ordinary : Action TurnReply → Prop where
  | get (call : CallId) (key : String) : Ordinary (.get call key)
  | rebuild (call : CallId) (key : String) : Ordinary (.rebuild call key)
  | requestRebuild (key : String) (delay : Time) : Ordinary (.requestRebuild key delay)
  | close (call : CallId) (key : String) : Ordinary (.close call key)
  | invoke (call : CallId) (held : Option RuntimeCache.BuildId) (runtime : CompiledRuntime)
      (thread text : String) : Ordinary (.work call held (runtime.invoke thread text))
  | invalidate (key : String) : Ordinary (.invalidate key)
  | invalidateAll : Ordinary .invalidateAll
  | subscribe (subscriber : RuntimeCache.Subscriber World)
      (spares : ∀ id world, (subscriber.notify id world).holdings = world.holdings) :
      Ordinary (.subscribe subscriber)
  | share (holder : RuntimeCache.Holder) (id : RuntimeCache.BuildId) : Ordinary (.share holder id)
  | drop (holder : RuntimeCache.Holder) : Ordinary (.drop holder)
  | forget (call : CallId) : Ordinary (.forget call)
  | edit (change : World → World) (spares : ∀ world, (change world).holdings = world.holdings) :
      Ordinary (.edit change)
  | elapse (duration : Time) : Ordinary (.elapse duration)
  | fire (key : String) : Ordinary (.fire key)
  | resume (task : TaskName) : Ordinary (.resume task)

theorem Ordinary.permits {action : Action TurnReply} (ordinary : Ordinary action) :
    charge.Permits action := by
  cases ordinary with
  | invoke call held runtime thread text =>
      exact .work call held _ fun seen => runtime.invoke_spares thread text seen
  | subscribe subscriber spares => exact .subscribe subscriber spares
  | edit change spares => exact .edit change spares
  | _ => constructor

/-- Nothing has been opened in a world yet. -/
structure Untouched (world : World) : Prop where
  connections : world.connections = []
  plugins : world.plugins = []
  closedPlugins : world.closedPlugins = []
  singletons : world.singletons = []
  reserved : world.reserved = []

/-- The world of an engine that has just been set up is one. -/
theorem untouched_world (settings : Settings) (files : FileSystem) (source : SpecSource)
    (database : Database) (model : ChatModel) (reach : Transport → Except Fault ToolServer) :
    Untouched (Engine.world settings files source database model reach) :=
  ⟨rfl, rfl, rfl, rfl, rfl⟩

theorem Untouched.inOrder (untouched : Untouched world) : InOrder 0 world := by
  have nothing : world.holdings = ⟨[], [], [], [], []⟩ := by
    unfold World.holdings
    rw [untouched.connections, untouched.plugins, untouched.closedPlugins, untouched.singletons,
      untouched.reserved]
    rfl
  unfold InOrder
  rw [nothing]
  refine ⟨⟨nofun, nofun, nofun, nofun, nofun, nofun⟩, ⟨?_, nofun, nofun⟩, ⟨?_, nofun⟩⟩
  · intro runtime active
    rw [if_neg fun isOpen => nomatch isOpen.1]
    rfl
  · intro registryId
    exact ⟨rfl, Nat.zero_le 1⟩

theorem Untouched.accounts (untouched : Untouched world) :
    Accounts charge [] 0 (start world : State TurnReply) where
  ascending := List.Pairwise.nil
  once _ := ⟨Nat.zero_le _, Nat.zero_le _⟩
  subscribers := nofun
  inOrder := ⟨0, .nil, untouched.inOrder⟩

/-! ## What graphs keep open -/

theorem mem_sum_iff {shares : List Estate} :
    share ∈ shares.sum ↔ ∃ estate ∈ shares, share ∈ estate := by
  induction shares with
  | nil => simp
  | cons first rest induction => simp [induction]

/-- A graph keeps a runtime in its scope. -/
def Keeps (graph : Installed CompiledRuntime Resource) (runtime : PluginRuntime) : Prop :=
  .plugin runtime ∈ graph.graph.scope.close.1

theorem mem_resourceShare_iff {resource : Resource} :
    share ∈ resource.share ↔
      ∃ runtime, runtime.isActive = true ∧ resource = .plugin runtime ∧
        share = .live false runtime := by
  cases resource with
  | checkpoints store => simp [Resource.share]
  | plugin runtime =>
      unfold Resource.share PluginRuntime.share
      by_cases active : runtime.isActive <;> simp [active]

theorem mem_graphShare_iff {graph : Installed CompiledRuntime Resource} :
    share ∈ charge.graphShare graph ↔
      ∃ runtime, runtime.isActive = true ∧ Keeps graph runtime ∧ share = .live false runtime := by
  unfold Charge.graphShare Charge.scopeShare
  rw [mem_sum_iff]
  constructor
  · rintro ⟨estate, member, within⟩
    rcases List.mem_map.mp member with ⟨resource, kept, rfl⟩
    rcases mem_resourceShare_iff.mp within with ⟨runtime, active, rfl, rfl⟩
    exact ⟨runtime, active, kept, rfl⟩
  · rintro ⟨runtime, active, kept, rfl⟩
    exact ⟨_, List.mem_map_of_mem kept, mem_resourceShare_iff.mpr ⟨runtime, active, rfl, rfl⟩⟩

theorem mem_entriesShare_iff (ascending : state.entries.Ascending) :
    share ∈ charge.entriesShare state.entries ↔
      ∃ key graph, (state.entry key).installed = some graph ∧ share ∈ charge.graphShare graph := by
  constructor
  · intro within
    rcases mem_sum_iff.mp within with ⟨estate, member, within⟩
    rcases List.mem_map.mp member with ⟨⟨key, entry⟩, present, rfl⟩
    rcases mem_sum_iff.mp within with ⟨estate, listed, within⟩
    rcases List.mem_map.mp listed with ⟨graph, installed, rfl⟩
    refine ⟨key, graph, ?_, within⟩
    unfold RuntimeCache.State.entry
    rw [Catalog.find?_of_mem ascending.keys_nodup present]
    exact Option.mem_toList.mp installed
  · rintro ⟨key, graph, installed, within⟩
    rw [Charge.entriesShare_split ascending key, Multiset.mem_add]
    refine Or.inl (mem_sum_iff.mpr ⟨_, List.mem_map_of_mem ?_, within⟩)
    exact Option.mem_toList.mpr installed

/-! ## The end -/

/-- What shutting down does to the accounts: the duty to empty the map of the singletons is taken
on and done, and what was in the map is remembered. -/
theorem accounts_shutdown (accounts : Accounts charge [] 0 called) (settings : Settings)
    (call : CallId) :
    Accounts charge [] (PluginRuntime.memories called.world.singletons.values)
      (RuntimeCache.State.step (builder settings) called (shutdown call)) := by
  have duty : Trades InOrder 0 called.world
      ({Share.drain} + PluginRuntime.memories called.world.singletons.values) called.world := by
    intro others inOrder
    rw [zero_add] at inOrder
    rw [add_assoc]
    exact inOrder.remember
  exact ((accounts.trade duty).beginCloseAll (careful settings) call
    PluginRuntime.closeSingletons_keeps).releaseDropped

/-- A runtime that came too late for a shutdown: the graph that keeps it was installed after the
call, or it entered the map of the singletons after the call. -/
inductive Late (called final : State TurnReply) (runtime : PluginRuntime) : Prop where
  | installed (key : String) (graph : Installed CompiledRuntime Resource)
      (present : (final.entry key).installed = some graph)
      (later : .installed graph.id ∉ called.journal) (keeps : Keeps graph runtime)
  | singleton (present : runtime ∈ final.world.singletons.values)
      (later : runtime ∉ called.world.singletons.values)

/-- What is left of all that was owned when nothing goes on any more: what the graphs keep that
are installed. -/
def remaining (called final : State TurnReply) : Estate :=
  PluginRuntime.memories called.world.singletons.values + charge.entriesShare final.entries

theorem mem_remaining_iff (ascending : final.entries.Ascending) :
    share ∈ remaining called final ↔
      (∃ runtime ∈ called.world.singletons.values, share = .early runtime) ∨
        ∃ runtime, runtime.isActive = true ∧ share = .live false runtime ∧
          ∃ key graph, (final.entry key).installed = some graph ∧ Keeps graph runtime := by
  unfold remaining
  rw [Multiset.mem_add, mem_entriesShare_iff ascending]
  apply or_congr
  · simp [PluginRuntime.memories, eq_comm]
  · simp only [mem_graphShare_iff]
    constructor
    · rintro ⟨key, graph, present, runtime, active, keeps, same⟩
      exact ⟨runtime, active, same, key, graph, present, keeps⟩
    · rintro ⟨runtime, active, same, key, graph, present, keeps⟩
      exact ⟨key, graph, present, runtime, active, keeps, same⟩

theorem keepers_remaining_pos_iff (ascending : final.entries.Ascending)
    (active : runtime.isActive = true) :
    0 < (remaining called final).keepers runtime ↔
      ∃ key graph, (final.entry key).installed = some graph ∧ Keeps graph runtime := by
  unfold Estate.keepers
  rw [Nat.add_pos_iff_pos_or_pos, Multiset.count_pos, Multiset.count_pos,
    mem_remaining_iff ascending, mem_remaining_iff ascending]
  simp [active]

/-- When nothing goes on any more and nobody holds a runtime, what is left is all in order. -/
theorem inOrder_remaining (untouched : Untouched world) (settings : Settings)
    (before after : List (Action TurnReply)) (call : CallId)
    (ordinary : ∀ action ∈ before ++ after, Ordinary action) :
    let called := RuntimeCache.State.run (builder settings) (start world) before
    let final := RuntimeCache.State.run (builder settings) called (shutdown call :: after)
    final.tasks = [] → final.holders = [] → InOrder (remaining called final) final.world := by
  intro called final idle dropped
  have permits (actions : List (Action TurnReply)) (within : actions ⊆ before ++ after) :
      ∀ action ∈ actions, charge.Permits action :=
    fun action member => (ordinary action (within member)).permits
  have first : RuntimeCache.State.Reachable (builder settings) { world := world } called :=
    ⟨before, rfl⟩
  have opened : Accounts charge [] 0 called :=
    untouched.accounts.run ⟨[], rfl⟩ (careful settings)
      (permits before (List.subset_append_left _ _))
  have closed := (accounts_shutdown opened settings call).run
    (first.extend [shutdown call]) (careful settings) (permits after (List.subset_append_right _ _))
  have undeferred : final.deferred = [] := by
    rw [List.eq_nil_iff_forall_not_mem]
    intro entry member
    have held := (first.extend (shutdown call :: after)).isHeld_of_deferred member
    rw [RuntimeCache.State.isHeld_iff] at held
    change (∃ holder ∈ final.holders, _) ∨ ∃ task ∈ final.tasks, _ at held
    rw [idle, dropped] at held
    simp at held
  exact closed.settled idle undeferred

/-- What is left over is just what came too late. -/
theorem late_iff (ascending : final.entries.Ascending) (newer : Newer called.journal final)
    (inOrder : InOrder (remaining called final) final.world) (active : runtime.isActive = true) :
    Late called final runtime ↔
      (remaining called final).keepers runtime +
        final.world.singletons.values.count runtime ≠ 0 := by
  rw [← Nat.pos_iff_ne_zero, Nat.add_pos_iff_pos_or_pos, keepers_remaining_pos_iff ascending active,
    List.count_pos_iff]
  constructor
  · rintro (⟨key, graph, present, _, keeps⟩ | ⟨present, _⟩)
    · exact .inl ⟨key, graph, present, keeps⟩
    · exact .inr present
  · rintro (⟨key, graph, present, keeps⟩ | present)
    · exact .installed key graph present (newer key graph present) keeps
    · refine .singleton present fun earlier => ?_
      have remembered : 0 < (remaining called final).count (.early runtime) :=
        Multiset.count_pos.mpr ((mem_remaining_iff ascending).mpr (.inl ⟨runtime, earlier, rfl⟩))
      have done : (remaining called final).count .drain = 0 :=
        Multiset.count_eq_zero.mpr fun member =>
          by simpa using (mem_remaining_iff ascending).mp member
      exact (inOrder.owned.early runtime remembered active).2.2 done present

/-- When an engine has been shut down once, and all that was asked of it has come to its end and
nobody holds a runtime, then the connection of every active plugin runtime has been closed exactly
once, but for those that came too late for the shutdown: these have not been closed. -/
theorem shutdown_closes (untouched : Untouched world) (settings : Settings)
    (before after : List (Action TurnReply)) (call : CallId)
    (ordinary : ∀ action ∈ before ++ after, Ordinary action) :
    let called := RuntimeCache.State.run (builder settings) (start world) before
    let final := RuntimeCache.State.run (builder settings) called (shutdown call :: after)
    final.tasks = [] → final.holders = [] →
      ∀ runtime ∈ final.world.plugins, ∀ id, runtime.connection? = some id →
        ∃ connection, final.world.connection? id = some connection ∧
          ((connection.closings = 1 ∧ ¬ Late called final runtime) ∨
            (connection.closings = 0 ∧ Late called final runtime)) := by
  intro called final idle dropped runtime member id linked
  have first : RuntimeCache.State.Reachable (builder settings) { world := world } called :=
    ⟨before, rfl⟩
  have ascending : final.entries.Ascending := (first.extend (shutdown call :: after)).ascending
  have newer : Newer called.journal final :=
    first.newer call PluginRuntime.closeSingletons after
  have inOrder : InOrder (remaining called final) final.world :=
    inOrder_remaining untouched settings before after call ordinary idle dropped
  have settled : (remaining called final).count (.parting id) = 0 :=
    Multiset.count_eq_zero.mpr fun member => by simpa using (mem_remaining_iff ascending).mp member
  rcases World.connection?_of_closings (inOrder.closings member linked settled) with
    ⟨connection, found, closings⟩
  have late := late_iff ascending newer inOrder (PluginRuntime.isActive_of_connection? linked)
  refine ⟨connection, found, ?_⟩
  split at closings
  · rename_i nobody
    exact .inl ⟨closings, fun isLate => late.mp isLate nobody⟩
  · rename_i somebody
    exact .inr ⟨closings, late.mpr somebody⟩

/-! ## A shutdown during a build -/

def stationSettings : Settings := { pluginDirectories := ["plugins"] }

/-- A world with one workflow, whose assistant has a plugin that takes configuration. -/
def stationWorld : World :=
  { source := .service {
      workflow := fun _ =>
        .ok (some { id := "station", nodes := [⟨"front", "ann", none, true⟩] })
      assistant := fun _ =>
        .ok (some { id := "ann", name := "Ann", plugins := [{ registryId := "weather" }] }) }
    registry := {
      directories := ["plugins"]
      manifests := [("weather",
        { id := "weather"
          displayName := "Weather"
          configSchema := [{ name := "key" }]
          execution := { mode := .remote, url := some "http://tools" } })] }
    artifacts := .ofCapacity 1
    model := .ofList "script" [] { result := .ok (.assistant "(done)") }
    reach := fun _ => .ok { answer := fun _ _ _ => .error (.internal "no answer") } }

/-- The pieces of a build of the workflow. -/
def stationBuild (number : Nat) : List (Action TurnReply) :=
  List.replicate 5 (.resume (.building ⟨"station", number⟩))

/-- The first graph has been built when the second build begins. -/
def stationBefore : List (Action TurnReply) :=
  .get 0 "station" :: (stationBuild 0 ++
    [.resume (.waiting 0), .drop (.call 0), .rebuild 1 "station"])

/-- The second build ends after the shutdown. -/
def stationAfter : List (Action TurnReply) :=
  .resume (.closing 2) :: .resume (.closing 2) :: (stationBuild 1 ++
    [.resume (.waiting 1), .drop (.call 1)])

def stationCalled : State TurnReply :=
  RuntimeCache.State.run (builder stationSettings) (start stationWorld) stationBefore

def stationFinal : State TurnReply :=
  RuntimeCache.State.run (builder stationSettings) stationCalled (shutdown 2 :: stationAfter)

theorem untouched_station : Untouched stationWorld := ⟨rfl, rfl, rfl, rfl, rfl⟩

theorem quiet_stationAfter : ∀ action ∈ stationAfter,
    (∃ task, action = .resume task) ∨ ∃ holder, action = .drop holder := by
  simp [stationAfter, stationBuild]

theorem ordinary_station : ∀ action ∈ stationBefore ++ stationAfter, Ordinary action := by
  intro action member
  rcases List.mem_append.mp member with before | after
  · simp only [stationBefore, stationBuild, List.mem_cons, List.mem_append, List.mem_replicate,
      List.not_mem_nil, or_false] at before
    rcases before with rfl | ⟨_, rfl⟩ | rfl | rfl | rfl <;> constructor
  · rcases quiet_stationAfter action after with ⟨task, rfl⟩ | ⟨holder, rfl⟩ <;> constructor

theorem settled_station : stationFinal.tasks = [] ∧ stationFinal.holders = [] := by
  have none : stationFinal.tasks.length = 0 ∧ stationFinal.holders.length = 0 := by
    decide +kernel
  exact ⟨List.length_eq_zero_iff.mp none.1, List.length_eq_zero_iff.mp none.2⟩

theorem plugins_station : ∃ first second, stationFinal.world.plugins = [first, second] ∧
    first.connection? = some 0 ∧ second.connection? = some 1 := by
  have linked : stationFinal.world.plugins.map (·.connection?) = [some 0, some 1] := by
    decide +kernel
  rcases List.map_eq_cons_iff.mp linked with ⟨first, rest, plugins, zero, linked⟩
  rcases List.map_eq_singleton_iff.mp linked with ⟨second, rfl, one⟩
  exact ⟨first, second, plugins, zero, one⟩

/-- The first connection has been closed once and the second has not been closed. -/
theorem closings_station {id : ConnectionId} {connection : Connection}
    (found : stationFinal.world.connection? id = some connection) :
    [1, 0][id]? = some connection.closings := by
  have closings : stationFinal.world.connections.map (·.closings) = [1, 0] := by decide +kernel
  rw [← closings, List.getElem?_map]
  exact congrArg (Option.map (·.closings)) found

/-- The runtime of the first graph has given up its connection, and that of the second came too
late. -/
theorem shutdown_closes_station :
    Untouched stationWorld ∧ (∀ action ∈ stationBefore ++ stationAfter, Ordinary action) ∧
      stationFinal.tasks = [] ∧ stationFinal.holders = [] ∧
      ∃ first second, stationFinal.world.plugins = [first, second] ∧
        ¬ Late stationCalled stationFinal first ∧ Late stationCalled stationFinal second := by
  rcases settled_station with ⟨idle, dropped⟩
  rcases plugins_station with ⟨first, second, plugins, zero, one⟩
  have closes := shutdown_closes untouched_station stationSettings stationBefore stationAfter 2
    ordinary_station idle dropped
  refine ⟨untouched_station, ordinary_station, idle, dropped, first, second, plugins, ?_, ?_⟩
  · have present : first ∈ stationFinal.world.plugins := by simp [plugins]
    rcases closes first present 0 zero with ⟨connection, found, closed | stillOpen⟩
    · exact closed.2
    · have counted := closings_station found
      rw [stillOpen.1] at counted
      cases counted
  · have present : second ∈ stationFinal.world.plugins := by simp [plugins]
    rcases closes second present 1 one with ⟨connection, found, closed | stillOpen⟩
    · have counted := closings_station found
      rw [closed.1] at counted
      cases counted
    · exact stillOpen.2

/-- A shutdown may leave a connection open although nothing is asked for after it, all tasks come
to their end, and all runtimes are dropped. -/
theorem shutdown_leaks :
    ¬ ∀ (settings : Settings) (world : World) (before after : List (Action TurnReply))
      (call : CallId), Untouched world → (∀ action ∈ before ++ after, Ordinary action) →
      (∀ action ∈ after, (∃ task, action = .resume task) ∨ ∃ holder, action = .drop holder) →
      let final := RuntimeCache.State.run (builder settings) (start world)
        (before ++ shutdown call :: after)
      final.tasks = [] → final.holders = [] →
        ∀ runtime ∈ final.world.plugins, ∀ id, runtime.connection? = some id →
          ∃ connection, final.world.connection? id = some connection ∧
            connection.closings = 1 := by
  intro claim
  rcases settled_station with ⟨idle, dropped⟩
  rcases plugins_station with ⟨first, second, plugins, zero, one⟩
  have whole : RuntimeCache.State.run (builder stationSettings) (start stationWorld)
      (stationBefore ++ shutdown 2 :: stationAfter) = stationFinal := List.foldl_append
  have closes := claim stationSettings stationWorld stationBefore stationAfter 2 untouched_station
    ordinary_station quiet_stationAfter
  dsimp only at closes
  rw [whole] at closes
  have present : second ∈ stationFinal.world.plugins := by simp [plugins]
  rcases closes idle dropped second present 1 one with ⟨connection, found, closed⟩
  have counted := closings_station found
  rw [closed] at counted
  cases counted

end Engine

end AssistantEngine
