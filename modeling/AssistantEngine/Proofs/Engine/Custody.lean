import AssistantEngine.Engine.Plugins
import AssistantEngine.Proofs.Concurrency.Custody
import AssistantEngine.Proofs.Engine.Transfer

/-!
What those own who work with plugins. Whoever connects to a tool server owns the connection; a
plugin runtime for one link belongs to whoever asked for it, and a shared one to the map of the
singletons; and whoever has closed a runtime owns nothing of it any more.
-/

namespace AssistantEngine

open Activity (Keeps KeepsFrom Tenable Trades SeenBy Disposable Spares)

variable {Result Other : Type} {mine later others : Estate} {world : World}

/-- A world in which the estates of all together are what they should be. -/
def InOrder (total : Estate) (world : World) : Prop := Sound total world.holdings

theorem InOrder.seenBy : SeenBy InOrder World.holdings := by
  intro estate before after same inOrder
  unfold InOrder
  rw [same]
  exact inOrder

/-- An activity that owns an estate at first does everything in order, and what it owns in the
end goes with its result. -/
abbrev Tends (ends : Result → Estate → Prop) (mine : Estate) (activity : Activity World Result) :
    Prop :=
  Keeps InOrder (fun _ => True) ends mine activity

namespace World

theorem holdings_updateConnection (world : World) (id : ConnectionId)
    (change : Connection → Connection) (closings : Nat → Nat)
    (follows : ∀ connection, (change connection).closings = closings connection.closings) :
    (world.updateConnection id change).holdings =
      { world.holdings with closings := world.holdings.closings.modify id closings } := by
  have same : (world.connections.modify id change).map (·.closings) =
      (world.connections.map (·.closings)).modify id closings := by
    apply List.ext_getElem?
    intro place
    rw [List.getElem?_map, List.getElem?_modify, List.getElem?_modify, List.getElem?_map]
    cases world.connections[place]? with
    | none => rfl
    | some connection =>
        by_cases here : id = place
        · simp [here, follows]
        · simp [here]
  unfold holdings updateConnection
  dsimp only
  rw [same]

/-- A connection that has been closed so many times. -/
theorem connection?_of_closings {id : ConnectionId} {closings : Nat}
    (found : world.holdings.closings[id]? = some closings) :
    ∃ connection, world.connection? id = some connection ∧ connection.closings = closings := by
  unfold holdings at found
  rw [List.getElem?_map] at found
  exact Option.map_eq_some_iff.mp found

end World

/-! ## Tool servers -/

namespace ToolServer

theorem fresh_disposable (connection : ConnectionId) :
    Disposable InOrder {Share.fresh connection} := by
  intro world others inOrder
  rw [zero_add]
  exact Sound.dropped inOrder

theorem zero_disposable : Disposable InOrder 0 := fun world => .refl InOrder 0 world

/-- A connection that was opened is fresh. -/
theorem connect_keeps (transport : Transport) :
    Keeps InOrder (Disposable InOrder)
      (fun result last => last =
        match result with
        | .ok connection => {Share.fresh connection}
        | .error _ => 0)
      0 (connect transport) := by
  intro world _
  unfold connect
  refine KeepsFrom.of_modify (fun others inOrder => inOrder) ?_
  refine KeepsFrom.of_giveWay zero_disposable fun world tenable => ?_
  refine KeepsFrom.of_inspect ?_
  split
  · exact KeepsFrom.of_result rfl
  · rename_i server _
    refine KeepsFrom.of_sleep zero_disposable tenable fun world tenable => ?_
    split
    · exact KeepsFrom.of_result rfl
    · intro time
      refine ⟨{Share.fresh world.connections.length}, fun others inOrder => ?_, ?_⟩
      · rw [zero_add] at inOrder
        have opened := Sound.opened inOrder
        unfold InOrder World.holdings at opened ⊢
        rw [List.length_map] at opened
        rw [List.map_append]
        exact opened
      · exact ⟨_, .refl _ _ _, rfl⟩

/-- Whoever owns a connection that is open still owns it when it has listed the tools. -/
theorem listTools_keeps (connection : ConnectionId) :
    Keeps InOrder (Disposable InOrder) (fun _ last => last = {Share.fresh connection})
      {Share.fresh connection} (listTools connection) := by
  intro world tenable
  unfold listTools
  refine KeepsFrom.of_inspect ?_
  split
  · exact KeepsFrom.of_result rfl
  · rename_i found _
    refine KeepsFrom.of_giveWay (fresh_disposable connection) fun world tenable => ?_
    refine KeepsFrom.of_sleep (fresh_disposable connection) tenable fun world tenable => ?_
    exact KeepsFrom.of_result rfl

/-- A connection that is closed belongs to nobody any more. -/
theorem close_keeps {share : Share} {connection : ConnectionId}
    (known : ∀ world others, InOrder ({share} + others) world →
      ∃ closings, world.holdings.closings[connection]? = some closings)
    (shut : ∀ world others, InOrder ({share} + others) world →
      Sound others (world.holdings.shut connection)) :
    Keeps InOrder (Disposable InOrder) (fun _ last => last = 0) {share} (close connection) := by
  intro world tenable
  unfold close
  obtain ⟨others, inOrder⟩ := id tenable
  rcases known world others inOrder with ⟨closings, found⟩
  rcases World.connection?_of_closings found with ⟨present, opened, _⟩
  refine KeepsFrom.of_inspect ?_
  rw [opened]
  have shutting : Trades InOrder {share} world 0
      ((world.record (.close connection present.transport)).updateConnection connection
        fun connection => { connection with closings := connection.closings + 1 }) := by
    intro others inOrder
    have changed := World.holdings_updateConnection
      (world.record (.close connection present.transport)) connection
      (fun connection => { connection with closings := connection.closings + 1 }) (· + 1)
      fun _ => rfl
    unfold InOrder
    rw [changed, zero_add]
    exact shut world others inOrder
  refine KeepsFrom.of_modify shutting ?_
  exact Keeps.giveWay zero_disposable _ (shutting.tenable tenable)

theorem closeFresh_keeps (connection : ConnectionId) :
    Keeps InOrder (Disposable InOrder) (fun _ last => last = 0) {Share.fresh connection}
      (close connection) := by
  apply close_keeps
  · intro world others inOrder
    exact ⟨0, (inOrder.wired.fresh connection (by simp)).2.2.1⟩
  · exact fun world others inOrder => Sound.shutFresh inOrder

theorem closeParting_keeps (connection : ConnectionId) :
    Keeps InOrder (Disposable InOrder) (fun _ last => last = 0) {Share.parting connection}
      (close connection) := by
  apply close_keeps
  · intro world others inOrder
    exact ⟨_, List.getElem?_eq_getElem (inOrder.wired.parting connection (by simp))⟩
  · exact fun world others inOrder => Sound.shutParting inOrder

end ToolServer

/-! ## Plugins -/

namespace PluginRuntime

/-- The connection of a probe that succeeds is fresh; one that fails leaves none. -/
theorem probe_keeps (transport : Transport) :
    Keeps InOrder (Disposable InOrder)
      (fun result last => last =
        match result with
        | .ok (connection, _) => {Share.fresh connection}
        | .error _ => 0)
      0 (probe transport) := by
  unfold probe
  refine (ToolServer.connect_keeps transport).bind fun connected last owns => ?_
  subst owns
  cases connected with
  | error fault => exact Keeps.done rfl
  | ok connection =>
      refine (ToolServer.listTools_keeps connection).bind fun listed last owns => ?_
      subst owns
      cases listed with
      | ok tools => exact Keeps.done rfl
      | error fault =>
          refine (ToolServer.closeFresh_keeps connection).bind fun _ last owns => ?_
          subst owns
          exact Keeps.done rfl

/-- The share in a connection that a runtime is made of. -/
def basis : PluginState → Estate
  | .active connection _ => {Share.fresh connection}
  | .failed _ => 0

/-- Whoever makes a runtime hands the connection to it, and has got the runtime instead. -/
theorem make_keeps (registryId : String) (kind : PluginKind) (state : PluginState) :
    Tends (fun runtime last => last = runtime.share false ∧ runtime.kind = kind) (basis state)
      (make registryId kind state) := by
  intro world tenable time
  refine ⟨_, fun others inOrder => ?_, KeepsFrom.of_result ⟨rfl, rfl⟩⟩
  cases state with
  | active connection tools => exact Sound.madeActive inOrder rfl rfl
  | failed reason =>
      unfold basis at inOrder
      rw [zero_add] at inOrder
      change InOrder (0 + others) _
      rw [zero_add]
      exact Sound.madeFailed inOrder rfl rfl

/-- A plugin is contacted, and whoever asked for it has got the runtime. -/
theorem contact_keeps (timeout : HandshakeTimeout) (registryId : String) (kind : PluginKind)
    (link : PluginLink) (transport : Transport) :
    Tends (fun runtime last => last = runtime.share false ∧ runtime.kind = kind) 0
      (contact timeout registryId kind link transport) := by
  unfold contact
  refine ((probe_keeps transport).limit timeout).bind fun probed last owns => ?_
  cases probed with
  | none =>
      cases (owns : last = 0)
      exact make_keeps registryId kind (.failed _)
  | some result =>
      cases result with
      | error fault =>
          cases (owns : last = 0)
          exact make_keeps registryId kind (.failed _)
      | ok found =>
          cases (owns : last = {Share.fresh found.1})
          exact make_keeps registryId kind (.active found.1 _)

theorem makeSingleton_keeps (timeout : HandshakeTimeout) (registryId : String) :
    Tends (fun runtime last => last = runtime.share false ∧ runtime.kind = .singleton) 0
      (makeSingleton timeout registryId) := by
  intro world tenable
  unfold makeSingleton
  refine KeepsFrom.of_inspect ?_
  split
  · exact make_keeps registryId .singleton (.failed _) world tenable
  · split
    · exact make_keeps registryId .singleton (.failed _) world tenable
    · exact contact_keeps timeout registryId .singleton _ _ world tenable

/-! ## Singletons -/

/-- Only one party at a time may make a singleton. -/
theorem reserve_keeps (registryId : String) :
    Tends (fun _ last => last = {Share.turn registryId}) 0 (reserve registryId) := by
  intro world tenable
  unfold reserve
  refine KeepsFrom.of_waitUntil trivial fun world tenable ready => ?_
  intro time
  refine ⟨{.turn registryId}, fun others inOrder => ?_, KeepsFrom.of_result rfl⟩
  rw [zero_add] at inOrder
  have free : registryId ∉ world.reserved := by simpa using ready
  exact Sound.reserve inOrder free

theorem unreserve_keeps (registryId : String) :
    Tends (fun _ last => last = 0) {Share.turn registryId} (unreserve registryId) := by
  intro world tenable time
  refine ⟨0, fun others inOrder => ?_, KeepsFrom.of_result rfl⟩
  rw [zero_add]
  exact Sound.unreserve inOrder

/-- A singleton that was made goes into the map; then the reservation ends. -/
theorem enter_keeps {runtime : PluginRuntime} (kind : runtime.kind = .singleton)
    (registryId : String) :
    Tends (fun result last => last = 0 ∧ result.kind = .singleton)
      (runtime.share false + {Share.vacancy registryId})
      (do
        Activity.giveWay
        Activity.modify fun world =>
          { world with singletons := world.singletons.insert registryId runtime }
        unreserve registryId
        return runtime) := by
  intro world tenable
  refine KeepsFrom.of_giveWay trivial fun world tenable => ?_
  have entering : Trades InOrder (runtime.share false + {Share.vacancy registryId}) world
      {Share.turn registryId}
      { world with singletons := world.singletons.insert registryId runtime } := by
    intro others inOrder
    rw [add_comm (runtime.share false), add_assoc] at inOrder
    exact Sound.enter inOrder kind
  refine KeepsFrom.of_modify entering ?_
  refine (unreserve_keeps registryId).bind ?_ _ (entering.tenable tenable)
  rintro _ last rfl
  exact Keeps.done ⟨rfl, kind⟩

/-- A shared runtime is nobody's own. -/
theorem singleton_keeps (timeout : HandshakeTimeout) (registryId : String) :
    Tends (fun runtime last => last = 0 ∧ runtime.kind = .singleton) 0
      (singleton timeout registryId) := by
  have shared {estate : Estate} {world : World} {runtime : PluginRuntime}
      (tenable : Tenable InOrder estate world)
      (found : world.singletons.find? registryId = some runtime) : runtime.kind = .singleton := by
    rcases tenable with ⟨others, inOrder⟩
    exact inOrder.owned.shared runtime (Catalog.mem_values_of_find? found)
  intro world tenable
  unfold singleton
  refine KeepsFrom.of_giveWay trivial fun world tenable => ?_
  refine KeepsFrom.of_inspect ?_
  split
  · rename_i found
    exact KeepsFrom.of_result ⟨rfl, shared tenable found⟩
  · refine (reserve_keeps registryId).bind ?_ world tenable
    rintro _ last rfl world tenable
    refine KeepsFrom.of_giveWay trivial fun world tenable => ?_
    refine KeepsFrom.of_inspect ?_
    split
    · rename_i found
      refine (unreserve_keeps registryId).bind ?_ world tenable
      rintro _ last rfl
      exact Keeps.done ⟨rfl, shared tenable found⟩
    · rename_i absent
      have vacant : Trades InOrder {Share.turn registryId} world {Share.vacancy registryId} world :=
        fun others inOrder => Sound.observe inOrder absent
      refine KeepsFrom.trade vacant ?_
      have making := (makeSingleton_keeps timeout registryId).frame {Share.vacancy registryId}
      rw [zero_add] at making
      refine making.bind ?_ world (vacant.tenable tenable)
      rintro runtime last ⟨own, ⟨rfl, kind⟩, rfl⟩
      exact enter_keeps kind registryId

/-! ## Runtimes of links -/

/-- Whoever asks for the runtime of a link has got it, unless it is shared. -/
theorem ofLink_keeps (timeout : HandshakeTimeout) (manifest : PluginManifest)
    (link : PluginLink) :
    Tends (fun runtime last => last = if runtime.kind = .perLink then runtime.share false else 0) 0
      (ofLink timeout manifest link) := by
  unfold ofLink
  split
  · refine (singleton_keeps timeout manifest.id).mono ?_
    rintro runtime last ⟨rfl, kind⟩
    rw [kind, if_neg PluginKind.noConfusion]
  · have own {runtime : PluginRuntime} {last : Estate}
        (made : last = runtime.share false ∧ runtime.kind = .perLink) :
        last = if runtime.kind = .perLink then runtime.share false else 0 := by
      rw [made.1, if_pos made.2]
    intro world tenable
    unfold forLink
    refine KeepsFrom.of_inspect ?_
    split
    · exact ((make_keeps manifest.id .perLink (.failed _)) world tenable).mono fun _ _ => own
    · exact (contact_keeps timeout manifest.id .perLink link _ world tenable).mono fun _ _ => own

/-! ## Closing -/

/-- A runtime that somebody has got is closed. -/
theorem close_keeps (drained : Bool) (runtime : PluginRuntime) :
    Tends (fun _ last => last = 0) (runtime.share drained) runtime.close := by
  intro world tenable
  unfold close
  cases linked : runtime.connection? with
  | none =>
      have nothing : runtime.share drained = 0 := by simp [share, isActive_eq, linked]
      exact KeepsFrom.of_result nothing
  | some connection =>
      have something : runtime.share drained = {Share.live drained runtime} := by
        rw [share, if_pos (isActive_of_connection? linked)]
      rw [something] at tenable ⊢
      refine KeepsFrom.of_inspect ?_
      have isOpen : world.isClosed runtime = false := by
        rcases tenable with ⟨others, inOrder⟩
        have active := isActive_of_connection? linked
        have held : 0 < (({Share.live drained runtime} : Estate) + others).count
            (.live drained runtime) := by simp
        have unclosed : runtime.number ∉ world.closedPlugins :=
          (inOrder.owned.of_live active held).1.2
        simp [World.isClosed, active, unclosed]
      rw [isOpen, if_neg Bool.false_ne_true]
      have parting : Trades InOrder {Share.live drained runtime} world {Share.parting connection}
          { world with closedPlugins := runtime.number :: world.closedPlugins } :=
        fun others inOrder => Sound.givenUp inOrder linked
      refine KeepsFrom.of_modify parting ?_
      exact (ToolServer.closeParting_keeps connection _ (parting.tenable tenable)).unrestricted

theorem closeEach_keeps (drained : Bool) (runtimes : List PluginRuntime) :
    Tends (fun _ last => last = 0) (shares drained runtimes) (closeEach runtimes) := by
  induction runtimes with
  | nil => exact Keeps.done rfl
  | cons runtime rest induction =>
      have split : shares drained (runtime :: rest) =
          runtime.share drained + shares drained rest := List.sum_cons
      rw [split]
      refine ((close_keeps drained runtime).frame (shares drained rest)).bind ?_
      rintro _ last ⟨own, rfl, rfl⟩
      rw [zero_add]
      exact induction

/-- Whoever has to empty the map has done so and has closed all that was in it. -/
theorem closeSingletons_keeps :
    Tends (fun _ last => last = 0) {Share.drain} closeSingletons := by
  intro world tenable
  unfold closeSingletons
  refine KeepsFrom.of_giveWay trivial fun world tenable => ?_
  have emptying : Trades InOrder {Share.drain} world (shares true world.singletons.values)
      { world with singletons := [] } := fun others inOrder => Sound.emptied inOrder
  refine KeepsFrom.of_transact emptying ?_
  exact closeEach_keeps true _ _ (emptying.tenable tenable)

end PluginRuntime

end AssistantEngine
