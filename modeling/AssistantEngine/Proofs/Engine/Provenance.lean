import Mathlib.Data.List.Infix
import AssistantEngine.Proofs.Concurrency.Conduct
import AssistantEngine.Proofs.Engine.Isolation
import AssistantEngine.Proofs.Engine.SharedRuntimes

/-!
Where plugin runtimes come from. A runtime is made for the transport that some manifest led to when
its handshake began. A run is divided by the moment at which the manifests were read for the last time:
what is made from then on is made from the present manifests, and only a shared runtime may be older.
-/

namespace AssistantEngine

open Activity (AbidesFrom Follows Spares)

/-! ## Wirings -/

/-- What a world has come to in plugin runtimes: the transports that were dialled, those of the
connections there are, the runtimes, and which of them are shared. -/
structure Wiring where
  dialled : List Transport
  lines : List Transport
  plugins : List PluginRuntime
  singletons : Catalog PluginRuntime

namespace Wiring

/-- Nothing has been made yet. -/
def blank : Wiring := ⟨[], [], [], []⟩

/-- Connections and runtimes only become more. -/
structure Grows (before after : Wiring) : Prop where
  dialled : before.dialled <+: after.dialled
  lines : before.lines <+: after.lines
  plugins : before.plugins <+: after.plugins

/-- A runtime that was made since one moment, for a target of the time up to another: it is connected
over the transport that was dialled then, or could not be, or there was none. -/
inductive Wrought (before after now : Wiring) : Except Fault Transport → PluginRuntime → Prop where
  | connected {transport : Transport} {runtime : PluginRuntime} {connection : ConnectionId}
      {tools : List ExposedTool} (dialled : transport ∈ after.dialled.drop before.dialled.length)
      (made : runtime ∈ now.plugins.drop before.plugins.length)
      (active : runtime.state = .active connection tools)
      (line : now.lines[connection]? = some transport) :
      Wrought before after now (.ok transport) runtime
  | refused {transport : Transport} {runtime : PluginRuntime} {reason : String}
      (dialled : transport ∈ after.dialled.drop before.dialled.length)
      (made : runtime ∈ now.plugins.drop before.plugins.length)
      (failed : runtime.state = .failed reason) : Wrought before after now (.ok transport) runtime
  | undirected {fault : Fault} {runtime : PluginRuntime}
      (made : runtime ∈ after.plugins.drop before.plugins.length)
      (failed : runtime.state = .failed fault.message) :
      Wrought before after now (.error fault) runtime

variable {before after now later : Wiring}

namespace Grows

theorem refl (wiring : Wiring) : wiring.Grows wiring :=
  ⟨List.prefix_rfl, List.prefix_rfl, List.prefix_rfl⟩

theorem trans (first : before.Grows now) (second : now.Grows later) : before.Grows later :=
  ⟨first.dialled.trans second.dialled, first.lines.trans second.lines,
    first.plugins.trans second.plugins⟩

theorem of_blank (wiring : Wiring) : blank.Grows wiring :=
  ⟨List.nil_prefix, List.nil_prefix, List.nil_prefix⟩

/-- A connection keeps its transport. -/
theorem line (grows : now.Grows later) {connection : ConnectionId} {transport : Transport}
    (found : now.lines[connection]? = some transport) :
    later.lines[connection]? = some transport := by
  rcases List.getElem?_eq_some_iff.mp found with ⟨known, same⟩
  rw [List.prefix_iff_getElem?.mp grows.lines connection known, same]

end Grows

theorem Wrought.mono {after' : Wiring} {target : Except Fault Transport} {runtime : PluginRuntime}
    (wrought : Wrought before after now target runtime) (grown : after.Grows after')
    (grows : now.Grows later) : Wrought before after' later target runtime := by
  cases wrought with
  | connected dialled made active line =>
      exact .connected ((grown.dialled.drop _).subset dialled) ((grows.plugins.drop _).subset made)
        active (grows.line line)
  | refused dialled made failed =>
      exact .refused ((grown.dialled.drop _).subset dialled) ((grows.plugins.drop _).subset made)
        failed
  | undirected made failed => exact .undirected ((grown.plugins.drop _).subset made) failed

end Wiring

/-- Where specifications and manifests come from. -/
structure Ground where
  registry : PluginRegistry
  files : FileSystem
  source : SpecSource

namespace World

def wiring (world : World) : Wiring where
  dialled := world.dialled
  lines := world.connections.map (·.transport)
  plugins := world.plugins
  singletons := world.singletons

def ground (world : World) : Ground where
  registry := world.registry
  files := world.files
  source := world.source

/-- What is not touched by anything that has nothing to do with making runtimes. -/
def premises (world : World) : Wiring × Ground := (world.wiring, world.ground)

theorem wiring_record (world : World) (exchange : Exchange) :
    (world.record exchange).wiring =
      { world.wiring with dialled := world.wiring.dialled ++ exchange.dials?.toList } := by
  unfold wiring
  rw [dialled_record]
  rfl

/-- Calls and closings dial nothing. -/
theorem wiring_record_of_silent (world : World) {exchange : Exchange}
    (silent : exchange.dials? = none) : (world.record exchange).wiring = world.wiring := by
  rw [wiring_record, silent, Option.toList_none, List.append_nil]

theorem wiring_join (world : World) (connection : Connection) :
    (world.join connection).wiring =
      { world.wiring with lines := world.wiring.lines ++ [connection.transport] } := by
  unfold wiring
  rw [connections_join, List.map_append]
  rfl

/-- A connection keeps its transport, whatever else is noted of it. -/
theorem wiring_updateConnection (world : World) (id : ConnectionId)
    {change : Connection → Connection}
    (same : ∀ connection, (change connection).transport = connection.transport) :
    (world.updateConnection id change).wiring = world.wiring := by
  have lines : (world.connections.modify id change).map (·.transport) =
      world.connections.map (·.transport) := by
    apply List.ext_getElem?
    intro place
    rw [List.getElem?_map, List.getElem?_modify, List.getElem?_map]
    cases world.connections[place]? with
    | none => rfl
    | some connection =>
        by_cases here : id = place
        · simp [here, same]
        · simp [here]
  unfold wiring updateConnection dialled
  dsimp only
  rw [lines]

theorem premises_hangUp (world : World) (id : ConnectionId) (transport : Transport) :
    (world.hangUp id transport).premises = world.premises := by
  have wiring : (world.hangUp id transport).wiring = (world.record (.close id transport)).wiring :=
    wiring_updateConnection _ id fun _ => rfl
  exact Prod.ext (wiring.trans (world.wiring_record_of_silent rfl)) rfl

end World

/-- Where a target is the same, so is all that it depends on. -/
theorem Making.target_congr (making : Making) {past world : World} (same : past.ground = world.ground) :
    making.target past = making.target world := by
  have registry : past.registry = world.registry := congrArg Ground.registry same
  have files : past.files = world.files := congrArg Ground.files same
  cases making with
  | singleton registryId =>
      unfold target
      dsimp only
      rw [registry, files]
  | perLink manifest link =>
      unfold target
      dsimp only
      rw [files]

/-! ## Moments -/

/-- The worlds of a run before the manifests were read for the last time, and since. -/
structure Eras where
  early : World → Prop
  late : World → Prop

/-- A moment of a run: what there is, and what there was when the manifests had just been read for the
last time, if they have been. -/
structure Moment where
  now : Wiring
  reloaded : Option Wiring

namespace Moment

/-- One moment comes before another. -/
structure Precedes (moment later : Moment) : Prop where
  grows : moment.now.Grows later.now
  kept : ∀ first, moment.reloaded = some first → later.reloaded = some first
  between : moment.reloaded = none → ∀ first, later.reloaded = some first → moment.now.Grows first

instance : Preorder Moment where
  le := Precedes
  le_refl moment :=
    { grows := .refl moment.now
      kept := fun _ => id
      between := fun none first some => by rw [none] at some; contradiction }
  le_trans first second third onward further :=
    { grows := onward.grows.trans further.grows
      kept := fun origin same => further.kept origin (onward.kept origin same)
      between := fun none origin same => by
        cases reloaded : second.reloaded with
        | none => exact onward.grows.trans (further.between reloaded origin same)
        | some other =>
            rw [further.kept other reloaded, Option.some.injEq] at same
            exact same ▸ onward.between none other reloaded }

/-- More may have been made since. -/
theorem le_of_grows {now later : Wiring} (grows : now.Grows later) (reloaded : Option Wiring) :
    (⟨now, reloaded⟩ : Moment) ≤ ⟨later, reloaded⟩ where
  grows := grows
  kept _ := id
  between none first some := by
    dsimp only at none some
    rw [none] at some
    contradiction

/-- A stretch of a run up to a moment, with a world in it: before the manifests were read for the last
time, unless what is spoken of is more recent, or since then. -/
inductive Stretch (eras : Eras) (recent : Prop) (moment : Moment) :
    Wiring → Wiring → World → Prop where
  | early {past : World} (old : ¬recent) (during : eras.early past) :
      Stretch eras recent moment .blank (moment.reloaded.getD moment.now) past
  | late {first : Wiring} {past : World} (since : moment.reloaded = some first)
      (during : eras.late past) : Stretch eras recent moment first moment.now past

/-- In some stretch of the run a runtime was made for the target that there was then. -/
structure Origin (eras : Eras) (recent : Prop) (moment : Moment) (making : Making)
    (runtime : PluginRuntime) : Prop where
  registryId : runtime.registryId = making.registryId
  kind : runtime.kind = making.kind
  wrought : ∃ before after past, Stretch eras recent moment before after past ∧
    Wiring.Wrought before after moment.now (making.target past) runtime

variable {eras : Eras} {recent : Prop} {moment later : Moment} {before after : Wiring}
  {past : World} {making : Making} {runtime : PluginRuntime}

/-- A stretch may have become longer. -/
theorem Stretch.mono (stretch : Stretch eras recent moment before after past)
    (onward : moment ≤ later) :
    ∃ after', after.Grows after' ∧ Stretch eras recent later before after' past := by
  cases stretch with
  | early old during =>
      refine ⟨_, ?_, .early old during⟩
      cases reloaded : moment.reloaded with
      | some first =>
          rw [onward.kept first reloaded]
          exact .refl first
      | none =>
          cases after : later.reloaded with
          | none => exact onward.grows
          | some first => exact onward.between reloaded first after
  | late since during => exact ⟨_, onward.grows, .late (onward.kept _ since) during⟩

theorem Stretch.weaken {weaker : Prop} (stretch : Stretch eras recent moment before after past)
    (implies : weaker → recent) : Stretch eras weaker moment before after past := by
  cases stretch with
  | early old during => exact .early (fun holds => old (implies holds)) during
  | late since during => exact .late since during

theorem Origin.mono (origin : Origin eras recent moment making runtime) (onward : moment ≤ later) :
    Origin eras recent later making runtime := by
  rcases origin.wrought with ⟨before, after, past, stretch, wrought⟩
  rcases stretch.mono onward with ⟨after', grown, longer⟩
  exact ⟨origin.registryId, origin.kind, before, after', past, longer,
    wrought.mono grown onward.grows⟩

theorem Origin.weaken {weaker : Prop} (origin : Origin eras recent moment making runtime)
    (implies : weaker → recent) : Origin eras weaker moment making runtime := by
  rcases origin.wrought with ⟨before, after, past, stretch, wrought⟩
  exact ⟨origin.registryId, origin.kind, before, after, past, stretch.weaken implies, wrought⟩

end Moment

open Moment (Origin Stretch)

/-! ## Scenes -/

/-- A world at a moment of a run. All its shared runtimes have an origin. -/
structure Scene (eras : Eras) where
  world : World
  reloaded : Option Wiring
  ground : ∃ past, (if reloaded.isSome then eras.late past else eras.early past) ∧
    past.ground = world.ground
  grown : ∀ first, reloaded = some first → first.Grows world.wiring
  shared : ∀ registryId runtime, world.singletons.find? registryId = some runtime →
    Origin eras False ⟨world.wiring, reloaded⟩ (.singleton registryId) runtime

namespace Scene

variable {eras : Eras} {recent : Prop} {scene later : Scene eras} {making : Making}
  {runtime : PluginRuntime}

def moment (scene : Scene eras) : Moment := ⟨scene.world.wiring, scene.reloaded⟩

instance : Preorder (Scene eras) := Preorder.lift moment

/-- Whether the manifests have been read for the last time. -/
def isRecent (scene : Scene eras) : Prop := scene.reloaded.isSome = true

/-- The stretch that the scene is in, as long as nothing is read again. -/
theorem stretch (scene : Scene eras) :
    ∃ before past, before.Grows scene.world.wiring ∧ past.ground = scene.world.ground ∧
      ∀ later : Scene eras, later.reloaded = scene.reloaded →
        Stretch eras scene.isRecent later.moment before later.world.wiring past := by
  rcases scene.ground with ⟨past, during, same⟩
  unfold isRecent
  cases reloaded : scene.reloaded with
  | none =>
      rw [reloaded] at during
      refine ⟨.blank, past, .of_blank _, same, fun later still => ?_⟩
      have base : later.moment.reloaded.getD later.moment.now = later.world.wiring := by
        change later.reloaded.getD _ = _
        rw [still]
        rfl
      exact base ▸ .early (by decide) during
  | some first =>
      rw [reloaded] at during
      exact ⟨first, past, scene.grown first reloaded, same, fun later still => .late still during⟩

/-- The world changes within the era, and what is shared stays. -/
theorem alter (scene : Scene eras) (changed : World)
    (ground : ∃ past, (if scene.reloaded.isSome then eras.late past else eras.early past) ∧
      past.ground = changed.ground)
    (grows : scene.world.wiring.Grows changed.wiring)
    (singletons : changed.singletons = scene.world.singletons) :
    ∃ next, Follows reloaded scene next ∧ next.world = changed := by
  have onward : scene.moment ≤ ⟨changed.wiring, scene.reloaded⟩ := Moment.le_of_grows grows _
  refine ⟨{
    world := changed
    reloaded := scene.reloaded
    ground := ground
    grown := fun first same => (scene.grown first same).trans grows
    shared := fun registryId runtime found =>
      (scene.shared registryId runtime (singletons ▸ found)).mono onward }, ⟨onward, rfl⟩, rfl⟩

/-- Something is made. -/
theorem grow (scene : Scene eras) (changed : World) (ground : changed.ground = scene.world.ground)
    (grows : scene.world.wiring.Grows changed.wiring)
    (singletons : changed.singletons = scene.world.singletons) :
    ∃ next, Follows reloaded scene next ∧ next.world = changed :=
  scene.alter changed (ground ▸ scene.ground) grows singletons

/-- Whatever the world is founded on may change, if the era knows the new world. -/
theorem edit (scene : Scene eras) {changed : World}
    (during : if scene.reloaded.isSome then eras.late changed else eras.early changed)
    (wiring : changed.wiring = scene.world.wiring) :
    ∃ next, Follows reloaded scene next ∧ next.world = changed :=
  scene.alter changed ⟨changed, during, rfl⟩ (wiring ▸ .refl _)
    (congrArg Wiring.singletons wiring)

/-- What leaves the premises as they are makes no difference. -/
theorem leads_of_same (scene : Scene eras) (changed : World)
    (same : changed.premises = scene.world.premises) :
    ∃ next, Follows reloaded scene next ∧ next.world = changed := by
  have wiring : changed.wiring = scene.world.wiring := congrArg Prod.fst same
  have ground : changed.ground = scene.world.ground := congrArg Prod.snd same
  exact scene.grow changed ground (wiring ▸ .refl _) (congrArg Wiring.singletons wiring)

/-- A runtime that has an origin is shared from now on. -/
theorem enter (scene : Scene eras) {registryId : String}
    (origin : Origin eras False scene.moment (.singleton registryId) runtime) :
    ∃ next, Follows reloaded scene next ∧ next.world =
      { scene.world with singletons := scene.world.singletons.insert registryId runtime } := by
  let entered : Moment :=
    ⟨{ scene.world.wiring with
        singletons := scene.world.singletons.insert registryId runtime }, scene.reloaded⟩
  have grows : scene.world.wiring.Grows entered.now :=
    ⟨List.prefix_rfl, List.prefix_rfl, List.prefix_rfl⟩
  have onward : scene.moment ≤ entered := Moment.le_of_grows grows _
  refine ⟨{
    world := { scene.world with singletons := scene.world.singletons.insert registryId runtime }
    reloaded := scene.reloaded
    ground := scene.ground
    grown := fun first same => (scene.grown first same).trans grows
    shared := fun other found known => ?_ }, ⟨onward, rfl⟩, rfl⟩
  have changed : Origin eras False entered (.singleton other) found := by
    by_cases same : registryId = other
    · subst same
      rw [Catalog.find?_insert_self, Option.some.injEq] at known
      exact known ▸ origin.mono onward
    · rw [Catalog.find?_insert, if_neg same] at known
      exact (scene.shared other found known).mono onward
  exact changed

end Scene

/-! ## Making runtimes -/

variable {eras : Eras} {scene : Scene eras} {Result : Type}

/-- From a scene on, an activity leads to scenes that follow. -/
abbrev Scene.Allows (scene : Scene eras) (ends : Result → Scene eras → Prop)
    (activity : Activity World Result) : Prop :=
  AbidesFrom Scene.world Scene.reloaded ends scene activity

/-- What spares the premises leads to scenes that follow. -/
theorem Scene.allows_of_spares {holds : Result → Prop} {activity : Activity World Result}
    (spares : ∀ seen, Spares World.premises holds seen activity) :
    scene.Allows (fun result _ => holds result) activity :=
  (spares scene.world.premises).abides leads_of_same

/-- A transport was dialled in some stretch of the run. -/
def Moment.Dialled (eras : Eras) (recent : Prop) (moment : Moment) (making : Making)
    (transport : Transport) : Prop :=
  ∃ before after past, Stretch eras recent moment before after past ∧ before.Grows moment.now ∧
    making.target past = .ok transport ∧ transport ∈ after.dialled.drop before.dialled.length

theorem Moment.Dialled.mono {recent : Prop} {moment later : Moment} {making : Making}
    {transport : Transport} (dialled : Dialled eras recent moment making transport)
    (onward : moment ≤ later) : Dialled eras recent later making transport := by
  rcases dialled with ⟨before, after, past, stretch, since, target, dialled⟩
  rcases stretch.mono onward with ⟨after', grown, longer⟩
  exact ⟨before, after', past, longer, since.trans onward.grows, target,
    (grown.dialled.drop _).subset dialled⟩

/-- What was added at last was not there before. -/
theorem mem_drop_concat {α : Type} {before now : List α} (grows : before <+: now) (added : α) :
    added ∈ (now ++ [added]).drop before.length := by
  rw [List.drop_append_of_le_length grows.length_le]
  exact List.mem_append_right _ List.mem_cons_self

namespace ToolServer

/-- A connection that is opened goes over the transport. -/
theorem pickUp_allows (transport : Transport) :
    scene.Allows (fun connected later => ∀ connection, connected = .ok connection →
      later.world.wiring.lines[connection]? = some transport) (pickUp transport) := by
  unfold pickUp
  refine AbidesFrom.giveWay.bind fun _ later _ _ => ?_
  have looked : later.Allows (fun _ _ => True) (Activity.inspect (·.reach transport)) :=
    AbidesFrom.inspect trivial
  refine looked.bind fun reached later _ _ => ?_
  cases reached with
  | error fault =>
      intro connection same
      cases same
  | ok server =>
      refine (AbidesFrom.sleep server.connectDelay).bind fun _ later _ _ => ?_
      cases server.connectFault with
      | some fault =>
          intro connection same
          cases same
      | none =>
          let joined := later.world.join { transport := transport, server := server }
          have wiring : joined.wiring = { later.world.wiring with
              lines := later.world.wiring.lines ++ [transport] } := later.world.wiring_join _
          have grows : later.world.wiring.Grows joined.wiring := by
            rw [wiring]
            exact ⟨List.prefix_rfl, List.prefix_append _ _, List.prefix_rfl⟩
          rcases later.grow joined rfl grows rfl with ⟨next, follows, same⟩
          refine AbidesFrom.transact follows same fun connection opened => ?_
          cases opened
          rw [same, wiring]
          have length : later.world.connections.length = later.world.wiring.lines.length :=
            (List.length_map _).symm
          change (later.world.wiring.lines ++ [transport])[later.world.connections.length]? = _
          rw [length, List.getElem?_concat_length]

end ToolServer

namespace Handshake

/-- What is told of a connection goes over its transport. -/
theorem proceed_allows {transport : Transport} (connected : Except Fault ConnectionId)
    (line : ∀ connection, connected = .ok connection →
      scene.world.wiring.lines[connection]? = some transport) :
    scene.Allows (fun outcome later => ∀ connection tools, outcome = .ok (connection, tools) →
      later.world.wiring.lines[connection]? = some transport) (proceed connected) := by
  cases connected with
  | error fault =>
      intro connection tools same
      cases same
  | ok connection =>
      have listed : scene.Allows (fun _ _ => True) (ToolServer.listTools connection) :=
        Scene.allows_of_spares fun _ => ToolServer.listTools_spares connection
      unfold proceed ask
      refine listed.bind fun answer later onward _ => ?_
      cases answer with
      | ok tools =>
          intro other found same
          cases same
          exact onward.grows.line (line connection rfl)
      | error fault =>
          have closed : later.Allows (fun _ _ => True) (ToolServer.close connection) :=
            Scene.allows_of_spares fun _ =>
              ToolServer.close_spares_view World.premises_hangUp connection
          refine closed.bind fun _ last _ _ => ?_
          intro other found same
          cases same

end Handshake

namespace PluginRuntime

/-- A runtime that is made is the last one that there is. -/
theorem make_allows {registryId : String} {kind : PluginKind} {state : PluginState}
    {ends : PluginRuntime → Scene eras → Prop}
    (made : ∀ (runtime : PluginRuntime) (later : Scene eras), scene ≤ later →
      later.reloaded = scene.reloaded →
      later.world.wiring =
        { scene.world.wiring with plugins := scene.world.wiring.plugins ++ [runtime] } →
      later.world.ground = scene.world.ground → runtime.registryId = registryId →
      runtime.kind = kind → runtime.state = state → ends runtime later) :
    scene.Allows ends (make registryId kind state) := by
  let runtime : PluginRuntime :=
    { number := scene.world.plugins.length, registryId := registryId, kind := kind, state := state }
  let changed : World := { scene.world with plugins := scene.world.plugins ++ [runtime] }
  have grows : scene.world.wiring.Grows changed.wiring :=
    ⟨List.prefix_rfl, List.prefix_rfl, List.prefix_append _ _⟩
  rcases scene.grow changed rfl grows rfl with ⟨next, follows, same⟩
  refine AbidesFrom.transact follows same ?_
  exact made runtime next follows.le follows.same (same ▸ rfl) (same ▸ rfl) rfl rfl rfl

variable {making : Making} {recent : Prop}

/-- A runtime that is made after a transport was dialled comes from it. -/
theorem make_dialled_allows {transport : Transport} {state : PluginState}
    (dialled : Moment.Dialled eras recent scene.moment making transport)
    (wrought : ∀ {before after now : Wiring} {runtime : PluginRuntime},
      scene.world.wiring.Grows now → transport ∈ after.dialled.drop before.dialled.length →
        runtime ∈ now.plugins.drop before.plugins.length → runtime.state = state →
          Wiring.Wrought before after now (.ok transport) runtime) :
    scene.Allows (fun runtime later => Origin eras recent later.moment making runtime)
      (make making.registryId making.kind state) := by
  refine make_allows fun runtime later onward _ wiring _ registryId kind is => ?_
  rcases dialled with ⟨before, after, past, stretch, since, target, asked⟩
  rcases stretch.mono onward with ⟨after', grown, longer⟩
  refine ⟨registryId, kind, before, after', past, longer, target ▸ ?_⟩
  refine wrought onward.grows ((grown.dialled.drop _).subset asked) ?_ is
  change runtime ∈ later.world.wiring.plugins.drop before.plugins.length
  rw [wiring]
  exact mem_drop_concat since.plugins runtime

/-- What follows once a handshake has ended or its time is up. -/
theorem conclude_allows (timeout : HandshakeTimeout) {transport : Transport}
    (dialled : Moment.Dialled eras recent scene.moment making transport)
    (outcome : Option (Except Fault (ConnectionId × List ToolInfo)))
    (line : ∀ result, outcome = some result → ∀ connection tools, result = .ok (connection, tools) →
      scene.world.wiring.lines[connection]? = some transport) :
    scene.Allows (fun runtime later => Origin eras recent later.moment making runtime)
      (conclude timeout making.registryId making.kind making.link transport outcome) := by
  rcases outcome with _ | fault | ⟨connection, tools⟩
  · exact make_dialled_allows dialled fun _ asked made is => .refused asked made is
  · exact make_dialled_allows dialled fun _ asked made is => .refused asked made is
  · exact make_dialled_allows dialled fun grows asked made is =>
      .connected asked made is (grows.line (line _ rfl connection tools rfl))

/-- A handshake makes a runtime for the target that there is when it begins. -/
theorem contact_allows (timeout : HandshakeTimeout) {transport : Transport}
    (target : making.target scene.world = .ok transport) :
    scene.Allows (fun runtime later => Origin eras scene.isRecent later.moment making runtime)
      (contact timeout making.registryId making.kind making.link transport) := by
  rw [contact_eq]
  intro time _
  let changed := scene.world.record (.connect transport)
  have wiring : changed.wiring =
      { scene.world.wiring with dialled := scene.world.wiring.dialled ++ [transport] } :=
    scene.world.wiring_record (.connect transport)
  have grows : scene.world.wiring.Grows changed.wiring := by
    rw [wiring]
    exact ⟨List.prefix_append _ _, List.prefix_rfl, List.prefix_rfl⟩
  rcases scene.grow changed rfl grows rfl with ⟨next, follows, same⟩
  refine ⟨next, follows, same, ?_⟩
  -- The stretch in which the handshake begins is the one that its runtime comes from.
  have dialled : Moment.Dialled eras scene.isRecent next.moment making transport := by
    rcases scene.stretch with ⟨before, past, since, ground, stretch⟩
    refine ⟨before, next.world.wiring, past, ?_, since.trans follows.le.grows, ?_, ?_⟩
    · exact stretch next follows.same
    · rw [making.target_congr ground, target]
    · rw [same, wiring]
      exact mem_drop_concat since.dialled transport
  have answered : next.Allows (fun outcome later => ∀ result, outcome = some result →
      ∀ connection tools, result = .ok (connection, tools) →
        later.world.wiring.lines[connection]? = some transport)
      (((ToolServer.pickUp transport).bind Handshake.proceed).limitAt (time + timeout)) :=
    ((ToolServer.pickUp_allows transport).bind fun connected later _ line =>
      Handshake.proceed_allows connected line).limitAt (time + timeout)
  exact answered.bind fun outcome later onward line =>
    conclude_allows timeout (dialled.mono onward) outcome line

end PluginRuntime

namespace Making

/-- A runtime is made for the target that there is when that begins. -/
theorem run_allows (timeout : HandshakeTimeout) (making : Making) :
    scene.Allows (fun runtime later => Origin eras scene.isRecent later.moment making runtime)
      (making.run timeout) := by
  rw [run_eq]
  intro time
  dsimp only
  cases target : making.target scene.world with
  | ok transport => exact PluginRuntime.contact_allows timeout target
  | error fault =>
      refine PluginRuntime.make_allows fun runtime later onward reloaded wiring _ registryId kind
        state => ?_
      rcases scene.stretch with ⟨before, past, since, ground, stretch⟩
      refine ⟨registryId, kind, before, later.world.wiring, past, ?_, ?_⟩
      · exact stretch later reloaded
      · rw [making.target_congr ground, target]
        refine .undirected ?_ state
        rw [wiring]
        exact mem_drop_concat since.plugins runtime

end Making

/-! ## Shared runtimes and those of links -/

namespace PluginRuntime

variable {registryId : String}

theorem unreserve_allows (registryId : String) :
    scene.Allows (fun _ _ => True) (unreserve registryId) :=
  Scene.allows_of_spares fun _ => Spares.modify fun _ => rfl

theorem reserve_allows (registryId : String) :
    scene.Allows (fun _ _ => True) (reserve registryId) := by
  unfold reserve
  refine (AbidesFrom.waitUntil _).bind fun _ later _ _ => ?_
  exact Scene.allows_of_spares fun _ => Spares.modify fun _ => rfl

/-- A shared runtime has an origin, whoever has made it. -/
abbrev Shared (registryId : String) (runtime : PluginRuntime) (scene : Scene eras) : Prop :=
  Origin eras False scene.moment (.singleton registryId) runtime

theorem enter_allows {runtime : PluginRuntime} (shared : Shared registryId runtime scene) :
    scene.Allows (Shared registryId) (enter registryId runtime) := by
  unfold enter
  refine AbidesFrom.giveWay.bind fun _ later onward _ => ?_
  have origin : Shared registryId runtime later := shared.mono onward
  rcases later.enter origin with ⟨next, follows, same⟩
  have entered : later.Allows (fun _ _ => True) (Activity.modify fun world =>
      { world with singletons := world.singletons.insert registryId runtime }) :=
    AbidesFrom.modify follows same trivial
  refine entered.bind fun _ last further _ => ?_
  refine (unreserve_allows registryId).bind fun _ final after _ => ?_
  exact origin.mono (further.trans after)

theorem lookAgain_allows (timeout : HandshakeTimeout) (registryId : String) :
    scene.Allows (Shared registryId) (lookAgain timeout registryId) := by
  unfold lookAgain
  refine AbidesFrom.giveWay.bind fun _ later _ _ => ?_
  have looked : later.Allows (fun found scene => ∀ runtime, found = some runtime →
      Shared registryId runtime scene) (Activity.inspect (·.singletons.find? registryId)) :=
    AbidesFrom.inspect fun runtime found => later.shared registryId runtime found
  refine looked.bind fun found later _ shared => ?_
  cases found with
  | some runtime =>
      exact (unreserve_allows registryId).bind fun _ last onward _ =>
        (shared runtime rfl).mono onward
  | none =>
      have made : later.Allows (fun runtime last =>
            Origin eras later.isRecent last.moment (.singleton registryId) runtime)
          ((Making.singleton registryId).run timeout) := Making.run_allows timeout _
      refine made.bind fun runtime last _ origin => enter_allows (origin.weaken ?_)
      exact False.elim

theorem singleton_allows (timeout : HandshakeTimeout) (registryId : String) :
    scene.Allows (Shared registryId) (singleton timeout registryId) := by
  rw [singleton_eq]
  intro later _ time
  dsimp only
  cases found : later.world.singletons.find? registryId with
  | some runtime => exact later.shared registryId runtime found
  | none =>
      exact (reserve_allows registryId).bind fun _ _ _ _ => lookAgain_allows timeout registryId

/-- Whether plugin and link allow the shared runtime. -/
def sharedBy (manifest : PluginManifest) (link : PluginLink) : Bool :=
  manifest.isConfigFree && link.isPlain

/-- The runtime of a link comes from what there is when its turn has come, unless it is shared. -/
theorem ofLink_allows (timeout : HandshakeTimeout) (manifest : PluginManifest) (link : PluginLink) :
    scene.Allows (fun runtime later =>
        Origin eras (scene.isRecent ∧ sharedBy manifest link = false) later.moment
          (Making.ofLink manifest link) runtime)
      (ofLink timeout manifest link) := by
  unfold ofLink Making.ofLink sharedBy
  by_cases shared : (manifest.isConfigFree && link.isPlain) = true
  · rw [if_pos shared, if_pos shared]
    refine (singleton_allows timeout manifest.id).mono fun runtime later _ origin => ?_
    exact origin.weaken fun recent => by
      rw [shared] at recent
      exact absurd recent.2 (by decide)
  · rw [if_neg shared, if_neg shared]
    refine ((Making.perLink manifest link).run_allows timeout).mono fun runtime later _ origin => ?_
    exact origin.weaken And.left

end PluginRuntime

end AssistantEngine
