import AssistantEngine.Proofs.Engine.Account
import AssistantEngine.Proofs.Engine.Furnishing
import AssistantEngine.Proofs.Plugin.Discovery
import AssistantEngine.Proofs.RuntimeCache.Announcements
import AssistantEngine.Proofs.RuntimeCache.Concord

/-!
Rebuilding graphs when the manifests have been read again. A build that begins after that makes the
runtimes of links anew, from the present manifests. But a plugin without configuration has one shared
runtime as long as the engine is not shut down, and so a link that takes it as it is may be left with
a connection that an earlier manifest led to.
-/

namespace AssistantEngine

open Activity (Abides AbidesFrom Follows Lasting)
open RuntimeCache (BuildId CallId Concord Concords Regard TaskName)

/-! ## Manifests -/

/-- The transport that a manifest leads to for a link. -/
def PluginManifest.target (manifest : PluginManifest) (link : PluginLink) (files : FileSystem) :
    Except Fault Transport :=
  if PluginRuntime.sharedBy manifest link then Transport.ofManifest files manifest
  else Transport.ofLink files manifest (PluginRuntime.configurationOf manifest link)

namespace PluginRegistry

/-- What was read is found under its own id. -/
theorem id_of_reload (registry : PluginRegistry) (files : FileSystem) {id : String}
    {manifest : PluginManifest} (found : (registry.reload files).find? id = some manifest) :
    manifest.id = id :=
  id_of_firstOfEach found

theorem find?_of_linked {registry : PluginRegistry} {links : List PluginLink}
    {entry : PluginLink × PluginManifest} (member : entry ∈ registry.linked links) :
    registry.find? entry.1.registryId = some entry.2 := by
  rcases List.mem_filterMap.mp member with ⟨link, _, found⟩
  rcases Option.map_eq_some_iff.mp found with ⟨manifest, known, rfl⟩
  exact known

end PluginRegistry

/-- What the runtime of a link is made for is what its manifest leads to. -/
theorem Making.target_ofLink {manifest : PluginManifest} {world : World}
    (known : world.registry.find? manifest.id = some manifest) (link : PluginLink) :
    (Making.ofLink manifest link).target world = manifest.target link world.files := by
  unfold Making.ofLink PluginManifest.target PluginRuntime.sharedBy
  split
  · unfold target
    dsimp only
    rw [known]
  · rfl

/-! ## Turns -/

/-- Turns make no runtimes and read no manifests. -/
theorem World.aloof_premises : Aloof premises where
  model _ _ := rfl
  answerCall target tool arguments world := by
    unfold ToolServer.answerCall
    split
    · rfl
    · rename_i connection _
      let asked := world.record (.call target connection.transport tool arguments)
      have wiring : (asked.updateConnection target fun connection =>
          { connection with calls := connection.calls ++ [tool] }).wiring = asked.wiring :=
        asked.wiring_updateConnection target fun _ => rfl
      exact Prod.ext (wiring.trans (world.wiring_record_of_silent rfl)) rfl
  registerRecord _ _ := rfl

/-- Reads the manifests again. -/
def World.reload (world : World) : World :=
  { world with registry := world.registry.reload world.files }

namespace Engine

/-! ## Watching -/

/-- What an engine is used for that is not shut down: the operations on runtimes, invocations, and
changes of some kind. -/
inductive Use (edits : (World → World) → Prop) : Action TurnReply → Prop where
  | get (call : CallId) (key : String) : Use edits (.get call key)
  | rebuild (call : CallId) (key : String) : Use edits (.rebuild call key)
  | requestRebuild (key : String) (delay : Time) : Use edits (.requestRebuild key delay)
  | close (call : CallId) (key : String) : Use edits (.close call key)
  | invoke (call : CallId) (held : Option BuildId) (runtime : CompiledRuntime)
      (thread text : String) : Use edits (.work call held (runtime.invoke thread text))
  | invalidate (key : String) : Use edits (.invalidate key)
  | invalidateAll : Use edits .invalidateAll
  | subscribe (subscriber : RuntimeCache.Subscriber World)
      (spares : ∀ id world, (subscriber.notify id world).premises = world.premises) :
      Use edits (.subscribe subscriber)
  | share (holder : RuntimeCache.Holder) (id : BuildId) : Use edits (.share holder id)
  | drop (holder : RuntimeCache.Holder) : Use edits (.drop holder)
  | forget (call : CallId) : Use edits (.forget call)
  | edit (change : World → World) (allowed : edits change) : Use edits (.edit change)
  | elapse (duration : Time) : Use edits (.elapse duration)
  | fire (key : String) : Use edits (.fire key)
  | resume (task : TaskName) : Use edits (.resume task)

/-- A run goes through a world between its actions. -/
def Passes (settings : Settings) (state : State TurnReply) (actions : List (Action TurnReply))
    (past : World) : Prop :=
  ∃ front, front <+: actions ∧
    (RuntimeCache.State.run (builder settings) state front).world = past

theorem Passes.initial (settings : Settings) (state : State TurnReply)
    (actions : List (Action TurnReply)) : Passes settings state actions state.world :=
  ⟨[], List.nil_prefix, rfl⟩

/-- A run goes through the worlds that it changes to. -/
theorem Passes.edit (settings : Settings) (state : State TurnReply)
    (front back : List (Action TurnReply)) (change : World → World) :
    Passes settings state (front ++ .edit change :: back)
      (change (RuntimeCache.State.run (builder settings) state front).world) := by
  refine ⟨front ++ [.edit change], ⟨back, List.append_assoc _ _ _⟩, ?_⟩
  unfold RuntimeCache.State.run
  rw [List.foldl_append]
  rfl

/-- A run in which the manifests are read for the last time at some moment: what is done before, and
what is done since. -/
structure Watch where
  settings : Settings
  world : World
  before : List (Action TurnReply)
  since : List (Action TurnReply)

namespace Watch

variable (watch : Watch)

/-- The state in which the manifests are read. -/
def called : State TurnReply :=
  RuntimeCache.State.run (builder watch.settings) (start watch.world) watch.before

def reloaded : State TurnReply :=
  RuntimeCache.State.step (builder watch.settings) watch.called (.edit World.reload)

def final : State TurnReply :=
  RuntimeCache.State.run (builder watch.settings) watch.reloaded watch.since

/-- The manifests that were read. -/
def registry : PluginRegistry := watch.reloaded.world.registry

/-- The worlds before the manifests are read. -/
def Early (past : World) : Prop :=
  Passes watch.settings (start watch.world) watch.before past

/-- The worlds since then. -/
def Late (past : World) : Prop :=
  Passes watch.settings watch.reloaded watch.since past

/-- There are no shared runtimes at first. Files, specifications and servers may change all the time,
and the manifests may have been read before, but are not read since. -/
structure Proper : Prop where
  unshared : watch.world.singletons = []
  before : ∀ action ∈ watch.before,
    Use (fun change => ∀ world, (change world).wiring = world.wiring) action
  since : ∀ action ∈ watch.since,
    Use (fun change => ∀ world, (change world).wiring = world.wiring ∧
      (change world).registry = world.registry) action

/-- Where the runtime for a link comes from: it was made since then, for what the present manifest
leads to, or it is shared and was made for what the manifest of an earlier time led to. -/
inductive Supplied (link : PluginLink) (manifest : PluginManifest) (runtime : PluginRuntime) :
    Prop where
  | anew (past : World) (late : watch.Late past)
      (wrought : Wiring.Wrought watch.called.world.wiring watch.final.world.wiring
        watch.final.world.wiring (manifest.target link past.files) runtime)
  | shared (past : World) (early : watch.Early past)
      (allowed : PluginRuntime.sharedBy manifest link = true)
      (wrought : Wiring.Wrought .blank watch.called.world.wiring watch.final.world.wiring
        ((Making.singleton manifest.id).target past) runtime)

/-- Every enabled link of an assistant whose plugin is known has been supplied. -/
def Supplies (assistant : AssistantRuntime) : Prop :=
  ∃ spec modelName destinations plugins,
    (∃ past assistantId, watch.Late past ∧
      past.source.assistant past.files assistantId = .ok (some spec)) ∧
    assistant = AssistantRuntime.ofPlugins spec modelName plugins destinations ∧
    List.Forall₂ (fun entry runtime =>
        runtime.registryId = entry.2.id ∧ watch.Supplied entry.1 entry.2 runtime)
      (watch.registry.linked (spec.plugins.filter (·.enabled))) plugins

/-! ## Eras -/

def eras : Eras where
  early := watch.Early
  late past := past.registry = watch.registry ∧ watch.Late past

theorem settle : watch.eras.Settle watch.registry := fun _ late => late.1

/-- How the engine is regarded, with whatever is to hold of graphs. -/
def outlook (fits : BuildId → CompiledRuntime → Scene watch.eras → Prop)
    (lasting : ∀ id, Lasting (fits id)) :
    Regard World (Scene watch.eras) (Option Wiring) CompiledRuntime :=
  ⟨Scene.world, Scene.reloaded, fits, lasting⟩

variable {watch}
variable {fits : BuildId → CompiledRuntime → Scene watch.eras → Prop}
  {lasting : ∀ id, Lasting (fits id)} {scene : Scene watch.eras}

theorem permits {edits : (World → World) → Prop} {action : Action TurnReply}
    (use : Use edits action)
    (leads : ∀ change, action = .edit change → edits change →
      (watch.outlook fits lasting).Leads scene (change scene.world)) :
    (watch.outlook fits lasting).Permits scene action := by
  cases use with
  | invoke call held runtime thread text =>
      refine .work call held _ fun later _ => ?_
      exact Scene.allows_of_spares fun seen =>
        runtime.invoke_spares_view World.aloof_premises (fun _ _ => rfl) thread text seen
  | subscribe subscriber spares =>
      exact .subscribe subscriber fun id scene => scene.leads_of_same _ (spares id scene.world)
  | edit change allowed => exact .edit change (leads change rfl allowed)
  | _ => constructor

/-! ## Before -/

/-- Of graphs nothing is said before the manifests are read for the last time. -/
def outset (watch : Watch) : Regard World (Scene watch.eras) (Option Wiring) CompiledRuntime :=
  watch.outlook (fun _ _ _ => True) fun _ _ _ _ _ => id

theorem concord_start (proper : watch.Proper) :
    ∃ scene : Scene watch.eras, scene.reloaded = none ∧
      Concord watch.outset (builder watch.settings) scene (start watch.world : State TurnReply) := by
  let scene : Scene watch.eras := {
    world := watch.world
    reloaded := none
    ground := ⟨watch.world, Passes.initial _ _ _, rfl⟩
    grown := nofun
    shared := fun registryId runtime found => by
      rw [proper.unshared] at found
      cases found }
  refine ⟨scene, rfl, ?_⟩
  constructor
  case world => rfl
  case build =>
    intro id later _
    have compiles := Compiler.compile_allows watch.settings watch.settle id.key
      (fun never : False => (never.elim : later.isRecent))
    exact compiles.mono fun _ _ _ _ _ _ => trivial
  case release => exact fun resource later _ => resource.release_allows
  case subscribers => exact nofun
  case tasks => exact nofun
  case runtimes => exact nofun

theorem concord_called (proper : watch.Proper) :
    ∃ scene : Scene watch.eras, scene.reloaded = none ∧
      Concord watch.outset (builder watch.settings) scene watch.called := by
  rcases watch.concord_start proper with ⟨first, unread, concord⟩
  have ends : Concords watch.outset (builder watch.settings) first watch.called := by
    apply concord.run
    intro front action back split later follows same
    have member : action ∈ watch.before := split ▸ List.mem_append_right _ List.mem_cons_self
    apply permits (proper.before action member)
    rintro change rfl keeps
    have early : watch.Early (change later.world) := by
      change later.world = _ at same
      unfold Early
      rw [split, same]
      exact Passes.edit _ _ front back change
    have still : later.reloaded = none := follows.same.trans unread
    exact later.edit (still.symm ▸ early) (keeps later.world)
  rcases ends with ⟨scene, follows, ended⟩
  exact ⟨scene, follows.same.trans unread, ended⟩

/-! ## Reading the manifests -/

/-- A graph whose build begins from now on is furnished. -/
def prospect (watch : Watch) : Regard World (Scene watch.eras) (Option Wiring) CompiledRuntime :=
  watch.outlook
    (fun id runtime scene => RuntimeCache.History.starts watch.reloaded.journal id = 0 →
      runtime.Furnished watch.eras watch.registry scene.moment)
    fun _ _ _ _ onward furnished fresh => (furnished fresh).mono onward

/-- The manifests are read for the last time. -/
theorem turn (scene : Scene watch.eras) (unread : scene.reloaded = none)
    (same : scene.world = watch.called.world) :
    ∃ later : Scene watch.eras, scene ≤ later ∧ later.world = watch.reloaded.world ∧
      later.reloaded = some watch.called.world.wiring := by
  have wiring : watch.reloaded.world.wiring = watch.called.world.wiring := rfl
  let moment : Moment := ⟨watch.reloaded.world.wiring, some watch.called.world.wiring⟩
  have onward : scene.moment ≤ moment := {
    grows := by
      change scene.world.wiring.Grows watch.reloaded.world.wiring
      rw [same, wiring]
      exact .refl _
    kept := fun first read => by
      change scene.reloaded = some first at read
      rw [unread] at read
      cases read
    between := fun _ first read => by
      change scene.world.wiring.Grows first
      rw [same, ← Option.some.inj read]
      exact .refl _ }
  refine ⟨{
    world := watch.reloaded.world
    reloaded := some watch.called.world.wiring
    ground := ⟨watch.reloaded.world, ⟨rfl, Passes.initial _ _ _⟩, rfl⟩
    grown := fun first read => by
      rw [← Option.some.inj read, wiring]
      exact .refl _
    shared := fun registryId runtime found => ?_ }, onward, rfl, rfl⟩
  have earlier : scene.world.singletons.find? registryId = some runtime := same ▸ found
  exact (scene.shared registryId runtime earlier).mono onward

theorem concord_reloaded (proper : watch.Proper) :
    ∃ scene : Scene watch.eras, scene.reloaded = some watch.called.world.wiring ∧
      Concord watch.prospect (builder watch.settings) scene watch.reloaded := by
  rcases watch.concord_called proper with ⟨before, unread, concord⟩
  rcases watch.turn before unread concord.world with ⟨scene, onward, same, read⟩
  have moved : Concord watch.outset (builder watch.settings) scene watch.reloaded :=
    (concord.shift onward same).releaseDropped
  have reachable : RuntimeCache.State.Reachable (builder watch.settings) (start watch.world)
      watch.reloaded :=
    RuntimeCache.State.Reachable.extend ⟨watch.before, rfl⟩ [.edit World.reload]
  -- Whatever is being built or has been built was begun before.
  refine ⟨scene, read, moved.reconsider watch.prospect.lasting ?_ ?_ ?_⟩
  · intro id later after
    have recent : later.isRecent := (Scene.isRecent.of_reloaded read).mono after
    have compiles := Compiler.compile_allows watch.settings watch.settle id.key
      (fun _ : True => recent)
    exact compiles.mono fun _ _ _ furnishes graph found _ => furnishes graph found trivial
  · intro id startEpoch rest member runtime later fresh
    have begun := reachable.dated.1.started_of_building member
    omega
  · rintro ⟨id, runtime⟩ member fresh
    have begun := reachable.started_of_runtime member
    have unbegun : RuntimeCache.History.starts watch.reloaded.journal id = 0 := fresh
    omega

/-! ## Since -/

theorem concord_final (proper : watch.Proper) :
    ∃ scene : Scene watch.eras, scene.reloaded = some watch.called.world.wiring ∧
      Concord watch.prospect (builder watch.settings) scene watch.final := by
  rcases watch.concord_reloaded proper with ⟨first, read, concord⟩
  have ends : Concords watch.prospect (builder watch.settings) first watch.final := by
    apply concord.run
    intro front action back split later follows same
    have member : action ∈ watch.since := split ▸ List.mem_append_right _ List.mem_cons_self
    apply permits (proper.since action member)
    rintro change rfl keeps
    have still : later.reloaded = some watch.called.world.wiring := follows.same.trans read
    have late : watch.eras.late (change later.world) := by
      constructor
      · rcases (Scene.isRecent.of_reloaded still).ground with ⟨past, during, ground⟩
        have kept : past.registry = later.world.registry := congrArg Ground.registry ground
        rw [(keeps later.world).2, ← kept]
        exact during.1
      · change later.world = _ at same
        unfold Late
        rw [split, same]
        exact Passes.edit _ _ front back change
    exact later.edit (still.symm ▸ late) (keeps later.world).1
  rcases ends with ⟨scene, follows, ended⟩
  exact ⟨scene, follows.same.trans read, ended⟩

/-- What has an origin has been supplied. -/
theorem supplied_of_origin {link : PluginLink} {manifest : PluginManifest} {runtime : PluginRuntime}
    (found : watch.registry.find? link.registryId = some manifest)
    (origin : Moment.Origin watch.eras (PluginRuntime.sharedBy manifest link = false)
      ⟨watch.final.world.wiring, some watch.called.world.wiring⟩ (Making.ofLink manifest link)
      runtime) :
    runtime.registryId = manifest.id ∧ watch.Supplied link manifest runtime := by
  have named : (Making.ofLink manifest link).registryId = manifest.id := by
    unfold Making.ofLink
    split <;> rfl
  refine ⟨origin.registryId.trans named, ?_⟩
  rcases origin.wrought with ⟨before, after, past, stretch, wrought⟩
  cases stretch with
  | early old during =>
      have allowed : PluginRuntime.sharedBy manifest link = true := Bool.of_not_eq_false old
      have shared : Making.ofLink manifest link = .singleton manifest.id := if_pos allowed
      exact .shared past during allowed (shared ▸ wrought)
  | late since during =>
      cases since
      have own : manifest.id = link.registryId :=
        PluginRegistry.id_of_reload watch.called.world.registry watch.called.world.files found
      have known : past.registry.find? manifest.id = some manifest := by
        rw [during.1, own]
        exact found
      exact .anew past during.2 (Making.target_ofLink known link ▸ wrought)

/-- When the manifests have been read for the last time, every graph whose build begins from then on
has, for each enabled link of its assistants whose plugin is known, a runtime that was made since for
what the present manifest leads to; only where plugin and link allow a shared runtime it may be one
that was made before, for what the manifest of that time led to. -/
theorem rebuilt_supplies (proper : watch.Proper) {id : BuildId} {runtime : CompiledRuntime}
    (built : (id, runtime) ∈ watch.final.runtimes)
    (recent : RuntimeCache.History.starts watch.reloaded.journal id = 0)
    {assistants : Catalog AssistantRuntime} (given : runtime.assistants? = some assistants) :
    ∀ entry ∈ assistants, watch.Supplies entry.2 := by
  intro entry member
  rcases watch.concord_final proper with ⟨scene, read, concord⟩
  have moment : scene.moment = ⟨watch.final.world.wiring, some watch.called.world.wiring⟩ := by
    have same : scene.world = watch.final.world := concord.world
    unfold Scene.moment
    rw [same, read]
  have furnished : runtime.Furnished watch.eras watch.registry scene.moment :=
    concord.runtimes _ built recent
  rcases furnished assistants given entry member with
    ⟨spec, modelName, destinations, plugins, ⟨past, assistantId, during, found⟩, made, provides⟩
  refine ⟨spec, modelName, destinations, plugins, ⟨past, assistantId, during.2, found⟩, made, ?_⟩
  rw [moment] at provides
  have known : ∀ entry ∈ watch.registry.linked (spec.plugins.filter (·.enabled)),
      watch.registry.find? entry.1.registryId = some entry.2 :=
    fun _ member => PluginRegistry.find?_of_linked member
  refine ((List.forall₂_and_left _ _).mpr ⟨known, provides⟩).imp fun linked plugin given => ?_
  exact supplied_of_origin given.1 given.2

end Watch

/-! ## Manifests that are edited -/

def mapsText : String :=
  "id: maps\ndisplay_name: Maps\nexecution:\n  mode: remote\n  url: http://maps/new\n" ++
    "config_schema:\n  - name: key\n"

def weatherText : String :=
  "id: weather\ndisplay_name: Weather\nexecution:\n  mode: remote\n  url: http://weather/new\n"

/-- The files of two manifests, as edited. -/
def editedFiles : FileSystem where
  tree := .directory [("plugins", .directory
    [("maps", .directory [("plugin.yaml", .file mapsText)]),
      ("weather", .directory [("plugin.yaml", .file weatherText)])])]

/-- A plugin that takes configuration. -/
def mapsAt (url directory : String) : PluginManifest where
  id := "maps"
  displayName := "Maps"
  configSchema := [{ name := "key" }]
  execution := { mode := .remote, url := some url }
  baseDirectory := directory

/-- A plugin that takes none. -/
def weatherAt (url directory : String) : PluginManifest where
  id := "weather"
  displayName := "Weather"
  execution := { mode := .remote, url := some url }
  baseDirectory := directory

def editedRegistry : PluginRegistry where
  directories := ["plugins"]
  manifests := [("maps", mapsAt "http://maps/new" "plugins/maps"),
    ("weather", weatherAt "http://weather/new" "plugins/weather")]

/-- A world with one workflow, whose assistant has both plugins. -/
def noticeWorld : World where
  source := .service {
    workflow := fun _ =>
      .ok (some { id := "station", nodes := [⟨"front", "ann", none, true⟩] })
    assistant := fun _ =>
      .ok (some {
        id := "ann"
        name := "Ann"
        plugins := [{ registryId := "weather" }, { registryId := "maps" }] }) }
  registry := {
    directories := ["plugins"]
    manifests := [("maps", mapsAt "http://maps/old" "plugins/maps"),
      ("weather", weatherAt "http://weather/old" "plugins/weather")] }
  artifacts := .ofCapacity 1
  model := .ofList "script" [] { result := .ok (.assistant "(done)") }
  reach := fun _ => .ok { answer := fun _ _ _ => .error (.internal "no answer") }

/-- The pieces of a build of the workflow. -/
def noticeBuild (number pieces : Nat) : List (Action TurnReply) :=
  List.replicate pieces (.resume (.building ⟨"station", number⟩))

/-- After a first build both manifests are edited and read again, and there is a second build. -/
def notice : Watch where
  settings := { pluginDirectories := ["plugins"] }
  world := noticeWorld
  before := .get 0 "station" ::
    (noticeBuild 0 11 ++ [.edit fun world => { world with files := editedFiles }])
  since := .rebuild 1 "station" :: noticeBuild 1 6

theorem filesIn_edited : PluginRegistry.filesIn editedFiles "plugins" =
    [("plugins/maps/plugin.yaml", mapsText), ("plugins/weather/plugin.yaml", weatherText)] := by
  have found : editedFiles.find? "plugins" = some (.directory
      [("maps", .directory [("plugin.yaml", .file mapsText)]),
        ("weather", .directory [("plugin.yaml", .file weatherText)])]) := rfl
  unfold PluginRegistry.filesIn
  rw [found]
  have named : PluginRegistry.manifestNames.contains "plugin.yaml" = true := by decide
  have maps : Path.join (Path.join "plugins" "maps") "plugin.yaml" = "plugins/maps/plugin.yaml" := by
    decide +kernel
  have weather : Path.join (Path.join "plugins" "weather") "plugin.yaml" =
      "plugins/weather/plugin.yaml" := by decide +kernel
  simp only [PluginRegistry.manifestFiles, PluginRegistry.manifestFilesAmong,
    PluginRegistry.deepestScan, named, if_true, maps, weather, List.append_nil,
    List.singleton_append]

theorem reload_edited (manifests : Catalog PluginManifest) :
    PluginRegistry.reload { directories := ["plugins"], manifests := manifests } editedFiles =
      editedRegistry := by
  have maps : PluginRegistry.manifestAt? ("plugins/maps/plugin.yaml", mapsText) =
      some (mapsAt "http://maps/new" "plugins/maps") := by decide +kernel
  have weather : PluginRegistry.manifestAt? ("plugins/weather/plugin.yaml", weatherText) =
      some (weatherAt "http://weather/new" "plugins/weather") := by decide +kernel
  have discovered : PluginRegistry.discovered editedFiles ["plugins"] =
      [mapsAt "http://maps/new" "plugins/maps",
        weatherAt "http://weather/new" "plugins/weather"] := by
    unfold PluginRegistry.discovered
    rw [List.flatMap_singleton, filesIn_edited, List.filterMap_cons_some maps,
      List.filterMap_cons_some weather, List.filterMap_nil]
  unfold PluginRegistry.reload
  rw [discovered]
  rfl

/-- The state after the manifests have been read, with what was read written out. -/
def noticeRead : State TurnReply :=
  RuntimeCache.State.releaseDropped
    { notice.called with world := { notice.called.world with registry := editedRegistry } }

theorem reloaded_notice : notice.reloaded = noticeRead := by
  have split : notice.called.world = { (RuntimeCache.State.run (builder notice.settings)
      (start noticeWorld : State TurnReply)
      (.get 0 "station" :: noticeBuild 0 11)).world with files := editedFiles } := by
    unfold Watch.called notice RuntimeCache.State.run
    rw [← List.cons_append, List.foldl_append]
    rfl
  have directories : notice.called.world.registry.directories = ["plugins"] := by decide +kernel
  have read : notice.called.world.registry.reload notice.called.world.files = editedRegistry := by
    have files : notice.called.world.files = editedFiles := by rw [split]
    rw [files, ← reload_edited notice.called.world.registry.manifests, ← directories]
  have world : notice.called.world.reload =
      { notice.called.world with registry := editedRegistry } := by
    unfold World.reload
    rw [read]
  unfold Watch.reloaded RuntimeCache.State.step RuntimeCache.State.perform noticeRead
  dsimp only
  rw [world]

theorem final_notice : notice.final =
    RuntimeCache.State.run (builder notice.settings) noticeRead notice.since := by
  unfold Watch.final
  rw [reloaded_notice]

theorem runtimes_notice : notice.final.runtimes.map (fun entry =>
      (entry.1, (entry.2.assistants?.getD []).map (·.2.plugins))) =
    [(⟨"station", 0⟩, [[("maps", ⟨1, "maps", .perLink, .active 1 []⟩),
        ("weather", ⟨0, "weather", .singleton, .active 0 []⟩)]]),
      (⟨"station", 1⟩, [[("maps", ⟨2, "maps", .perLink, .active 2 []⟩),
        ("weather", ⟨0, "weather", .singleton, .active 0 []⟩)]])] := by
  rw [final_notice]
  decide +kernel

theorem lines_notice : notice.final.world.wiring.lines =
    [.http "http://weather/old", .http "http://maps/old", .http "http://maps/new"] := by
  rw [final_notice]
  decide +kernel

theorem starts_notice :
    RuntimeCache.History.starts notice.reloaded.journal ⟨"station", 1⟩ = 0 := by
  rw [reloaded_notice]
  decide +kernel

/-- The graph of the second build has one assistant, with a new runtime and an old one. -/
theorem graph_notice : ∃ runtime entry, (⟨"station", 1⟩, runtime) ∈ notice.final.runtimes ∧
    runtime.assistants? = some [entry] ∧
    entry.2.plugins = [("maps", ⟨2, "maps", .perLink, .active 2 []⟩),
      ("weather", ⟨0, "weather", .singleton, .active 0 []⟩)] := by
  rcases List.map_eq_cons_iff.mp runtimes_notice with ⟨first, rest, runtimes, _, others⟩
  rcases List.map_eq_singleton_iff.mp others with ⟨⟨id, runtime⟩, rfl, same⟩
  rcases Prod.mk.inj same with ⟨rfl, plugins⟩
  cases given : runtime.assistants? with
  | none =>
      rw [given] at plugins
      cases plugins
  | some assistants =>
      rw [given] at plugins
      rcases List.map_eq_singleton_iff.mp plugins with ⟨entry, rfl, equipped⟩
      refine ⟨runtime, entry, ?_, given, equipped⟩
      rw [runtimes]
      exact List.mem_cons_of_mem _ List.mem_cons_self

theorem proper_notice : notice.Proper where
  unshared := rfl
  before := by
    intro action member
    simp only [notice, noticeBuild, List.mem_cons, List.mem_append, List.mem_replicate,
      List.not_mem_nil, or_false] at member
    rcases member with rfl | ⟨_, rfl⟩ | rfl
    · constructor
    · constructor
    · exact .edit _ fun world => rfl
  since := by
    intro action member
    simp only [notice, noticeBuild, List.mem_cons, List.mem_replicate] at member
    rcases member with rfl | ⟨_, rfl⟩ <;> constructor

theorem rebuilt_supplies_notice :
    notice.Proper ∧ RuntimeCache.History.starts notice.reloaded.journal ⟨"station", 1⟩ = 0 ∧
      ∃ runtime entry, (⟨"station", 1⟩, runtime) ∈ notice.final.runtimes ∧
        runtime.assistants? = some [entry] ∧ notice.Supplies entry.2 := by
  rcases graph_notice with ⟨runtime, entry, built, given, _⟩
  exact ⟨proper_notice, starts_notice, runtime, entry, built, given,
    Watch.rebuilt_supplies proper_notice built starts_notice given entry List.mem_cons_self⟩

/-- A graph that is built when a manifest has been edited and read again may hold an active runtime
whose connection goes where the manifest does not lead to for any link. -/
theorem rebuilt_over_old_transport :
    ¬ ∀ (watch : Watch), watch.Proper → ∀ id runtime, (id, runtime) ∈ watch.final.runtimes →
      RuntimeCache.History.starts watch.reloaded.journal id = 0 →
      ∀ assistants, runtime.assistants? = some assistants → ∀ entry ∈ assistants,
      ∀ registryId plugin manifest, entry.2.plugins.find? registryId = some plugin →
        watch.registry.find? registryId = some manifest →
          ∀ connection tools, plugin.state = .active connection tools →
            ∃ link files transport, manifest.target link files = .ok transport ∧
              watch.final.world.wiring.lines[connection]? = some transport := by
  intro claim
  rcases graph_notice with ⟨runtime, entry, built, given, plugins⟩
  have kept : entry.2.plugins.find? "weather" =
      some ⟨0, "weather", .singleton, .active 0 []⟩ := by
    rw [plugins]
    decide
  have known : notice.registry.find? "weather" =
      some (weatherAt "http://weather/new" "plugins/weather") := by
    unfold Watch.registry
    rw [reloaded_notice]
    decide
  rcases claim notice proper_notice _ runtime built starts_notice _ given entry
    List.mem_cons_self "weather" _ _ kept known 0 [] rfl with ⟨link, files, transport, leads, line⟩
  have new : transport = .http "http://weather/new" := by
    unfold PluginManifest.target at leads
    split at leads
    · exact (Except.ok.inj leads).symm
    · exact (Except.ok.inj leads).symm
  rw [lines_notice, new] at line
  revert line
  decide

end Engine

end AssistantEngine
