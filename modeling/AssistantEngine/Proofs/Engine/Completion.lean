import AssistantEngine.Engine.Compiler
import AssistantEngine.Proofs.Concurrency.Runs

/-!
Compiling comes to an end. Servers answer after some time or the handshake is given up; the
only thing that may be waited for is a singleton that someone else is about to make.
-/

namespace AssistantEngine

open Activity (Completes Spares)

variable {Result Other : Type} {seen : List String}

/-- An activity that comes to an end when it runs alone, and leaves the reservations of
singletons as they are. -/
def Finishes (reserved : List String) (activity : Activity World Result) : Prop :=
  Completes (fun world => world.reserved = reserved) activity
    fun _ world => world.reserved = reserved

namespace Finishes

theorem done (result : Result) : Finishes seen (.done result) := Completes.done fun _ => id

theorem bind {activity : Activity World Result} {next : Result → Activity World Other}
    (first : Finishes seen activity) (second : ∀ result, Finishes seen (next result)) :
    Finishes seen (activity.bind next) :=
  Completes.bind first second

theorem giveWay : Finishes seen Activity.giveWay := Completes.giveWay

theorem inspect (view : World → Result) : Finishes seen (Activity.inspect view) :=
  Completes.inspect fun _ => id

theorem transact {change : World → Result × World}
    (kept : ∀ world, (change world).2.reserved = world.reserved) :
    Finishes seen (Activity.transact change) :=
  Completes.transact fun world same => (kept world).trans same

theorem modify {change : World → World}
    (kept : ∀ world, (change world).reserved = world.reserved) :
    Finishes seen (Activity.modify change) :=
  Completes.modify fun world same => (kept world).trans same

end Finishes

/-- The world without the traces that connections leave in it, and without what was given up. -/
def World.traceless (world : World) : World :=
  { world with
    connections := []
    exchanges := []
    plugins := []
    closedPlugins := []
    closedStores := [] }

/-- An activity that comes to an end when it runs alone, and leaves nothing but traces. -/
def Steady (activity : Activity World Result) : Prop :=
  ∀ seen : World, Completes (fun world => world.traceless = seen) activity
    fun _ world => world.traceless = seen

namespace Steady

theorem finishes {activity : Activity World Result} (steady : Steady activity) :
    Finishes seen activity := by
  intro time world same
  rcases steady world.traceless time world rfl with ⟨result, later, final, completed, kept⟩
  have reserved : final.traceless.reserved = world.traceless.reserved :=
    congrArg World.reserved kept
  exact ⟨result, later, final, completed, reserved.trans same⟩

theorem done (result : Result) : Steady (.done result) := fun _ => Completes.done fun _ => id

theorem bind {activity : Activity World Result} {next : Result → Activity World Other}
    (first : Steady activity) (second : ∀ result, Steady (next result)) :
    Steady (activity.bind next) :=
  fun seen => Completes.bind (first seen) fun result => second result seen

theorem giveWay : Steady Activity.giveWay := fun _ => Completes.giveWay

theorem inspect (view : World → Result) : Steady (Activity.inspect view) :=
  fun _ => Completes.inspect fun _ => id

theorem transact {change : World → Result × World}
    (kept : ∀ world, (change world).2.traceless = world.traceless) :
    Steady (Activity.transact change) :=
  fun _ => Completes.transact fun world same => (kept world).trans same

theorem modify {change : World → World}
    (kept : ∀ world, (change world).traceless = world.traceless) :
    Steady (Activity.modify change) :=
  fun _ => Completes.modify fun world same => (kept world).trans same

end Steady

/-! ## Tool servers -/

namespace ToolServer

theorem connect_spares (transport : Transport) :
    Spares World.reserved (fun _ => True) seen (connect transport) := by
  unfold connect
  refine (Spares.modify fun world => rfl).bind fun later _ _ => ?_
  refine Spares.giveWay.bind fun later _ _ => ?_
  have looked : Spares World.reserved (fun _ => True) later
      (Activity.inspect (·.reach transport)) := Spares.inspect fun _ _ => trivial
  refine looked.bind fun later reached _ => ?_
  cases reached with
  | error fault => trivial
  | ok server =>
      refine (Spares.sleep server.connectDelay).bind fun later _ _ => ?_
      cases server.connectFault with
      | some fault => trivial
      | none => exact Spares.transact fun world => rfl

/-- Asking for the tools changes nothing. -/
theorem listTools_spares {View : Type} {view : World → View} {seen : View} (id : ConnectionId) :
    Spares view (fun _ => True) seen (listTools id) := by
  unfold listTools
  have looked : Spares view (fun _ => True) seen
      (Activity.inspect (·.connection? id)) := Spares.inspect fun _ _ => trivial
  refine looked.bind fun later found _ => ?_
  cases found with
  | none => trivial
  | some connection =>
      refine Spares.giveWay.bind fun later _ _ => ?_
      exact (Spares.sleep connection.server.listDelay).bind fun later _ _ => trivial

theorem close_spares (id : ConnectionId) :
    Spares World.reserved (fun _ => True) seen (close id) := by
  unfold close
  have looked : Spares World.reserved (fun _ => True) seen
      (Activity.inspect (·.connection? id)) := Spares.inspect fun _ _ => trivial
  refine looked.bind fun later found _ => ?_
  cases found with
  | none => trivial
  | some connection =>
      exact (Spares.modify fun world => rfl).bind fun later _ _ => Spares.giveWay

theorem close_steady (id : ConnectionId) : Steady (close id) := by
  unfold close
  refine (Steady.inspect _).bind fun found => ?_
  cases found with
  | none => exact Steady.done ()
  | some connection =>
      refine Steady.bind ?_ fun _ => Steady.giveWay
      exact Steady.modify fun world => rfl

end ToolServer

/-! ## Plugins -/

namespace PluginRuntime

theorem probe_spares (transport : Transport) :
    Spares World.reserved (fun _ => True) seen (probe transport) := by
  unfold probe
  refine (ToolServer.connect_spares transport).bind fun later connected _ => ?_
  cases connected with
  | error fault => trivial
  | ok connection =>
      refine (ToolServer.listTools_spares connection).bind fun later listed _ => ?_
      cases listed with
      | ok tools => trivial
      | error fault => exact (ToolServer.close_spares connection).bind fun later _ _ => trivial

theorem make_steady (registryId : String) (kind : PluginKind) (state : PluginState) :
    Steady (make registryId kind state) :=
  Steady.transact fun _ => rfl

theorem contact_finishes (timeout : HandshakeTimeout) (registryId : String) (kind : PluginKind)
    (link : PluginLink) (transport : Transport) :
    Finishes seen (contact timeout registryId kind link transport) := by
  unfold contact
  have tried : Finishes seen ((probe transport).limit timeout) :=
    Completes.limit (fun _ => probe_spares transport) timeout seen
  refine tried.bind fun outcome => ?_
  rcases outcome with _ | fault | made
  · exact (make_steady _ _ _).finishes
  · exact (make_steady _ _ _).finishes
  · exact (make_steady _ _ _).finishes

theorem makeSingleton_finishes (timeout : HandshakeTimeout) (registryId : String) :
    Finishes seen (makeSingleton timeout registryId) := by
  unfold makeSingleton
  refine (Finishes.inspect fun world => world).bind fun world => ?_
  split
  · exact (make_steady _ _ _).finishes
  · split
    · exact (make_steady _ _ _).finishes
    · exact contact_finishes _ _ _ _ _

/-- A singleton is made, when nobody else is about to make one. -/
theorem singleton_finishes (timeout : HandshakeTimeout) (registryId : String) :
    Finishes [] (singleton timeout registryId) := by
  have unreserves : Completes (fun world => world.reserved = [registryId]) (unreserve registryId)
      fun _ world => world.reserved = [] := by
    refine Completes.modify fun world same => ?_
    dsimp only
    rw [same, List.erase_cons_head]
  have reserves : Completes (fun world => world.reserved = []) (reserve registryId)
      fun _ world => world.reserved = [registryId] := by
    refine Completes.bind (Completes.waitUntil fun world same => ?_) fun _ => ?_
    · rw [same]
      rfl
    · exact Completes.modify fun world same => congrArg (List.cons registryId) same
  unfold singleton
  refine Finishes.giveWay.bind fun _ => (Finishes.inspect _).bind fun found => ?_
  cases found with
  | some runtime => exact Finishes.done runtime
  | none =>
      refine reserves.bind fun _ => Completes.giveWay.bind fun _ => ?_
      refine Completes.bind (Finishes.inspect _) fun found => ?_
      cases found with
      | some runtime => exact unreserves.bind fun _ => Finishes.done runtime
      | none =>
          refine Completes.bind (makeSingleton_finishes timeout registryId) fun runtime => ?_
          refine Completes.giveWay.bind fun _ => ?_
          refine Completes.bind (Finishes.modify fun world => rfl) fun _ => ?_
          exact unreserves.bind fun _ => Finishes.done runtime

theorem ofLink_finishes (timeout : HandshakeTimeout) (manifest : PluginManifest)
    (link : PluginLink) : Finishes [] (ofLink timeout manifest link) := by
  unfold ofLink
  split
  · exact singleton_finishes timeout manifest.id
  · unfold forLink
    refine (Finishes.inspect _).bind fun files => ?_
    split
    · exact (make_steady _ _ _).finishes
    · exact contact_finishes _ _ _ _ _

theorem close_steady (runtime : PluginRuntime) : Steady runtime.close := by
  unfold close
  split
  · exact Steady.done ()
  · rename_i connection _
    refine (Steady.inspect _).bind fun closed => ?_
    cases closed with
    | true => exact Steady.done ()
    | false =>
        refine Steady.bind ?_ fun _ => ToolServer.close_steady connection
        exact Steady.modify fun world => rfl

end PluginRuntime

/-! ## Stores and scopes -/

theorem CheckpointStore.openFor_finishes (scope : String) : Finishes seen (openFor scope) := by
  unfold openFor
  refine Finishes.giveWay.bind fun _ => Finishes.transact fun world => ?_
  split <;> rfl

theorem CheckpointStore.release_steady (store : CheckpointStore) : Steady store.release := by
  refine Steady.modify fun world => ?_
  split <;> rfl

theorem Resource.releaseAll_steady (resources : List Resource) : Steady (releaseAll resources) := by
  induction resources with
  | nil => exact Steady.done ()
  | cons resource rest induction =>
      unfold releaseAll
      refine Steady.bind ?_ fun _ => induction
      cases resource with
      | checkpoints store => exact store.release_steady
      | plugin runtime => exact runtime.close_steady

/-! ## Workflows -/

namespace Compiler

theorem resolveNodes_finishes (start : String) (nodes : List WorkflowNode)
    (resolution : NodeResolution) : Finishes seen (resolveNodes start nodes resolution) := by
  induction nodes generalizing resolution with
  | nil => exact Finishes.done _
  | cons node rest induction =>
      unfold resolveNodes
      refine Finishes.giveWay.bind fun _ => (Finishes.inspect _).bind fun answer => ?_
      rcases answer with fault | _ | spec
      · exact Finishes.done _
      · dsimp only
        split
        · exact Finishes.done _
        · exact induction resolution
      · exact induction _

theorem makePlugins_finishes (settings : Settings) (links : List PluginLink)
    (scope : Scope Resource) : Finishes [] (makePlugins settings links scope) := by
  induction links generalizing scope with
  | nil => exact Finishes.done _
  | cons link rest induction =>
      unfold makePlugins
      refine (Finishes.inspect _).bind fun found => ?_
      cases found with
      | none => exact induction scope
      | some manifest =>
          refine (PluginRuntime.ofLink_finishes _ manifest link).bind fun runtime => ?_
          exact (induction _).bind fun made => Finishes.done _

theorem makeAssistants_finishes (settings : Settings) (destinations : Catalog NameSet)
    (specs : List (String × AssistantSpec)) (scope : Scope Resource) :
    Finishes [] (makeAssistants settings destinations specs scope) := by
  induction specs generalizing scope with
  | nil => exact Finishes.done _
  | cons spec rest induction =>
      unfold makeAssistants makeAssistant
      refine Finishes.bind ?_ fun made => (induction _).bind fun assistants => Finishes.done _
      refine (makePlugins_finishes settings _ scope).bind fun plugins => ?_
      exact (Finishes.inspect _).bind fun name => Finishes.done _

theorem buildWorkflow_finishes (settings : Settings) (spec : WorkflowSpec)
    (scope : Scope Resource) : Finishes [] (buildWorkflow settings spec scope) := by
  unfold buildWorkflow
  split
  · exact Finishes.done _
  · exact Finishes.done _
  · refine (CheckpointStore.openFor_finishes spec.id).bind fun opened => ?_
    cases opened with
    | error fault => exact Finishes.done _
    | ok store =>
        refine (resolveNodes_finishes _ _ _).bind fun resolved => ?_
        cases resolved with
        | error fault => exact Finishes.done _
        | ok resolution =>
            refine (makeAssistants_finishes settings _ _ _).bind fun made => ?_
            dsimp only
            split <;> exact Finishes.done _

theorem buildFallback_finishes (id reason : String) : Finishes seen (buildFallback id reason) := by
  unfold buildFallback
  refine (CheckpointStore.openFor_finishes id).bind fun opened => ?_
  cases opened with
  | error fault => exact Finishes.done _
  | ok store => exact Finishes.done _

theorem compile_finishes (settings : Settings) (id : String) :
    Finishes [] (compile settings id) := by
  unfold compile
  split
  · exact buildFallback_finishes _ _
  · refine Finishes.giveWay.bind fun _ => (Finishes.inspect _).bind fun answer => ?_
    rcases answer with fault | _ | spec
    · exact buildFallback_finishes _ _
    · exact buildFallback_finishes _ _
    · refine (buildWorkflow_finishes settings spec _).bind fun built => ?_
      rcases built with ⟨fault | runtime, scope⟩
      · exact (Resource.releaseAll_steady _).finishes.bind fun _ => buildFallback_finishes _ _
      · exact Finishes.done _

end Compiler

end AssistantEngine
