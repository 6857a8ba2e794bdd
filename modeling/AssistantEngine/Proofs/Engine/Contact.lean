import AssistantEngine.Proofs.Engine.Handshake

/-!
What a handshake leaves alone. It records a request for a connection before it first gives way, and
from then on it only opens a connection, closes it, and keeps the runtime that it makes.
-/

namespace AssistantEngine

open Activity (Spares)

/-- The transport over which an exchange asks for a connection. -/
def Exchange.dials? : Exchange → Option Transport
  | .connect transport => some transport
  | .call _ _ _ _ => none
  | .close _ _ => none

namespace World

/-- The transports over which a connection was asked for, in order. -/
def dialled (world : World) : List Transport := world.exchanges.filterMap Exchange.dials?

theorem dialled_record (world : World) (exchange : Exchange) :
    (world.record exchange).dialled = world.dialled ++ exchange.dials?.toList := by
  cases dials : exchange.dials? <;> simp [dialled, record, List.filterMap_append, dials]

/-- A view that shows neither which connections there are nor which runtimes were made. -/
structure Unaffected {View : Type} (view : World → View) : Prop where
  join : ∀ world connection, view (world.join connection) = view world
  hangUp : ∀ world id transport, view (world.hangUp id transport) = view world
  make : ∀ (world : World) (plugins : List PluginRuntime),
    view { world with plugins := plugins } = view world

end World

variable {View : Type} {view : World → View} {seen : View}

namespace ToolServer

/-- What follows on a request for a connection. -/
def pickUp (transport : Transport) : Activity World (Except Fault ConnectionId) := do
  Activity.giveWay
  match ← Activity.inspect (·.reach transport) with
  | .error fault => return .error fault
  | .ok server =>
    Activity.sleep server.connectDelay
    match server.connectFault with
    | some fault => return .error fault
    | none =>
      Activity.transact fun world =>
        (.ok world.connections.length, world.join { transport := transport, server := server })

theorem connect_eq (transport : Transport) :
    connect transport =
      (Activity.modify (·.record (.connect transport))).bind fun _ => pickUp transport := rfl

theorem pickUp_spares (unaffected : World.Unaffected view) (transport : Transport) :
    Spares view (fun _ => True) seen (pickUp transport) := by
  unfold pickUp
  refine Spares.giveWay.bind fun later _ _ => ?_
  have looked : Spares view (fun _ => True) later (Activity.inspect (·.reach transport)) :=
    Spares.inspect fun _ _ => trivial
  refine looked.bind fun later reached _ => ?_
  cases reached with
  | error fault => trivial
  | ok server =>
      refine (Spares.sleep server.connectDelay).bind fun later _ _ => ?_
      cases server.connectFault with
      | some fault => trivial
      | none => exact Spares.transact fun world => unaffected.join world _

theorem close_spares_view
    (hangUp : ∀ world id transport, view (World.hangUp world id transport) = view world)
    (id : ConnectionId) : Spares view (fun _ => True) seen (close id) := by
  unfold close
  have looked : Spares view (fun _ => True) seen (Activity.inspect (·.connection? id)) :=
    Spares.inspect fun _ _ => trivial
  refine looked.bind fun later found _ => ?_
  cases found with
  | none => trivial
  | some connection =>
      have hung : Spares view (fun _ => True) later
          (Activity.modify fun world => world.hangUp id connection.transport) :=
        Spares.modify fun world => hangUp world id connection.transport
      exact hung.bind fun later _ _ => Spares.giveWay

end ToolServer

namespace Handshake

theorem proceed_spares (unaffected : World.Unaffected view) (connected : Except Fault ConnectionId) :
    Spares view (fun _ => True) seen (proceed connected) := by
  cases connected with
  | error fault => trivial
  | ok connection =>
      unfold proceed ask
      refine (ToolServer.listTools_spares connection).bind fun later listed _ => ?_
      cases listed with
      | ok tools => trivial
      | error fault =>
          exact (ToolServer.close_spares_view unaffected.hangUp connection).bind fun _ _ _ => trivial

end Handshake

namespace PluginRuntime

theorem make_spares (unaffected : World.Unaffected view) (registryId : String) (kind : PluginKind)
    (state : PluginState) : Spares view (fun _ => True) seen (make registryId kind state) :=
  Spares.transact fun world => unaffected.make world _

/-- What follows once a handshake has ended or its time is up. -/
def conclude (timeout : HandshakeTimeout) (registryId : String) (kind : PluginKind)
    (link : PluginLink) (transport : Transport) :
    Option (Except Fault (ConnectionId × List ToolInfo)) → Activity World PluginRuntime
  | none => fail registryId kind (timeoutFault timeout transport)
  | some (.error fault) => fail registryId kind fault
  | some (.ok (connection, tools)) =>
    make registryId kind (.active connection (ExposedTool.ofLink tools link))

theorem conclude_spares (unaffected : World.Unaffected view) (timeout : HandshakeTimeout)
    (registryId : String) (kind : PluginKind) (link : PluginLink) (transport : Transport)
    (outcome : Option (Except Fault (ConnectionId × List ToolInfo))) :
    Spares view (fun _ => True) seen (conclude timeout registryId kind link transport outcome) := by
  rcases outcome with _ | fault | ⟨connection, tools⟩
  · exact make_spares unaffected _ _ _
  · exact make_spares unaffected _ _ _
  · exact make_spares unaffected _ _ _

/-- What a handshake does after its request, until the given time. -/
def followUp (limit : Time) (timeout : HandshakeTimeout) (registryId : String) (kind : PluginKind)
    (link : PluginLink) (transport : Transport) : Activity World PluginRuntime :=
  (((ToolServer.pickUp transport).bind Handshake.proceed).limitAt limit).bind
    (conclude timeout registryId kind link transport)

theorem followUp_spares (unaffected : World.Unaffected view) (limit : Time)
    (timeout : HandshakeTimeout) (registryId : String) (kind : PluginKind) (link : PluginLink)
    (transport : Transport) :
    Spares view (fun _ => True) seen (followUp limit timeout registryId kind link transport) := by
  have answered : Spares view (fun _ => True) seen
      ((ToolServer.pickUp transport).bind Handshake.proceed) :=
    (ToolServer.pickUp_spares unaffected transport).bind fun later connected _ =>
      Handshake.proceed_spares unaffected connected
  exact (answered.limitAt limit).bind fun later outcome _ =>
    conclude_spares unaffected timeout registryId kind link transport outcome

/-- A handshake records its request, and then sees to what follows. -/
theorem contact_eq (timeout : HandshakeTimeout) (registryId : String) (kind : PluginKind)
    (link : PluginLink) (transport : Transport) :
    contact timeout registryId kind link transport =
      Activity.look fun time _ => Activity.look fun _ world =>
        Activity.put (world.record (.connect transport))
          (followUp (time + timeout) timeout registryId kind link transport) := by
  unfold contact
  rw [Handshake.probe_eq, ToolServer.connect_eq]
  rfl

theorem contact_spares (unaffected : World.Unaffected view)
    (recorded : ∀ world transport, view (world.record (.connect transport)) = view world)
    (timeout : HandshakeTimeout) (registryId : String) (kind : PluginKind) (link : PluginLink)
    (transport : Transport) :
    Spares view (fun _ => True) seen (contact timeout registryId kind link transport) := by
  rw [contact_eq]
  intro time _ _ _ world same
  exact ⟨(recorded world transport).trans same, followUp_spares unaffected _ _ _ _ _ _⟩

end PluginRuntime

/-- Making a runtime changes nothing but connections, exchanges and what was made. -/
theorem Making.run_spares (unaffected : World.Unaffected view)
    (recorded : ∀ world transport, view (world.record (.connect transport)) = view world)
    (timeout : HandshakeTimeout) (making : Making) :
    Spares view (fun _ => True) seen (making.run timeout) := by
  rw [Making.run_eq]
  intro time world _
  dsimp only
  cases making.target world with
  | error fault => exact PluginRuntime.make_spares unaffected _ _ _
  | ok transport => exact PluginRuntime.contact_spares unaffected recorded _ _ _ _ _

/-- The first piece of making a runtime: at most one connection is asked for, and what is left asks
for none. -/
theorem Making.run_advance (timeout : HandshakeTimeout) (making : Making) (time : Time)
    (world : World) :
    ∃ left after added, (making.run timeout).advance time world = (left, after) ∧
      after.dialled = world.dialled ++ added ∧ added.length ≤ 1 ∧
      (∀ {View : Type} {view : World → View}, World.Unaffected view →
        (∀ world transport, view (world.record (.connect transport)) = view world) →
          view after = view world) ∧
      ∀ {View : Type} {view : World → View}, World.Unaffected view → ∀ seen,
        Spares view (fun _ => True) seen left := by
  rw [Making.run_eq]
  cases found : making.target world with
  | error fault =>
      have failed : Activity.advance time (Activity.look fun _ world =>
          making.attempt timeout (making.target world)) world =
            (PluginRuntime.fail making.registryId making.kind fault).advance time world := by
        change Activity.advance time (making.attempt timeout (making.target world)) world = _
        rw [found]
        rfl
      refine ⟨_, _, [], failed, (List.append_nil _).symm, Nat.zero_le 1, ?_, ?_⟩
      · intro _ view unaffected _
        exact unaffected.make world _
      · intro _ _ _ seen
        trivial
  | ok transport =>
      have dialled : Activity.advance time (Activity.look fun _ world =>
          making.attempt timeout (making.target world)) world =
            (PluginRuntime.followUp (time + timeout) timeout making.registryId making.kind making.link
              transport, world.record (.connect transport)) := by
        change Activity.advance time (making.attempt timeout (making.target world)) world = _
        rw [found]
        change Activity.advance time (PluginRuntime.contact _ _ _ _ _) world = _
        rw [PluginRuntime.contact_eq]
        rfl
      refine ⟨_, _, [transport], dialled, world.dialled_record _, Nat.le_refl 1, ?_, ?_⟩
      · intro _ view _ recorded
        exact recorded world transport
      · intro _ _ unaffected seen
        exact PluginRuntime.followUp_spares unaffected _ _ _ _ _ _

end AssistantEngine
