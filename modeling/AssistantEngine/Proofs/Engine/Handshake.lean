import AssistantEngine.Proofs.Concurrency.Limits
import AssistantEngine.Proofs.Engine.Completion

/-!
The connections of a handshake. A handshake opens one connection at most, and in the end that is held
by an active runtime, or has been closed, or is left open: the time was up while the server had not
told its tools yet. Alone, a handshake leaves its connection open exactly if the server connects in
time and tells its tools too late.
-/

namespace AssistantEngine

open Activity (Deed Runs Spares)

/-! ## Accounts of connections -/

/-- No connection gets lost. -/
def World.Retains (before after : World) : Prop :=
  before.connections.length ≤ after.connections.length

/-- What the account of a handshake is about: the connections there are and what was exchanged. -/
def World.traffic (world : World) : Nat × List Exchange :=
  (world.connections.length, world.exchanges)

/-- The world with one more connection. -/
def World.join (world : World) (connection : Connection) : World :=
  { world with connections := world.connections ++ [connection] }

@[simp] theorem World.connections_join (world : World) (connection : Connection) :
    (world.join connection).connections = world.connections ++ [connection] := rfl

/-- The connection that an exchange closes. -/
def Exchange.closes? : Exchange → Option ConnectionId
  | .close connection _ => some connection
  | .connect _ => none
  | .call _ _ _ _ => none

/-- The world after a connection has been closed. -/
def World.hangUp (world : World) (id : ConnectionId) (transport : Transport) : World :=
  (world.record (.close id transport)).updateConnection id fun connection =>
    { connection with closings := connection.closings + 1 }

theorem World.connections_hangUp (world : World) (connection : Connection) :
    ((world.join connection).hangUp world.connections.length connection.transport).connections =
      world.connections ++ [{ connection with closings := connection.closings + 1 }] := by
  unfold hangUp updateConnection
  have known : world.connections.length < (world.connections ++ [connection]).length := by simp
  simp [record, List.modify_eq_take_cons_drop known]

/-- Whether a server connects within a time limit and tells its tools too late. -/
def ToolServer.Overdue (server : ToolServer) (timeout : HandshakeTimeout) : Prop :=
  server.connectFault = none ∧ server.connectDelay ≤ timeout ∧
    timeout < server.connectDelay + server.listDelay

namespace Handshake

variable {world final : World} {deeds front back : List (Deed World)} {limit : Time}
  {transport : Transport} {connection : ConnectionId}

/-- The connections that deeds open. -/
def opened (deeds : List (Deed World)) : List ConnectionId :=
  deeds.flatMap fun deed =>
    List.range' deed.before.connections.length
      (deed.after.connections.length - deed.before.connections.length)

/-- The connections that deeds close. -/
def closed (deeds : List (Deed World)) : List ConnectionId :=
  deeds.flatMap fun deed =>
    (deed.after.exchanges.drop deed.before.exchanges.length).filterMap Exchange.closes?

@[simp] theorem opened_append : opened (front ++ back) = opened front ++ opened back :=
  List.flatMap_append

@[simp] theorem closed_append : closed (front ++ back) = closed front ++ closed back :=
  List.flatMap_append

@[simp] theorem opened_nil : opened [] = [] := rfl

@[simp] theorem closed_nil : closed [] = [] := rfl

@[simp] theorem opened_glance (world : World) :
    opened (⟨world, world⟩ :: deeds) = opened deeds := by
  simp [opened]

@[simp] theorem closed_glance (world : World) :
    closed (⟨world, world⟩ :: deeds) = closed deeds := by
  simp [closed]

@[simp] theorem opened_record (world : World) (exchange : Exchange) :
    opened (⟨world, world.record exchange⟩ :: deeds) = opened deeds := by
  simp [opened, World.record]

@[simp] theorem closed_record (world : World) (exchange : Exchange) :
    closed (⟨world, world.record exchange⟩ :: deeds) = exchange.closes?.toList ++ closed deeds := by
  cases found : exchange.closes? <;> simp [closed, World.record, found]

@[simp] theorem opened_update (world : World) (exchange : Exchange) (id : ConnectionId)
    (change : Connection → Connection) :
    opened (⟨world, (world.record exchange).updateConnection id change⟩ :: deeds) =
      opened deeds := by
  simp [opened, World.record, World.updateConnection]

@[simp] theorem closed_update (world : World) (exchange : Exchange) (id : ConnectionId)
    (change : Connection → Connection) :
    closed (⟨world, (world.record exchange).updateConnection id change⟩ :: deeds) =
      exchange.closes?.toList ++ closed deeds := by
  cases found : exchange.closes? <;> simp [closed, World.record, World.updateConnection, found]

@[simp] theorem opened_join (world : World) (connection : Connection) :
    opened (⟨world, world.join connection⟩ :: deeds) =
      world.connections.length :: opened deeds := by
  simp [opened, World.join]

@[simp] theorem closed_join (world : World) (connection : Connection) :
    closed (⟨world, world.join connection⟩ :: deeds) = closed deeds := by
  simp [closed, World.join]

/-- Deeds that neither open a connection nor exchange anything. -/
def Quiet (deeds : List (Deed World)) : Prop :=
  ∀ deed ∈ deeds, deed.after.traffic = deed.before.traffic

theorem Quiet.opened (quiet : Quiet deeds) : opened deeds = [] := by
  apply List.flatMap_eq_nil_iff.mpr
  intro deed member
  have same : deed.after.connections.length = deed.before.connections.length :=
    congrArg Prod.fst (quiet deed member)
  simp [same]

theorem Quiet.closed (quiet : Quiet deeds) : closed deeds = [] := by
  apply List.flatMap_eq_nil_iff.mpr
  intro deed member
  have same : deed.after.exchanges = deed.before.exchanges :=
    congrArg Prod.snd (quiet deed member)
  simp [same]

theorem Quiet.retains {Result : Type} {activity : Activity World Result} {result : Result}
    (quiet : Quiet deeds) (runs : Runs World.Retains activity world deeds result final) :
    World.Retains world final := by
  apply runs.leads World.Retains (fun _ => Nat.le_refl _) Nat.le_trans fun _ _ => id
  intro deed member
  exact Nat.le_of_eq (congrArg Prod.fst (quiet deed member)).symm

/-! ## What the parts do -/

/-- What a handshake does once it has connected: a connection that cannot tell its tools is closed. -/
def ask (connection : ConnectionId) :
    Activity World (Except Fault (ConnectionId × List ToolInfo)) := do
  match ← ToolServer.listTools connection with
  | .ok tools => return .ok (connection, tools)
  | .error fault =>
    ToolServer.close connection
    return .error fault

/-- What follows on an answer to a request for a connection. -/
def proceed : Except Fault ConnectionId →
    Activity World (Except Fault (ConnectionId × List ToolInfo))
  | .ok connection => ask connection
  | .error fault => .done (.error fault)

theorem probe_eq (transport : Transport) :
    PluginRuntime.probe transport = (ToolServer.connect transport).bind proceed := by
  unfold PluginRuntime.probe
  congr 1
  funext connected
  cases connected <;> rfl

/-- To connect opens one connection, or none if there is no answer. -/
theorem connect_runs {outcome : Option (Except Fault ConnectionId)}
    (runs : Runs World.Retains ((ToolServer.connect transport).limitAt limit) world deeds outcome
      final) :
    closed deeds = [] ∧
      ((∃ connection, outcome = some (.ok connection) ∧ opened deeds = [connection] ∧
          connection < final.connections.length) ∨
        (∀ connection, outcome ≠ some (.ok connection)) ∧ opened deeds = []) := by
  unfold ToolServer.connect at runs
  obtain ⟨_, rfl, asked⟩ := runs.of_limitAt_modify
  obtain ⟨_, later, rfl, -, waited⟩ := asked.of_limitAt_giveWay
  obtain ⟨_, rfl, reached⟩ := waited.of_limitAt_inspect
  cases found : later.reach transport with
  | error fault =>
      rw [found] at reached
      obtain ⟨rfl, rfl, rfl⟩ := reached.of_done
      simp [Exchange.closes?]
  | ok server =>
      rw [found] at reached
      -- The delay of the server may be cut short; the connection is only opened after it.
      rcases reached.of_limitAt_bind with ⟨rfl, given⟩ | ⟨front, back, _, awake, rfl, slept, rest⟩
      · have quiet : Quiet _ := fun deed member =>
          congrArg World.traffic (given.of_limitAt_sleep.1 deed member)
        simp [Exchange.closes?, quiet.opened, quiet.closed]
      · have quiet : Quiet front := fun deed member =>
          congrArg World.traffic (slept.of_limitAt_sleep.1 deed member)
        cases refused : server.connectFault with
        | some fault =>
            rw [refused] at rest
            obtain ⟨rfl, rfl, rfl⟩ := rest.of_done
            simp [Exchange.closes?, quiet.opened, quiet.closed]
        | none =>
            rw [refused] at rest
            have joining : Runs World.Retains (Activity.transact fun world =>
                (some (.ok world.connections.length), world.join ⟨transport, server, [], 0⟩))
                awake back outcome final := rest
            obtain ⟨rfl, rfl, rfl⟩ := joining.of_transact
            simp [Exchange.closes?, quiet.opened, quiet.closed]

theorem listTools_runs {outcome : Option (Except Fault (List ToolInfo))}
    (runs : Runs World.Retains ((ToolServer.listTools connection).limitAt limit) world deeds outcome
      final) : Quiet deeds :=
  (runs.spares ((ToolServer.listTools_spares connection).limitAt limit)).1

theorem close_runs {outcome : Option Unit} (known : connection < world.connections.length)
    (runs : Runs World.Retains ((ToolServer.close connection).limitAt limit) world deeds outcome
      final) :
    opened deeds = [] ∧ closed deeds = [connection] := by
  unfold ToolServer.close at runs
  obtain ⟨_, rfl, looked⟩ := runs.of_limitAt_inspect
  have present : world.connection? connection = some world.connections[connection] :=
    List.getElem?_eq_getElem known
  rw [present] at looked
  obtain ⟨back, rfl, rest⟩ := looked.of_limitAt_modify
  have quiet : Quiet back := (rest.spares (Spares.giveWay.limitAt limit)).1
  simp [Exchange.closes?, quiet.opened, quiet.closed]

/-! ## How a handshake ends -/

/-- The outcome of a handshake with a server, and which connections it has opened and closed. -/
inductive Ended : Option (Except Fault (ConnectionId × List ToolInfo)) → List ConnectionId →
    List ConnectionId → Prop where
  | unconnected {outcome : Option (Except Fault (ConnectionId × List ToolInfo))}
      (nothing : ∀ made, outcome ≠ some (.ok made)) : Ended outcome [] []
  | held (connection : ConnectionId) (tools : List ToolInfo) :
      Ended (some (.ok (connection, tools))) [connection] []
  | closed (connection : ConnectionId)
      {outcome : Option (Except Fault (ConnectionId × List ToolInfo))}
      (nothing : ∀ made, outcome ≠ some (.ok made)) : Ended outcome [connection] [connection]
  /-- The time was up before the server had told its tools. -/
  | abandoned (connection : ConnectionId) : Ended none [connection] []

/-- A connection that was opened is held, closed or abandoned. -/
theorem ask_runs {outcome : Option (Except Fault (ConnectionId × List ToolInfo))}
    (known : connection < world.connections.length)
    (runs : Runs World.Retains ((ask connection).limitAt limit) world deeds outcome final) :
    Ended outcome (connection :: opened deeds) (closed deeds) := by
  unfold ask at runs
  rcases runs.of_limitAt_bind with ⟨rfl, given⟩ | ⟨front, back, listed, later, rfl, asked, rest⟩
  · -- The list is given up together with the connection: nobody is left who would close it.
    have quiet := listTools_runs given
    rw [quiet.opened, quiet.closed]
    exact .abandoned connection
  · have quiet := listTools_runs asked
    rw [opened_append, closed_append, quiet.opened, quiet.closed, List.nil_append, List.nil_append]
    cases listed with
    | ok tools =>
        obtain ⟨rfl, rfl, rfl⟩ := rest.of_done
        exact .held connection tools
    | error fault =>
        have present := Nat.lt_of_lt_of_le known (quiet.retains asked)
        rcases rest.of_limitAt_bind with ⟨rfl, given⟩ | ⟨front, back, _, _, rfl, hung, rest⟩
        · obtain ⟨none_opened, one_closed⟩ := close_runs present given
          rw [none_opened, one_closed]
          exact .closed connection fun made => nofun
        · obtain ⟨none_opened, one_closed⟩ := close_runs present hung
          obtain ⟨rfl, rfl, rfl⟩ := rest.of_done
          rw [List.append_nil, none_opened, one_closed]
          exact .closed connection fun made => nofun

theorem probe_runs {outcome : Option (Except Fault (ConnectionId × List ToolInfo))}
    (runs : Runs World.Retains ((PluginRuntime.probe transport).limitAt limit) world deeds outcome
      final) :
    Ended outcome (opened deeds) (closed deeds) := by
  rw [probe_eq] at runs
  rcases runs.of_limitAt_bind with ⟨rfl, given⟩ | ⟨front, back, connected, between, rfl, first, rest⟩
  · obtain ⟨shut, ⟨_, impossible, -⟩ | ⟨-, none_opened⟩⟩ := connect_runs given
    · contradiction
    · rw [shut, none_opened]
      exact .unconnected fun made => nofun
  · obtain ⟨shut, ⟨connection, made, one_opened, known⟩ | ⟨refused, none_opened⟩⟩ :=
      connect_runs first
    · cases made
      rw [opened_append, closed_append, shut, one_opened]
      exact ask_runs known rest
    · cases connected with
      | ok connection => exact absurd rfl (refused connection)
      | error fault =>
          obtain ⟨rfl, rfl, rfl⟩ := rest.of_done
          rw [List.append_nil, shut, none_opened]
          exact .unconnected fun made => nofun

theorem make_runs {registryId : String} {kind : PluginKind} {state : PluginState}
    {runtime : PluginRuntime}
    (runs : Runs World.Retains (PluginRuntime.make registryId kind state) world deeds runtime final) :
    runtime.state = state ∧ Quiet deeds := by
  obtain ⟨rfl, rfl, rfl⟩ := runs.of_transact
  refine ⟨rfl, ?_⟩
  simp [Quiet, World.traffic]

/-- What is left of a handshake: an active runtime holds the one connection that was opened, and one
that has failed has closed all, unless the time was up and it left one open. -/
inductive Settled (timeout : HandshakeTimeout) : PluginState → List ConnectionId →
    List ConnectionId → Prop where
  | held (connection : ConnectionId) (tools : List ExposedTool) :
      Settled timeout (.active connection tools) [connection] []
  | closed (reason : String) (connections : List ConnectionId) :
      Settled timeout (.failed reason) connections connections
  | abandoned (transport : Transport) (connection : ConnectionId) :
      Settled timeout (.failed (PluginRuntime.timeoutFault timeout transport).message) [connection] []

theorem contact_runs {timeout : HandshakeTimeout} {registryId : String} {kind : PluginKind}
    {link : PluginLink} {runtime : PluginRuntime}
    (runs : Runs World.Retains (PluginRuntime.contact timeout registryId kind link transport) world
      deeds runtime final) :
    Settled timeout runtime.state (opened deeds) (closed deeds) := by
  unfold PluginRuntime.contact at runs
  obtain ⟨front, back, outcome, between, rfl, tried, made⟩ := runs.of_bind
  obtain ⟨limit, front, rfl, probed⟩ : ∃ limit rest, front = ⟨world, world⟩ :: rest ∧
      Runs World.Retains ((PluginRuntime.probe transport).limitAt limit) world rest outcome
        between := by
    cases tried with
    | look time rest => exact ⟨_, _, rfl, rest⟩
  have ended := probe_runs probed
  rw [List.cons_append, opened_glance, closed_glance, opened_append, closed_append]
  generalize opened front = openings at ended ⊢
  generalize closed front = closings at ended ⊢
  have failed (fault : Fault) (connections : List ConnectionId)
      (given : Runs World.Retains (PluginRuntime.fail registryId kind fault) between back runtime
        final) :
      Settled timeout runtime.state (connections ++ opened back) (connections ++ closed back) := by
    obtain ⟨state, quiet⟩ := make_runs given
    rw [state, quiet.opened, quiet.closed]
    exact .closed fault.message _
  cases ended with
  | unconnected nothing =>
      rcases outcome with _ | fault | made
      · exact failed _ [] made
      · exact failed fault [] made
      · exact absurd rfl (nothing _)
  | held connection tools =>
      obtain ⟨state, quiet⟩ := make_runs made
      rw [state, quiet.opened, quiet.closed]
      exact .held connection _
  | closed connection nothing =>
      rcases outcome with _ | fault | made
      · exact failed _ [connection] made
      · exact failed fault [connection] made
      · exact absurd rfl (nothing _)
  | abandoned connection =>
      obtain ⟨state, quiet⟩ := make_runs made
      rw [state, quiet.opened, quiet.closed]
      exact .abandoned transport connection

/-! ## Handshakes alone -/

/-- Whether all connections since a world are held or have been closed. -/
def Covered (before after : World) (held : Option ConnectionId) : Prop :=
  ∀ id connection, before.connections.length ≤ id → after.connection? id = some connection →
    held = some id ∨ 0 < connection.closings

theorem covered_of_none {before after : World} {held : Option ConnectionId}
    (same : after.connections = before.connections) : Covered before after held := by
  intro id connection later found
  rw [World.connection?, same, List.getElem?_eq_none later] at found
  contradiction

theorem covered_iff_of_one {before after : World} {held : Option ConnectionId}
    {connection : Connection} (one : after.connections = before.connections ++ [connection]) :
    Covered before after held ↔
      held = some before.connections.length ∨ 0 < connection.closings := by
  unfold Covered World.connection?
  rw [one]
  constructor
  · intro covered
    exact covered _ connection (Nat.le_refl _) List.getElem?_concat_length
  · intro covered id other later found
    have here : id = before.connections.length := by
      have inside := (List.getElem?_eq_some_iff.mp found).1
      simp only [List.length_append, List.length_singleton] at inside
      omega
    subst here
    rw [List.getElem?_concat_length, Option.some.injEq] at found
    exact found ▸ covered

theorem connect_completes (limit time : Nat) (world : World) (transport : Transport) :
    ((ToolServer.connect transport).limitAt limit).complete time world =
      let asked := world.record (.connect transport)
      match world.reach transport with
      | .error fault => some (some (.error fault), time, asked)
      | .ok server =>
        if server.connectDelay = 0 ∨ time + server.connectDelay ≤ limit then
          match server.connectFault with
          | some fault => some (some (.error fault), time + server.connectDelay, asked)
          | none =>
            some (some (.ok world.connections.length), time + server.connectDelay,
              asked.join ⟨transport, server, [], 0⟩)
        else some (none, max time limit, asked) := by
  unfold ToolServer.connect
  refine (Activity.complete_limitAt_modify limit _ _ time world).trans ?_
  refine (Activity.complete_limitAt_giveWay limit _ time _).trans ?_
  refine (Activity.complete_limitAt_inspect limit _ _ time _).trans ?_
  change Activity.complete (Activity.limitAt limit (match world.reach transport with
    | .error fault => _
    | .ok server => _)) time (world.record (.connect transport)) = _
  cases world.reach transport with
  | error fault => rfl
  | ok server =>
      refine (Activity.complete_limitAt_bind limit (Activity.sleep server.connectDelay) _ time
        (world.record (.connect transport))).trans ?_
      rw [Activity.complete_limitAt_sleep]
      dsimp only
      split
      · cases server.connectFault <;> rfl
      · rfl

theorem listTools_completes {held : Connection} (limit time : Nat)
    (found : world.connection? connection = some held) :
    ((ToolServer.listTools connection).limitAt limit).complete time world =
      if held.server.listDelay = 0 ∨ time + held.server.listDelay ≤ limit then
        some (some held.server.tools, time + held.server.listDelay, world)
      else some (none, max time limit, world) := by
  unfold ToolServer.listTools
  refine (Activity.complete_limitAt_inspect limit _ _ time world).trans ?_
  rw [found]
  refine (Activity.complete_limitAt_giveWay limit _ time world).trans ?_
  refine (Activity.complete_limitAt_bind limit (Activity.sleep held.server.listDelay) _ time
    world).trans ?_
  rw [Activity.complete_limitAt_sleep]
  split <;> rfl

theorem close_completes {held : Connection} (limit time : Nat)
    (found : world.connection? connection = some held) :
    ((ToolServer.close connection).limitAt limit).complete time world =
      some (some (), time, world.hangUp connection held.transport) := by
  unfold ToolServer.close
  refine (Activity.complete_limitAt_inspect limit _ _ time world).trans ?_
  rw [found]
  rfl

/-- The connection that is held after a handshake. -/
def held? : Option (Except Fault (ConnectionId × List ToolInfo)) → Option ConnectionId
  | some (.ok (connection, _)) => some connection
  | some (.error _) => none
  | none => none

/-- Alone, a new connection is asked for the tools, and closed if the server cannot tell them. -/
theorem ask_completes (limit time : Nat) (world : World) (transport : Transport)
    (server : ToolServer) :
    let joined := world.join ⟨transport, server, [], 0⟩
    ((ask world.connections.length).limitAt limit).complete time joined =
      if server.listDelay = 0 ∨ time + server.listDelay ≤ limit then
        match server.tools with
        | .ok tools =>
          some (some (.ok (world.connections.length, tools)), time + server.listDelay, joined)
        | .error fault =>
          some (some (.error fault), time + server.listDelay,
            joined.hangUp world.connections.length transport)
      else some (none, max time limit, joined) := by
  have found : (world.join ⟨transport, server, [], 0⟩).connection? world.connections.length =
      some ⟨transport, server, [], 0⟩ := List.getElem?_concat_length
  unfold ask
  change Activity.complete (Activity.limitAt limit
    ((ToolServer.listTools world.connections.length).bind _)) _ _ = _
  rw [Activity.complete_limitAt_bind, listTools_completes _ _ found]
  split
  · cases server.tools with
    | ok tools => rfl
    | error fault =>
        change Activity.complete (Activity.limitAt limit
          ((ToolServer.close world.connections.length).bind _)) _ _ = _
        rw [Activity.complete_limitAt_bind, close_completes _ _ found]
        rfl
  · rfl

/-- Alone, a new connection is covered in the end if its server tells the tools in time. -/
theorem ask_covers (limit time : Nat) (world : World) (transport : Transport)
    (server : ToolServer) :
    ∃ outcome later final,
      ((ask world.connections.length).limitAt limit).complete time
          (world.join ⟨transport, server, [], 0⟩) = some (outcome, later, final) ∧
        (Covered world final (held? outcome) ↔
          server.listDelay = 0 ∨ time + server.listDelay ≤ limit) := by
  have one : (world.join ⟨transport, server, [], 0⟩).connections =
      world.connections ++ [⟨transport, server, [], 0⟩] := rfl
  rw [ask_completes]
  by_cases told : server.listDelay = 0 ∨ time + server.listDelay ≤ limit
  · rw [if_pos told]
    cases server.tools with
    | ok tools =>
        refine ⟨_, _, _, rfl, ?_⟩
        simp [covered_iff_of_one one, held?, told]
    | error fault =>
        have hung := World.connections_hangUp world ⟨transport, server, [], 0⟩
        refine ⟨_, _, _, rfl, ?_⟩
        simp [covered_iff_of_one hung, told]
  · rw [if_neg told]
    refine ⟨_, _, _, rfl, ?_⟩
    simp [covered_iff_of_one one, held?, told]

theorem prompt_iff {delay timeout time : Nat} :
    delay = 0 ∨ time + delay ≤ time + timeout ↔ delay ≤ timeout := by
  omega

theorem overdue_iff {server : ToolServer} {timeout : Nat} (time : Nat)
    (accepts : server.connectFault = none) (prompt : server.connectDelay ≤ timeout) :
    server.Overdue timeout ↔
      ¬(server.listDelay = 0 ∨ time + server.connectDelay + server.listDelay ≤ time + timeout) := by
  have later (first second : Nat) (within : first ≤ timeout) :
      timeout < first + second ↔ ¬(second = 0 ∨ time + first + second ≤ time + timeout) := by
    omega
  rw [← later server.connectDelay server.listDelay prompt]
  simp [ToolServer.Overdue, accepts, prompt]

/-- Alone, a handshake covers its connection in the end, unless the server is overdue. -/
theorem probe_completes (timeout time : Nat) (world : World) (transport : Transport) :
    ∃ outcome later final,
      ((PluginRuntime.probe transport).limitAt (time + timeout)).complete time world =
          some (outcome, later, final) ∧
        (Covered world final (held? outcome) ↔
          ∀ server, world.reach transport = .ok server → ¬server.Overdue timeout) := by
  rw [probe_eq, Activity.complete_limitAt_bind, connect_completes]
  cases reached : world.reach transport with
  | error fault => exact ⟨_, _, _, rfl, by simp [covered_of_none, World.record]⟩
  | ok server =>
      by_cases prompt : server.connectDelay = 0 ∨ time + server.connectDelay ≤ time + timeout
      · dsimp only
        rw [if_pos prompt]
        cases refused : server.connectFault with
        | some fault =>
            refine ⟨_, _, _, rfl, ?_⟩
            simp [covered_of_none, World.record, ToolServer.Overdue, refused]
        | none =>
            obtain ⟨outcome, later, final, completed, covered⟩ :=
              ask_covers (time + timeout) (time + server.connectDelay)
                (world.record (.connect transport)) transport server
            refine ⟨outcome, later, final, completed, ?_⟩
            have overdue := overdue_iff time refused (prompt_iff.mp prompt)
            have same : Covered world final (held? outcome) ↔
                server.listDelay = 0 ∨
                  time + server.connectDelay + server.listDelay ≤ time + timeout := covered
            rw [same]
            simp only [Except.ok.injEq, forall_eq', overdue, Classical.not_not]
      · dsimp only
        rw [if_neg prompt]
        have without : ¬server.Overdue timeout := fun overdue =>
          prompt (prompt_iff.mpr overdue.2.1)
        exact ⟨_, _, _, rfl, by simp [covered_of_none, World.record, without]⟩

/-- Alone, a runtime is made, and its handshake covers all connections unless the server is
overdue. -/
theorem contact_completes (timeout time : Nat) (registryId : String) (kind : PluginKind)
    (link : PluginLink) (transport : Transport) (world : World) :
    ∃ runtime later final,
      (PluginRuntime.contact timeout registryId kind link transport).complete time world =
          some (runtime, later, final) ∧
        (Covered world final runtime.connection? ↔
          ∀ server, world.reach transport = .ok server → ¬server.Overdue timeout) := by
  obtain ⟨outcome, later, between, completed, covered⟩ :=
    probe_completes timeout time world transport
  have limited : ((PluginRuntime.probe transport).limit timeout).complete time world =
      some (outcome, later, between) := completed
  unfold PluginRuntime.contact
  change ∃ runtime later final, Activity.complete
    (((PluginRuntime.probe transport).limit timeout).bind _) time world = _ ∧ _
  rw [Activity.complete_bind, limited, ← covered]
  rcases outcome with _ | fault | ⟨connection, tools⟩
  · exact ⟨_, _, _, rfl, Iff.rfl⟩
  · exact ⟨_, _, _, rfl, Iff.rfl⟩
  · exact ⟨_, _, _, rfl, Iff.rfl⟩

end Handshake

/-! ## The two ways to make a runtime -/

/-- How a runtime is made: one that is shared, from the registry, or one for a link. -/
inductive Making where
  | singleton (registryId : String)
  | perLink (manifest : PluginManifest) (link : PluginLink)

namespace Making

def registryId : Making → String
  | singleton registryId => registryId
  | perLink manifest _ => manifest.id

def kind : Making → PluginKind
  | singleton _ => .singleton
  | perLink _ _ => .perLink

/-- The link that says which tools are exposed. -/
def link : Making → PluginLink
  | singleton registryId => { registryId := registryId }
  | perLink _ link => link

/-- The transport to connect over. -/
def target : Making → World → Except Fault Transport
  | singleton registryId, world =>
    match world.registry.find? registryId with
    | none => .error (.notFound s!"plugin manifest '{registryId}'")
    | some manifest => Transport.ofManifest world.files manifest
  | perLink manifest link, world =>
    Transport.ofLink world.files manifest (PluginRuntime.configurationOf manifest link)

def run (timeout : HandshakeTimeout) : Making → Activity World PluginRuntime
  | singleton registryId => PluginRuntime.makeSingleton timeout registryId
  | perLink manifest link => PluginRuntime.forLink timeout manifest link

/-- What is done once the transport is known. -/
def attempt (timeout : HandshakeTimeout) (making : Making) :
    Except Fault Transport → Activity World PluginRuntime
  | .error fault => PluginRuntime.fail making.registryId making.kind fault
  | .ok transport =>
    PluginRuntime.contact timeout making.registryId making.kind making.link transport

/-- Both ways contact a server if there is a transport to it. -/
theorem run_eq (timeout : HandshakeTimeout) (making : Making) :
    making.run timeout = Activity.look fun _ world => making.attempt timeout (making.target world) := by
  cases making with
  | perLink manifest link =>
      unfold run PluginRuntime.forLink
      change Activity.look _ = _
      congr 1
  | singleton registryId =>
      unfold run PluginRuntime.makeSingleton
      change Activity.look _ = _
      congr 1
      funext time world
      change (match world.registry.find? registryId with
        | none => _
        | some manifest => _) = _
      cases found : world.registry.find? registryId with
      | none =>
          simp only [target, found]
          rfl
      | some manifest =>
          cases reached : Transport.ofManifest world.files manifest with
          | error fault =>
              simp only [target, found, reached]
              rfl
          | ok transport =>
              simp only [target, found, reached]
              rfl

end Making

namespace Handshake

/-- A handshake that makes a runtime settles its connections whatever else goes on: an active
runtime holds the only connection that was opened; one that has failed has closed what was opened,
or its time was up. A handshake alone covers all connections exactly if the server that it reaches,
if any, is not overdue. -/
theorem handshake_settles_iff (timeout : HandshakeTimeout) (making : Making) :
    (∀ world deeds runtime final,
        Runs World.Retains (making.run timeout) world deeds runtime final →
          Settled timeout runtime.state (opened deeds) (closed deeds)) ∧
      ∀ time world, ∃ runtime later final,
        (making.run timeout).complete time world = some (runtime, later, final) ∧
          (Covered world final runtime.connection? ↔
            ∀ transport, making.target world = .ok transport →
              ∀ server, world.reach transport = .ok server → ¬server.Overdue timeout) := by
  rw [Making.run_eq]
  constructor
  · intro world deeds runtime final runs
    cases runs with
    | look time rest =>
        rw [opened_glance, closed_glance]
        dsimp only at rest
        cases found : making.target world with
        | error fault =>
            rw [found] at rest
            obtain ⟨state, quiet⟩ := make_runs rest
            rw [state, quiet.opened, quiet.closed]
            exact .closed fault.message []
        | ok transport =>
            rw [found] at rest
            exact contact_runs rest
  · intro time world
    change ∃ runtime later final,
      (making.attempt timeout (making.target world)).complete time world = _ ∧ _
    cases found : making.target world with
    | error fault => exact ⟨_, _, _, rfl, by simp [covered_of_none]⟩
    | ok transport =>
        obtain ⟨runtime, later, final, completed, covered⟩ :=
          contact_completes timeout time making.registryId making.kind making.link transport world
        refine ⟨runtime, later, final, completed, ?_⟩
        simp only [covered, Except.ok.injEq, forall_eq']

/-! ## A server that is slow -/

/-- A world with one plugin, whose server takes half a second to connect, and then so long to tell
its tools. -/
def forecastWorld (listDelay : Time) : World where
  registry := {
    directories := ["plugins"]
    manifests := [("weather",
      { id := "weather"
        displayName := "Weather"
        execution := { mode := .remote, url := some "http://tools" } })] }
  artifacts := .ofCapacity 1
  model := .ofList "script" [] { result := .ok (.assistant "(done)") }
  reach := fun _ => .ok {
    connectDelay := 500
    listDelay := listDelay
    tools := .ok [{ name := "forecast" }]
    answer := fun _ _ _ => .error (.internal "no answer") }

theorem handshake_settles_forecast :
    ∃ runtime later final,
      ((Making.singleton "weather").run 1000).complete 0 (forecastWorld 400) =
          some (runtime, later, final) ∧
        Covered (forecastWorld 400) final runtime.connection? := by
  obtain ⟨runtime, later, final, completed, covered⟩ :=
    (handshake_settles_iff 1000 (.singleton "weather")).2 0 (forecastWorld 400)
  refine ⟨runtime, later, final, completed, covered.mpr ?_⟩
  intro transport _ server reached
  cases reached
  rintro ⟨-, -, late⟩
  contradiction

/-- A server that connects in time and tells its tools too late: the runtime has failed, and nobody
has closed the connection. -/
theorem late_listing_leaks :
    ∃ runtime later final connection,
      ((Making.singleton "weather").run 1000).complete 0 (forecastWorld 600) =
          some (runtime, later, final) ∧
        runtime.isActive = false ∧ (forecastWorld 600).connections = [] ∧
        final.connection? 0 = some connection ∧ connection.closings = 0 := by
  have left : (((Making.singleton "weather").run 1000).complete 0 (forecastWorld 600)).map
      (fun (runtime, _, final) => (runtime.isActive, final.connections.map (·.closings))) =
        some (false, [0]) := by
    decide +kernel
  obtain ⟨⟨runtime, later, final⟩, completed, ended⟩ := Option.map_eq_some_iff.mp left
  simp only [Prod.mk.injEq] at ended
  obtain ⟨connection, only, closings⟩ := List.map_eq_singleton_iff.mp ended.2
  refine ⟨runtime, later, final, connection, completed, ended.1, rfl, ?_, closings⟩
  rw [World.connection?, only]
  rfl

end Handshake

end AssistantEngine
