import AssistantEngine.Proofs.Engine.Handshake

/-!
What a handshake alone comes to. The state of the runtime that it makes depends on the server at the
other end of the transport and on nothing else, and apart from the traces of its connection the
handshake leaves the world as it was.
-/

namespace AssistantEngine

namespace Handshake

/-- What a handshake over a transport comes to, with a server that can be reached or not. -/
def verdict (timeout : HandshakeTimeout) (transport : Transport) :
    Except Fault ToolServer → Except Fault (List ToolInfo)
  | .error fault => .error fault
  | .ok server =>
    if timeout < server.connectDelay then .error (PluginRuntime.timeoutFault timeout transport)
    else
      match server.connectFault with
      | some fault => .error fault
      | none =>
        if timeout < server.connectDelay + server.listDelay then
          .error (PluginRuntime.timeoutFault timeout transport)
        else server.tools

/-- What the outcome of a probe says, be the time up or not. -/
def told (timeout : HandshakeTimeout) (transport : Transport) :
    Option (Except Fault (ConnectionId × List ToolInfo)) → Except Fault (List ToolInfo)
  | none => .error (PluginRuntime.timeoutFault timeout transport)
  | some (.error fault) => .error fault
  | some (.ok (_, tools)) => .ok tools

theorem tells_iff {first second timeout : Nat} (time : Nat) (within : first ≤ timeout) :
    second = 0 ∨ time + first + second ≤ time + timeout ↔ ¬timeout < first + second := by
  omega

theorem probe_verdict (timeout time : Nat) (world : World) (transport : Transport) :
    ∃ outcome later final,
      ((PluginRuntime.probe transport).limitAt (time + timeout)).complete time world =
          some (outcome, later, final) ∧
        told timeout transport outcome = verdict timeout transport (world.reach transport) ∧
        final.traceless = world.traceless := by
  rw [probe_eq, Activity.complete_limitAt_bind, connect_completes]
  cases world.reach transport with
  | error fault => exact ⟨_, _, _, rfl, rfl, rfl⟩
  | ok server =>
      by_cases prompt : server.connectDelay = 0 ∨ time + server.connectDelay ≤ time + timeout
      · have connects : ¬timeout < server.connectDelay := Nat.not_lt.mpr (prompt_iff.mp prompt)
        unfold verdict
        dsimp only
        rw [if_pos prompt, if_neg connects]
        cases refused : server.connectFault with
        | some fault => exact ⟨_, _, _, rfl, rfl, rfl⟩
        | none =>
            have asked := ask_completes (time + timeout) (time + server.connectDelay)
              (world.record (.connect transport)) transport server
            by_cases tells : server.listDelay = 0 ∨
                time + server.connectDelay + server.listDelay ≤ time + timeout
            · have lists : ¬timeout < server.connectDelay + server.listDelay :=
                (tells_iff time (prompt_iff.mp prompt)).mp tells
              dsimp only at asked ⊢
              rw [if_pos tells] at asked
              rw [if_neg lists]
              cases answered : server.tools with
              | error fault =>
                  rw [answered] at asked
                  exact ⟨_, _, _, asked, rfl, rfl⟩
              | ok tools =>
                  rw [answered] at asked
                  exact ⟨_, _, _, asked, rfl, rfl⟩
            · have overdue : timeout < server.connectDelay + server.listDelay :=
                Decidable.not_not.mp fun lists =>
                  tells ((tells_iff time (prompt_iff.mp prompt)).mpr lists)
              dsimp only at asked ⊢
              rw [if_neg tells] at asked
              rw [if_pos overdue]
              exact ⟨_, _, _, asked, rfl, rfl⟩
      · have late : timeout < server.connectDelay :=
          Nat.not_le.mp fun within => prompt (prompt_iff.mpr within)
        unfold verdict
        dsimp only
        rw [if_neg prompt, if_pos late]
        exact ⟨_, _, _, rfl, rfl, rfl⟩

/-- The state of a runtime, by what its handshake came to. -/
inductive Reflects (link : PluginLink) : Except Fault (List ToolInfo) → PluginState → Prop where
  | active (connection : ConnectionId) (tools : List ToolInfo) :
      Reflects link (.ok tools) (.active connection (ExposedTool.ofLink tools link))
  | failed (fault : Fault) : Reflects link (.error fault) (.failed fault.message)

theorem contact_verdict (timeout time : Nat) (registryId : String) (kind : PluginKind)
    (link : PluginLink) (transport : Transport) (world : World) :
    ∃ runtime later final,
      (PluginRuntime.contact timeout registryId kind link transport).complete time world =
          some (runtime, later, final) ∧
        final.traceless = world.traceless ∧
        runtime.registryId = registryId ∧ runtime.kind = kind ∧
        Reflects link (verdict timeout transport (world.reach transport)) runtime.state := by
  obtain ⟨outcome, later, between, completed, agrees, same⟩ :=
    probe_verdict timeout time world transport
  have limited : ((PluginRuntime.probe transport).limit timeout).complete time world =
      some (outcome, later, between) := completed
  unfold PluginRuntime.contact
  change ∃ runtime later final, Activity.complete
    (((PluginRuntime.probe transport).limit timeout).bind _) time world = _ ∧ _
  rw [Activity.complete_bind, limited, ← agrees]
  rcases outcome with _ | fault | ⟨connection, tools⟩
  · exact ⟨_, _, _, rfl, same, rfl, rfl, .failed _⟩
  · exact ⟨_, _, _, rfl, same, rfl, rfl, .failed fault⟩
  · exact ⟨_, _, _, rfl, same, rfl, rfl, .active connection tools⟩

end Handshake

namespace Making

/-- What making a runtime comes to. -/
def prospect (timeout : HandshakeTimeout) (making : Making) (world : World) :
    Except Fault (List ToolInfo) :=
  match making.target world with
  | .error fault => .error fault
  | .ok transport => Handshake.verdict timeout transport (world.reach transport)

/-- Alone, a runtime is made whose state reflects what the handshake comes to. -/
theorem run_verdict (timeout : HandshakeTimeout) (making : Making) (time : Time) (world : World) :
    ∃ runtime later final,
      (making.run timeout).complete time world = some (runtime, later, final) ∧
        final.traceless = world.traceless ∧
        runtime.registryId = making.registryId ∧ runtime.kind = making.kind ∧
        Handshake.Reflects making.link (making.prospect timeout world) runtime.state := by
  rw [Making.run_eq]
  change ∃ runtime later final,
    (making.attempt timeout (making.target world)).complete time world = _ ∧ _
  unfold prospect
  cases making.target world with
  | error fault => exact ⟨_, _, _, rfl, rfl, rfl, rfl, .failed fault⟩
  | ok transport => exact Handshake.contact_verdict _ _ _ _ _ _ _

end Making

end AssistantEngine
