import AssistantEngine.Proofs.Concurrency.Runs
import AssistantEngine.Proofs.Engine.Turn
import AssistantEngine.Proofs.Plugin.Visibility

/-!
Which tools of a server the calls through a plugin runtime reach: those that an enabled entry stands
for. Overrides that switch a tool off keep all calls from it as soon as one of them takes effect. An
override that renames the tool onto a name that is taken does not take effect at all.
-/

namespace AssistantEngine

open Activity (Deed Runs)

/-! ## Calls on record -/

namespace Exchange

/-- Whether an exchange calls a tool. -/
def calls (server : String) : Exchange → Bool
  | .call _ _ tool _ => tool = server
  | .connect _ => false
  | .close _ _ => false

end Exchange

namespace World

/-- The calls of a tool. -/
def callsOf (world : World) (server : String) : List Exchange :=
  world.exchanges.filter (·.calls server)

theorem callsOf_registerRecord (server : String) (record : Record) (world : World) :
    (world.registerRecord record).2.callsOf server = world.callsOf server := rfl

theorem callsOf_answerCall {tool server : String} (different : tool ≠ server) (id : ConnectionId)
    (arguments : Json) (world : World) :
    (ToolServer.answerCall id tool arguments world).2.callsOf server = world.callsOf server := by
  unfold ToolServer.answerCall
  split
  · rfl
  · simp [callsOf, updateConnection, record, Exchange.calls, different]

end World

namespace PluginRuntime

variable {runtime : PluginRuntime} {name server : String}

theorem mem_of_tool {tool : ExposedTool} (meant : runtime.tool name = .ok tool) :
    tool ∈ runtime.tools ∧ tool.enabled = true := by
  unfold PluginRuntime.tool at meant
  split at meant
  · contradiction
  · rename_i entry found
    split at meant
    · rename_i enabled
      cases meant
      exact ⟨List.mem_of_find?_eq_some found, enabled⟩
    · contradiction

/-- A call reaches no tool for which there is no enabled entry. -/
theorem callTool_keeps {others : World → World → Prop} {arguments : Json} {world final : World}
    {deeds : List (Deed World)} {result : Except Fault CallResult}
    (off : ∀ tool ∈ runtime.tools, tool.serverName = server → tool.enabled = false)
    (runs : Runs others (runtime.callTool name arguments) world deeds result final) :
    ∀ deed ∈ deeds, deed.after.callsOf server = deed.before.callsOf server := by
  have spared : Activity.Spares (·.callsOf server) (fun _ => True) (world.callsOf server)
      (runtime.callTool name arguments) := by
    apply callTool_spares
    · intro tool connection meant _ world
      obtain ⟨member, enabled⟩ := mem_of_tool meant
      have different : tool.serverName ≠ server := fun same => by
        rw [off tool member same] at enabled
        contradiction
      exact World.callsOf_answerCall different connection arguments world
    · exact World.callsOf_registerRecord server
  exact (runs.spares spared).1

theorem intercept_reaches {connection : ConnectionId} {held : Connection} {world : World}
    (known : world.connection? connection = some held) (arguments : Json) (time : Time) :
    ∃ result final,
      (intercept connection server arguments).complete time world = some (result, time, final) ∧
        final.callsOf server =
          world.callsOf server ++ [.call connection held.transport server arguments] := by
  let after := (ToolServer.answerCall connection server arguments world).2
  have called : after.callsOf server =
      world.callsOf server ++ [.call connection held.transport server arguments] := by
    simp only [after, ToolServer.answerCall, known]
    simp [World.callsOf, World.updateConnection, World.record, Exchange.calls]
  have asked : (ToolServer.callTool connection server arguments).complete time world =
      some ((ToolServer.answerCall connection server arguments world).1, time, after) := rfl
  cases answered : (ToolServer.answerCall connection server arguments world).1 with
  | error fault =>
      refine ⟨.error fault, after, ?_, called⟩
      change ((ToolServer.callTool connection server arguments).bind _).complete time world = _
      rw [Activity.complete_bind, asked, answered]
      rfl
  | ok raw =>
      let kept := after.registerRecord (recordOf raw (time - time) server)
      refine ⟨?result, kept.2, ?completed, called⟩
      case completed =>
        change ((ToolServer.callTool connection server arguments).bind _).complete time world = _
        rw [Activity.complete_bind, asked, answered]
        rfl

/-- A call by the name of an enabled entry reaches the tool, while the connection is open. -/
theorem callTool_reaches {tool : ExposedTool} {connection : ConnectionId} {held : Connection}
    (meant : runtime.tool name = .ok tool) (connected : runtime.connection? = some connection)
    (arguments : Json) (time : Time) {world : World} (given : world.isClosed runtime = false)
    (known : world.connection? connection = some held) :
    ∃ result final,
      (runtime.callTool name arguments).complete time world = some (result, time, final) ∧
        final.callsOf tool.serverName =
          world.callsOf tool.serverName ++
            [.call connection held.transport tool.serverName arguments] := by
  have ran : (runtime.callTool name arguments).complete time world =
      (intercept connection tool.serverName arguments).complete time world := by
    unfold callTool
    rw [meant, connected]
    change Activity.complete (if world.isClosed runtime then _ else _) time world = _
    rw [given, if_neg Bool.false_ne_true]
  rw [ran]
  exact intercept_reaches known arguments time

theorem tool_of_reaches {connection : ConnectionId} {tools : List ExposedTool}
    (active : runtime.state = .active connection tools)
    (reached : ExposedTool.reaches tools name server = true) :
    ∃ tool, runtime.tool name = .ok tool ∧ tool.serverName = server := by
  rw [ExposedTool.reaches, Option.any_eq_true] at reached
  obtain ⟨tool, found, allowed⟩ := reached
  rw [Bool.and_eq_true, decide_eq_true_eq] at allowed
  refine ⟨tool, ?_, allowed.1⟩
  have listed : runtime.tools.find? (·.exposedName = name) = some tool := by
    rw [PluginRuntime.tools, active]
    exact found
  simp only [PluginRuntime.tool, listed, allowed.2, if_true]

/-- Where all overrides of a tool switch it off, no entry of the tool is enabled and no call through
the runtime reaches it, exactly if it does not stay on: the link or the server leaves it out, or one
of the overrides takes effect. Otherwise the tool is called under its own name. -/
theorem switched_off_iff {base : List ToolInfo} {link : PluginLink} {connection : ConnectionId}
    (distinct : (base.map (·.name)).Nodup)
    (off : ∀ override ∈ link.tools, override.name = server → override.enabled = some false)
    (active : runtime.state = .active connection (ExposedTool.ofLink base link)) :
    ((∀ tool ∈ ExposedTool.ofLink base link, tool.serverName = server → tool.enabled = false) ↔
        ¬ExposedTool.StaysOn base link server) ∧
      (¬ExposedTool.StaysOn base link server →
        ∀ others name arguments world deeds result final,
          Runs others (runtime.callTool name arguments) world deeds result final →
            ∀ deed ∈ deeds, deed.after.callsOf server = deed.before.callsOf server) ∧
      (ExposedTool.StaysOn base link server →
        ∀ arguments time world held, world.isClosed runtime = false →
          world.connection? connection = some held →
            ∃ result final,
              (runtime.callTool server arguments).complete time world =
                  some (result, time, final) ∧
                final.callsOf server =
                  world.callsOf server ++ [.call connection held.transport server arguments]) := by
  have surface := ExposedTool.ofLink_surface distinct link
  have reached := ExposedTool.reaches_off_iff base off
  have entries : (∀ tool ∈ ExposedTool.ofLink base link,
      tool.serverName = server → tool.enabled = false) ↔
        ¬ExposedTool.StaysOn base link server := by
    constructor
    · intro none_on holds
      have own := (reached server).mpr ⟨rfl, holds⟩
      obtain ⟨tool, member, enabled, same, -⟩ :=
        (ExposedTool.reaches_iff surface.distinct server server).mp own
      rw [none_on tool member same] at enabled
      contradiction
    · intro without tool member same
      by_contra enabled
      rw [Bool.not_eq_false] at enabled
      have own := (ExposedTool.reaches_iff surface.distinct tool.exposedName server).mpr
        ⟨tool, member, enabled, same, rfl⟩
      exact without ((reached tool.exposedName).mp own).2
  have listed : runtime.tools = ExposedTool.ofLink base link := by
    rw [PluginRuntime.tools, active]
  have connected : runtime.connection? = some connection := by
    rw [PluginRuntime.connection?, active]
  refine ⟨entries, ?_, ?_⟩
  · intro without others name arguments world deeds result final runs
    exact callTool_keeps (listed ▸ entries.mpr without) runs
  · intro holds arguments time world held given known
    obtain ⟨tool, meant, same⟩ := tool_of_reaches active ((reached server).mpr ⟨rfl, holds⟩)
    have called := callTool_reaches meant connected arguments time given known
    rw [same] at called
    exact called

/-- A server that can drop tables and query them. -/
def tableServer : List ToolInfo := [{ name := "drop" }, { name := "query" }]

/-- A link that switches dropping off, and renames it onto a name that is taken. -/
def dropRefused : PluginLink where
  registryId := "sql"
  tools := [{ name := "drop", enabled := some false, rename := some "query" }]

/-- The link with a second rename, onto a free name. -/
def dropRemoved : PluginLink where
  registryId := "sql"
  tools := dropRefused.tools ++
    [{ name := "drop", enabled := some false, rename := some "remove" }]

/-- A runtime of the second link. -/
def tableRuntime : PluginRuntime where
  number := 0
  registryId := "sql"
  kind := .perLink
  state := .active 0 (ExposedTool.ofLink tableServer dropRemoved)

theorem switched_off_drop :
    (tableServer.map (·.name)).Nodup ∧
      (∀ override ∈ dropRemoved.tools, override.name = "drop" → override.enabled = some false) ∧
      tableRuntime.state = .active 0 (ExposedTool.ofLink tableServer dropRemoved) ∧
      (∀ tool ∈ ExposedTool.ofLink tableServer dropRemoved,
        tool.serverName = "drop" → tool.enabled = false) ∧
      ∀ others name arguments world deeds result final,
        Runs others (tableRuntime.callTool name arguments) world deeds result final →
          ∀ deed ∈ deeds, deed.after.callsOf "drop" = deed.before.callsOf "drop" := by
  have distinct : (tableServer.map (·.name)).Nodup := by decide
  have off : ∀ override ∈ dropRemoved.tools,
      override.name = "drop" → override.enabled = some false := by decide
  have active : tableRuntime.state = .active 0 (ExposedTool.ofLink tableServer dropRemoved) := rfl
  have effect : ExposedTool.overridesInEffect tableServer dropRemoved "drop" ≠ [] := by decide
  have without : ¬ExposedTool.StaysOn tableServer dropRemoved "drop" := fun stays =>
    effect stays.2.2
  have settled := switched_off_iff distinct off active
  exact ⟨distinct, off, active, settled.1.mpr without, settled.2.1 without⟩

/-- Dropping is called all the same where the only override that switches it off is refused. -/
theorem refused_rename_stays_on :
    (tableServer.map (·.name)).Nodup ∧
      (∃ override ∈ dropRefused.tools, override.name = "drop") ∧
      (∀ override ∈ dropRefused.tools, override.name = "drop" → override.enabled = some false) ∧
      ∃ tool ∈ ExposedTool.ofLink tableServer dropRefused,
        tool.serverName = "drop" ∧ tool.enabled = true := by
  decide

end PluginRuntime

end AssistantEngine
