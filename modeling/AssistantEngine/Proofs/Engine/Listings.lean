import AssistantEngine.Proofs.Assistant.Advertisement
import AssistantEngine.Proofs.Plugin.Repetition

/-!
What calls through a plugin runtime reach, whatever the server reports. A link with its tools off by
default lets calls through only to tools that an override names without switching them off. What a
runtime lists can be called, unless the server reports the name several times and the first entry of
the name, which is the one that a call finds, is off.
-/

namespace AssistantEngine

open Activity (Deed Performs Runs)

namespace PluginRuntime

variable {runtime : PluginRuntime} {base : List ToolInfo} {link : PluginLink}
  {connection : ConnectionId} {name server : String}

/-! ## Sequences of calls -/

/-- Calls one tool after the other, each by a name and with arguments. -/
def callEach (runtime : PluginRuntime) :
    List (String × Json) → Activity World (List (Except Fault CallResult))
  | [] => return []
  | (name, arguments) :: rest => do
    let answer ← runtime.callTool name arguments
    let answers ← runtime.callEach rest
    return answer :: answers

/-- From one world to the next, nothing is exchanged with servers but calls over one connection, of
tools that are allowed. -/
def OnlyCalls (connection : ConnectionId) (allowed : String → Prop) (before after : World) : Prop :=
  ∃ received, after.exchanges = before.exchanges ++ received ∧
    ∀ exchange ∈ received, ∃ transport tool arguments,
      exchange = .call connection transport tool arguments ∧ allowed tool

variable {allowed : String → Prop} {arguments : Json}

theorem OnlyCalls.of_same {before after : World} (same : after.exchanges = before.exchanges) :
    OnlyCalls connection allowed before after :=
  ⟨[], by rw [same, List.append_nil], fun _ member => absurd member List.not_mem_nil⟩

theorem onlyCalls_answerCall (permitted : allowed server) (connection : ConnectionId)
    (arguments : Json) (world : World) :
    OnlyCalls connection allowed world
      (ToolServer.answerCall connection server arguments world).2 := by
  unfold ToolServer.answerCall
  cases world.connection? connection with
  | none => exact .of_same rfl
  | some held =>
      refine ⟨[.call connection held.transport server arguments], rfl, fun exchange member => ?_⟩
      exact ⟨held.transport, server, arguments, List.mem_singleton.mp member, permitted⟩

theorem intercept_performs (permitted : allowed server) :
    Performs (OnlyCalls connection allowed) (intercept connection server arguments) := by
  have same (world : World) : OnlyCalls connection allowed world world := .of_same rfl
  unfold intercept
  refine (Performs.now same).bind fun start => ?_
  have asked : Performs (OnlyCalls connection allowed)
      (ToolServer.callTool connection server arguments) :=
    (Performs.transact same (onlyCalls_answerCall permitted connection arguments)).bind
      fun _ => Performs.giveWay.bind fun _ => .done _
  refine asked.bind fun answer => ?_
  cases answer with
  | error fault => exact .done _
  | ok raw =>
      refine (Performs.now same).bind fun time => ?_
      exact (Performs.transact same fun _ => .of_same rfl).bind fun _ => .done _

/-- A call reaches a tool only through an entry that is on. -/
theorem callTool_performs (connected : ∀ id, runtime.connection? = some id → id = connection)
    (permitted : ∀ tool ∈ runtime.enabledTools, allowed tool.serverName) :
    Performs (OnlyCalls connection allowed) (runtime.callTool name arguments) := by
  have same (world : World) : OnlyCalls connection allowed world world := .of_same rfl
  unfold callTool
  split
  · exact .done _
  · rename_i tool id meant held
    refine (Performs.inspect same _).bind fun closed => ?_
    obtain rfl := connected id held
    obtain ⟨listed, enabled⟩ := mem_of_tool meant
    have on : allowed tool.serverName := permitted tool (List.mem_filter.mpr ⟨listed, enabled⟩)
    cases closed with
    | true => exact .done _
    | false => exact intercept_performs on
  · exact .done _

theorem callEach_performs (connected : ∀ id, runtime.connection? = some id → id = connection)
    (permitted : ∀ tool ∈ runtime.enabledTools, allowed tool.serverName)
    (calls : List (String × Json)) :
    Performs (OnlyCalls connection allowed) (runtime.callEach calls) := by
  induction calls with
  | nil => exact .done _
  | cons call rest induction =>
      refine (callTool_performs connected permitted).bind fun answer => ?_
      exact induction.bind fun answers => .done _

/-- A link with its tools off by default lets through what its overrides allow. Every entry that is
on stands for a tool that an override names without switching it off; and whatever sequence of calls
is made through a runtime of the link, and whatever goes on meanwhile, all that servers are sent is
calls of such tools. -/
theorem off_by_default_allows (base : List ToolInfo) (off : link.toolsDefaultEnabled = false) :
    (∀ tool ∈ ExposedTool.ofLink base link, tool.enabled = true → link.Allows tool.serverName) ∧
      ∀ (runtime : PluginRuntime) (connection : ConnectionId),
        runtime.state = .active connection (ExposedTool.ofLink base link) →
          ∀ calls others world deeds answers final,
            Runs others (runtime.callEach calls) world deeds answers final →
              ∀ deed ∈ deeds, OnlyCalls connection link.Allows deed.before deed.after := by
  have entries : ∀ tool ∈ ExposedTool.ofLink base link,
      tool.enabled = true → link.Allows tool.serverName :=
    fun tool member on => ExposedTool.allows_of_enabled off member on
  refine ⟨entries, fun runtime connection active calls others world deeds answers final runs => ?_⟩
  have listed : runtime.tools = ExposedTool.ofLink base link := by
    rw [PluginRuntime.tools, active]
  have connected : runtime.connection? = some connection := by
    rw [PluginRuntime.connection?, active]
  have permitted : ∀ tool ∈ runtime.enabledTools, link.Allows tool.serverName := by
    intro tool member
    obtain ⟨present, on⟩ := List.mem_filter.mp member
    exact entries tool (listed ▸ present) on
  have only : ∀ id, runtime.connection? = some id → id = connection := fun id held =>
    Option.some.inj (held.symm.trans connected)
  exact callEach_performs only permitted calls _ _ _ _ _ runs

/-- A server that reports one of its tools twice. -/
def queryingServer : List ToolInfo := [{ name := "query" }, { name := "drop" }, { name := "query" }]

/-- A link with its tools off by default, that lets the one tool through under a new name only, and
exposes the other one, which is off, under a new name as well. -/
def queryingLink : PluginLink where
  registryId := "sql"
  toolsDefaultEnabled := false
  tools := [{ name := "query", rename := some "ask" },
    { name := "drop", enabled := some false, rename := some "remove" }]

def queryingRuntime : PluginRuntime where
  number := 0
  registryId := "sql"
  kind := .perLink
  state := .active 0 (ExposedTool.ofLink queryingServer queryingLink)

/-- A world in which the server is connected, and answers every call with a fault. -/
def queryingWorld : World where
  registry := { directories := [] }
  artifacts := ArtifactStore.ofCapacity 8
  model := ChatModel.ofList "script" [] { result := .error (.model "silent") }
  reach _ := .error (.handshake "connection refused")
  connections := [{
    transport := .http "http://tools"
    server := { answer := fun _ _ _ => .error (.tool "out of order") } }]

theorem off_by_default_allows_ask :
    queryingLink.toolsDefaultEnabled = false ∧
      (∀ tool ∈ ExposedTool.ofLink queryingServer queryingLink,
        tool.enabled = true → queryingLink.Allows tool.serverName) ∧
      ∃ deeds answers final,
        Runs Eq (queryingRuntime.callEach [("ask", .null), ("remove", .null), ("query", .null)])
            queryingWorld deeds answers final ∧
          final.exchanges = [.call 0 (.http "http://tools") "query" .null] ∧
          ∀ deed ∈ deeds, OnlyCalls 0 queryingLink.Allows deed.before deed.after := by
  let calls : List (String × Json) := [("ask", .null), ("remove", .null), ("query", .null)]
  have off : queryingLink.toolsDefaultEnabled = false := rfl
  obtain ⟨entries, sent⟩ := off_by_default_allows queryingServer off
  have completed : (queryingRuntime.callEach calls).complete 0 queryingWorld =
    some (_, _, _) := rfl
  obtain ⟨deeds, ran⟩ := Runs.of_complete (fun _ => rfl) completed
  refine ⟨off, entries, deeds, _, _, ran, rfl, ?_⟩
  exact sent queryingRuntime 0 rfl calls Eq queryingWorld deeds _ _ ran

/-! ## Listings -/

/-- How a call of a tool that is off is refused. -/
def disabledFault (runtime : PluginRuntime) (name : String) : Fault :=
  .tool s!"tool '{name}' is disabled on plugin '{runtime.registryId}'"

theorem tool_of_disabled {tools : List ExposedTool} {tool : ExposedTool}
    (active : runtime.state = .active connection tools)
    (found : ExposedTool.exposedAs tools name = some tool) (off : tool.enabled = false) :
    runtime.tool name = .error (runtime.disabledFault name) := by
  have listed : runtime.tools.find? (·.exposedName = name) = some tool := by
    rw [PluginRuntime.tools, active]
    exact found
  simp only [PluginRuntime.tool, listed, off, Bool.false_eq_true, if_false, disabledFault]

theorem callTool_of_refused {fault : Fault} (refused : runtime.tool name = .error fault)
    (arguments : Json) : runtime.callTool name arguments = .done (.error fault) := by
  unfold callTool
  rw [refused]
  rfl

/-- What a runtime lists can be called under the name it is listed by, and the call reaches the tool
that the entry stands for, as long as the last override in effect on the tool of that name leaves it
on under its name. Otherwise the call is refused as that of a tool which is off; the server reports
the name several times then, and the link has its tools on by default. -/
theorem listed_reached_unless_withdrawn (active : runtime.state = .active connection
    (ExposedTool.ofLink base link)) {tool : ExposedTool} (listed : tool ∈ runtime.enabledTools) :
    (¬ExposedTool.Withdrawn base link tool.exposedName →
        runtime.Reaches tool.exposedName tool.serverName) ∧
      (ExposedTool.Withdrawn base link tool.exposedName →
        (∀ arguments, runtime.callTool tool.exposedName arguments =
            .done (.error (runtime.disabledFault tool.exposedName))) ∧
          link.toolsDefaultEnabled = true ∧
          List.Duplicate tool.exposedName (base.map (·.name))) := by
  obtain ⟨member, on⟩ := List.mem_filter.mp listed
  rw [PluginRuntime.tools, active] at member
  have callable := ExposedTool.reaches_iff_not_withdrawn member on
  constructor
  · intro kept
    obtain ⟨meant, looked, same⟩ := tool_of_reaches active (callable.mpr kept)
    rw [← same]
    exact reaches_of_tool looked
  · intro withdrawn
    have unreached : ExposedTool.reaches (ExposedTool.ofLink base link) tool.exposedName
        tool.serverName ≠ true := fun reached => callable.mp reached withdrawn
    rcases ExposedTool.first_or_repeated member with found | ⟨asDefault, repeated⟩
    · exact absurd (by simp [ExposedTool.reaches, found, on]) unreached
    · refine ⟨fun arguments => ?_, asDefault.symm.trans on, repeated⟩
      -- The first entry of the name stands for the same tool, so it is off.
      cases found : ExposedTool.exposedAs (ExposedTool.ofLink base link) tool.exposedName with
      | none => simpa using List.find?_eq_none.mp found tool member
      | some first =>
          have same : first.serverName = tool.serverName :=
            (ExposedTool.ofLink_roster base link).agreed first (ExposedTool.mem_of_exposedAs found)
              tool member (ExposedTool.exposedName_of_exposedAs found)
          have off : first.enabled = false := by
            simpa [ExposedTool.reaches, found, same] using unreached
          exact callTool_of_refused (tool_of_disabled active found off) arguments

/-- A link that switches off the tool that the server reports twice. -/
def guardedLink : PluginLink where
  registryId := "sql"
  tools := [{ name := "query", enabled := some false }]

def guardedRuntime : PluginRuntime where
  number := 0
  registryId := "sql"
  kind := .perLink
  state := .active 0 (ExposedTool.ofLink queryingServer guardedLink)

theorem listed_reached_unless_withdrawn_query :
    guardedRuntime.enabledTools.map (·.exposedName) = ["drop", "query"] ∧
      guardedRuntime.Reaches "drop" "drop" ∧
      (∀ arguments, guardedRuntime.callTool "query" arguments =
        .done (.error (guardedRuntime.disabledFault "query"))) ∧
      List.Duplicate "query" (queryingServer.map (·.name)) := by
  have active : guardedRuntime.state =
    .active 0 (ExposedTool.ofLink queryingServer guardedLink) := rfl
  have first : ToolInfo.exposed { name := "drop" } true ∈ guardedRuntime.enabledTools :=
    List.mem_cons_self
  have second : ToolInfo.exposed { name := "query" } true ∈ guardedRuntime.enabledTools :=
    List.mem_cons_of_mem _ List.mem_cons_self
  have drop := listed_reached_unless_withdrawn active first
  have query := listed_reached_unless_withdrawn active second
  have kept : ¬ExposedTool.Withdrawn queryingServer guardedLink "drop" := by
    rintro ⟨last, final, -⟩
    cases final
  obtain ⟨refused, -, repeated⟩ := query.2 ⟨_, rfl, .inr rfl⟩
  exact ⟨rfl, drop.1 kept, refused, repeated⟩

/-- A tool that is listed, but cannot be called although its server is connected. -/
theorem listed_refused :
    (∃ tool ∈ guardedRuntime.enabledTools, tool.exposedName = "query") ∧
      (queryingWorld.connection? 0).isSome = true ∧
      queryingWorld.isClosed guardedRuntime = false ∧
      ∀ arguments, guardedRuntime.callTool "query" arguments =
        .done (.error (.tool "tool 'query' is disabled on plugin 'sql'")) := by
  have listed : ToolInfo.exposed { name := "query" } true ∈ guardedRuntime.enabledTools :=
    List.mem_cons_of_mem _ List.mem_cons_self
  exact ⟨⟨_, listed, rfl⟩, rfl, rfl, fun _ => rfl⟩

end PluginRuntime

end AssistantEngine
