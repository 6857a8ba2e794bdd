import Mathlib.Data.List.Forall2
import AssistantEngine.Proofs.Plugin.Overrides

/-!
How the tools that a link exposes are laid out. The tools of the server come first, in their order
and each under its own name; aliases follow, under names that no tool of the server has. Every entry
has the schema of the tool that it stands for. An override adds an entry at the end or none at all,
so that a name, once exposed, stays and stands for the same tool.
-/

namespace AssistantEngine.ExposedTool

variable {base : List ToolInfo} {tools next : List ExposedTool} {override : ToolOverride}
  {tool : ExposedTool} {info : ToolInfo} {name : String}

/-! ## Entries and tools -/

/-- An entry stands for a tool of the server: it calls the tool and has the tool's schema. -/
def StandsFor (tool : ExposedTool) (info : ToolInfo) : Prop :=
  tool.serverName = info.name ∧ tool.inputSchema = info.inputSchema

/-- The entry of a tool itself. -/
def IsOwn (tool : ExposedTool) (info : ToolInfo) : Prop :=
  tool.exposedName = info.name ∧ tool.StandsFor info

/-- The entry of an alias: it stands for a tool of the server, under a name that none of them has. -/
def IsAlias (base : List ToolInfo) (tool : ExposedTool) : Prop :=
  tool.exposedName ∉ base.map (·.name) ∧ ∃ info ∈ base, tool.StandsFor info

/-- The tools of the server, each in an entry of its own, and then aliases; no name twice. -/
structure Layout (base : List ToolInfo) (tools : List ExposedTool) : Prop where
  parts : ∃ own aliases, tools = own ++ aliases ∧ List.Forall₂ IsOwn own base ∧
    ∀ tool ∈ aliases, IsAlias base tool
  distinct : (tools.map (·.exposedName)).Nodup

/-! ## Schemas -/

/-- Every entry stands for a tool of the server. -/
def Faithful (base : List ToolInfo) (tools : List ExposedTool) : Prop :=
  ∀ tool ∈ tools, ∃ info ∈ base, tool.StandsFor info

theorem mem_updateFirst {change : ExposedTool → ExposedTool}
    (member : tool ∈ updateFirst name change tools) :
    tool ∈ tools ∨ ∃ old ∈ tools, tool = change old := by
  induction tools with
  | nil => cases member
  | cons first rest induction =>
      unfold updateFirst at member
      split at member
      · rcases List.mem_cons.mp member with changed | later
        · exact .inr ⟨first, List.mem_cons_self, changed⟩
        · exact .inl (List.mem_cons_of_mem _ later)
      · rcases List.mem_cons.mp member with same | later
        · exact .inl (same ▸ List.mem_cons_self)
        · rcases induction later with kept | ⟨old, among, changed⟩
          · exact .inl (List.mem_cons_of_mem _ kept)
          · exact .inr ⟨old, List.mem_cons_of_mem _ among, changed⟩

namespace Faithful

theorem initial (base : List ToolInfo) (enabled : Bool) :
    Faithful base (base.map (·.exposed enabled)) := by
  intro tool member
  obtain ⟨info, known, rfl⟩ := List.mem_map.mp member
  exact ⟨info, known, rfl, rfl⟩

theorem updateFirst {change : ExposedTool → ExposedTool} (faithful : Faithful base tools)
    (changed : ∀ tool ∈ tools, ∃ info ∈ base, (change tool).StandsFor info) :
    Faithful base (updateFirst name change tools) := by
  intro tool member
  rcases mem_updateFirst member with kept | ⟨old, among, rfl⟩
  · exact faithful tool kept
  · exact changed old among

theorem replaceOrAdd (faithful : Faithful base tools)
    (stands : ∃ info ∈ base, tool.StandsFor info) :
    Faithful base (replaceOrAdd tools name tool) := by
  unfold ExposedTool.replaceOrAdd
  split
  · exact faithful.updateFirst fun _ _ => stands
  · intro entry member
    rcases List.mem_append.mp member with kept | added
    · exact faithful entry kept
    · exact List.mem_singleton.mp added ▸ stands

end Faithful

/-- An override leaves every entry with the tool that it stands for, and an alias stands for the tool
of the override. -/
theorem Overriding.faithful (overriding : Overriding base tools override next)
    (faithful : Faithful base tools) : Faithful base next := by
  cases overriding with
  | ignored without => exact faithful
  | adjusted member own effect kept => exact faithful.updateFirst faithful
  | @renamed info name member own effect given free =>
      have switchedOff : Faithful base
          (updateFirst override.name (fun tool => { tool with enabled := false }) tools) :=
        faithful.updateFirst faithful
      have stands : (aliased override info name).StandsFor info := ⟨rfl, rfl⟩
      exact switchedOff.replaceOrAdd ⟨info, member, stands⟩

theorem Faithful.foldl (overrides : List ToolOverride) (faithful : Faithful base tools) :
    Faithful base (overrides.foldl (applyOverride base) tools) := by
  induction overrides generalizing tools with
  | nil => exact faithful
  | cons override rest induction =>
      exact induction ((applyOverride_overriding base tools override).faithful faithful)

theorem ofLink_faithful (base : List ToolInfo) (link : PluginLink) :
    Faithful base (ofLink base link) :=
  (Faithful.initial base link.toolsDefaultEnabled).foldl link.tools

/-! ## Layouts -/

/-- Where the tools of the server have different names, an entry stands for the tool that it calls. -/
theorem Faithful.standsFor (faithful : Faithful base tools) (distinct : (base.map (·.name)).Nodup)
    (member : tool ∈ tools) (known : info ∈ base) (server : tool.serverName = info.name) :
    tool.StandsFor info := by
  obtain ⟨other, among, stands⟩ := faithful tool member
  have same : other = info :=
    List.inj_on_of_nodup_map distinct among known (stands.1.symm.trans server)
  exact same ▸ stands

theorem Surface.layout (surface : Surface base tools) (faithful : Faithful base tools)
    (distinct : (base.map (·.name)).Nodup) : Layout base tools where
  parts := by
    obtain ⟨added, whole⟩ := surface.own
    obtain ⟨own, aliases, split, front, back⟩ := List.map_eq_append_iff.mp whole.symm
    refine ⟨own, aliases, split, ?_, fun tool member => ⟨fun taken => ?_, ?_⟩⟩
    · have paired : List.Forall₂ (fun tool info =>
          (tool.exposedName, tool.serverName) = (info.name, info.name)) own base := by
        have equal := List.forall₂_eq_eq_eq ▸ front
        rwa [List.forall₂_map_left_iff, List.forall₂_map_right_iff] at equal
      apply List.forall₂_iff_zip.mpr
      refine ⟨paired.length_eq, fun {tool info} together => ?_⟩
      obtain ⟨exposed, server⟩ := Prod.mk.inj ((List.forall₂_iff_zip.mp paired).2 together)
      have among : tool ∈ tools := split ▸ List.mem_append_left _ (List.of_mem_zip together).1
      exact ⟨exposed, faithful.standsFor distinct among (List.of_mem_zip together).2 server⟩
    · -- The name of a tool of the server is exposed in the first part already.
      have names : own.map (·.exposedName) = base.map (·.name) := by
        simpa [Function.comp_def] using congrArg (List.map Prod.fst) front
      have apart := surface.distinct
      rw [split, List.map_append, List.nodup_append, names] at apart
      exact apart.2.2 _ taken _ (List.mem_map_of_mem member) rfl
    · exact faithful tool (split ▸ List.mem_append_right _ member)
  distinct := surface.distinct

/-! ## Names that stay -/

/-- An override leaves the names as they are, or adds one at the end. -/
theorem Overriding.names_grow (overriding : Overriding base tools override next) :
    names tools <+: names next := by
  rcases overriding.names_eq with same | ⟨info, -, name, -, added⟩
  · exact same ▸ List.prefix_rfl
  · exact added ▸ List.prefix_append _ _

theorem names_grow_foldl (base : List ToolInfo) (tools : List ExposedTool)
    (overrides : List ToolOverride) :
    names tools <+: names (overrides.foldl (applyOverride base) tools) := by
  induction overrides generalizing tools with
  | nil => exact List.prefix_rfl
  | cons override rest induction =>
      exact (applyOverride_overriding base tools override).names_grow.trans (induction _)

/-- The exposed tools of every link, whatever its overrides: the tools of the server in order, each
under its own name with its own schema, then aliases of them under further names, and no name twice.
What the first overrides have exposed, the later ones leave exposed, in the same place and for the
same tool. -/
theorem ofLink_layout (distinct : (base.map (·.name)).Nodup) (link : PluginLink) :
    Layout base (ofLink base link) ∧
      ∀ earlier later, link.tools = earlier ++ later →
        names (ofLink base { link with tools := earlier }) <+: names (ofLink base link) := by
  constructor
  · exact (ofLink_surface distinct link).layout (ofLink_faithful base link) distinct
  · intro earlier later split
    unfold ofLink
    rw [split, List.foldl_append]
    exact names_grow_foldl base _ later

/-- A server that reads from a ledger and writes to it. -/
def ledgerServer : List ToolInfo := [{ name := "read", inputSchema := .null }, { name := "write" }]

/-- A link that renames the second tool, once to a name that is free and once to that of the first
tool; then it tries to give the alias to the first tool. -/
def ledgerLink : PluginLink where
  registryId := "ledger"
  tools := [{ name := "write", rename := some "post" }, { name := "write", rename := some "read" },
    { name := "read", rename := some "post" }]

theorem ofLink_layout_ledger :
    (ledgerServer.map (·.name)).Nodup ∧ Layout ledgerServer (ofLink ledgerServer ledgerLink) ∧
      names (ofLink ledgerServer { ledgerLink with tools := ledgerLink.tools.take 1 }) <+:
        names (ofLink ledgerServer ledgerLink) ∧
      names (ofLink ledgerServer ledgerLink) =
        [("read", "read"), ("write", "write"), ("post", "write")] := by
  have distinct : (ledgerServer.map (·.name)).Nodup := by decide
  have laid := ofLink_layout distinct ledgerLink
  have first : ledgerLink.tools = ledgerLink.tools.take 1 ++ ledgerLink.tools.drop 1 :=
    (List.take_append_drop 1 ledgerLink.tools).symm
  exact ⟨distinct, laid.1, laid.2 _ _ first, by decide⟩

end AssistantEngine.ExposedTool
