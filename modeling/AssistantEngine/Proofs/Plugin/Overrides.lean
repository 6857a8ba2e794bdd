import Mathlib.Data.List.Nodup
import AssistantEngine.Plugin.Tool
import AssistantEngine.Proofs.Catalog

/-!
What the overrides of a link do to the tools of a server. The tools of the server come first, each
under its own name, and after them the aliases. A name stands for one tool only, however often it is
exposed, and it is exposed once if the server reports no name twice. An override changes the first
entry of the tool that it names, and if it renames the tool the entry of the alias; the last override
that takes effect decides.
-/

namespace AssistantEngine

namespace ToolOverride

/-- The new name that an override gives to its tool. -/
def alias? (override : ToolOverride) : Option String := override.rename.filter (· ≠ override.name)

/-- Whether an override switches on what it exposes. -/
def enables (override : ToolOverride) : Bool := override.enabled.getD true

/-- Whether an override decides about a name: that of its tool, and the new one. -/
def concerns (override : ToolOverride) (name : String) : Bool :=
  name = override.name || override.alias? = some name

/-- Whether an override switches a name on. The own name of a tool that it renames goes off. -/
def switchesOn (override : ToolOverride) (name : String) : Bool :=
  override.enables && override.alias?.getD override.name = name

theorem alias?_ne {override : ToolOverride} {name : String} (given : override.alias? = some name) :
    name ≠ override.name := by
  simpa using (Option.filter_eq_some_iff.mp given).2

end ToolOverride

namespace ExposedTool

variable {base : List ToolInfo} {tools : List ExposedTool} {override : ToolOverride}
  {name other : String} {tool : ExposedTool}

/-! ## Entries by name -/

/-- The entry that is exposed under a name. -/
def exposedAs (tools : List ExposedTool) (name : String) : Option ExposedTool :=
  tools.find? (·.exposedName = name)

theorem exposedName_of_exposedAs (found : exposedAs tools name = some tool) :
    tool.exposedName = name := by
  simpa using List.find?_some found

theorem mem_of_exposedAs (found : exposedAs tools name = some tool) : tool ∈ tools :=
  List.mem_of_find?_eq_some found

theorem exposedAs_of_mem (distinct : (tools.map (·.exposedName)).Nodup) (member : tool ∈ tools) :
    exposedAs tools tool.exposedName = some tool := find?_of_nodup distinct member

theorem isExposed_eq (tools : List ExposedTool) (name : String) :
    isExposed tools name = (exposedAs tools name).isSome := by
  unfold isExposed exposedAs
  rw [Bool.eq_iff_iff, List.find?_isSome, List.any_eq_true]

theorem exposedAs_updateFirst {change : ExposedTool → ExposedTool}
    (kept : ∀ tool, tool.exposedName = name → (change tool).exposedName = name)
    (tools : List ExposedTool) (other : String) :
    exposedAs (updateFirst name change tools) other =
      if other = name then (exposedAs tools name).map change else exposedAs tools other := by
  unfold exposedAs
  induction tools with
  | nil => simp [updateFirst]
  | cons tool rest induction =>
      unfold updateFirst
      by_cases here : tool.exposedName = name
      · have same := kept tool here
        by_cases asked : other = name
        · subst asked
          simp [here, same]
        · simp [here, same, asked, Ne.symm asked]
      · rw [if_neg here]
        by_cases asked : tool.exposedName = other
        · have different : other ≠ name := fun equal => here (asked.trans equal)
          simp [asked, different]
        · simp [asked, here, induction]

theorem exposedAs_replaceOrAdd (named : tool.exposedName = name) (tools : List ExposedTool)
    (other : String) :
    exposedAs (replaceOrAdd tools name tool) other =
      if other = name then some tool else exposedAs tools other := by
  unfold replaceOrAdd
  rw [isExposed_eq]
  cases found : exposedAs tools name with
  | some first =>
      rw [Option.isSome_some, if_pos rfl, exposedAs_updateFirst fun _ _ => named, found]
      rfl
  | none =>
      rw [Option.isSome_none, if_neg Bool.false_ne_true]
      unfold exposedAs at found ⊢
      rw [List.find?_append]
      by_cases asked : other = name
      · subst asked
        simp [found, named]
      · simp [named, asked, Ne.symm asked]

/-! ## Names -/

/-- Under which name a list exposes which tool, entry by entry. -/
def names (tools : List ExposedTool) : List (String × String) :=
  tools.map fun tool => (tool.exposedName, tool.serverName)

theorem names_updateFirst {change : ExposedTool → ExposedTool} {tools : List ExposedTool}
    (kept : ∀ tool ∈ tools, tool.exposedName = name →
      (change tool).exposedName = name ∧ (change tool).serverName = tool.serverName) :
    names (updateFirst name change tools) = names tools := by
  induction tools with
  | nil => rfl
  | cons tool rest induction =>
      unfold updateFirst
      unfold names at induction ⊢
      split
      · rename_i here
        have same := kept tool List.mem_cons_self here
        simp [same.1, same.2, here]
      · have later := induction fun tool member => kept tool (List.mem_cons_of_mem _ member)
        rw [List.map_cons, List.map_cons, later]

theorem names_replaceOrAdd {tools : List ExposedTool} (named : tool.exposedName = name)
    (own : ∀ other ∈ tools, other.exposedName = name → other.serverName = tool.serverName) :
    names (replaceOrAdd tools name tool) = names tools ∨
      name ∉ tools.map (·.exposedName) ∧
        names (replaceOrAdd tools name tool) = names tools ++ [(name, tool.serverName)] := by
  unfold replaceOrAdd
  split
  · refine .inl (names_updateFirst fun other member here => ?_)
    exact ⟨named, (own other member here).symm⟩
  · rename_i absent
    refine .inr ⟨fun member => ?_, ?_⟩
    · obtain ⟨other, member, same⟩ := List.mem_map.mp member
      exact absent (List.any_eq_true.mpr ⟨other, member, by simpa using same⟩)
    · simp [names, named]

/-! ## Overrides -/

/-- Whether an override takes effect: the server has the tool, and a new name is not exposed for
another tool. -/
def takesEffect (base : List ToolInfo) (tools : List ExposedTool) (override : ToolOverride) :
    Bool :=
  base.any (·.name = override.name) &&
    match override.alias? with
    | some name =>
      !tools.any fun tool => tool.exposedName = name && tool.serverName ≠ override.name
    | none => true

/-- The entry of an alias. -/
def aliased (override : ToolOverride) (info : ToolInfo) (name : String) : ExposedTool where
  exposedName := name
  serverName := info.name
  description := override.description.getD info.description
  inputSchema := info.inputSchema
  enabled := override.enables

/-- The tools once an alias is exposed. The own entry of the tool goes off. -/
def withAlias (tools : List ExposedTool) (override : ToolOverride) (info : ToolInfo)
    (name : String) : List ExposedTool :=
  replaceOrAdd (updateFirst override.name (fun tool => { tool with enabled := false }) tools) name
    (aliased override info name)

theorem exposedAs_adjust (tools : List ExposedTool) (override : ToolOverride) (info : ToolInfo)
    (name : String) :
    exposedAs (adjust tools override info) name =
      if name = override.name then
        (exposedAs tools override.name).map fun tool =>
          { tool with
            enabled := override.enables
            description := override.description.getD info.description }
      else exposedAs tools name := by
  apply exposedAs_updateFirst
  exact fun _ named => named

theorem exposedAs_withAlias (tools : List ExposedTool) (override : ToolOverride) (info : ToolInfo)
    (fresh other : String) :
    exposedAs (withAlias tools override info fresh) other =
      if other = fresh then some (aliased override info fresh)
      else if other = override.name then
        (exposedAs tools override.name).map fun tool => { tool with enabled := false }
      else exposedAs tools other := by
  have named : (aliased override info fresh).exposedName = fresh := rfl
  unfold withAlias
  rw [exposedAs_replaceOrAdd named]
  congr 1
  apply exposedAs_updateFirst
  exact fun _ named => named

/-- How an override goes. -/
inductive Overriding (base : List ToolInfo) (tools : List ExposedTool) (override : ToolOverride) :
    List ExposedTool → Prop where
  | ignored (without : takesEffect base tools override = false) :
      Overriding base tools override tools
  | adjusted {info : ToolInfo} (member : info ∈ base) (own : info.name = override.name)
      (effect : takesEffect base tools override = true) (kept : override.alias? = none) :
      Overriding base tools override (adjust tools override info)
  | renamed {info : ToolInfo} {name : String} (member : info ∈ base)
      (own : info.name = override.name) (effect : takesEffect base tools override = true)
      (given : override.alias? = some name)
      (free : ∀ tool ∈ tools, tool.exposedName = name → tool.serverName = override.name) :
      Overriding base tools override (withAlias tools override info name)

theorem applyOverride_overriding (base : List ToolInfo) (tools : List ExposedTool)
    (override : ToolOverride) :
    Overriding base tools override (applyOverride base tools override) := by
  unfold applyOverride
  cases found : base.find? (·.name = override.name) with
  | none =>
      apply Overriding.ignored
      have unknown : base.any (·.name = override.name) = false := by
        simpa using List.find?_eq_none.mp found
      simp [takesEffect, unknown]
  | some info =>
      have member : info ∈ base := List.mem_of_find?_eq_some found
      have own : info.name = override.name := by simpa using List.find?_some found
      have known : base.any (·.name = override.name) = true :=
        List.any_eq_true.mpr ⟨info, member, by simpa using own⟩
      change Overriding base tools override
        (match override.alias? with
          | some name => rename tools override info name
          | none => adjust tools override info)
      cases given : override.alias? with
      | none =>
          refine .adjusted member own ?_ given
          simp [takesEffect, known, given]
      | some name =>
          dsimp only
          unfold rename
          split
          · rename_i taken
            rw [own] at taken
            apply Overriding.ignored
            simp only [takesEffect, known, given, taken, Bool.not_true, Bool.and_false]
          · rename_i free
            rw [own] at free
            refine .renamed member own ?_ given ?_
            · simp only [takesEffect, known, given, Bool.true_and]
              simpa using free
            · intro tool member here
              by_contra elsewhere
              exact free (List.any_eq_true.mpr ⟨tool, member, by simp [here, elsewhere]⟩)

theorem exposedName_of_names {next : List ExposedTool} (same : names next = names tools) :
    next.map (·.exposedName) = tools.map (·.exposedName) := by
  simpa [names, Function.comp_def] using congrArg (List.map Prod.fst) same

theorem mem_of_names {next : List ExposedTool} (same : names next = names tools)
    (member : tool ∈ next) :
    ∃ old ∈ tools, old.exposedName = tool.exposedName ∧ old.serverName = tool.serverName := by
  have named : (tool.exposedName, tool.serverName) ∈ names next := List.mem_map_of_mem member
  rw [same] at named
  simpa [names] using named

theorem mem_of_names_append {next : List ExposedTool} {server : String}
    (added : names next = names tools ++ [(name, server)]) (member : tool ∈ next) :
    (∃ old ∈ tools, old.exposedName = tool.exposedName ∧ old.serverName = tool.serverName) ∨
      tool.exposedName = name ∧ tool.serverName = server := by
  have named : (tool.exposedName, tool.serverName) ∈ names next := List.mem_map_of_mem member
  rw [added, List.mem_append, List.mem_singleton, Prod.mk.injEq] at named
  refine named.imp_left fun old => ?_
  simpa [names] using old

/-! ## Rosters -/

/-- The tools of a server come first, each under its own name, and a name that is exposed several
times stands for the same tool each time. A server may report a name several times. -/
structure Roster (base : List ToolInfo) (tools : List ExposedTool) : Prop where
  own : (base.map fun info => (info.name, info.name)) <+: names tools
  agreed : ∀ first ∈ tools, ∀ second ∈ tools,
    first.exposedName = second.exposedName → first.serverName = second.serverName

namespace Roster

theorem initial (base : List ToolInfo) (enabled : Bool) :
    Roster base (base.map (·.exposed enabled)) where
  own := by simp [names, ToolInfo.exposed, Function.comp_def]
  agreed first member second other same := by
    obtain ⟨info, -, rfl⟩ := List.mem_map.mp member
    obtain ⟨also, -, rfl⟩ := List.mem_map.mp other
    exact same

theorem of_names {next : List ExposedTool} (roster : Roster base tools)
    (same : names next = names tools) : Roster base next where
  own := same ▸ roster.own
  agreed first member second other equal := by
    obtain ⟨old, present, exposed, server⟩ := mem_of_names same member
    obtain ⟨also, among, named, called⟩ := mem_of_names same other
    rw [← server, ← called]
    exact roster.agreed old present also among (exposed.trans (equal.trans named.symm))

theorem of_append {next : List ExposedTool} {server : String} (roster : Roster base tools)
    (fresh : name ∉ tools.map (·.exposedName))
    (added : names next = names tools ++ [(name, server)]) : Roster base next where
  own := added ▸ roster.own.trans (List.prefix_append _ _)
  agreed first member second other equal := by
    -- The new name is that of no entry that was there before.
    have apart : ∀ old ∈ tools, old.exposedName ≠ name := fun old present same =>
      fresh (same ▸ List.mem_map_of_mem present)
    rcases mem_of_names_append added member with ⟨old, present, exposed, called⟩ | ⟨exposed, called⟩
    · rcases mem_of_names_append added other with ⟨also, among, named, same⟩ | ⟨named, same⟩
      · rw [← called, ← same]
        exact roster.agreed old present also among (exposed.trans (equal.trans named.symm))
      · exact absurd (exposed.trans (equal.trans named)) (apart old present)
    · rcases mem_of_names_append added other with ⟨also, among, named, same⟩ | ⟨named, same⟩
      · exact absurd (named.trans (equal.symm.trans exposed)) (apart also among)
      · exact called.trans same.symm

/-- A tool of the server is exposed under its own name, on or off. -/
theorem exposedAs_own {info : ToolInfo} (roster : Roster base tools) (member : info ∈ base) :
    ∃ tool, exposedAs tools info.name = some tool ∧ tool.serverName = info.name := by
  have named : (info.name, info.name) ∈ names tools :=
    roster.own.subset (List.mem_map.mpr ⟨info, member, rfl⟩)
  obtain ⟨tool, present, equal⟩ := List.mem_map.mp named
  simp only [Prod.mk.injEq] at equal
  cases found : exposedAs tools info.name with
  | none =>
      have absent := List.find?_eq_none.mp found tool present
      simp [equal.1] at absent
  | some first =>
      have same := (exposedName_of_exposedAs found).trans equal.1.symm
      exact ⟨first, rfl, (roster.agreed first (mem_of_exposedAs found) tool present same).trans
        equal.2⟩

theorem serverName_own {info : ToolInfo} (roster : Roster base tools) (member : info ∈ base)
    (present : tool ∈ tools) (exposed : tool.exposedName = info.name) :
    tool.serverName = info.name := by
  obtain ⟨own, found, same⟩ := roster.exposedAs_own member
  have named := exposed.trans (exposedName_of_exposedAs found).symm
  exact (roster.agreed tool present own (mem_of_exposedAs found) named).trans same

end Roster

/-! ## Surfaces -/

/-- The tools of a server come first, each under its own name, and after them aliases of these tools.
All names are different. -/
structure Surface (base : List ToolInfo) (tools : List ExposedTool) : Prop where
  own : (base.map fun info => (info.name, info.name)) <+: names tools
  known : ∀ tool ∈ tools, ∃ info ∈ base, info.name = tool.serverName
  distinct : (tools.map (·.exposedName)).Nodup

namespace Surface

theorem initial (distinct : (base.map (·.name)).Nodup) (enabled : Bool) :
    Surface base (base.map (·.exposed enabled)) where
  own := by simp [names, ToolInfo.exposed, Function.comp_def]
  known tool member := by
    obtain ⟨info, known, rfl⟩ := List.mem_map.mp member
    exact ⟨info, known, rfl⟩
  distinct := by simpa [ToolInfo.exposed, Function.comp_def] using distinct

theorem of_names {next : List ExposedTool} (surface : Surface base tools)
    (same : names next = names tools) : Surface base next where
  own := same ▸ surface.own
  known tool member := by
    obtain ⟨old, oldMember, -, server⟩ := mem_of_names same member
    rw [← server]
    exact surface.known old oldMember
  distinct := exposedName_of_names same ▸ surface.distinct

theorem of_append {next : List ExposedTool} {info : ToolInfo} (surface : Surface base tools)
    (member : info ∈ base) (fresh : name ∉ tools.map (·.exposedName))
    (added : names next = names tools ++ [(name, info.name)]) : Surface base next where
  own := added ▸ surface.own.trans (List.prefix_append _ _)
  known tool present := by
    rcases mem_of_names_append added present with ⟨old, oldMember, -, server⟩ | ⟨-, server⟩
    · rw [← server]
      exact surface.known old oldMember
    · exact ⟨info, member, server.symm⟩
  distinct := by
    have exposed : next.map (·.exposedName) = tools.map (·.exposedName) ++ [name] := by
      simpa [names, Function.comp_def] using congrArg (List.map Prod.fst) added
    rw [exposed, List.nodup_append]
    refine ⟨surface.distinct, List.nodup_singleton name, ?_⟩
    intro old member new equal same
    rw [List.mem_singleton] at equal
    exact fresh (equal ▸ same ▸ member)

theorem roster (surface : Surface base tools) : Roster base tools where
  own := surface.own
  agreed first member second other same := by
    rw [List.inj_on_of_nodup_map surface.distinct member other same]

end Surface

/-- What an override keeps of the names: they are the same, or a new alias follows. -/
theorem Overriding.names_eq {next : List ExposedTool}
    (overriding : Overriding base tools override next) :
    names next = names tools ∨
      ∃ info ∈ base, ∃ name, name ∉ tools.map (·.exposedName) ∧
        names next = names tools ++ [(name, info.name)] := by
  cases overriding with
  | ignored without => exact .inl rfl
  | adjusted member own effect kept =>
      exact .inl (names_updateFirst fun tool _ named => ⟨named, rfl⟩)
  | @renamed info name member own effect given free =>
      have same : names
          (updateFirst override.name (fun tool => { tool with enabled := false }) tools) =
            names tools :=
        names_updateFirst fun tool _ named => ⟨named, rfl⟩
      have named : (aliased override info name).exposedName = name := rfl
      have added := names_replaceOrAdd named fun tool member here => by
        obtain ⟨old, oldMember, exposed, server⟩ := mem_of_names same member
        rw [← server]
        exact (free old oldMember (exposed.trans here)).trans own.symm
      rw [same, exposedName_of_names same] at added
      rcases added with kept | ⟨fresh, added⟩
      · exact .inl kept
      · exact .inr ⟨info, member, name, fresh, added⟩

theorem Overriding.surface {next : List ExposedTool}
    (overriding : Overriding base tools override next) (surface : Surface base tools) :
    Surface base next := by
  rcases overriding.names_eq with same | ⟨info, member, name, fresh, added⟩
  · exact surface.of_names same
  · exact surface.of_append member fresh added

theorem Surface.foldl (overrides : List ToolOverride) (surface : Surface base tools) :
    Surface base (overrides.foldl (applyOverride base) tools) := by
  induction overrides generalizing tools with
  | nil => exact surface
  | cons override rest induction =>
      exact induction ((applyOverride_overriding base tools override).surface surface)

theorem ofLink_surface (distinct : (base.map (·.name)).Nodup) (link : PluginLink) :
    Surface base (ofLink base link) :=
  (Surface.initial distinct link.toolsDefaultEnabled).foldl link.tools

theorem Overriding.roster {next : List ExposedTool}
    (overriding : Overriding base tools override next) (roster : Roster base tools) :
    Roster base next := by
  rcases overriding.names_eq with same | ⟨info, -, name, fresh, added⟩
  · exact roster.of_names same
  · exact roster.of_append fresh added

theorem Roster.foldl (overrides : List ToolOverride) (roster : Roster base tools) :
    Roster base (overrides.foldl (applyOverride base) tools) := by
  induction overrides generalizing tools with
  | nil => exact roster
  | cons override rest induction =>
      exact induction ((applyOverride_overriding base tools override).roster roster)

theorem ofLink_roster (base : List ToolInfo) (link : PluginLink) :
    Roster base (ofLink base link) :=
  (Roster.initial base link.toolsDefaultEnabled).foldl link.tools

/-! ## Which name reaches which tool -/

/-- Whether a call under a name reaches a tool of the server. -/
def reaches (tools : List ExposedTool) (name server : String) : Bool :=
  (exposedAs tools name).any fun tool => tool.serverName = server && tool.enabled

theorem reaches_iff (distinct : (tools.map (·.exposedName)).Nodup) (name server : String) :
    reaches tools name server = true ↔
      ∃ tool ∈ tools, tool.enabled = true ∧ tool.serverName = server ∧ tool.exposedName = name := by
  unfold reaches
  rw [Option.any_eq_true]
  constructor
  · rintro ⟨tool, found, allowed⟩
    rw [Bool.and_eq_true, decide_eq_true_eq] at allowed
    exact ⟨tool, mem_of_exposedAs found, allowed.2, allowed.1, exposedName_of_exposedAs found⟩
  · rintro ⟨tool, member, enabled, server, rfl⟩
    exact ⟨tool, exposedAs_of_mem distinct member, by simp [enabled, server]⟩

namespace Overriding

variable {next : List ExposedTool}

/-- A name that an override does not decide about keeps its entry. -/
theorem exposedAs_kept (overriding : Overriding base tools override next)
    (aside : override.concerns name = false) : exposedAs next name = exposedAs tools name := by
  have different : name ≠ override.name := fun same => by simp [ToolOverride.concerns, same] at aside
  cases overriding with
  | ignored without => rfl
  | adjusted member own effect kept =>
      rw [exposedAs_adjust, if_neg different]
  | @renamed info fresh member own effect given free =>
      have apart : name ≠ fresh := fun same => by simp [ToolOverride.concerns, given, same] at aside
      rw [exposedAs_withAlias, if_neg apart, if_neg different]

/-- A name that an override decides about stands for its tool afterwards, on or off as it says. -/
theorem exposedAs_decided (overriding : Overriding base tools override next)
    (roster : Roster base tools) (effect : takesEffect base tools override = true)
    (concerned : override.concerns name = true) :
    ∃ tool, exposedAs next name = some tool ∧ tool.serverName = override.name ∧
      tool.enabled = override.switchesOn name := by
  cases overriding with
  | ignored without => rw [without] at effect; contradiction
  | adjusted member own effect kept =>
      have here : name = override.name := by simpa [ToolOverride.concerns, kept] using concerned
      obtain ⟨tool, found, same⟩ := roster.exposedAs_own member
      rw [own] at found same
      rw [exposedAs_adjust, if_pos here, found]
      exact ⟨_, rfl, same, by simp [ToolOverride.switchesOn, kept, here]⟩
  | @renamed info fresh member own effect given free =>
      rw [exposedAs_withAlias]
      by_cases new : name = fresh
      · rw [if_pos new]
        exact ⟨_, rfl, own, by simp [ToolOverride.switchesOn, aliased, given, new]⟩
      · have here : name = override.name := by
          simpa [ToolOverride.concerns, given, Ne.symm new] using concerned
        obtain ⟨tool, found, same⟩ := roster.exposedAs_own member
        rw [own] at found same
        rw [if_neg new, if_pos here, found]
        exact ⟨_, rfl, same, by simp [ToolOverride.switchesOn, given, Ne.symm new]⟩

/-- Before an override takes effect, a name that it decides about stands for no other tool. -/
theorem owned (roster : Roster base tools) (effect : takesEffect base tools override = true)
    (concerned : override.concerns name = true) (found : exposedAs tools name = some tool) :
    tool.serverName = override.name := by
  have overriding := applyOverride_overriding base tools override
  generalize applyOverride base tools override = next at overriding
  have present := mem_of_exposedAs found
  have exposed := exposedName_of_exposedAs found
  cases overriding with
  | ignored without => rw [without] at effect; contradiction
  | adjusted member own effect kept =>
      have here : name = override.name := by simpa [ToolOverride.concerns, kept] using concerned
      exact (roster.serverName_own member present (exposed.trans (here.trans own.symm))).trans own
  | @renamed info fresh member own effect given free =>
      by_cases new : name = fresh
      · exact free tool present (exposed.trans new)
      · have here : name = override.name := by
          simpa [ToolOverride.concerns, given, Ne.symm new] using concerned
        exact (roster.serverName_own member present (exposed.trans (here.trans own.symm))).trans own

/-- What an override does to the names: a name that it decides about is as it says, every other name
reaches what it has reached. -/
theorem reaches_eq (overriding : Overriding base tools override next)
    (roster : Roster base tools) (name server : String) :
    reaches next name server =
      if override.name = server ∧ takesEffect base tools override = true ∧
          override.concerns name = true
      then override.switchesOn name else reaches tools name server := by
  cases effect : takesEffect base tools override with
  | false =>
      cases overriding with
      | ignored without => simp
      | adjusted member own taken kept => rw [effect] at taken; contradiction
      | renamed member own taken given free => rw [effect] at taken; contradiction
  | true =>
  cases concerned : override.concerns name with
  | false => simp [reaches, overriding.exposedAs_kept concerned]
  | true =>
      obtain ⟨tool, found, server_eq, enabled_eq⟩ :=
        overriding.exposedAs_decided roster effect concerned
      -- The name stands for the tool of the override, before and after, so it reaches no other one.
      by_cases asked : override.name = server
      · simp [reaches, found, server_eq, enabled_eq, asked]
      · have before : reaches tools name server = false := by
          unfold reaches
          cases old : exposedAs tools name with
          | none => rfl
          | some entry => simp [owned roster effect concerned old, asked]
        rw [before]
        simp [reaches, found, server_eq, asked]

end Overriding

/-! ## Overrides in effect -/

/-- The overrides of a tool that take effect, in order. -/
def effective (base : List ToolInfo) (server : String) :
    List ExposedTool → List ToolOverride → List ToolOverride
  | _, [] => []
  | tools, override :: rest =>
    let later := effective base server (applyOverride base tools override) rest
    if override.name = server && takesEffect base tools override then override :: later else later

theorem effective_cons (base : List ToolInfo) (server : String) (tools : List ExposedTool)
    (override : ToolOverride) (rest : List ToolOverride) :
    effective base server tools (override :: rest) =
      if override.name = server ∧ takesEffect base tools override = true then
        override :: effective base server (applyOverride base tools override) rest
      else effective base server (applyOverride base tools override) rest := by
  rw [effective]
  simp

/-- The overrides of a link that take effect on a tool. -/
def overridesInEffect (base : List ToolInfo) (link : PluginLink) (server : String) :
    List ToolOverride :=
  effective base server (base.map (·.exposed link.toolsDefaultEnabled)) link.tools

theorem mem_of_effective {server : String} {overrides : List ToolOverride}
    (member : override ∈ effective base server tools overrides) :
    override ∈ overrides ∧ override.name = server := by
  induction overrides generalizing tools with
  | nil => simp [effective] at member
  | cons first rest induction =>
      rw [effective_cons] at member
      split at member
      · rename_i taken
        rcases List.mem_cons.mp member with rfl | later
        · exact ⟨List.mem_cons_self, taken.1⟩
        · exact ⟨List.mem_cons_of_mem _ (induction later).1, (induction later).2⟩
      · exact ⟨List.mem_cons_of_mem _ (induction member).1, (induction member).2⟩

/-- Only overrides of tools that the server has take effect. -/
theorem known_of_effective {server : String} {overrides : List ToolOverride}
    (member : override ∈ effective base server tools overrides) :
    ∃ info ∈ base, info.name = server := by
  induction overrides generalizing tools with
  | nil => simp [effective] at member
  | cons first rest induction =>
      rw [effective_cons] at member
      split at member
      · rename_i taken
        rcases List.mem_cons.mp member with rfl | later
        · have known := (Bool.and_eq_true_iff.mp taken.2).1
          simpa [taken.1] using known
        · exact induction later
      · exact induction member

/-- The last override in effect that decides about a name says whether the name reaches the tool;
without one it is as before. -/
theorem reaches_foldl (roster : Roster base tools) (overrides : List ToolOverride)
    (name server : String) :
    reaches (overrides.foldl (applyOverride base) tools) name server =
      match ((effective base server tools overrides).filter (·.concerns name)).getLast? with
      | some last => last.switchesOn name
      | none => reaches tools name server := by
  induction overrides generalizing tools with
  | nil => simp [effective]
  | cons override rest induction =>
      -- An override in effect is the last one that decides unless a later one does.
      have overriding := applyOverride_overriding base tools override
      have step := overriding.reaches_eq roster name server
      rw [List.foldl_cons, induction (overriding.roster roster), step, effective_cons]
      by_cases taken : override.name = server ∧ takesEffect base tools override = true
      · rw [if_pos taken]
        cases concerned : override.concerns name with
        | false => simp [concerned]
        | true =>
            simp only [taken, and_self, if_true, List.filter_cons, concerned, List.getLast?_cons]
            cases (List.filter (·.concerns name) (effective base server
              (applyOverride base tools override) rest)).getLast? <;> rfl
      · rw [if_neg taken, if_neg fun decided => taken ⟨decided.1, decided.2.1⟩]

end ExposedTool

end AssistantEngine
