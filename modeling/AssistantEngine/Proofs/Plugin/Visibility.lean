import AssistantEngine.Proofs.Plugin.Overrides

/-!
The names under which the tools of a link can be called. A tool goes by its own name if its last
override in effect leaves it the name and switches it on, and by an alias if the last one that gives
the alias switches it on. So a tool that has an alias goes by its own name as well once a later
override names it without a rename.
-/

namespace AssistantEngine.ExposedTool

variable {base : List ToolInfo} {link : PluginLink} {name server : String}

theorem concerns_of_mem_inEffect {override : ToolOverride}
    (member : override ∈ overridesInEffect base link server) (name : String) :
    override.concerns name = (name = server || override.alias? = some name) := by
  rw [ToolOverride.concerns, (mem_of_effective member).2]

theorem reaches_initial (base : List ToolInfo) (enabled : Bool) (name server : String) :
    reaches (base.map (·.exposed enabled)) name server = true ↔
      name = server ∧ server ∈ base.map (·.name) ∧ enabled = true := by
  unfold reaches
  rw [Option.any_eq_true]
  constructor
  · rintro ⟨tool, found, allowed⟩
    rw [Bool.and_eq_true, decide_eq_true_eq] at allowed
    obtain ⟨info, known, rfl⟩ := List.mem_map.mp (mem_of_exposedAs found)
    obtain ⟨rfl, on⟩ := allowed
    exact ⟨(exposedName_of_exposedAs found).symm, List.mem_map_of_mem known, on⟩
  · rintro ⟨rfl, known, rfl⟩
    obtain ⟨info, member, rfl⟩ := List.mem_map.mp known
    obtain ⟨tool, found, server⟩ := (Roster.initial base true).exposedAs_own member
    obtain ⟨other, -, rfl⟩ := List.mem_map.mp (mem_of_exposedAs found)
    have on : (other.exposed true).enabled = true := rfl
    exact ⟨_, found, by rw [server, on, decide_eq_true rfl, Bool.and_self]⟩

theorem reaches_ofLink_iff (base : List ToolInfo) (link : PluginLink) (name server : String) :
    reaches (ofLink base link) name server = true ↔
      match ((overridesInEffect base link server).filter (·.concerns name)).getLast? with
      | some last => last.switchesOn name = true
      | none => name = server ∧ server ∈ base.map (·.name) ∧ link.toolsDefaultEnabled = true := by
  have folded : reaches (ofLink base link) name server =
      match ((overridesInEffect base link server).filter (·.concerns name)).getLast? with
      | some last => last.switchesOn name
      | none => reaches (base.map (·.exposed link.toolsDefaultEnabled)) name server :=
    reaches_foldl (Roster.initial base link.toolsDefaultEnabled) link.tools name server
  rw [folded]
  split
  · rfl
  · exact reaches_initial base link.toolsDefaultEnabled name server

/-- A tool is called under its own name if its last override in effect leaves it the name and
switches it on; without one the link says whether it is on. -/
theorem reaches_own_iff (base : List ToolInfo) (link : PluginLink) (server : String) :
    reaches (ofLink base link) server server = true ↔
      match (overridesInEffect base link server).getLast? with
      | some last => last.alias? = none ∧ last.enables = true
      | none => server ∈ base.map (·.name) ∧ link.toolsDefaultEnabled = true := by
  have whole : (overridesInEffect base link server).filter (·.concerns server) =
      overridesInEffect base link server :=
    List.filter_eq_self.mpr fun override member => by
      simp [concerns_of_mem_inEffect member]
  rw [reaches_ofLink_iff, whole]
  cases found : (overridesInEffect base link server).getLast? with
  | none => simp
  | some last =>
      have named : last.name = server := (mem_of_effective (List.mem_of_getLast? found)).2
      cases given : last.alias? with
      | none => simp [ToolOverride.switchesOn, given, named]
      | some other =>
          have different := ToolOverride.alias?_ne given
          rw [named] at different
          simp [ToolOverride.switchesOn, given, different]

/-- A tool is called under an alias if the last override in effect that gives the alias switches it
on. -/
theorem reaches_alias_iff (base : List ToolInfo) (link : PluginLink) (different : name ≠ server) :
    reaches (ofLink base link) name server = true ↔
      ∃ given, ((overridesInEffect base link server).filter (·.alias? = some name)).getLast? =
        some given ∧ given.enables = true := by
  have giving : (overridesInEffect base link server).filter (·.concerns name) =
      (overridesInEffect base link server).filter (·.alias? = some name) :=
    List.filter_congr fun override member => by
      simp [concerns_of_mem_inEffect member, different]
  rw [reaches_ofLink_iff, giving]
  cases found : ((overridesInEffect base link server).filter (·.alias? = some name)).getLast? with
  | none => simp [different]
  | some last =>
      have given := (List.mem_filter.mp (List.mem_of_getLast? found)).2
      rw [decide_eq_true_eq] at given
      simp [ToolOverride.switchesOn, given]

/-- A tool is called both ways if its last override in effect leaves it the name and switches it on,
and an alias from before is still on. -/
theorem reaches_twice_iff (base : List ToolInfo) (link : PluginLink) (server : String) :
    ((∃ fresh, fresh ≠ server ∧ reaches (ofLink base link) fresh server = true) ∧
        reaches (ofLink base link) server server = true) ↔
      ∃ last, (overridesInEffect base link server).getLast? = some last ∧ last.alias? = none ∧
        last.enables = true ∧ ∃ fresh given,
          ((overridesInEffect base link server).filter (·.alias? = some fresh)).getLast? =
            some given ∧ given.enables = true := by
  constructor
  · rintro ⟨⟨fresh, different, reached⟩, own⟩
    obtain ⟨given, found, on⟩ := (reaches_alias_iff base link different).mp reached
    rw [reaches_own_iff] at own
    cases final : (overridesInEffect base link server).getLast? with
    | none =>
        have empty := List.getLast?_eq_none_iff.mp final
        simp [empty] at found
    | some last =>
        rw [final] at own
        exact ⟨last, rfl, own.1, own.2, fresh, given, found, on⟩
  · rintro ⟨last, final, kept, enabled, fresh, given, found, on⟩
    obtain ⟨member, renamed⟩ := List.mem_filter.mp (List.mem_of_getLast? found)
    have different : fresh ≠ server := by
      rw [← (mem_of_effective member).2]
      exact ToolOverride.alias?_ne (by simpa using renamed)
    refine ⟨⟨fresh, different, ?_⟩, ?_⟩
    · exact (reaches_alias_iff base link different).mpr ⟨given, found, on⟩
    · rw [reaches_own_iff, final]
      exact ⟨kept, enabled⟩

/-- A tool that is on as the link has it, since none of its overrides takes effect. -/
def StaysOn (base : List ToolInfo) (link : PluginLink) (server : String) : Prop :=
  server ∈ base.map (·.name) ∧ link.toolsDefaultEnabled = true ∧
    overridesInEffect base link server = []

/-- A tool that all its overrides switch off is called under no alias, and under its own name only
while none of them takes effect. -/
theorem reaches_off_iff (base : List ToolInfo)
    (off : ∀ override ∈ link.tools, override.name = server → override.enabled = some false)
    (name : String) :
    reaches (ofLink base link) name server = true ↔ name = server ∧ StaysOn base link server := by
  unfold StaysOn
  have disabled : ∀ override ∈ overridesInEffect base link server, override.enables = false := by
    intro override member
    obtain ⟨listed, named⟩ := mem_of_effective member
    simp [ToolOverride.enables, off override listed named]
  by_cases own : name = server
  · subst own
    rw [reaches_own_iff]
    cases final : (overridesInEffect base link name).getLast? with
    | none => simp [List.getLast?_eq_none_iff.mp final]
    | some last =>
        have present := List.mem_of_getLast? final
        simp [disabled last present, List.ne_nil_of_mem present]
  · rw [reaches_alias_iff base link own]
    simp only [own, false_and, iff_false, not_exists, not_and, Bool.not_eq_true]
    intro given found
    exact disabled given (List.mem_filter.mp (List.mem_of_getLast? found)).1

/-- A tool that is called under an alias is not called under its own name as well, exactly if its
last override in effect renames it or switches it off, or else all its aliases are off. An override
without a rename switches the own name on again and leaves the aliases as they are. -/
theorem alone_under_alias_iff (distinct : (base.map (·.name)).Nodup) (link : PluginLink)
    (name : String) :
    ¬((∃ tool ∈ ofLink base link,
          tool.enabled = true ∧ tool.serverName = name ∧ tool.exposedName ≠ name) ∧
        ∃ tool ∈ ofLink base link, tool.enabled = true ∧ tool.exposedName = name) ↔
      ∀ last, (overridesInEffect base link name).getLast? = some last →
        last.alias? = none → last.enables = true →
          ∀ fresh given,
            ((overridesInEffect base link name).filter (·.alias? = some fresh)).getLast? =
              some given → given.enables = false := by
  have surface := ofLink_surface distinct link
  have twice : ((∃ tool ∈ ofLink base link,
          tool.enabled = true ∧ tool.serverName = name ∧ tool.exposedName ≠ name) ∧
        ∃ tool ∈ ofLink base link, tool.enabled = true ∧ tool.exposedName = name) ↔
      (∃ fresh, fresh ≠ name ∧ reaches (ofLink base link) fresh name = true) ∧
        reaches (ofLink base link) name name = true := by
    simp only [reaches_iff surface.distinct]
    constructor
    · rintro ⟨⟨entry, member, on, server, different⟩, tool, present, enabled, exposed⟩
      obtain ⟨info, known, named⟩ := surface.known entry member
      have own := surface.roster.serverName_own known present (exposed.trans (named.trans server).symm)
      exact ⟨⟨entry.exposedName, different, entry, member, on, server, rfl⟩,
        tool, present, enabled, own.trans (named.trans server), exposed⟩
    · rintro ⟨⟨fresh, different, entry, member, on, server, rfl⟩, tool, present, enabled, -, exposed⟩
      exact ⟨⟨entry, member, on, server, different⟩, tool, present, enabled, exposed⟩
  rw [twice, reaches_twice_iff]
  simp only [not_exists, not_and, Bool.not_eq_true]

/-- A server with one tool, that runs a query. -/
def queryServer : List ToolInfo := [{ name := "run_query" }]

/-- A link that renames the tool, and describes it in a second override. -/
def describedAfterRename : PluginLink where
  registryId := "sql"
  tools := [{ name := "run_query", rename := some "query" },
    { name := "run_query", description := some "Runs a query" }]

/-- A link that describes the tool, and renames it in a second override. -/
def renamedAfterDescription : PluginLink where
  registryId := "sql"
  tools := describedAfterRename.tools.reverse

theorem alone_under_alias_query :
    (queryServer.map (·.name)).Nodup ∧
      (∃ tool ∈ ofLink queryServer renamedAfterDescription,
        tool.enabled = true ∧ tool.serverName = "run_query" ∧ tool.exposedName ≠ "run_query") ∧
      ¬∃ tool ∈ ofLink queryServer renamedAfterDescription,
        tool.enabled = true ∧ tool.exposedName = "run_query" := by
  have distinct : (queryServer.map (·.name)).Nodup := by decide
  have aliased : ∃ tool ∈ ofLink queryServer renamedAfterDescription,
      tool.enabled = true ∧ tool.serverName = "run_query" ∧ tool.exposedName ≠ "run_query" := by
    decide
  have final : (overridesInEffect queryServer renamedAfterDescription "run_query").getLast? =
      some { name := "run_query", rename := some "query" } := by decide
  have alone := (alone_under_alias_iff distinct renamedAfterDescription "run_query").mpr
    fun last found kept => by
      rw [final, Option.some.injEq] at found
      subst found
      contradiction
  exact ⟨distinct, aliased, fun own => alone ⟨aliased, own⟩⟩

/-- The second override of the link switches the own name of the renamed tool on again. -/
theorem called_both_ways :
    (queryServer.map (·.name)).Nodup ∧
      (∃ tool ∈ ofLink queryServer describedAfterRename,
        tool.enabled = true ∧ tool.serverName = "run_query" ∧ tool.exposedName ≠ "run_query") ∧
      ∃ tool ∈ ofLink queryServer describedAfterRename,
        tool.enabled = true ∧ tool.exposedName = "run_query" := by
  decide

end AssistantEngine.ExposedTool
