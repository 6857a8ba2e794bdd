import Mathlib.Data.List.Duplicate
import AssistantEngine.Proofs.Plugin.Visibility

/-!
Servers that report a name several times. Calls and overrides find the first entry of a name only;
the entries behind it are hidden, and stay on or off as the link has its tools by default. So what a
link with its tools off by default exposes was switched on by an override, and where its tools are on
by default, a name may be switched off while a hidden entry of that name is still on.
-/

namespace AssistantEngine

/-- Whether some override of a link names a tool without switching it off. -/
def PluginLink.Allows (link : PluginLink) (server : String) : Prop :=
  ∃ override ∈ link.tools, override.name = server ∧ override.enabled ≠ some false

namespace ExposedTool

variable {base : List ToolInfo} {tools : List ExposedTool} {link : PluginLink} {tool : ExposedTool}
  {name : String} {seen : List String}

/-! ## Hidden entries -/

/-- The entries behind another one of the same name, and all entries of names that were seen. -/
def hidden (seen : List String) : List ExposedTool → List ExposedTool
  | [] => []
  | tool :: rest =>
    if tool.exposedName ∈ seen then tool :: hidden seen rest
    else hidden (tool.exposedName :: seen) rest

theorem hidden_updateFirst {change : ExposedTool → ExposedTool}
    (kept : ∀ tool, tool.exposedName = name → (change tool).exposedName = name)
    (fresh : name ∉ seen) (tools : List ExposedTool) :
    hidden seen (updateFirst name change tools) = hidden seen tools := by
  induction tools generalizing seen with
  | nil => rfl
  | cons tool rest induction =>
      unfold updateFirst
      by_cases here : tool.exposedName = name
      · have same := kept tool here
        simp [hidden, here, same, fresh]
      · rw [if_neg here]
        unfold hidden
        split
        · rw [induction fresh]
        · have apart : name ∉ tool.exposedName :: seen := by simp [Ne.symm here, fresh]
          exact induction apart

theorem hidden_append (unseen : tool.exposedName ∉ seen)
    (fresh : tool.exposedName ∉ tools.map (·.exposedName)) :
    hidden seen (tools ++ [tool]) = hidden seen tools := by
  induction tools generalizing seen with
  | nil => simp [hidden, unseen]
  | cons first rest induction =>
      rw [List.map_cons, List.mem_cons, not_or] at fresh
      rw [List.cons_append]
      unfold hidden
      split
      · rw [induction unseen fresh.2]
      · have apart : tool.exposedName ∉ first.exposedName :: seen := by simp [fresh.1, unseen]
        exact induction apart fresh.2

theorem hidden_replaceOrAdd (named : tool.exposedName = name) (tools : List ExposedTool) :
    hidden [] (replaceOrAdd tools name tool) = hidden [] tools := by
  unfold replaceOrAdd
  split
  · exact hidden_updateFirst (fun _ _ => named) List.not_mem_nil tools
  · rename_i absent
    apply hidden_append List.not_mem_nil
    intro member
    obtain ⟨other, member, same⟩ := List.mem_map.mp member
    exact absent (List.any_eq_true.mpr ⟨other, member, by simpa using same.trans named⟩)

/-- No override changes what is hidden. -/
theorem Overriding.hidden_eq {override : ToolOverride} {next : List ExposedTool}
    (overriding : Overriding base tools override next) : hidden [] next = hidden [] tools := by
  cases overriding with
  | ignored without => rfl
  | adjusted member own effect kept =>
      apply hidden_updateFirst _ List.not_mem_nil
      exact fun _ named => named
  | @renamed info fresh member own effect given free =>
      have named : (aliased override info fresh).exposedName = fresh := rfl
      unfold withAlias
      rw [hidden_replaceOrAdd named]
      apply hidden_updateFirst _ List.not_mem_nil
      exact fun _ named => named

theorem hidden_foldl (base : List ToolInfo) (tools : List ExposedTool)
    (overrides : List ToolOverride) :
    hidden [] (overrides.foldl (applyOverride base) tools) = hidden [] tools := by
  induction overrides generalizing tools with
  | nil => rfl
  | cons override rest induction =>
      exact (induction _).trans (applyOverride_overriding base tools override).hidden_eq

/-- An entry is the first one of its name, or it is hidden. -/
theorem first_or_hidden (member : tool ∈ tools) (seen : List String) :
    tool.exposedName ∉ seen ∧ exposedAs tools tool.exposedName = some tool ∨
      tool ∈ hidden seen tools := by
  induction tools generalizing seen with
  | nil => cases member
  | cons first rest induction =>
      unfold hidden
      rcases List.mem_cons.mp member with rfl | later
      · by_cases known : tool.exposedName ∈ seen
        · rw [if_pos known]
          exact .inr List.mem_cons_self
        · exact .inl ⟨known, List.find?_cons_of_pos (by simp)⟩
      · by_cases known : first.exposedName ∈ seen
        · rw [if_pos known]
          rcases induction later seen with ⟨unseen, found⟩ | behind
          · have different : first.exposedName ≠ tool.exposedName := fun same =>
              unseen (same ▸ known)
            exact .inl ⟨unseen, (List.find?_cons_of_neg (by simpa using different)).trans found⟩
          · exact .inr (List.mem_cons_of_mem _ behind)
        · rw [if_neg known]
          refine (induction later _).imp_left fun ⟨unseen, found⟩ => ?_
          rw [List.mem_cons, not_or] at unseen
          have different : first.exposedName ≠ tool.exposedName := Ne.symm unseen.1
          exact ⟨unseen.2, (List.find?_cons_of_neg (by simpa using different)).trans found⟩

/-- What is hidden has a name that was seen before, or that stands in the list twice. -/
theorem mem_hidden (behind : tool ∈ hidden seen tools) :
    tool ∈ tools ∧ (tool.exposedName ∈ seen ∨
      List.Duplicate tool.exposedName (tools.map (·.exposedName))) := by
  induction tools generalizing seen with
  | nil => cases behind
  | cons first rest induction =>
      unfold hidden at behind
      rw [List.map_cons]
      split at behind
      · rename_i known
        rcases List.mem_cons.mp behind with rfl | later
        · exact ⟨List.mem_cons_self, .inl known⟩
        · obtain ⟨member, repeated⟩ := induction later
          exact ⟨List.mem_cons_of_mem _ member, repeated.imp_right (.duplicate_cons · _)⟩
      · obtain ⟨member, repeated⟩ := induction behind
        refine ⟨List.mem_cons_of_mem _ member, ?_⟩
        rcases repeated with known | twice
        · rcases List.mem_cons.mp known with same | before
          · exact .inr (same ▸ List.Mem.duplicate_cons_self (List.mem_map_of_mem member))
          · exact .inl before
        · exact .inr (twice.duplicate_cons _)

/-- An entry is the first one of its name, or the server reports that name several times and the
entry is on or off as the link has its tools by default. -/
theorem first_or_repeated (member : tool ∈ ofLink base link) :
    exposedAs (ofLink base link) tool.exposedName = some tool ∨
      tool.enabled = link.toolsDefaultEnabled ∧
        List.Duplicate tool.exposedName (base.map (·.name)) := by
  rcases first_or_hidden member [] with ⟨-, found⟩ | behind
  · exact .inl found
  · right
    unfold ofLink at behind
    rw [hidden_foldl] at behind
    obtain ⟨initial, repeated⟩ := mem_hidden behind
    obtain ⟨info, known, rfl⟩ := List.mem_map.mp initial
    refine ⟨rfl, ?_⟩
    simpa [ToolInfo.exposed, Function.comp_def] using repeated

/-! ## Tools that an override names -/

/-- Where a link has its tools off by default, whatever is on was named by an override that does not
switch it off. -/
theorem allows_of_enabled (off : link.toolsDefaultEnabled = false)
    (member : tool ∈ ofLink base link) (on : tool.enabled = true) :
    link.Allows tool.serverName := by
  rcases first_or_repeated member with found | ⟨asDefault, -⟩
  · have reached : reaches (ofLink base link) tool.exposedName tool.serverName = true := by
      simp [reaches, found, on]
    rw [reaches_ofLink_iff] at reached
    split at reached
    · rename_i last final
      have effect := (List.mem_filter.mp (List.mem_of_getLast? final)).1
      obtain ⟨listed, named⟩ := mem_of_effective effect
      refine ⟨last, listed, named, fun disabled => ?_⟩
      simp [ToolOverride.switchesOn, ToolOverride.enables, disabled] at reached
    · rw [off] at reached
      exact absurd reached.2.2 Bool.false_ne_true
  · rw [on, off] at asDefault
    contradiction

/-- The last override in effect on a tool renames it or switches it off. -/
def Withdrawn (base : List ToolInfo) (link : PluginLink) (name : String) : Prop :=
  ∃ last, (overridesInEffect base link name).getLast? = some last ∧
    (last.alias? ≠ none ∨ last.enables = false)

theorem known_of_withdrawn (withdrawn : Withdrawn base link name) :
    ∃ info ∈ base, info.name = name := by
  obtain ⟨last, final, -⟩ := withdrawn
  exact known_of_effective (List.mem_of_getLast? final)

/-- What a call by the name of an entry that is on finds is on as well, exactly if no tool of that
name is withdrawn. -/
theorem reaches_iff_not_withdrawn (member : tool ∈ ofLink base link) (on : tool.enabled = true) :
    reaches (ofLink base link) tool.exposedName tool.serverName = true ↔
      ¬Withdrawn base link tool.exposedName := by
  by_cases known : ∃ info ∈ base, info.name = tool.exposedName
  · obtain ⟨info, reported, named⟩ := known
    have server : tool.serverName = tool.exposedName :=
      ((ofLink_roster base link).serverName_own reported member named.symm).trans named
    rw [server, reaches_own_iff]
    unfold Withdrawn
    cases final : (overridesInEffect base link tool.exposedName).getLast? with
    | some last => simp
    | none =>
        -- No override has changed the first entry of the name, so it is on as the hidden ones are.
        have asDefault : link.toolsDefaultEnabled = true := by
          rcases first_or_repeated member with found | ⟨same, -⟩
          · have reached : reaches (ofLink base link) tool.exposedName tool.exposedName = true := by
              simp [reaches, found, on, server]
            rw [reaches_own_iff, final] at reached
            exact reached.2
          · exact same.symm.trans on
        have listed : tool.exposedName ∈ base.map (·.name) := List.mem_map.mpr ⟨info, reported, named⟩
        simp [asDefault, listed]
  · have free : ¬Withdrawn base link tool.exposedName := fun withdrawn =>
      known (known_of_withdrawn withdrawn)
    have found : exposedAs (ofLink base link) tool.exposedName = some tool := by
      rcases first_or_repeated member with found | ⟨-, twice⟩
      · exact found
      · obtain ⟨info, reported, named⟩ := List.mem_map.mp twice.mem
        exact absurd ⟨info, reported, named⟩ known
    simp [reaches, found, on, free]

end ExposedTool

end AssistantEngine
