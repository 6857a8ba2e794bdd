import AssistantEngine.Assistant.Runtime
import AssistantEngine.Proofs.Graph.Resolution

/-!
Where control may go. The edges of a workflow join nodes; lifted to the assistants that the nodes
were resolved to, they are all that handoff tools can lead along, and every assistant that a tool
leads to has been resolved.
-/

namespace AssistantEngine

namespace NameSet

theorem mem_insert {names : NameSet} {name other : String} (member : other ∈ names.insert name) :
    other = name ∨ other ∈ names := by
  induction names with
  | nil => exact .inl (List.mem_singleton.mp member)
  | cons first rest induction =>
      unfold insert at member
      split at member
      · exact .inr member
      · split at member
        · exact List.mem_cons.mp member
        · rcases List.mem_cons.mp member with same | later
          · exact .inr (same ▸ List.mem_cons_self)
          · rcases induction later with same | older
            · exact .inl same
            · exact .inr (List.mem_cons_of_mem _ older)

theorem mem_foldl_insert {names added : NameSet} {other : String}
    (member : other ∈ added.foldl insert names) : other ∈ added ∨ other ∈ names := by
  induction added generalizing names with
  | nil => exact .inr member
  | cons name rest induction =>
      rcases induction member with later | here
      · exact .inl (List.mem_cons_of_mem _ later)
      · rcases mem_insert here with same | older
        · exact .inl (same ▸ List.mem_cons_self)
        · exact .inr older

end NameSet

/-! ## Catalogs of destinations -/

/-- All that a catalog lists under a key is related to the key. -/
def Reaches (way : String → String → Prop) (reachable : Catalog NameSet) : Prop :=
  ∀ entry ∈ reachable, ∀ target ∈ entry.2, way entry.1 target

namespace Reaches

variable {way : String → String → Prop} {reachable : Catalog NameSet}

theorem nil : Reaches way [] := fun _ member => absurd member List.not_mem_nil

theorem of_find? (reaches : Reaches way reachable) {source target : String}
    (member : target ∈ (reachable.find? source).getD []) : way source target := by
  cases found : reachable.find? source with
  | none =>
      rw [found] at member
      cases member
  | some targets =>
      rw [found] at member
      exact reaches _ (Catalog.mem_of_find? found) target member

theorem insert (reaches : Reaches way reachable) {source : String} {targets : NameSet}
    (related : ∀ target ∈ targets, way source target) :
    Reaches way (reachable.insert source targets) := by
  intro entry member target among
  rcases Catalog.mem_insert member with same | older
  · subst same
    exact related target among
  · exact reaches entry older target among

theorem foldl {Item : Type} {change : Catalog NameSet → Item → Catalog NameSet}
    {items : List Item} (reaches : Reaches way reachable)
    (keeps : ∀ item ∈ items, ∀ reachable, Reaches way reachable →
      Reaches way (change reachable item)) :
    Reaches way (items.foldl change reachable) := by
  induction items generalizing reachable with
  | nil => exact reaches
  | cons item rest induction =>
      refine induction (keeps item List.mem_cons_self _ reaches) fun later member => ?_
      exact keeps later (List.mem_cons_of_mem _ member)

end Reaches

/-! ## Nodes -/

namespace WorkflowSpec

/-- An edge joins two nodes in this direction, or in both. -/
def Leads (spec : WorkflowSpec) (source target : String) : Prop :=
  ∃ edge ∈ spec.edges, edge.source = source ∧ edge.target = target ∨
    edge.mode = .bidirectional ∧ edge.source = target ∧ edge.target = source

theorem link_reaches {way : String → String → Prop} {reachable : Catalog NameSet}
    (reaches : Reaches way reachable) (allowSelf : Bool) {source target : String}
    (related : way source target) : Reaches way (link allowSelf reachable source target) := by
  unfold link
  split
  · exact reaches
  · refine reaches.insert fun other member => ?_
    rcases NameSet.mem_insert member with same | older
    · exact same ▸ related
    · exact reaches.of_find? older

/-- Every destination of a node is one that an edge leads to. -/
theorem destinations_reach (spec : WorkflowSpec) (allowSelf : Bool) :
    Reaches spec.Leads (spec.destinations allowSelf) := by
  have bare : Reaches spec.Leads (Catalog.ofList (spec.nodes.map fun node => (node.id, []))) := by
    refine Reaches.nil.foldl fun entry member reachable reaches => reaches.insert ?_
    rcases List.mem_map.mp member with ⟨node, -, rfl⟩
    exact fun _ member => absurd member List.not_mem_nil
  refine bare.foldl fun edge member reachable reaches => ?_
  have forward := link_reaches reaches allowSelf
    (show spec.Leads edge.source edge.target from ⟨edge, member, .inl ⟨rfl, rfl⟩⟩)
  unfold linkEdge
  cases mode : edge.mode with
  | single => exact forward
  | bidirectional =>
      exact link_reaches forward allowSelf ⟨edge, member, .inr ⟨mode, rfl, rfl⟩⟩

end WorkflowSpec

/-! ## Assistants -/

namespace NodeResolution

/-- An edge joins a node that was resolved to one assistant with a node that was resolved to
another, in this direction or in both. -/
def Way (spec : WorkflowSpec) (nodes : List LookedUp) (source target : String) : Prop :=
  ∃ first second, Stands nodes first source ∧ Stands nodes second target ∧ spec.Leads first second

/-- Every destination of an assistant is one that an edge leads to. -/
theorem destinations_reach (spec : WorkflowSpec) (allowSelf : Bool) (nodes : List LookedUp) :
    Reaches (Way spec nodes) ((collect nodes).destinations spec allowSelf) := by
  refine Reaches.nil.foldl fun entry member reachable reaches => ?_
  unfold addDestinations
  split
  · exact reaches
  · rename_i source known
    refine reaches.insert fun target among => ?_
    rcases NameSet.mem_foldl_insert among with added | older
    · have named := (List.mem_filter.mp added).1
      rcases List.mem_filterMap.mp named with ⟨second, reached, resolved⟩
      exact ⟨entry.1, second, stands_of_names known, stands_of_names resolved,
        spec.destinations_reach allowSelf entry member second reached⟩
    · exact reaches.of_find? older

end NodeResolution

/-! ## Handoff tools -/

theorem HandoffTool.destination_mem {used destinations : List String} {tool : HandoffTool}
    (member : tool ∈ forDestinations used destinations) : tool.destination ∈ destinations := by
  induction destinations generalizing used with
  | nil => cases member
  | cons destination rest induction =>
      unfold forDestinations at member
      rcases List.mem_cons.mp member with same | later
      · exact same ▸ List.mem_cons_self
      · exact List.mem_cons_of_mem _ (induction later)

namespace AssistantRuntime

/-- Where a call by this name passes control to, if it is a handoff of the assistant. -/
def handoff? (assistant : AssistantRuntime) (name : String) : Option String :=
  match assistant.resolve? name with
  | some (.handoff tool) => some tool.destination
  | _ => none

theorem mem_of_resolve? {assistant : AssistantRuntime} {name : String} {tool : HandoffTool}
    (resolved : assistant.resolve? name = some (.handoff tool)) : tool ∈ assistant.handoffs := by
  unfold resolve? at resolved
  split at resolved
  · rename_i found first
    cases resolved
    exact List.mem_of_find?_eq_some first
  · rcases Option.bind_eq_some_iff.mp resolved with ⟨registryId, -, owned⟩
    rcases Option.map_eq_some_iff.mp owned with ⟨plugin, -, same⟩
    cases same

theorem mem_of_handoff? {assistant : AssistantRuntime} {name destination : String}
    (passes : assistant.handoff? name = some destination) :
    ∃ tool ∈ assistant.handoffs, tool.destination = destination := by
  unfold handoff? at passes
  split at passes
  · rename_i tool resolved
    exact ⟨tool, mem_of_resolve? resolved, Option.some.inj passes⟩
  · cases passes

end AssistantRuntime

end AssistantEngine
