import AssistantEngine.Proofs.Graph.Destinations

/-!
Which destinations there are. What is listed for a node is what the edges say, no more and no less, and
the same holds for the assistants once the edges have been lifted to them. All lists ascend, so that
they name every destination once.
-/

namespace AssistantEngine

namespace NameSet

variable {names : NameSet} {name other : String}

theorem mem_insert_iff : other ∈ names.insert name ↔ other = name ∨ other ∈ names := by
  constructor
  · exact mem_insert
  · intro among
    induction names with
    | nil => simpa [insert] using among
    | cons first rest induction =>
        unfold insert
        split
        · rename_i same
          rcases among with new | old
          · exact List.mem_cons.mpr (.inl (new.trans same.symm))
          · exact old
        · split
          · exact List.mem_cons.mpr among
          · rcases among with new | old
            · exact List.mem_cons_of_mem _ (induction (.inl new))
            · rcases List.mem_cons.mp old with here | later
              · exact List.mem_cons.mpr (.inl here)
              · exact List.mem_cons_of_mem _ (induction (.inr later))

/-- The names stand in strictly ascending order. -/
def Ascending (names : NameSet) : Prop := names.Pairwise (· < ·)

theorem Ascending.insert (ascending : names.Ascending) (name : String) :
    Ascending (NameSet.insert names name) := by
  induction names with
  | nil => exact List.pairwise_singleton _ _
  | cons first rest induction =>
      obtain ⟨least, later⟩ := List.pairwise_cons.mp ascending
      unfold NameSet.insert
      split
      · exact ascending
      · rename_i different
        split
        · rename_i less
          refine List.pairwise_cons.mpr ⟨fun other member => ?_, ascending⟩
          rcases List.mem_cons.mp member with same | among
          · exact same ▸ less
          · exact String.lt_trans less (least other among)
        · rename_i notLess
          refine List.pairwise_cons.mpr ⟨fun other member => ?_, induction later⟩
          rcases mem_insert member with same | among
          · exact same ▸ Decidable.byContradiction fun reverse =>
              different (String.le_antisymm notLess reverse)
          · exact least other among

theorem mem_foldl_insert_iff {added : NameSet} :
    other ∈ added.foldl insert names ↔ other ∈ added ∨ other ∈ names := by
  induction added generalizing names with
  | nil => simp
  | cons name rest induction =>
      rw [List.foldl_cons, induction, mem_insert_iff, List.mem_cons]
      tauto

theorem Ascending.foldl_insert {added : NameSet} (ascending : names.Ascending) :
    Ascending (added.foldl NameSet.insert names) := by
  induction added generalizing names with
  | nil => exact ascending
  | cons name rest induction => exact induction (ascending.insert name)

end NameSet

/-! ## What is listed under a key -/

/-- What a catalog lists under a key. -/
def listed (reachable : Catalog NameSet) (key : String) : NameSet := (reachable.find? key).getD []

/-- A catalog in order, and all its lists are. -/
structure Tidy (reachable : Catalog NameSet) : Prop where
  keys : reachable.Ascending
  lists : ∀ key, (listed reachable key).Ascending

theorem listed_insert (reachable : Catalog NameSet) (source key : String) (names : NameSet) :
    listed (reachable.insert source names) key =
      if source = key then names else listed reachable key := by
  unfold listed
  rw [Catalog.find?_insert]
  split <;> rfl

section
variable {Item : Type} {step : Catalog NameSet → Item → Catalog NameSet}

/-- If each step lists what its item adds, all steps together list what any item adds. -/
theorem mem_listed_foldl {key other : String} {Adds : Item → Prop} {items : List Item}
    {reachable : Catalog NameSet}
    (adds : ∀ reachable item, other ∈ listed (step reachable item) key ↔
      other ∈ listed reachable key ∨ Adds item) :
    other ∈ listed (items.foldl step reachable) key ↔
      other ∈ listed reachable key ∨ ∃ item ∈ items, Adds item := by
  induction items generalizing reachable with
  | nil => simp
  | cons item rest induction =>
      rw [List.foldl_cons, induction, adds, or_assoc]
      simp only [List.mem_cons, exists_eq_or_imp]

theorem Tidy.foldl {reachable : Catalog NameSet} (tidy : Tidy reachable)
    (keeps : ∀ reachable item, Tidy reachable → Tidy (step reachable item)) (items : List Item) :
    Tidy (items.foldl step reachable) := by
  induction items generalizing reachable with
  | nil => exact tidy
  | cons item rest induction => exact induction (keeps _ item tidy)

end

namespace Tidy

variable {reachable : Catalog NameSet} {source key : String}

theorem nil : Tidy [] where
  keys := Catalog.ascending_nil
  lists _ := List.Pairwise.nil

theorem insert {names : NameSet} (tidy : Tidy reachable) (ascending : names.Ascending) :
    Tidy (reachable.insert source names) where
  keys := tidy.keys.insert source names
  lists key := by
    rw [listed_insert]
    split
    · exact ascending
    · exact tidy.lists key

/-- An entry lists what is listed under its key. -/
theorem mem_iff (tidy : Tidy reachable) {target : String} :
    (∃ entry ∈ reachable, entry.1 = key ∧ target ∈ entry.2) ↔ target ∈ listed reachable key := by
  constructor
  · rintro ⟨⟨_, names⟩, member, rfl, among⟩
    have found := Catalog.find?_of_mem tidy.keys.keys_nodup member
    unfold listed
    rwa [found]
  · intro among
    unfold listed at among
    cases found : reachable.find? key with
    | none =>
        rw [found] at among
        cases among
    | some names =>
        rw [found] at among
        exact ⟨(key, names), Catalog.mem_of_find? found, rfl, among⟩

end Tidy

/-! ## Nodes -/

namespace WorkflowEdge

/-- An edge joins two nodes in this direction, or in both. -/
def Leads (edge : WorkflowEdge) (source target : String) : Prop :=
  edge.source = source ∧ edge.target = target ∨
    edge.mode = .bidirectional ∧ edge.source = target ∧ edge.target = source

end WorkflowEdge

namespace WorkflowSpec

variable {reachable : Catalog NameSet} {allowSelf : Bool} {source target key other : String}

theorem mem_link :
    other ∈ listed (link allowSelf reachable source target) key ↔
      other ∈ listed reachable key ∨
        (source = key ∧ target = other) ∧ (key = other → allowSelf = true) := by
  unfold link
  split
  · rename_i barred
    simp only [Bool.and_eq_true, decide_eq_true_eq, Bool.not_eq_true'] at barred
    constructor
    · exact .inl
    · rintro (old | ⟨⟨rfl, rfl⟩, allowed⟩)
      · exact old
      · rw [allowed barred.1] at barred
        cases barred.2
  · rename_i free
    have allowed : source = target → allowSelf = true := by simpa using free
    rw [listed_insert]
    split
    · rename_i same
      subst same
      have listing : other ∈ NameSet.insert ((reachable.find? source).getD []) target ↔
          other = target ∨ other ∈ listed reachable source := NameSet.mem_insert_iff
      rw [listing]
      constructor
      · rintro (rfl | old)
        · exact .inr ⟨⟨rfl, rfl⟩, allowed⟩
        · exact .inl old
      · rintro (old | ⟨⟨-, rfl⟩, -⟩)
        · exact .inr old
        · exact .inl rfl
    · rename_i different
      simp [different]

theorem link_tidy (tidy : Tidy reachable) : Tidy (link allowSelf reachable source target) := by
  unfold link
  split
  · exact tidy
  · exact tidy.insert ((tidy.lists source).insert target)

theorem mem_linkEdge (reachable : Catalog NameSet) (edge : WorkflowEdge) :
    other ∈ listed (linkEdge allowSelf reachable edge) key ↔
      other ∈ listed reachable key ∨
        edge.Leads key other ∧ (key = other → allowSelf = true) := by
  unfold linkEdge WorkflowEdge.Leads
  cases edge.mode with
  | single => simp [mem_link]
  | bidirectional =>
      dsimp only
      rw [mem_link, mem_link]
      constructor
      · rintro ((old | ⟨forward, allowed⟩) | ⟨⟨target, source⟩, allowed⟩)
        · exact .inl old
        · exact .inr ⟨.inl forward, allowed⟩
        · exact .inr ⟨.inr ⟨rfl, source, target⟩, allowed⟩
      · rintro (old | ⟨forward | ⟨-, source, target⟩, allowed⟩)
        · exact .inl (.inl old)
        · exact .inl (.inr ⟨forward, allowed⟩)
        · exact .inr ⟨⟨target, source⟩, allowed⟩

theorem linkEdge_tidy {edge : WorkflowEdge} (tidy : Tidy reachable) :
    Tidy (linkEdge allowSelf reachable edge) := by
  unfold linkEdge
  cases edge.mode with
  | single => exact link_tidy tidy
  | bidirectional => exact link_tidy (link_tidy tidy)

/-- Before the edges are followed, nothing is listed. -/
theorem find?_bare {nodes : List WorkflowNode} {names : NameSet}
    (found : (Catalog.ofList (nodes.map fun node => (node.id, ([] : NameSet)))).find? key =
      some names) : names = [] := by
  have member := Catalog.mem_of_mem_ofList (Catalog.mem_of_find? found)
  rcases List.mem_map.mp member with ⟨node, -, same⟩
  exact (Prod.mk.inj same).2.symm

theorem listed_bare (nodes : List WorkflowNode) (key : String) :
    listed (Catalog.ofList (nodes.map fun node => (node.id, ([] : NameSet)))) key = [] := by
  unfold listed
  cases found : (Catalog.ofList (nodes.map fun node => (node.id, ([] : NameSet)))).find? key with
  | none => rfl
  | some names => exact find?_bare found

/-- Control may pass from a node just to where an edge leads, to the node itself only on demand. -/
theorem mem_destinations {spec : WorkflowSpec} :
    other ∈ listed (spec.destinations allowSelf) key ↔
      spec.Leads key other ∧ (key = other → allowSelf = true) := by
  unfold destinations
  rw [mem_listed_foldl mem_linkEdge, listed_bare]
  simp only [List.not_mem_nil, false_or, ← and_assoc, exists_and_right]
  rfl

theorem destinations_tidy (spec : WorkflowSpec) (allowSelf : Bool) :
    Tidy (spec.destinations allowSelf) := by
  refine Tidy.foldl ?_ (fun _ _ => linkEdge_tidy) _
  constructor
  case keys => exact Catalog.ascending_ofList _
  case lists =>
    intro key
    rw [listed_bare]
    exact List.Pairwise.nil

end WorkflowSpec

/-! ## Assistants -/

namespace NodeResolution

variable {resolution : NodeResolution} {allowSelf : Bool} {name other : String}
  {reachable : Catalog NameSet}

theorem mem_targetNames {targets : NameSet} :
    other ∈ resolution.targetNames allowSelf name targets ↔
      (∃ target ∈ targets, resolution.names.find? target = some other) ∧
        (other = name → allowSelf = true) := by
  unfold targetNames
  rw [List.mem_filter, List.mem_filterMap]
  have allowed : (decide (other ≠ name) || allowSelf) = true ↔ (other = name → allowSelf = true) := by
    by_cases same : other = name <;> simp [same]
  rw [allowed]

theorem mem_addDestinations (reachable : Catalog NameSet) (node : String × NameSet) :
    other ∈ listed (resolution.addDestinations allowSelf reachable node) name ↔
      other ∈ listed reachable name ∨
        resolution.names.find? node.1 = some name ∧
          other ∈ resolution.targetNames allowSelf name node.2 := by
  unfold addDestinations
  cases resolution.names.find? node.1 with
  | none => simp
  | some source =>
      dsimp only
      rw [listed_insert]
      by_cases same : source = name
      · subst same
        have listing : other ∈ (resolution.targetNames allowSelf source node.2).foldl
              NameSet.insert ((reachable.find? source).getD []) ↔
            other ∈ resolution.targetNames allowSelf source node.2 ∨
              other ∈ listed reachable source := NameSet.mem_foldl_insert_iff
        rw [if_pos rfl, listing, or_comm]
        simp
      · simp [same]

theorem addDestinations_tidy (tidy : Tidy reachable) (node : String × NameSet) :
    Tidy (resolution.addDestinations allowSelf reachable node) := by
  unfold addDestinations
  split
  · exact tidy
  · exact tidy.insert (tidy.lists _).foldl_insert

theorem destinations_tidy (spec : WorkflowSpec) : Tidy (resolution.destinations spec allowSelf) :=
  Tidy.nil.foldl (fun _ node tidy => addDestinations_tidy tidy node) _

/-- Control may pass from an assistant just to those whose nodes an edge leads to from one of its
nodes, to the assistant itself only on demand. -/
theorem mem_destinations {spec : WorkflowSpec} {nodes : List LookedUp}
    (nodup : (nodes.map (·.1.id)).Nodup) :
    other ∈ listed ((collect nodes).destinations spec allowSelf) name ↔
      Way spec nodes name other ∧ (other = name → allowSelf = true) := by
  have known (id name : String) :
      (collect nodes).names.find? id = some name ↔ Stands nodes id name :=
    ⟨stands_of_names, names_of_stands nodup⟩
  unfold destinations
  rw [mem_listed_foldl mem_addDestinations]
  constructor
  · rintro (none_listed | ⟨node, member, source, reached⟩)
    · cases none_listed
    · rcases mem_targetNames.mp reached with ⟨⟨target, among, resolved⟩, allowed⟩
      have follows := ((spec.destinations_tidy allowSelf).mem_iff).mp ⟨node, member, rfl, among⟩
      have led := (WorkflowSpec.mem_destinations.mp follows).1
      exact ⟨⟨node.1, target, (known _ _).mp source, (known _ _).mp resolved, led⟩, allowed⟩
  · rintro ⟨⟨first, second, source, resolved, led⟩, allowed⟩
    -- A step from a node to itself would be one from the assistant to itself.
    have loop : first = second → allowSelf = true := by
      rintro rfl
      rw [← known] at source resolved
      exact allowed (Option.some.inj (resolved.symm.trans source))
    have follows := WorkflowSpec.mem_destinations.mpr ⟨led, loop⟩
    rcases ((spec.destinations_tidy allowSelf).mem_iff).mpr follows with ⟨node, member, own, among⟩
    refine .inr ⟨node, member, own ▸ (known _ _).mpr source, mem_targetNames.mpr ⟨?_, allowed⟩⟩
    exact ⟨second, among, (known _ _).mpr resolved⟩

end NodeResolution

end AssistantEngine
