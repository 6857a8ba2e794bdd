import Mathlib.Data.List.Induction
import Mathlib.Data.List.Nodup
import AssistantEngine.Graph.Assembly
import AssistantEngine.Proofs.Catalog

/-!
What the nodes of a workflow are resolved to. Each node has been looked up, with an assistant or
without; the resolution knows the names of those that have one, and a specification for every
such name.
-/

namespace AssistantEngine

namespace WorkflowSpec

theorem firstDuplicate?_none {seen : List String} {nodes : List WorkflowNode}
    (distinct : firstDuplicate? seen nodes = none) :
    (nodes.map (·.id)).Nodup ∧ ∀ node ∈ nodes, node.id ∉ seen := by
  induction nodes generalizing seen with
  | nil => exact ⟨List.nodup_nil, fun _ member => absurd member List.not_mem_nil⟩
  | cons node rest induction =>
      unfold firstDuplicate? at distinct
      split at distinct
      · cases distinct
      · rename_i unseen
        have fresh : node.id ∉ seen := fun member => unseen (List.contains_iff_mem.mpr member)
        rcases induction distinct with ⟨nodup, outside⟩
        refine ⟨?_, ?_⟩
        · rw [List.map_cons, List.nodup_cons]
          refine ⟨fun member => ?_, nodup⟩
          rcases List.mem_map.mp member with ⟨other, later, same⟩
          exact outside other later (same ▸ List.mem_cons_self)
        · intro other member
          rcases List.mem_cons.mp member with first | later
          · exact first ▸ fresh
          · exact fun among => outside other later (List.mem_cons_of_mem _ among)

/-- The nodes of a workflow that is valid have ids of their own. -/
theorem nodup_of_validate {spec : WorkflowSpec} (valid : spec.validate = .ok ()) :
    (spec.nodes.map (·.id)).Nodup := by
  unfold validate defect? at valid
  cases duplicate : firstDuplicate? [] spec.nodes with
  | none => exact (firstDuplicate?_none duplicate).1
  | some id =>
      rw [duplicate] at valid
      cases valid

theorem startNode_ok {spec : WorkflowSpec} {start : WorkflowNode} :
    spec.startNode = .ok start ↔ spec.starts = [start] := by
  unfold startNode
  constructor
  · intro found
    split at found
    · rename_i node only
      cases found
      exact only
    · cases found
    · cases found
  · intro only
    rw [only]

/-- The start node is one of the nodes. -/
theorem mem_of_starts {spec : WorkflowSpec} {start : WorkflowNode} (only : spec.starts = [start]) :
    start ∈ spec.nodes := by
  have member : start ∈ spec.starts := only ▸ List.mem_singleton.mpr rfl
  exact (List.mem_filter.mp member).1

end WorkflowSpec

/-- A node, and the assistant that its look-up has found. -/
abbrev LookedUp := WorkflowNode × Option AssistantSpec

namespace NodeResolution

/-- Adds a node if it has an assistant. -/
def addFound (resolution : NodeResolution) (node : LookedUp) : NodeResolution :=
  match node.2 with
  | some spec => resolution.add node.1 spec
  | none => resolution

/-- The resolution of nodes in the order of their look-ups. -/
def collect (nodes : List LookedUp) : NodeResolution := nodes.foldl addFound {}

/-- A node with this id has been resolved to an assistant with this name. -/
def Stands (nodes : List LookedUp) (id name : String) : Prop :=
  ∃ node spec, (node, some spec) ∈ nodes ∧ node.id = id ∧ spec.name = name

theorem collect_concat (nodes : List LookedUp) (last : LookedUp) :
    collect (nodes ++ [last]) = (collect nodes).addFound last := by
  unfold collect
  rw [List.foldl_append]
  rfl

theorem Stands.concat {nodes : List LookedUp} {last : LookedUp} {id name : String} :
    Stands (nodes ++ [last]) id name ↔
      Stands nodes id name ∨ ∃ spec, last.2 = some spec ∧ last.1.id = id ∧ spec.name = name := by
  constructor
  · rintro ⟨node, spec, member, own, named⟩
    rcases List.mem_append.mp member with earlier | final
    · exact .inl ⟨node, spec, earlier, own, named⟩
    · have same := List.mem_singleton.mp final
      exact .inr ⟨spec, congrArg Prod.snd same.symm, congrArg (·.1.id) same.symm ▸ own, named⟩
  · rintro (⟨node, spec, member, own, named⟩ | ⟨spec, found, own, named⟩)
    · exact ⟨node, spec, List.mem_append_left _ member, own, named⟩
    · refine ⟨last.1, spec, List.mem_append_right _ ?_, own, named⟩
      rw [← found]
      exact List.mem_singleton.mpr rfl

/-- A node whose name is known has been resolved to an assistant of that name. -/
theorem stands_of_names {nodes : List LookedUp} {id name : String}
    (known : (collect nodes).names.find? id = some name) : Stands nodes id name := by
  induction nodes using List.reverseRecOn with
  | nil => cases known
  | append_singleton nodes last induction =>
      rw [Stands.concat]
      rw [collect_concat] at known
      rcases last with ⟨node, _ | spec⟩
      · exact .inl (induction known)
      · simp only [addFound, add, Catalog.find?_insert] at known
        split at known
        · rename_i own
          exact .inr ⟨spec, rfl, own, Option.some.inj known⟩
        · exact .inl (induction known)

/-- Where no two nodes share an id, every node with an assistant is known by its name. -/
theorem names_of_stands {nodes : List LookedUp} {id name : String}
    (nodup : (nodes.map (·.1.id)).Nodup) (stands : Stands nodes id name) :
    (collect nodes).names.find? id = some name := by
  induction nodes using List.reverseRecOn with
  | nil =>
      rcases stands with ⟨node, spec, member, _⟩
      cases member
  | append_singleton nodes last induction =>
      rw [List.map_append, List.nodup_append] at nodup
      rcases nodup with ⟨earlier, _, apart⟩
      rw [collect_concat]
      rcases Stands.concat.mp stands with old | ⟨spec, found, own, named⟩
      · rcases last with ⟨node, _ | spec⟩
        · exact induction earlier old
        · -- The id of the last node is none of the earlier ones.
          rcases old with ⟨other, among, member, same, named⟩
          have different : node.id ≠ id := fun equal =>
            apart id (List.mem_map.mpr ⟨_, member, same⟩) node.id
              (List.mem_singleton.mpr rfl) equal.symm
          simp only [addFound, add, Catalog.find?_insert, if_neg different]
          exact induction earlier ⟨other, among, member, same, named⟩
      · rcases last with ⟨node, spec'⟩
        subst found
        simp only [addFound, add, Catalog.find?_insert]
        rw [if_pos own, named]

/-- Under a name stands the specification of an assistant that has it and was found. -/
theorem stands_of_specs {nodes : List LookedUp} {name : String} {spec : AssistantSpec}
    (known : (collect nodes).specs.find? name = some spec) :
    spec.name = name ∧ ∃ id, Stands nodes id name := by
  induction nodes using List.reverseRecOn with
  | nil => cases known
  | append_singleton nodes last induction =>
      rw [collect_concat] at known
      have older (known : (collect nodes).specs.find? name = some spec) :
          spec.name = name ∧ ∃ id, Stands (nodes ++ [last]) id name := by
        rcases induction known with ⟨named, id, stands⟩
        exact ⟨named, id, Stands.concat.mpr (.inl stands)⟩
      rcases last with ⟨node, _ | given⟩
      · exact older known
      · simp only [addFound, add, Catalog.insertNew] at known
        split at known
        · exact older known
        · rw [Catalog.find?_insert] at known
          split at known
          · rename_i same
            cases known
            exact ⟨same, node.id, Stands.concat.mpr (.inr ⟨spec, rfl, rfl, same⟩)⟩
          · exact older known

/-- Every assistant that was found has a specification under its name. -/
theorem specs_of_stands {nodes : List LookedUp} {id name : String} (stands : Stands nodes id name) :
    (collect nodes).specs.contains name = true := by
  induction nodes using List.reverseRecOn with
  | nil =>
      rcases stands with ⟨node, spec, member, _⟩
      cases member
  | append_singleton nodes last induction =>
      rw [collect_concat]
      rcases last with ⟨node, _ | given⟩
      · rcases Stands.concat.mp stands with old | ⟨spec, found, _⟩
        · exact induction old
        · cases found
      · simp only [addFound, add, Catalog.insertNew]
        rcases Stands.concat.mp stands with old | ⟨spec, found, _, named⟩
        · have present := induction old
          split
          · exact present
          · unfold Catalog.contains at present ⊢
            rw [Catalog.find?_insert]
            split
            · rfl
            · exact present
        · cases found
          subst named
          split
          · assumption
          · unfold Catalog.contains
            rw [Catalog.find?_insert_self]
            rfl

end NodeResolution

end AssistantEngine
