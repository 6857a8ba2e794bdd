import AssistantEngine.Workflow.Spec

/-!
Where control may go from each node of a workflow, as the edges say.
-/

namespace AssistantEngine

/-- An ascending list of names without repetition. -/
abbrev NameSet := List String

namespace NameSet

def insert : NameSet → String → NameSet
  | [], name => [name]
  | first :: rest, name =>
    if first = name then first :: rest
    else if name < first then name :: first :: rest
    else first :: insert rest name

end NameSet

namespace WorkflowSpec

/-- Adds a step from one node to another; a step to the node itself only on demand. -/
def link (allowSelf : Bool) (reachable : Catalog NameSet) (source target : String) :
    Catalog NameSet :=
  if source = target && !allowSelf then reachable
  else
    reachable.insert source (NameSet.insert ((reachable.find? source).getD []) target)

def linkEdge (allowSelf : Bool) (reachable : Catalog NameSet) (edge : WorkflowEdge) :
    Catalog NameSet :=
  let forward := link allowSelf reachable edge.source edge.target
  match edge.mode with
  | .single => forward
  | .bidirectional => link allowSelf forward edge.target edge.source

/-- The nodes that control may pass to, for every node. -/
def destinations (spec : WorkflowSpec) (allowSelf : Bool) : Catalog NameSet :=
  spec.edges.foldl (linkEdge allowSelf)
    (Catalog.ofList (spec.nodes.map fun node => (node.id, [])))

end WorkflowSpec

end AssistantEngine
