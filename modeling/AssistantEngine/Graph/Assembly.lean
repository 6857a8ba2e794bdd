import AssistantEngine.Assistant.Spec
import AssistantEngine.Workflow.Destinations

/-!
From nodes to assistants. Each node of a workflow is resolved to an assistant, known by its
name from then on; the nodes whose assistant is missing drop out, and where control may go
is said in names of assistants.
-/

namespace AssistantEngine

/-- The assistants that the nodes of a workflow were resolved to. -/
structure NodeResolution where
  /-- The names of the assistants by node. -/
  names : Catalog String := []
  /-- The specifications by name; of two with one name the first stays. -/
  specs : Catalog AssistantSpec := []

namespace NodeResolution

def add (resolution : NodeResolution) (node : WorkflowNode) (spec : AssistantSpec) :
    NodeResolution :=
  { names := resolution.names.insert node.id spec.name
    specs := resolution.specs.insertNew spec.name spec }

/-- The names that a node's targets stand for. An assistant counts as its own destination
only on demand. -/
def targetNames (resolution : NodeResolution) (allowSelf : Bool) (source : String)
    (targets : NameSet) : List String :=
  (targets.filterMap resolution.names.find?).filter fun name => name ≠ source || allowSelf

def addDestinations (resolution : NodeResolution) (allowSelf : Bool)
    (destinations : Catalog NameSet) (node : String × NameSet) : Catalog NameSet :=
  match resolution.names.find? node.1 with
  | none => destinations
  | some source =>
    destinations.insert source
      ((resolution.targetNames allowSelf source node.2).foldl NameSet.insert
        ((destinations.find? source).getD []))

/-- Where control may go from each assistant. -/
def destinations (resolution : NodeResolution) (spec : WorkflowSpec) (allowSelf : Bool) :
    Catalog NameSet :=
  (spec.destinations allowSelf).foldl (resolution.addDestinations allowSelf) []

end NodeResolution

end AssistantEngine
