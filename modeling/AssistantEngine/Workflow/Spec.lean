import AssistantEngine.Fault
import AssistantEngine.Reading.Field

/-!
Workflow specifications: a graph of nodes, each running an assistant, joined by edges
along which control may pass.
-/

namespace AssistantEngine

open Reading

structure NodePosition where
  x : Binary64
  y : Binary64
deriving DecidableEq, Repr

structure WorkflowNode where
  id : String
  assistantId : String
  position : Option NodePosition := none
  isStart : Bool := false
deriving DecidableEq, Repr

/-- Whether control may pass along an edge in its direction only, or in both. -/
inductive EdgeMode where
  | single
  | bidirectional
deriving DecidableEq, Repr

structure WorkflowEdge where
  source : String
  target : String
  mode : EdgeMode := .single
deriving DecidableEq, Repr

structure WorkflowSpec where
  id : String
  name : String := ""
  nodes : List WorkflowNode := []
  edges : List WorkflowEdge := []
deriving DecidableEq, Repr

/-- What keeps a workflow from being run. -/
inductive WorkflowDefect where
  | duplicateNode (id : String)
  | unknownEndpoint (id : String)
  | noStart
  | severalStarts
deriving DecidableEq, Repr

def WorkflowDefect.text (workflow : String) : WorkflowDefect → String
  | .duplicateNode id => s!"workflow '{workflow}' has duplicate node id '{id}'"
  | .unknownEndpoint id => s!"workflow '{workflow}' has an edge referencing unknown node '{id}'"
  | .noStart => s!"workflow '{workflow}' has no start node"
  | .severalStarts => s!"workflow '{workflow}' has more than one start node"

namespace WorkflowSpec

/-- The workflow that always runs the plain conversation. -/
def fallbackId : String := "__fallback__"

/-- The first node with an id. -/
def node? (spec : WorkflowSpec) (id : String) : Option WorkflowNode :=
  spec.nodes.find? (·.id = id)

/-- The first id that occurs a second time. -/
def firstDuplicate? (seen : List String) : List WorkflowNode → Option String
  | [] => none
  | node :: rest =>
    if seen.contains node.id then some node.id else firstDuplicate? (node.id :: seen) rest

def endpoints (spec : WorkflowSpec) : List String :=
  spec.edges.flatMap fun edge => [edge.source, edge.target]

/-- The first endpoint of an edge that is no node. -/
def firstStrayEndpoint? (spec : WorkflowSpec) : Option String :=
  spec.endpoints.find? fun endpoint => !(spec.nodes.any (·.id = endpoint))

/-- Node ids have to be distinct, and edges may join nodes of this workflow only. -/
def defect? (spec : WorkflowSpec) : Option WorkflowDefect :=
  match firstDuplicate? [] spec.nodes with
  | some id => some (.duplicateNode id)
  | none => spec.firstStrayEndpoint?.map .unknownEndpoint

def validate (spec : WorkflowSpec) : Except Fault Unit :=
  match spec.defect? with
  | some defect => .error (.invalidSpec (defect.text spec.id))
  | none => .ok ()

def starts (spec : WorkflowSpec) : List WorkflowNode := spec.nodes.filter (·.isStart)

/-- The only node marked as the start. -/
def startNode (spec : WorkflowSpec) : Except Fault WorkflowNode :=
  match spec.starts with
  | [node] => .ok node
  | [] => .error (.invalidSpec (WorkflowDefect.noStart.text spec.id))
  | _ => .error (.invalidSpec (WorkflowDefect.severalStarts.text spec.id))

end WorkflowSpec

/-! ## Reading and writing -/

def NodePosition.read (datum : Datum) : Reading NodePosition :=
  fields [["x"], ["y"]] datum fun
    | [x, y] => return ⟨← required asReal x, ← required asReal y⟩
    | _ => failure

def WorkflowNode.read (datum : Datum) : Reading WorkflowNode :=
  fields [["id"], ["assistant_id", "assistantId"], ["position"], ["is_start", "isStart"]] datum fun
    | [id, assistantId, position, isStart] => return {
        id := ← required asText id
        assistantId := ← required asText assistantId
        position := ← nullable NodePosition.read position
        isStart := ← defaulted false asBool isStart }
    | _ => failure

def EdgeMode.names : List (String × EdgeMode) :=
  [("single", .single), ("bidirectional", .bidirectional)]

def EdgeMode.name : EdgeMode → String
  | .single => "single"
  | .bidirectional => "bidirectional"

def WorkflowEdge.read (datum : Datum) : Reading WorkflowEdge :=
  fields [["source"], ["target"], ["mode"]] datum fun
    | [source, target, mode] => return {
        source := ← required asText source
        target := ← required asText target
        mode := ← defaulted .single (asChoice EdgeMode.names) mode }
    | _ => failure

namespace WorkflowSpec

def read (datum : Datum) : Reading WorkflowSpec :=
  fields [["id"], ["name"], ["nodes"], ["edges"]] datum fun
    | [id, name, nodes, edges] => return {
        id := ← required asText id
        name := ← defaulted "" asText name
        nodes := ← defaulted [] (asList WorkflowNode.read) nodes
        edges := ← defaulted [] (asList WorkflowEdge.read) edges }
    | _ => failure

def ofYaml (text : String) : Except Fault WorkflowSpec :=
  match Reading.ofYaml? read text with
  | some spec => .ok spec
  | none => .error (.invalidSpec "Failed to parse workflow YAML")

end WorkflowSpec

def NodePosition.toJson (position : NodePosition) : Json :=
  Json.object [("x", Json.ofReal position.x), ("y", Json.ofReal position.y)]

def WorkflowNode.toJson (node : WorkflowNode) : Json :=
  Json.object [("id", .str node.id), ("assistant_id", .str node.assistantId),
    ("position", Json.ofOption NodePosition.toJson node.position), ("is_start", .bool node.isStart)]

def WorkflowEdge.toJson (edge : WorkflowEdge) : Json :=
  Json.object [("source", .str edge.source), ("target", .str edge.target),
    ("mode", .str edge.mode.name)]

def WorkflowSpec.toJson (spec : WorkflowSpec) : Json :=
  Json.object [("id", .str spec.id), ("name", .str spec.name),
    ("nodes", .arr (spec.nodes.map WorkflowNode.toJson)),
    ("edges", .arr (spec.edges.map WorkflowEdge.toJson))]

end AssistantEngine
