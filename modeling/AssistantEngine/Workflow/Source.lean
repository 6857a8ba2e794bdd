import AssistantEngine.Assistant.Spec
import AssistantEngine.Storage.FileTree
import AssistantEngine.Workflow.Spec

/-!
Where workflow and assistant specifications come from: a collection in memory, a directory
of YAML documents that is read anew for every look-up, or some other service.
-/

namespace AssistantEngine

open Reading

/-- A document says by its `kind` whether it specifies a workflow or an assistant. -/
inductive SpecDocument where
  | workflow (spec : WorkflowSpec)
  | assistant (spec : AssistantSpec)

/-- Specifications by id. -/
structure SpecCollection where
  workflows : Catalog WorkflowSpec := []
  assistants : Catalog AssistantSpec := []

namespace SpecCollection

def insertWorkflow (collection : SpecCollection) (spec : WorkflowSpec) : SpecCollection :=
  { collection with workflows := collection.workflows.insert spec.id spec }

def insertAssistant (collection : SpecCollection) (spec : AssistantSpec) : SpecCollection :=
  { collection with assistants := collection.assistants.insert spec.id spec }

def removeWorkflow (collection : SpecCollection) (id : String) : SpecCollection :=
  { collection with workflows := collection.workflows.erase id }

def insert (collection : SpecCollection) : SpecDocument → SpecCollection
  | .workflow spec => collection.insertWorkflow spec
  | .assistant spec => collection.insertAssistant spec

end SpecCollection

namespace SpecDocument

inductive Kind where
  | workflow
  | assistant
deriving DecidableEq

def kinds : List (String × Kind) := [("workflow", .workflow), ("assistant", .assistant)]

def readKind (datum : Datum) : Reading Kind := do
  ofOption (kinds.lookup (← asText datum))

def isKindKey (key : Datum) : Bool :=
  match key with
  | .text name => name == "kind"
  | _ => false

/-- The kind, taken from the document as it is written, and the rest as loose data. The kind
may be given only once; in a list it comes first. -/
def split (datum : Datum) : Reading (Kind × Datum) := do
  match ← opened datum with
  | .node (.mapping tag entries) =>
    if Datum.hasLocalName tag then failure
    else inside do
      let keyed ← entries.mapM fun (key, value) => do return (← loosen false key, value)
      let (kinds, others) := keyed.partition fun entry => isKindKey entry.1
      match kinds with
      | [(_, value)] =>
        let kind ← readKind (.node value)
        let rest ← others.mapM fun (key, value) => do return (key, ← loosen false value)
        return (kind, .table rest)
      | _ => failure
  | .node (.sequence tag (first :: others)) =>
    if Datum.hasLocalName tag then failure
    else inside do
      let kind ← readKind (.node first)
      return (kind, .list (← others.mapM (loosen false)))
  | _ => failure

def read (datum : Datum) : Reading SpecDocument := do
  let (kind, rest) ← split datum
  match kind with
  | .workflow => return .workflow (← WorkflowSpec.read rest)
  | .assistant => return .assistant (← AssistantSpec.read rest)

def ofYaml? (text : String) : Option SpecDocument := Reading.ofYaml? read text

/-- Whether a file counts as a document, by its suffix. -/
def isDocument (path : String) : Bool :=
  Path.suffix? path == some "yaml" || Path.suffix? path == some "yml"

end SpecDocument

namespace SpecCollection

/-- The documents directly in a directory, in ascending order of their names. -/
def documents (entries : Catalog FileTree) : List SpecDocument :=
  entries.filterMap fun (name, tree) =>
    match tree with
    | .file content => if SpecDocument.isDocument name then SpecDocument.ofYaml? content else none
    | .directory _ => none

/-- What a directory specifies; of two documents with one id the later stays. -/
def ofDirectory (files : FileSystem) (directory : String) : SpecCollection :=
  match files.find? directory with
  | some tree => (documents tree.entries).foldl insert {}
  | none => {}

end SpecCollection

/-- Some other service that answers look-ups, or fails to. -/
structure SpecService where
  workflow : String → Except Fault (Option WorkflowSpec)
  assistant : String → Except Fault (Option AssistantSpec)

inductive SpecSource where
  | memory (collection : SpecCollection)
  | directory (path : String)
  | service (lookUp : SpecService)

namespace SpecSource

/-- The specifications that can be listed at this moment. -/
def collection (source : SpecSource) (files : FileSystem) : SpecCollection :=
  match source with
  | .memory collection => collection
  | .directory path => SpecCollection.ofDirectory files path
  | .service _ => {}

def workflow (source : SpecSource) (files : FileSystem) (id : String) :
    Except Fault (Option WorkflowSpec) :=
  match source with
  | .service lookUp => lookUp.workflow id
  | source => .ok ((source.collection files).workflows.find? id)

def assistant (source : SpecSource) (files : FileSystem) (id : String) :
    Except Fault (Option AssistantSpec) :=
  match source with
  | .service lookUp => lookUp.assistant id
  | source => .ok ((source.collection files).assistants.find? id)

/-- The ids of the workflows that can be listed, in ascending order. -/
def workflowIds (source : SpecSource) (files : FileSystem) : List String :=
  (source.collection files).workflows.keys

end SpecSource

end AssistantEngine
