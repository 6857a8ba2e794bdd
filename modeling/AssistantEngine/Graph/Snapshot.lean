import AssistantEngine.Graph.Compiled
import AssistantEngine.RuntimeCache.State

/-!
Snapshots of the runtime cache: one row for every key that it knows.
-/

namespace AssistantEngine

structure SnapshotRow where
  workflowId : String
  state : RuntimeCache.EntryState
  /-- The kind of the installed graph, if there is one. -/
  kind : Option GraphKind
  builtEpoch : Nat
  fallbackReason : Option String
  resources : Nat
deriving DecidableEq, Repr

namespace SnapshotRow

variable {Resource : Type}

def ofEntry (key : String) (entry : RuntimeCache.Entry CompiledRuntime Resource) : SnapshotRow :=
  { workflowId := key
    state := entry.state
    kind := entry.installed.map fun installed => installed.graph.runtime.kind
    builtEpoch := entry.builtEpoch
    fallbackReason := entry.fallbackReason
    resources := entry.resources }

def toJson (row : SnapshotRow) : Json :=
  Json.object [("workflow_id", .str row.workflowId), ("state", .str row.state.name),
    ("kind", Json.ofOption (fun kind => .str kind.name) row.kind),
    ("built_epoch", Json.natural row.builtEpoch),
    ("fallback_reason", Json.ofOption .str row.fallbackReason),
    ("resources", Json.natural row.resources)]

end SnapshotRow

/-- The rows in ascending order of the keys. -/
def RuntimeCache.State.snapshot {World Resource Reply : Type}
    (state : RuntimeCache.State World CompiledRuntime Resource Reply) : List SnapshotRow :=
  state.entries.map fun entry => SnapshotRow.ofEntry entry.1 entry.2

end AssistantEngine
