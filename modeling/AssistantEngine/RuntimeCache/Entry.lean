import AssistantEngine.Catalog
import AssistantEngine.Fault
import AssistantEngine.Scope

/-!
What the runtime cache knows of one workflow: the graph that is installed, when its build
was started, when it was last invalidated, and whether a build is in progress.

A build is named by its key and its number among the builds of that key, and the runtime it
yields has the same name.
-/

namespace AssistantEngine

namespace RuntimeCache

structure BuildId where
  key : String
  number : Nat
deriving DecidableEq, Repr

/-- A runtime with the resources that were opened for it. -/
structure Graph (Runtime Resource : Type) where
  runtime : Runtime
  scope : Scope Resource

/-- How a build ends. A fallback graph carries the reason for which it was chosen. -/
inductive Outcome (Runtime Resource : Type) where
  | workflow (graph : Graph Runtime Resource)
  | fallback (graph : Graph Runtime Resource) (reason : String)
  | failed (fault : Fault)
  | panicked

namespace Outcome

variable {Runtime Resource : Type}

def graph? : Outcome Runtime Resource → Option (Graph Runtime Resource)
  | workflow graph => some graph
  | fallback graph _ => some graph
  | failed _ => none
  | panicked => none

def reason? : Outcome Runtime Resource → Option String
  | fallback _ reason => some reason
  | _ => none

end Outcome

structure Installed (Runtime Resource : Type) where
  id : BuildId
  graph : Graph Runtime Resource

/-- Epochs count invalidations, of any key. -/
structure Entry (Runtime Resource : Type) where
  installed : Option (Installed Runtime Resource) := none
  fallbackReason : Option String := none
  /-- The epoch at which the installed graph's build was started. -/
  builtEpoch : Nat := 0
  /-- The epoch of the last invalidation of this key. -/
  invalidatedEpoch : Nat := 0
  dirty : Bool := false
  building : Option BuildId := none

inductive EntryState where
  | absent
  | clean
  | dirty
  | building
deriving DecidableEq, Repr

namespace EntryState

def name : EntryState → String
  | absent => "absent"
  | clean => "clean"
  | dirty => "dirty"
  | building => "building"

end EntryState

namespace Entry

variable {Runtime Resource : Type}

def state (entry : Entry Runtime Resource) : EntryState :=
  if entry.building.isSome then .building
  else if entry.installed.isNone then .absent
  else if entry.dirty then .dirty
  else .clean

def invalidate (entry : Entry Runtime Resource) (epoch : Nat) : Entry Runtime Resource :=
  { entry with dirty := true, invalidatedEpoch := epoch }

/-- The number of resources that the installed graph keeps open. -/
def resources (entry : Entry Runtime Resource) : Nat :=
  match entry.installed with
  | some installed => installed.graph.scope.size
  | none => 0

end Entry

end RuntimeCache

end AssistantEngine
