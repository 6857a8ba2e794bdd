import AssistantEngine.Artifact.Record
import AssistantEngine.Catalog

/-!
The bounded store of records. When it is full, the oldest record makes room; looking a
record up does not make it younger.
-/

namespace AssistantEngine

/-- Records by their identifiers, and the order in which they came. -/
structure ArtifactStore where
  capacity : Nat
  /-- The identifiers, oldest first. -/
  order : List String := []
  records : Catalog Record := []

namespace ArtifactStore

def defaultCapacity : Nat := 256

/-- A store holds at least one record. -/
def ofCapacity (capacity : Nat) : ArtifactStore := { capacity := max capacity 1 }

def size (store : ArtifactStore) : Nat := store.records.length

/-- Drops the oldest records until there is room for one more. -/
def makeRoom (capacity : Nat) : List String → Catalog Record → List String × Catalog Record
  | [], records => ([], records)
  | oldest :: order, records =>
    if capacity ≤ records.length then makeRoom capacity order (records.erase oldest)
    else (oldest :: order, records)

def register (store : ArtifactStore) (id : String) (record : Record) : ArtifactStore :=
  let (order, records) := makeRoom store.capacity store.order store.records
  { store with order := order ++ [id], records := records.insert id record }

def find? (store : ArtifactStore) (id : String) : Option Record := store.records.find? id

def clear (store : ArtifactStore) : ArtifactStore := { store with order := [], records := [] }

end ArtifactStore

end AssistantEngine
