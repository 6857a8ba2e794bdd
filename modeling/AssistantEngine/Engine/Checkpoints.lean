import AssistantEngine.Engine.World

/-!
Checkpoint stores at work. A store that was released keeps reading and writing; it is only
marked.
-/

namespace AssistantEngine

namespace CheckpointStore

open Activity

def openFor (scope : String) : Activity World (Except Fault CheckpointStore) := do
  giveWay
  transact fun world =>
    match world.database.probe with
    | .error fault => (.error fault, world)
    | .ok _ =>
      (.ok { number := world.storeCount, scope := scope },
        { world with storeCount := world.storeCount + 1 })

def load (store : CheckpointStore) (thread : String) :
    Activity World (Except Fault (Option ThreadState)) := do
  giveWay
  inspect (·.database.load store.scope thread)

def save (store : CheckpointStore) (thread : String) (state : ThreadState) :
    Activity World (Except Fault Int) := do
  giveWay
  transact fun world =>
    match world.database.save store.scope thread state with
    | .ok (sequence, database) => (.ok sequence, { world with database := database })
    | .error fault => (.error fault, world)

def release (store : CheckpointStore) : Activity World Unit :=
  modify fun world =>
    if world.isStoreClosed store then world
    else { world with closedStores := store.number :: world.closedStores }

end CheckpointStore

end AssistantEngine
