import AssistantEngine.Engine.Basic
import AssistantEngine.Engine.Description

/-!
Stages: the world of an engine together with a report of what happens in it, so that a
session can be told afterwards, step by step.
-/

namespace AssistantEngine

open RuntimeCache (BuildId)

/-- What is reported of a stage. -/
inductive StageEvent where
  | exchange (exchange : Exchange)
  | build (id : BuildId)
  | release (label : String)
  /-- A rebuilt runtime was announced. -/
  | swap (id : BuildId)

structure Stage where
  world : World
  report : List StageEvent := []
  /-- The builds that are prescribed, where the builder follows prescriptions. -/
  builds : List Json := []

namespace Stage

def note (event : StageEvent) (stage : Stage) : Stage :=
  { stage with report := stage.report ++ [event] }

/-- Replaces the engine's world and reports what it exchanged with tool servers. -/
def setWorld (world : World) (stage : Stage) : Stage :=
  { stage with
    world := { world with exchanges := [] }
    report := stage.report ++ world.exchanges.map .exchange }

/-- Something that is done in the engine's world, done on the stage. -/
def perform {α : Type} (activity : Activity World α) : Activity Stage α :=
  activity.within Stage.world setWorld

/-- The engine's builder, at work on the stage. -/
def builder (settings : Settings) : RuntimeCache.Builder Stage CompiledRuntime Resource :=
  let engine := Engine.builder settings
  { build := fun id => perform (engine.build id)
    release := fun resource => perform (engine.release resource) }

def announcer : RuntimeCache.Subscriber Stage := { notify := fun id stage => stage.note (.swap id) }

/-- The runtimes seen so far, and after them those that the report announces. -/
def announced (stage : Stage) (seen : List BuildId) : List BuildId :=
  stage.report.foldl (fun seen event =>
    match event with
    | .swap id => if seen.contains id then seen else seen ++ [id]
    | _ => seen) seen

end Stage

/-- An event, where runtimes are known by numbers. -/
def StageEvent.toJson (number : BuildId → Nat) : StageEvent → Json
  | .exchange passed => passed.toJson
  | .build id => Json.object [("event", .str "build"), ("id", .str id.key)]
  | .release label => Json.object [("event", .str "release"), ("label", .str label)]
  | .swap id =>
    Json.object [("event", .str "swap"), ("id", .str id.key), ("runtime", Json.natural (number id))]

end AssistantEngine
