import AssistantEngine.Concurrency.Activity
import AssistantEngine.RuntimeCache.Entry

/-!
The state of the runtime cache and of everything that is under way in it. A task is what
one party still has to do; between two of its pauses nothing else happens. Every caller that
is interested in a build waits for its outcome and then looks at the cache again.
-/

namespace AssistantEngine

namespace RuntimeCache

/-- Calls are named by whoever makes them. -/
abbrev CallId := Nat

/-- Who holds on to a runtime: the caller that got it, or a subscriber that was told of it. -/
inductive Holder where
  | call (id : CallId)
  | subscriber (position : Nat) (build : BuildId)
deriving DecidableEq, Repr

/-- A subscriber to new runtimes. It may keep the runtime, change the world, and panic; what
it did to the world before it panicked stays. -/
structure Subscriber (World : Type) where
  notify : BuildId → World → World
  keeps : Bool := false
  panics : Bool := false

/-- What builds graphs and releases their resources. -/
structure Builder (World Runtime Resource : Type) where
  build : BuildId → Activity World (Outcome Runtime Resource)
  release : Resource → Activity World Unit

namespace Builder

variable {World Runtime Resource : Type}

def releaseAll (builder : Builder World Runtime Resource) : List Resource → Activity World Unit
  | [] => .done ()
  | resource :: rest => (builder.release resource).bind fun _ => builder.releaseAll rest

/-- Releases the resources of a scope one after the other. -/
def closeScope (builder : Builder World Runtime Resource) (scope : Scope Resource) :
    Activity World Unit :=
  builder.releaseAll scope.close.1

end Builder

/-- What a caller wants a runtime for. -/
inductive Purpose where
  /-- To have a clean one. -/
  | get
  /-- To have the one that the present build yields, whatever happens meanwhile. -/
  | rebuild
deriving DecidableEq, Repr

/-- The answer to a call. -/
inductive Answer (Reply : Type) where
  | runtime (result : Except Fault BuildId)
  | closed (hadGraph : Bool)
  | reply (reply : Reply)

inductive Task (World Runtime Resource Reply : Type) where
  /-- A caller waits for a build. -/
  | waiting (call : CallId) (build : BuildId) (purpose : Purpose)
  /-- A rebuild that was requested earlier waits for a build. -/
  | refreshing (build : BuildId)
  | building (id : BuildId) (startEpoch : Nat) (rest : Activity World (Outcome Runtime Resource))
  /-- A build that has delivered its graph closes the scope of the one it replaced. -/
  | finishing (id : BuildId) (rest : Activity World Unit)
  /-- The last holder of a runtime has gone, and its scope is to be closed. -/
  | orphaned (id : BuildId) (scope : Scope Resource)
  /-- The scope of such a runtime is being closed. -/
  | releasing (id : BuildId) (rest : Activity World Unit)
  /-- A caller closes graphs: the scope at hand, then the remaining graphs, then the rest. -/
  | closing (call : CallId) (hadGraph : Bool) (current : Activity World Unit)
      (remaining : List (Installed Runtime Resource)) (afterwards : Activity World Unit)
  /-- A caller's own work, perhaps on a runtime that it holds meanwhile. -/
  | working (call : CallId) (held : Option BuildId) (rest : Activity World Reply)

/-- Which task is meant. Two refreshing tasks on one build are alike. -/
inductive TaskName where
  | waiting (call : CallId)
  | refreshing (build : BuildId)
  | building (id : BuildId)
  | finishing (id : BuildId)
  | orphaned (id : BuildId)
  | releasing (id : BuildId)
  | closing (call : CallId)
  | working (call : CallId)
deriving DecidableEq, Repr

namespace Task

variable {World Runtime Resource Reply : Type}

def name : Task World Runtime Resource Reply → TaskName
  | waiting call _ _ => .waiting call
  | refreshing build => .refreshing build
  | building id _ _ => .building id
  | finishing id _ => .finishing id
  | orphaned id _ => .orphaned id
  | releasing id _ => .releasing id
  | closing call _ _ _ _ => .closing call
  | working call _ _ => .working call

/-- Whether a task keeps a runtime alive: by waiting on the build that carries it, by still
delivering that build, or by working on it. -/
def holds (id : BuildId) : Task World Runtime Resource Reply → Bool
  | waiting _ build _ => build = id
  | refreshing build => build = id
  | building .. => false
  | finishing build _ => build = id
  | orphaned .. => false
  | releasing .. => false
  | closing .. => false
  | working _ held _ => held = some id

end Task

/-- What happened, for the record. -/
inductive Occurrence where
  | asked (call : CallId) (purpose : Purpose) (key : String)
  | started (id : BuildId) (epoch : Nat)
  | installed (id : BuildId)
  | failed (id : BuildId)
  | notified (position : Nat) (id : BuildId)
  | invalidated (key : String)
  | invalidatedAll
  | armed (key : String) (deadline : Time)
  | refused (key : String)
  | fired (key : String) (time : Time)
  | cancelled (key : String)
  | refreshed (key : String) (result : Except Fault BuildId)
  | answered (call : CallId) (purpose : Purpose) (key : String) (result : Except Fault BuildId)
  | closed (call : CallId) (key : String) (hadGraph : Bool)
  | closedAll (call : CallId)
  /-- The graph of a key, if there is one, is taken out of its entry. -/
  | emptied (key : String)
  /-- The scope of a graph begins to be closed. -/
  | released (id : BuildId)

structure State (World Runtime Resource Reply : Type) where
  now : Time := 0
  world : World
  entries : Catalog (Entry Runtime Resource) := []
  epoch : Nat := 0
  /-- The armed timers and when they expire. -/
  timers : Catalog Time := []
  /-- How many builds of a key have been started. -/
  started : Catalog Nat := []
  /-- What the finished builds have delivered to those who wait. -/
  outcomes : List (BuildId × Except String Unit) := []
  /-- The runtimes of all graphs that were ever installed. -/
  runtimes : List (BuildId × Runtime) := []
  tasks : List (Task World Runtime Resource Reply) := []
  holders : List (Holder × BuildId) := []
  answers : List (CallId × Answer Reply) := []
  /-- The calls in whose answers nobody is interested any more. -/
  forgotten : List CallId := []
  /-- Scopes of graphs that were replaced or closed while their runtime was held. -/
  deferred : List (BuildId × Scope Resource) := []
  subscribers : List (Subscriber World) := []
  journal : List Occurrence := []

namespace State

variable {World Runtime Resource Reply Result : Type}

def note (state : State World Runtime Resource Reply) (occurrence : Occurrence) :
    State World Runtime Resource Reply :=
  { state with journal := state.journal ++ [occurrence] }

def spawn (state : State World Runtime Resource Reply) (task : Task World Runtime Resource Reply) :
    State World Runtime Resource Reply :=
  { state with tasks := state.tasks ++ [task] }

def task? (state : State World Runtime Resource Reply) (name : TaskName) :
    Option (Task World Runtime Resource Reply) :=
  state.tasks.find? (·.name = name)

/-- The state without the first task of a name. -/
def dismiss (state : State World Runtime Resource Reply) (name : TaskName) :
    State World Runtime Resource Reply :=
  { state with tasks := state.tasks.eraseP (·.name = name) }

/-- Puts a task in the place of the one with its name. -/
def replace (state : State World Runtime Resource Reply)
    (task : Task World Runtime Resource Reply) : State World Runtime Resource Reply :=
  { state with
    tasks := state.tasks.map fun other => if other.name = task.name then task else other }

def entry (state : State World Runtime Resource Reply) (key : String) : Entry Runtime Resource :=
  (state.entries.find? key).getD {}

def entryState (state : State World Runtime Resource Reply) (key : String) : EntryState :=
  (state.entry key).state

def setEntry (state : State World Runtime Resource Reply) (key : String)
    (entry : Entry Runtime Resource) : State World Runtime Resource Reply :=
  { state with entries := state.entries.insert key entry }

def runtime? (state : State World Runtime Resource Reply) (id : BuildId) : Option Runtime :=
  state.runtimes.lookup id

/-- Whether anyone but the cache itself keeps a runtime alive. -/
def isHeld (state : State World Runtime Resource Reply) (id : BuildId) : Bool :=
  state.holders.any (·.2 = id) || state.tasks.any (Task.holds id)

def hold (state : State World Runtime Resource Reply) (holder : Holder) (id : BuildId) :
    State World Runtime Resource Reply :=
  { state with holders := state.holders ++ [(holder, id)] }

def drop (state : State World Runtime Resource Reply) (holder : Holder) :
    State World Runtime Resource Reply :=
  { state with holders := state.holders.filter (·.1 ≠ holder) }

/-- Nobody asks for the answer to a call any more: a runtime that it yields, or has yielded, is
let go. -/
def forget (state : State World Runtime Resource Reply) (call : CallId) :
    State World Runtime Resource Reply :=
  let state := state.drop (.call call)
  { state with forgotten := call :: state.forgotten }

def answer? (state : State World Runtime Resource Reply) (call : CallId) : Option (Answer Reply) :=
  state.answers.lookup call

def setAnswer (state : State World Runtime Resource Reply) (call : CallId) (answer : Answer Reply) :
    State World Runtime Resource Reply :=
  { state with answers := state.answers ++ [(call, answer)] }

def setOutcome (state : State World Runtime Resource Reply) (id : BuildId)
    (outcome : Except String Unit) : State World Runtime Resource Reply :=
  { state with outcomes := state.outcomes ++ [(id, outcome)] }

/-- Runs an activity up to its next pause. -/
def advance (state : State World Runtime Resource Reply) (activity : Activity World Result) :
    Activity World Result × State World Runtime Resource Reply :=
  let (rest, world) := activity.advance state.now state.world
  (rest, { state with world := world })

/-- Ends the pause of an activity and runs it up to the next one. -/
def resume (state : State World Runtime Resource Reply) (activity : Activity World Result) :
    Activity World Result × State World Runtime Resource Reply :=
  let (rest, world) := activity.resume state.now state.world
  (rest, { state with world := world })

/-- Whether a task can go on. -/
def isReady (state : State World Runtime Resource Reply) :
    Task World Runtime Resource Reply → Bool
  | .waiting _ build _ => (state.outcomes.lookup build).isSome
  | .refreshing build => (state.outcomes.lookup build).isSome
  | .building _ _ rest => rest.isReady state.now state.world
  | .finishing _ rest => rest.isReady state.now state.world
  | .orphaned .. => true
  | .releasing _ rest => rest.isReady state.now state.world
  | .closing _ _ current _ _ => current.isReady state.now state.world
  | .working _ _ rest => rest.isReady state.now state.world

end State

end RuntimeCache

end AssistantEngine
