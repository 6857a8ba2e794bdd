import AssistantEngine.RuntimeCache.State

/-!
The changes of the runtime cache that happen without a pause: looking a key up, starting
and finishing builds, invalidation, requested rebuilds, and closing.
-/

namespace AssistantEngine

namespace RuntimeCache

namespace State

variable {World Runtime Resource Reply : Type}

/-! ## Answering callers -/

/-- Starts a caller's own work. -/
def beginWork (state : State World Runtime Resource Reply) (call : CallId) (held : Option BuildId)
    (activity : Activity World Reply) : State World Runtime Resource Reply :=
  match state.advance activity with
  | (.done reply, state) => state.setAnswer call (.reply reply)
  | (rest, state) => state.spawn (.working call held rest)

/-- A caller receives a runtime, and holds it from now on if it is still interested. -/
def deliver (state : State World Runtime Resource Reply) (call : CallId) (purpose : Purpose)
    (id : BuildId) : State World Runtime Resource Reply :=
  let state :=
    (state.note (.answered call purpose id.key (.ok id))).setAnswer call (.runtime (.ok id))
  if state.forgotten.contains call then state else state.hold (.call call) id

/-- A caller learns that its build failed. -/
def refuse (state : State World Runtime Resource Reply) (call : CallId) (purpose : Purpose)
    (key text : String) : State World Runtime Resource Reply :=
  let result : Except Fault BuildId := .error (.build text)
  (state.note (.answered call purpose key result)).setAnswer call (.runtime result)

/-! ## Starting builds -/

/-- The build of a key that is in progress, or else a new one. -/
def startOrJoin (builder : Builder World Runtime Resource)
    (state : State World Runtime Resource Reply) (key : String) :
    BuildId × State World Runtime Resource Reply :=
  match (state.entry key).building with
  | some id => (id, state)
  | none =>
    let number := (state.started.find? key).getD 0
    let id : BuildId := ⟨key, number⟩
    let state := state.setEntry key { state.entry key with building := some id }
    let state := { state with started := state.started.insert key (number + 1) }
    let state := state.spawn (.building id state.epoch (builder.build id))
    (id, state.note (.started id state.epoch))

/-- What a look at the cache finds: a clean graph, or a build to wait for. -/
inductive Finding where
  | ready (id : BuildId)
  | pending (build : BuildId)

def lookUp (builder : Builder World Runtime Resource)
    (state : State World Runtime Resource Reply) (key : String) :
    Finding × State World Runtime Resource Reply :=
  let entry := state.entry key
  match entry.building, entry.installed, entry.dirty with
  | some id, _, _ => (.pending id, state)
  | none, some installed, false => (.ready installed.id, state)
  | none, _, _ =>
    let (id, state) := startOrJoin builder state key
    (.pending id, state)

/-- A caller looks at the cache. -/
def beginGet (builder : Builder World Runtime Resource)
    (state : State World Runtime Resource Reply) (call : CallId) (key : String) :
    State World Runtime Resource Reply :=
  match lookUp builder state key with
  | (.ready id, state) => state.deliver call .get id
  | (.pending build, state) => state.spawn (.waiting call build .get)

def beginRebuild (builder : Builder World Runtime Resource)
    (state : State World Runtime Resource Reply) (call : CallId) (key : String) :
    State World Runtime Resource Reply :=
  let (build, state) := startOrJoin builder state key
  state.spawn (.waiting call build .rebuild)

/-! ## Invalidation -/

def invalidate (state : State World Runtime Resource Reply) (key : String) :
    State World Runtime Resource Reply :=
  let epoch := state.epoch + 1
  let entries :=
    match state.entries.find? key with
    | some entry => state.entries.insert key (entry.invalidate epoch)
    | none => state.entries
  { state with epoch := epoch, entries := entries }.note (.invalidated key)

def invalidateAll (state : State World Runtime Resource Reply) :
    State World Runtime Resource Reply :=
  let epoch := state.epoch + 1
  { state with
    epoch := epoch
    entries := state.entries.mapValues (Entry.invalidate · epoch) }.note .invalidatedAll

/-! ## Requested rebuilds -/

/-- Arms a timer for the key unless one is armed already; answers whether it did. -/
def requestRebuild (state : State World Runtime Resource Reply) (key : String) (delay : Time) :
    Bool × State World Runtime Resource Reply :=
  if state.timers.contains key then (false, state.note (.refused key))
  else
    let deadline := state.now + delay
    (true, { state with timers := state.timers.insert key deadline }.note (.armed key deadline))

/-- A requested rebuild looks at the cache. Nobody keeps the runtime that it gets. -/
def refresh (builder : Builder World Runtime Resource) (state : State World Runtime Resource Reply)
    (key : String) : State World Runtime Resource Reply :=
  match lookUp builder state key with
  | (.ready id, state) => state.note (.refreshed key (.ok id))
  | (.pending build, state) => state.spawn (.refreshing build)

/-- A timer that has expired invalidates its key and gets a new runtime. -/
def fire (builder : Builder World Runtime Resource) (state : State World Runtime Resource Reply)
    (key : String) : State World Runtime Resource Reply :=
  let state := { state with timers := state.timers.erase key }.note (.fired key state.now)
  refresh builder (state.invalidate key) key

def cancelTimer (state : State World Runtime Resource Reply) (key : String) :
    State World Runtime Resource Reply :=
  if state.timers.contains key then
    { state with timers := state.timers.erase key }.note (.cancelled key)
  else state

/-! ## Retiring graphs -/

/-- A graph that is no longer installed: its scope is closed at once if nobody holds the
runtime, and kept for later otherwise. -/
def retire (builder : Builder World Runtime Resource) (state : State World Runtime Resource Reply)
    (installed : Installed Runtime Resource) :
    Activity World Unit × State World Runtime Resource Reply :=
  if state.isHeld installed.id then
    (.done (), { state with deferred := state.deferred ++ [(installed.id, installed.graph.scope)] })
  else
    (builder.closeScope installed.graph.scope, state.note (.released installed.id))

/-- Hands the deferred scopes whose runtimes nobody holds any more to tasks of their own. -/
def releaseDropped (state : State World Runtime Resource Reply) :
    State World Runtime Resource Reply :=
  { state with
    deferred := state.deferred.filter fun deferred => state.isHeld deferred.1
    tasks := state.tasks ++
      (state.deferred.filter fun deferred => !state.isHeld deferred.1).map fun deferred =>
        .orphaned deferred.1 deferred.2 }

/-! ## Finishing builds -/

def notifyFrom (id : BuildId) : Nat → List (Subscriber World) →
    State World Runtime Resource Reply → State World Runtime Resource Reply
  | _, [], state => state
  | position, subscriber :: rest, state =>
    let state := { state with world := subscriber.notify id state.world }.note
      (.notified position id)
    let state :=
      if subscriber.keeps && !subscriber.panics then state.hold (.subscriber position id) id
      else state
    notifyFrom id (position + 1) rest state

/-- Tells every subscriber, in the order of their registration. -/
def notifyAll (state : State World Runtime Resource Reply) (id : BuildId) :
    State World Runtime Resource Reply :=
  notifyFrom id 0 state.subscribers state

/-- Installs a new graph. It is dirty from the start if its key was invalidated after its
build had started. -/
def install (state : State World Runtime Resource Reply) (id : BuildId) (startEpoch : Nat)
    (graph : Graph Runtime Resource) (reason : Option String) :
    State World Runtime Resource Reply :=
  let entry := state.entry id.key
  let state := state.setEntry id.key
    { entry with
      installed := some ⟨id, graph⟩
      fallbackReason := reason
      builtEpoch := startEpoch
      dirty := entry.invalidatedEpoch > startEpoch
      building := none }
  { state with runtimes := state.runtimes ++ [(id, graph.runtime)] }.note (.installed id)

/-- A build without a graph leaves the rest of the entry as it was. -/
def abandon (state : State World Runtime Resource Reply) (id : BuildId) (text : String) :
    State World Runtime Resource Reply :=
  let state := state.setEntry id.key { state.entry id.key with building := none }
  (state.note (.failed id)).setOutcome id (.error text)

def abortedText (key : String) : String := s!"build of '{key}' was aborted"

/-- The end of a build: its graph is installed, those who wait receive it, subscribers are
told, and the graph it replaces is retired. -/
def finishBuild (builder : Builder World Runtime Resource)
    (state : State World Runtime Resource Reply) (id : BuildId) (startEpoch : Nat)
    (outcome : Outcome Runtime Resource) : State World Runtime Resource Reply :=
  match outcome with
  | .failed fault => state.abandon id fault.message
  | .panicked => state.abandon id (abortedText id.key)
  | .workflow graph | .fallback graph _ =>
    let replaced := (state.entry id.key).installed
    let state := state.install id startEpoch graph outcome.reason?
    let state := (state.setOutcome id (.ok ())).notifyAll id
    match replaced with
    | none => state
    | some old =>
      let (closing, state) := retire builder state old
      match state.advance closing with
      | (.done _, state) => state
      | (rest, state) => state.spawn (.finishing id rest)

/-! ## Closing -/

/-- Takes the graph out of an entry. An entry with a build in progress stays. -/
def evict (state : State World Runtime Resource Reply) (key : String) :
    Option (Installed Runtime Resource) × State World Runtime Resource Reply :=
  match state.entries.find? key with
  | none => (none, state.note (.emptied key))
  | some entry =>
    let state :=
      if entry.building.isSome then state.setEntry key { entry with installed := none }
      else { state with entries := state.entries.erase key }
    (entry.installed, state.note (.emptied key))

/-- Goes on with closing graphs until a pause, or until all are closed and the rest is done;
then the caller is answered. -/
def closeGraphs (builder : Builder World Runtime Resource) (call : CallId) (hadGraph : Bool)
    (afterwards : Activity World Unit) :
    List (Installed Runtime Resource) → Activity World Unit → State World Runtime Resource Reply →
      State World Runtime Resource Reply
  | [], current, state =>
    match state.advance (current.bind fun _ => afterwards) with
    | (.done _, state) => state.setAnswer call (.closed hadGraph)
    | (rest, state) => state.spawn (.closing call hadGraph rest [] (.done ()))
  | graph :: remaining, current, state =>
    match state.advance current with
    | (.done _, state) =>
      let (closing, state) := retire builder state graph
      closeGraphs builder call hadGraph afterwards remaining closing state
    | (rest, state) => state.spawn (.closing call hadGraph rest (graph :: remaining) afterwards)

def beginClose (builder : Builder World Runtime Resource)
    (state : State World Runtime Resource Reply) (call : CallId) (key : String) :
    State World Runtime Resource Reply :=
  let (graph, state) := (state.cancelTimer key).evict key
  let state := state.note (.closed call key graph.isSome)
  closeGraphs builder call graph.isSome (.done ()) graph.toList (.done ()) state

/-- Takes out every graph, cancels every timer, and closes the graphs one after the other;
then `afterwards` is done. -/
def beginCloseAll (builder : Builder World Runtime Resource)
    (state : State World Runtime Resource Reply) (call : CallId)
    (afterwards : Activity World Unit) : State World Runtime Resource Reply :=
  let state := (state.timers.keys.foldl cancelTimer state).note (.closedAll call)
  let graphs := state.entries.filterMap fun entry => entry.2.installed
  let state := state.entries.keys.foldl (fun state key => (state.evict key).2) state
  closeGraphs builder call (!graphs.isEmpty) afterwards graphs (.done ()) state

end State

end RuntimeCache

end AssistantEngine
