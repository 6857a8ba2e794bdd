import AssistantEngine.RuntimeCache.Change

/-!
Runs of the runtime cache. An action is one step of one party: a call, the firing of a
timer, the passing of time, or a piece of a task up to its next pause. Any row of actions is
a run, so that runs cover every order in which the parties may take their turns. An action
that is not possible at its moment changes nothing.
-/

namespace AssistantEngine

namespace RuntimeCache

inductive Action (World Runtime Resource Reply : Type) where
  | get (call : CallId) (key : String)
  | rebuild (call : CallId) (key : String)
  /-- Works beside the cache, or on a runtime that is held already. -/
  | work (call : CallId) (held : Option BuildId) (activity : Activity World Reply)
  | invalidate (key : String)
  | invalidateAll
  | requestRebuild (key : String) (delay : Time)
  | close (call : CallId) (key : String)
  | closeAll (call : CallId) (afterwards : Activity World Unit)
  | subscribe (subscriber : Subscriber World)
  /-- Hands a runtime that is held to a further holder. -/
  | share (holder : Holder) (id : BuildId)
  | drop (holder : Holder)
  /-- Gives up the answer to a call. -/
  | forget (call : CallId)
  | edit (change : World → World)
  | elapse (duration : Time)
  | fire (key : String)
  | resume (task : TaskName)

namespace State

variable {World Runtime Resource Reply : Type}

/-- The earliest moment at which a timer expires. -/
def nextExpiry? (state : State World Runtime Resource Reply) : Option Time :=
  state.timers.values.min?

/-- Lets time pass, but not beyond the moment at which a timer expires. -/
def elapse (state : State World Runtime Resource Reply) (duration : Time) :
    State World Runtime Resource Reply :=
  let target := state.now + duration
  { state with
    now :=
      match state.nextExpiry? with
      | some expiry => min target (max state.now expiry)
      | none => target }

/-- What those who wait on a build do once it has an outcome. -/
def receive (builder : Builder World Runtime Resource) (state : State World Runtime Resource Reply)
    (call : CallId) (build : BuildId) (purpose : Purpose) :
    Except String Unit → State World Runtime Resource Reply
  | .error text => state.refuse call purpose build.key text
  | .ok _ =>
    match purpose with
    | .rebuild => state.deliver call .rebuild build
    | .get => beginGet builder state call build.key

/-- Runs a task up to its next pause. -/
def proceed (builder : Builder World Runtime Resource) (state : State World Runtime Resource Reply)
    (task : Task World Runtime Resource Reply) : State World Runtime Resource Reply :=
  match task with
  | .waiting call build purpose =>
    match state.outcomes.lookup build with
    | some outcome => receive builder (state.dismiss task.name) call build purpose outcome
    | none => state
  | .refreshing build =>
    match state.outcomes.lookup build with
    | some (.ok _) => refresh builder (state.dismiss task.name) build.key
    | some (.error text) =>
      (state.dismiss task.name).note (.refreshed build.key (.error (.build text)))
    | none => state
  | .building id startEpoch rest =>
    match state.resume rest with
    | (.done outcome, state) =>
      finishBuild builder (state.dismiss task.name) id startEpoch outcome
    | (rest, state) => state.replace (.building id startEpoch rest)
  | .finishing id rest =>
    match state.resume rest with
    | (.done _, state) => state.dismiss task.name
    | (rest, state) => state.replace (.finishing id rest)
  | .orphaned id scope =>
    let state := (state.dismiss task.name).note (.released id)
    match state.advance (builder.closeScope scope) with
    | (.done _, state) => state
    | (rest, state) => state.spawn (.releasing id rest)
  | .releasing id rest =>
    match state.resume rest with
    | (.done _, state) => state.dismiss task.name
    | (rest, state) => state.replace (.releasing id rest)
  | .closing call hadGraph current remaining afterwards =>
    let (current, state) := state.resume current
    closeGraphs builder call hadGraph afterwards remaining current (state.dismiss task.name)
  | .working call held rest =>
    match state.resume rest with
    | (.done reply, state) => (state.dismiss task.name).setAnswer call (.reply reply)
    | (rest, state) => state.replace (.working call held rest)

def perform (builder : Builder World Runtime Resource)
    (state : State World Runtime Resource Reply) :
    Action World Runtime Resource Reply → State World Runtime Resource Reply
  | .get call key => beginGet builder (state.note (.asked call .get key)) call key
  | .rebuild call key => beginRebuild builder (state.note (.asked call .rebuild key)) call key
  | .work call held activity =>
    if held.all state.isHeld then state.beginWork call held activity else state
  | .invalidate key => state.invalidate key
  | .invalidateAll => state.invalidateAll
  | .requestRebuild key delay => (state.requestRebuild key delay).2
  | .close call key => beginClose builder state call key
  | .closeAll call afterwards => beginCloseAll builder state call afterwards
  | .subscribe subscriber => { state with subscribers := state.subscribers ++ [subscriber] }
  | .share holder id => if state.isHeld id then state.hold holder id else state
  | .drop holder => state.drop holder
  | .forget call => state.forget call
  | .edit change => { state with world := change state.world }
  | .elapse duration => state.elapse duration
  | .fire key =>
    match state.timers.find? key with
    | some expiry => if expiry ≤ state.now then fire builder state key else state
    | none => state
  | .resume name =>
    match state.task? name with
    | some task => if state.isReady task then proceed builder state task else state
    | none => state

/-- One action; then whatever lost its last holder is set free. -/
def step (builder : Builder World Runtime Resource) (state : State World Runtime Resource Reply)
    (action : Action World Runtime Resource Reply) : State World Runtime Resource Reply :=
  (perform builder state action).releaseDropped

def run (builder : Builder World Runtime Resource) (state : State World Runtime Resource Reply)
    (actions : List (Action World Runtime Resource Reply)) :
    State World Runtime Resource Reply :=
  actions.foldl (step builder) state

/-- What can be reached by any run. -/
def Reachable (builder : Builder World Runtime Resource)
    (start state : State World Runtime Resource Reply) : Prop :=
  ∃ actions, run builder start actions = state

end State

end RuntimeCache

end AssistantEngine
