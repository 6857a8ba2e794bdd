import Mathlib.Logic.Relation
import AssistantEngine.RuntimeCache.Run

/-!
Moves: the smallest changes of the runtime cache. A step of the cache is a row of moves, and
whatever every move keeps holds in every state that a run can reach. Between two moves of one
step there may be graphs that have been taken out of their entries and are not retired yet;
a situation is a state together with these.
-/

namespace AssistantEngine

namespace RuntimeCache

structure Situation (World Runtime Resource Reply : Type) where
  /-- The graphs that are to be retired, the next one in front. -/
  loose : List (Installed Runtime Resource)
  state : State World Runtime Resource Reply

/-- A task before and after a piece of its activity has run. -/
inductive Task.Continues {World Runtime Resource Reply : Type} :
    Task World Runtime Resource Reply → Task World Runtime Resource Reply → Prop where
  | building (id : BuildId) (startEpoch : Nat)
      (before after : Activity World (Outcome Runtime Resource)) :
      Continues (.building id startEpoch before) (.building id startEpoch after)
  | finishing (id : BuildId) (before after : Activity World Unit) :
      Continues (.finishing id before) (.finishing id after)
  | releasing (id : BuildId) (before after : Activity World Unit) :
      Continues (.releasing id before) (.releasing id after)
  | working (call : CallId) (held : Option BuildId) (before after : Activity World Reply) :
      Continues (.working call held before) (.working call held after)

/-- What an answer has to do with a runtime: the one that was asked for, or why there is none. -/
def Answer.result? {Reply : Type} : Answer Reply → Option (Except Fault BuildId)
  | runtime result => some result
  | _ => none

open State in
inductive Move {World Runtime Resource Reply : Type} (builder : Builder World Runtime Resource) :
    Situation World Runtime Resource Reply → Situation World Runtime Resource Reply → Prop where
  -- The surroundings of the cache.
  | world {loose state} (world : World) :
      Move builder ⟨loose, state⟩ ⟨loose, { state with world := world }⟩
  | elapse {loose state} (duration : Time) :
      Move builder ⟨loose, state⟩ ⟨loose, state.elapse duration⟩
  | subscribe {loose state} (subscriber : Subscriber World) :
      Move builder ⟨loose, state⟩
        ⟨loose, { state with subscribers := state.subscribers ++ [subscriber] }⟩
  | answer {loose state} (call : CallId) (answer : Answer Reply)
      (plain : answer.result? = none) :
      Move builder ⟨loose, state⟩ ⟨loose, state.setAnswer call answer⟩
  -- Holders of runtimes.
  | share {loose state} (holder : Holder) (id : BuildId) (held : state.isHeld id) :
      Move builder ⟨loose, state⟩ ⟨loose, state.hold holder id⟩
  | drop {loose state} (holder : Holder) :
      Move builder ⟨loose, state⟩ ⟨loose, state.drop holder⟩
  | forget {loose state} (call : CallId) :
      Move builder ⟨loose, state⟩ ⟨loose, state.forget call⟩
  -- Entries in the journal that go with no other change.
  | ask {loose state} (call : CallId) (purpose : Purpose) (key : String) :
      Move builder ⟨loose, state⟩ ⟨loose, state.note (.asked call purpose key)⟩
  | closed {loose state} (call : CallId) (key : String) (hadGraph : Bool) :
      Move builder ⟨loose, state⟩ ⟨loose, state.note (.closed call key hadGraph)⟩
  | closedAll {loose state} (call : CallId) :
      Move builder ⟨loose, state⟩ ⟨loose, state.note (.closedAll call)⟩
  -- Timers.
  | request {loose state} (key : String) (delay : Time) :
      Move builder ⟨loose, state⟩ ⟨loose, (state.requestRebuild key delay).2⟩
  | cancel {loose state} (key : String) :
      Move builder ⟨loose, state⟩ ⟨loose, state.cancelTimer key⟩
  | fire {loose state} (key : String) (expiry : Time) (armed : state.timers.find? key = some expiry)
      (due : expiry ≤ state.now) :
      Move builder ⟨loose, state⟩
        ⟨loose, { state with timers := state.timers.erase key }.note (.fired key state.now)⟩
  -- Entries.
  | invalidate {loose state} (key : String) :
      Move builder ⟨loose, state⟩ ⟨loose, state.invalidate key⟩
  | invalidateAll {loose state} :
      Move builder ⟨loose, state⟩ ⟨loose, state.invalidateAll⟩
  | evict {loose state} (key : String) :
      Move builder ⟨loose, state⟩ ⟨loose ++ (state.evict key).1.toList, (state.evict key).2⟩
  /-- A build that is started because the key has no clean graph. -/
  | start {loose state} (key : String) (idle : (state.entry key).building = none)
      (stale : state.entryState key ≠ .clean) :
      Move builder ⟨loose, state⟩ ⟨loose, (startOrJoin builder state key).2⟩
  /-- A build that is started because a caller insists on it. -/
  | restart {loose state} (call : CallId) (key : String)
      (idle : (state.entry key).building = none) :
      Move builder ⟨loose, state⟩
        ⟨loose, (startOrJoin builder (state.note (.asked call .rebuild key)) key).2⟩
  -- Callers.
  | serve {loose state} (call : CallId) (key : String) (installed : Installed Runtime Resource)
      (clean : state.entryState key = .clean)
      (present : (state.entry key).installed = some installed) :
      Move builder ⟨loose, state⟩ ⟨loose, state.deliver call .get installed.id⟩
  | await {loose state} (call : CallId) (purpose : Purpose) (key : String) (build : BuildId)
      (pending : (state.entry key).building = some build) :
      Move builder ⟨loose, state⟩ ⟨loose, state.spawn (.waiting call build purpose)⟩
  | wake {loose state} (call : CallId) (build : BuildId)
      (found : state.task? (.waiting call) = some (.waiting call build .get))
      (delivered : state.outcomes.lookup build = some (.ok ())) :
      Move builder ⟨loose, state⟩ ⟨loose, state.dismiss (.waiting call)⟩
  | deliver {loose state} (call : CallId) (build : BuildId)
      (found : state.task? (.waiting call) = some (.waiting call build .rebuild))
      (delivered : state.outcomes.lookup build = some (.ok ())) :
      Move builder ⟨loose, state⟩
        ⟨loose, (state.dismiss (.waiting call)).deliver call .rebuild build⟩
  | refuse {loose state} (call : CallId) (build : BuildId) (purpose : Purpose) (text : String)
      (found : state.task? (.waiting call) = some (.waiting call build purpose))
      (failed : state.outcomes.lookup build = some (.error text)) :
      Move builder ⟨loose, state⟩
        ⟨loose, (state.dismiss (.waiting call)).refuse call purpose build.key text⟩
  -- Requested rebuilds.
  | refreshed {loose state} (key : String) (installed : Installed Runtime Resource)
      (clean : state.entryState key = .clean)
      (present : (state.entry key).installed = some installed) :
      Move builder ⟨loose, state⟩ ⟨loose, state.note (.refreshed key (.ok installed.id))⟩
  | awaitRefresh {loose state} (key : String) (build : BuildId)
      (pending : (state.entry key).building = some build) :
      Move builder ⟨loose, state⟩ ⟨loose, state.spawn (.refreshing build)⟩
  | wakeRefresh {loose state} (build : BuildId)
      (found : state.task? (.refreshing build) = some (.refreshing build))
      (delivered : state.outcomes.lookup build = some (.ok ())) :
      Move builder ⟨loose, state⟩ ⟨loose, state.dismiss (.refreshing build)⟩
  | failRefresh {loose state} (build : BuildId) (text : String)
      (found : state.task? (.refreshing build) = some (.refreshing build))
      (failed : state.outcomes.lookup build = some (.error text)) :
      Move builder ⟨loose, state⟩
        ⟨loose, (state.dismiss (.refreshing build)).note
          (.refreshed build.key (.error (.build text)))⟩
  -- Builds.
  | install {loose state} (id : BuildId) (startEpoch : Nat)
      (rest : Activity World (Outcome Runtime Resource)) (graph : Graph Runtime Resource)
      (reason : Option String)
      (found : state.task? (.building id) = some (.building id startEpoch rest)) :
      Move builder ⟨loose, state⟩
        ⟨loose ++ (state.entry id.key).installed.toList,
          (((state.dismiss (.building id)).install id startEpoch graph reason).setOutcome id
            (.ok ())).notifyAll id⟩
  | abandon {loose state} (id : BuildId) (startEpoch : Nat)
      (rest : Activity World (Outcome Runtime Resource)) (text : String)
      (found : state.task? (.building id) = some (.building id startEpoch rest)) :
      Move builder ⟨loose, state⟩ ⟨loose, (state.dismiss (.building id)).abandon id text⟩
  -- Activities of all kinds.
  | proceed {loose state} (before after : Task World Runtime Resource Reply)
      (member : before ∈ state.tasks) (continues : before.Continues after) :
      Move builder ⟨loose, state⟩ ⟨loose, state.replace after⟩
  | work {loose state} (call : CallId) (held : Option BuildId) (rest : Activity World Reply)
      (allowed : held.all state.isHeld) :
      Move builder ⟨loose, state⟩ ⟨loose, state.spawn (.working call held rest)⟩
  | worked {loose state} (call : CallId) :
      Move builder ⟨loose, state⟩ ⟨loose, state.dismiss (.working call)⟩
  -- Retired graphs.
  | retire {loose state} (installed : Installed Runtime Resource) :
      Move builder ⟨installed :: loose, state⟩ ⟨loose, (State.retire builder state installed).2⟩
  | finish {loose state} (id : BuildId) (rest : Activity World Unit)
      (present : (state.entry id.key).installed.map (·.id) = some id) :
      Move builder ⟨loose, state⟩ ⟨loose, state.spawn (.finishing id rest)⟩
  | finished {loose state} (id : BuildId) :
      Move builder ⟨loose, state⟩ ⟨loose, state.dismiss (.finishing id)⟩
  | park {remaining state} (call : CallId) (hadGraph : Bool) (current : Activity World Unit)
      (afterwards : Activity World Unit) :
      Move builder ⟨remaining, state⟩
        ⟨[], state.spawn (.closing call hadGraph current remaining afterwards)⟩
  | unpark {state} (call : CallId) (hadGraph : Bool) (current : Activity World Unit)
      (remaining : List (Installed Runtime Resource)) (afterwards : Activity World Unit)
      (found : state.task? (.closing call) =
        some (.closing call hadGraph current remaining afterwards)) :
      Move builder ⟨[], state⟩ ⟨remaining, state.dismiss (.closing call)⟩
  | setFree {loose state} :
      Move builder ⟨loose, state⟩ ⟨loose, state.releaseDropped⟩
  | release {loose state} (id : BuildId) (scope : Scope Resource)
      (found : state.task? (.orphaned id) = some (.orphaned id scope)) :
      Move builder ⟨loose, state⟩ ⟨loose, (state.dismiss (.orphaned id)).note (.released id)⟩
  | releasing {loose state} (id : BuildId) (rest : Activity World Unit) :
      Move builder ⟨loose, state⟩ ⟨loose, state.spawn (.releasing id rest)⟩
  | released {loose state} (id : BuildId) :
      Move builder ⟨loose, state⟩ ⟨loose, state.dismiss (.releasing id)⟩

/-- A row of moves. -/
abbrev Moves {World Runtime Resource Reply : Type} (builder : Builder World Runtime Resource) :
    Situation World Runtime Resource Reply → Situation World Runtime Resource Reply → Prop :=
  Relation.ReflTransGen (Move builder)

end RuntimeCache

end AssistantEngine
