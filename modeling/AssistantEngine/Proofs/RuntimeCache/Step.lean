import AssistantEngine.Proofs.Catalog
import AssistantEngine.Proofs.RuntimeCache.Move
import AssistantEngine.Proofs.RuntimeCache.Operation

/-!
Every step of the runtime cache is a row of moves.
-/

namespace AssistantEngine

namespace RuntimeCache

namespace State

variable {World Runtime Resource Reply : Type} {builder : Builder World Runtime Resource}
variable {state : State World Runtime Resource Reply}

/-! ## Moves of the single operations -/

theorem beginGet_moves (loose : List (Installed Runtime Resource)) (call : CallId) (key : String) :
    Moves builder ⟨loose, state⟩ ⟨loose, beginGet builder state call key⟩ := by
  unfold beginGet
  rcases lookUp_cases builder state key with
    ⟨build, pending, found⟩ | ⟨installed, clean, present, found⟩ | ⟨idle, stale, found⟩
  · rw [found]
    exact .single (.await call .get key build pending)
  · rw [found]
    exact .single (.serve call key installed clean present)
  · rw [found]
    exact .tail (.single (.start key idle stale))
      (.await call .get key _ (startOrJoin_building key))

theorem beginRebuild_moves (loose : List (Installed Runtime Resource)) (call : CallId)
    (key : String) :
    Moves builder ⟨loose, state⟩
      ⟨loose, beginRebuild builder (state.note (.asked call .rebuild key)) call key⟩ := by
  unfold beginRebuild
  cases building : (state.entry key).building with
  | some build =>
      rw [startOrJoin_join builder (state.note (.asked call .rebuild key)) building]
      exact .tail (.single (.ask call .rebuild key)) (.await call .rebuild key build building)
  | none =>
      exact .tail (.single (.restart call key building))
        (.await call .rebuild key _ (startOrJoin_building key))

theorem refresh_moves (loose : List (Installed Runtime Resource)) (key : String) :
    Moves builder ⟨loose, state⟩ ⟨loose, refresh builder state key⟩ := by
  unfold refresh
  rcases lookUp_cases builder state key with
    ⟨build, pending, found⟩ | ⟨installed, clean, present, found⟩ | ⟨idle, stale, found⟩
  · rw [found]
    exact .single (.awaitRefresh key build pending)
  · rw [found]
    exact .single (.refreshed key installed clean present)
  · rw [found]
    exact .tail (.single (.start key idle stale))
      (.awaitRefresh key _ (startOrJoin_building key))

theorem fire_moves (loose : List (Installed Runtime Resource)) {key : String} {expiry : Time}
    (armed : state.timers.find? key = some expiry) (due : expiry ≤ state.now) :
    Moves builder ⟨loose, state⟩ ⟨loose, fire builder state key⟩ :=
  .trans (.tail (.single (.fire key expiry armed due)) (.invalidate key)) (refresh_moves loose key)

theorem beginWork_moves (loose : List (Installed Runtime Resource)) (call : CallId)
    (held : Option BuildId) (activity : Activity World Reply)
    (allowed : held.all state.isHeld) :
    Moves builder ⟨loose, state⟩ ⟨loose, state.beginWork call held activity⟩ := by
  unfold beginWork
  split
  · rename_i reply next advanced
    rcases eq_of_advance advanced with ⟨world, rfl⟩
    exact .tail (.single (.world world)) (.answer call (.reply reply) rfl)
  · rename_i rest next _ advanced
    rcases eq_of_advance advanced with ⟨world, rfl⟩
    exact .tail (.single (.world world)) (.work call held rest allowed)

/-! ## Closing -/

theorem closeGraphs_moves (call : CallId) (hadGraph : Bool) (afterwards : Activity World Unit)
    (remaining : List (Installed Runtime Resource)) (current : Activity World Unit) :
    Moves builder ⟨remaining, state⟩
      ⟨[], closeGraphs builder call hadGraph afterwards remaining current state⟩ := by
  induction remaining generalizing state current with
  | nil =>
      unfold closeGraphs
      split
      · rename_i next advanced
        rcases eq_of_advance advanced with ⟨world, rfl⟩
        exact .tail (.single (.world world)) (.answer call (.closed hadGraph) rfl)
      · rename_i rest next _ advanced
        rcases eq_of_advance advanced with ⟨world, rfl⟩
        exact .tail (.single (.world world)) (.park call hadGraph rest (.done ()))
  | cons graph remaining induction =>
      unfold closeGraphs
      split
      · rename_i next advanced
        rcases eq_of_advance advanced with ⟨world, rfl⟩
        exact .trans (.tail (.single (.world world)) (.retire graph)) (induction _)
      · rename_i rest next _ advanced
        rcases eq_of_advance advanced with ⟨world, rfl⟩
        exact .tail (.single (.world world)) (.park call hadGraph rest afterwards)

theorem beginClose_moves (call : CallId) (key : String) :
    Moves builder ⟨[], state⟩ ⟨[], beginClose builder state call key⟩ := by
  unfold beginClose
  exact .trans (.tail (.tail (.single (.cancel key)) (.evict key)) (.closed call key _))
    (closeGraphs_moves call _ (.done ()) _ (.done ()))

theorem cancelTimers_moves (loose : List (Installed Runtime Resource)) (keys : List String) :
    Moves builder ⟨loose, state⟩ ⟨loose, keys.foldl cancelTimer state⟩ := by
  induction keys generalizing state with
  | nil => exact .refl
  | cons key keys induction => exact .head (.cancel key) induction

/-- Evicting several keys sets loose what the cache had installed under them. -/
theorem evictAll_moves (loose : List (Installed Runtime Resource)) (keys : List String)
    (nodup : keys.Nodup) :
    Moves builder ⟨loose, state⟩
      ⟨loose ++ keys.filterMap (fun key => (state.entry key).installed),
        keys.foldl (fun state key => (state.evict key).2) state⟩ := by
  induction keys generalizing state loose with
  | nil =>
      rw [List.filterMap_nil, List.append_nil]
      exact .refl
  | cons key keys induction =>
      have tail := @induction (state.evict key).2
        (loose ++ (state.evict key).1.toList) (List.nodup_cons.mp nodup).2
      rw [List.append_assoc, installed_evict_cons nodup] at tail
      exact .head (.evict key) tail

theorem beginCloseAll_moves (ascending : state.entries.Ascending) (call : CallId)
    (afterwards : Activity World Unit) :
    Moves builder ⟨[], state⟩ ⟨[], beginCloseAll builder state call afterwards⟩ := by
  let noted := (state.timers.keys.foldl cancelTimer state).note (.closedAll call)
  have sameEntries : noted.entries = state.entries := entries_cancelTimers _
  have ordered : noted.entries.Ascending := sameEntries ▸ ascending
  have cancelling : Moves builder ⟨[], state⟩ ⟨[], noted⟩ :=
    .tail (cancelTimers_moves [] state.timers.keys) (.closedAll call)
  have evicting : Moves builder ⟨[], noted⟩ _ :=
    evictAll_moves [] noted.entries.keys ordered.keys_nodup
  rw [List.nil_append, filterMap_installed ordered] at evicting
  exact .trans (.trans cancelling evicting) (closeGraphs_moves call _ afterwards _ (.done ()))

/-! ## Moves of a step -/

theorem receive_moves {call : CallId} {build : BuildId} {purpose : Purpose}
    {outcome : Except String Unit}
    (found : state.task? (.waiting call) = some (.waiting call build purpose))
    (known : state.outcomes.lookup build = some outcome) :
    Moves builder ⟨[], state⟩
      ⟨[], receive builder (state.dismiss (.waiting call)) call build purpose outcome⟩ := by
  cases outcome with
  | error text => exact .single (.refuse call build purpose text found known)
  | ok delivered =>
      cases purpose with
      | get => exact .head (.wake call build found known) (beginGet_moves [] call build.key)
      | rebuild => exact .single (.deliver call build found known)

/-- A new graph is installed, and the one it replaces is retired. -/
def replaceGraph (builder : Builder World Runtime Resource)
    (state : State World Runtime Resource Reply) (id : BuildId) (startEpoch : Nat)
    (graph : Graph Runtime Resource) (reason : Option String) :
    State World Runtime Resource Reply :=
  let installed := ((state.install id startEpoch graph reason).setOutcome id (.ok ())).notifyAll id
  match (state.entry id.key).installed with
  | none => installed
  | some old =>
    let retired := retire builder installed old
    match retired.2.advance retired.1 with
    | (.done _, next) => next
    | (rest, next) => next.spawn (.finishing id rest)

theorem replaceGraph_moves {id : BuildId} {startEpoch : Nat}
    {rest : Activity World (Outcome Runtime Resource)}
    (found : state.task? (.building id) = some (.building id startEpoch rest))
    (graph : Graph Runtime Resource) (reason : Option String) :
    Moves builder ⟨[], state⟩
      ⟨[], replaceGraph builder (state.dismiss (.building id)) id startEpoch graph reason⟩ := by
  have installing : Move builder ⟨[], state⟩
      ⟨(state.entry id.key).installed.toList,
        (((state.dismiss (.building id)).install id startEpoch graph reason).setOutcome id
          (.ok ())).notifyAll id⟩ := .install id startEpoch rest graph reason found
  have same : ((state.dismiss (.building id)).entry id.key).installed =
      (state.entry id.key).installed := rfl
  unfold replaceGraph
  dsimp only
  rw [same]
  split
  · rename_i vacant
    rw [vacant] at installing
    exact .single installing
  · rename_i old occupied
    rw [occupied] at installing
    have retiring := Relation.ReflTransGen.tail (.single installing) (.retire old)
    split
    · rename_i final advanced
      rcases eq_of_advance advanced with ⟨world, rfl⟩
      exact .tail retiring (.world world)
    · rename_i after final _ advanced
      rcases eq_of_advance advanced with ⟨world, rfl⟩
      refine .tail (.tail retiring (.world world)) (.finish id after ?_)
      change ((retire builder _ old).2.entry id.key).installed.map (·.id) = some id
      rw [entry, entries_retire, entries_notifyAll]
      simp [install, setOutcome, setEntry, note, Catalog.find?_insert_self]

theorem finishBuild_moves {id : BuildId} {startEpoch : Nat}
    {rest : Activity World (Outcome Runtime Resource)}
    (found : state.task? (.building id) = some (.building id startEpoch rest))
    (outcome : Outcome Runtime Resource) :
    Moves builder ⟨[], state⟩
      ⟨[], finishBuild builder (state.dismiss (.building id)) id startEpoch outcome⟩ := by
  cases outcome with
  | workflow graph => exact replaceGraph_moves found graph none
  | fallback graph reason => exact replaceGraph_moves found graph (some reason)
  | failed fault => exact .single (.abandon id startEpoch rest fault.message found)
  | panicked => exact .single (.abandon id startEpoch rest (abortedText id.key) found)

theorem proceed_moves {name : TaskName} {task : Task World Runtime Resource Reply}
    (found : state.task? name = some task) :
    Moves builder ⟨[], state⟩ ⟨[], proceed builder state task⟩ := by
  have named := task?_name found
  subst named
  have member := mem_of_task? found
  cases task with
  | waiting call build purpose =>
      unfold proceed
      dsimp only
      split
      · rename_i outcome known
        exact receive_moves found known
      · exact .refl
  | refreshing build =>
      unfold proceed
      dsimp only
      split
      · rename_i known
        exact .head (.wakeRefresh build found known) (refresh_moves [] build.key)
      · rename_i text known
        exact .single (.failRefresh build text found known)
      · exact .refl
  | building id startEpoch rest =>
      unfold proceed
      dsimp only
      split
      · rename_i outcome next resumed
        rcases eq_of_resume resumed with ⟨world, rfl⟩
        exact .head (.world world)
          (@finishBuild_moves _ _ _ _ builder { state with world := world } id startEpoch rest found
            outcome)
      · rename_i after next _ resumed
        rcases eq_of_resume resumed with ⟨world, rfl⟩
        exact .tail (.single (.world world))
          (.proceed _ _ member (.building id startEpoch rest after))
  | finishing id rest =>
      unfold proceed
      dsimp only
      split
      · rename_i next resumed
        rcases eq_of_resume resumed with ⟨world, rfl⟩
        exact .tail (.single (.world world)) (.finished id)
      · rename_i after next _ resumed
        rcases eq_of_resume resumed with ⟨world, rfl⟩
        exact .tail (.single (.world world)) (.proceed _ _ member (.finishing id rest after))
  | orphaned id scope =>
      unfold proceed
      dsimp only
      split
      · rename_i next advanced
        rcases eq_of_advance advanced with ⟨world, rfl⟩
        exact .tail (.single (.release id scope found)) (.world world)
      · rename_i after next _ advanced
        rcases eq_of_advance advanced with ⟨world, rfl⟩
        exact .tail (.tail (.single (.release id scope found)) (.world world))
          (.releasing id after)
  | releasing id rest =>
      unfold proceed
      dsimp only
      split
      · rename_i next resumed
        rcases eq_of_resume resumed with ⟨world, rfl⟩
        exact .tail (.single (.world world)) (.released id)
      · rename_i after next _ resumed
        rcases eq_of_resume resumed with ⟨world, rfl⟩
        exact .tail (.single (.world world)) (.proceed _ _ member (.releasing id rest after))
  | closing call hadGraph current remaining afterwards =>
      unfold proceed
      dsimp only
      cases resumed : state.resume current with
      | mk after next =>
      rcases eq_of_resume resumed with ⟨world, rfl⟩
      exact .head (.world world)
        (.head (.unpark call hadGraph current remaining afterwards found)
          (closeGraphs_moves call hadGraph afterwards remaining _))
  | working call held rest =>
      unfold proceed
      dsimp only
      split
      · rename_i reply next resumed
        rcases eq_of_resume resumed with ⟨world, rfl⟩
        exact .tail (.tail (.single (.world world)) (.worked call))
          (.answer call (.reply reply) rfl)
      · rename_i after next _ resumed
        rcases eq_of_resume resumed with ⟨world, rfl⟩
        exact .tail (.single (.world world)) (.proceed _ _ member (.working call held rest after))

theorem perform_moves (ascending : state.entries.Ascending)
    (action : Action World Runtime Resource Reply) :
    Moves builder ⟨[], state⟩ ⟨[], perform builder state action⟩ := by
  cases action with
  | get call key => exact .head (.ask call .get key) (beginGet_moves [] call key)
  | rebuild call key => exact beginRebuild_moves [] call key
  | work call held activity =>
      unfold perform
      dsimp only
      split
      · rename_i allowed
        exact beginWork_moves [] call held activity allowed
      · exact .refl
  | invalidate key => exact .single (.invalidate key)
  | invalidateAll => exact .single .invalidateAll
  | requestRebuild key delay => exact .single (.request key delay)
  | close call key => exact beginClose_moves call key
  | closeAll call afterwards => exact beginCloseAll_moves ascending call afterwards
  | subscribe subscriber => exact .single (.subscribe subscriber)
  | share holder id =>
      unfold perform
      dsimp only
      split
      · rename_i held
        exact .single (.share holder id held)
      · exact .refl
  | drop holder => exact .single (.drop holder)
  | forget call => exact .single (.forget call)
  | edit change => exact .single (.world _)
  | elapse duration => exact .single (.elapse duration)
  | fire key =>
      unfold perform
      dsimp only
      split
      · rename_i expiry armed
        split
        · rename_i due
          exact fire_moves [] armed due
        · exact .refl
      · exact .refl
  | resume name =>
      unfold perform
      dsimp only
      split
      · rename_i task found
        split
        · exact proceed_moves found
        · exact .refl
      · exact .refl

/-- A step is a row of moves. -/
theorem step_moves (ascending : state.entries.Ascending)
    (action : Action World Runtime Resource Reply) :
    Moves builder ⟨[], state⟩ ⟨[], step builder state action⟩ :=
  .tail (perform_moves ascending action) .setFree

end State

end RuntimeCache

end AssistantEngine
