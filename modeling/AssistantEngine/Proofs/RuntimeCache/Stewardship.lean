import AssistantEngine.Proofs.RuntimeCache.Custody

/-!
Every step of the runtime cache leaves the accounts in order, if building graphs and releasing
resources is in order, and if all that is done beside that has nothing to do with what there is
to account for.
-/

namespace AssistantEngine

namespace RuntimeCache

open Activity (Keeps KeepsFrom Tenable Trades SeenBy Spares)
open History

variable {World Runtime Resource Reply View Estate : Type} [AddCommMonoid Estate]
variable {charge : Charge World Resource View Estate} {builder : Builder World Runtime Resource}
variable {state next : State World Runtime Resource Reply}
variable {loose : List (Installed Runtime Resource)}
variable {mine later aside : Estate}

theorem Charge.Careful.closeScope (careful : charge.Careful builder) (scope : Scope Resource) :
    charge.Clears (charge.scopeShare scope) (builder.closeScope scope) := by
  unfold Charge.scopeShare Builder.closeScope
  induction scope.close.1 with
  | nil => exact Keeps.done rfl
  | cons resource rest induction =>
      rw [List.map_cons, List.sum_cons]
      refine ((careful.release resource).frame (rest.map charge.share).sum).bind ?_
      rintro _ last ⟨own, rfl, rfl⟩
      rw [zero_add]
      exact induction

namespace Accounts

/-- A task that owns nothing. -/
theorem spawnIdle {task : Task World Runtime Resource Reply}
    (accounts : Accounts charge loose mine state) (minds : charge.Minds 0 task)
    (notFinishing : ∀ id, task.name ≠ .finishing id)
    (notReleasing : ∀ id, task.name ≠ .releasing id) :
    Accounts charge loose mine (state.spawn task) :=
  spawn ((zero_add mine).symm ▸ accounts) minds (accounts.once.spawn notFinishing notReleasing)

/-- A task that owned nothing is over. -/
theorem dismissIdle (accounts : Accounts charge loose mine state) {name : TaskName}
    {task : Task World Runtime Resource Reply} (found : state.task? name = some task)
    (idle : ∀ own, charge.Minds own task → own = 0) :
    Accounts charge loose mine (state.dismiss name) := by
  rcases accounts.dismiss found with ⟨own, minds, dismissed⟩
  rw [idle own minds, zero_add] at dismissed
  exact dismissed

/-! ## Answering callers -/

theorem deliver (accounts : Accounts charge loose mine state) (call : CallId) (purpose : Purpose)
    (id : BuildId) : Accounts charge loose mine (state.deliver call purpose id) := by
  rcases State.deliver_eq state call purpose id with ⟨holders, _, same⟩
  rw [same]
  exact accounts.quiet rfl rfl rfl rfl rfl [.answered call purpose id.key (.ok id)] rfl

theorem beginWork (accounts : Accounts charge loose mine state)
    (seen : SeenBy charge.sound charge.view) (call : CallId) (held : Option BuildId)
    {activity : Activity World Reply}
    (spares : ∀ view, Spares charge.view (fun _ => True) view activity) :
    Accounts charge loose mine (state.beginWork call held activity) := by
  rcases (spares (charge.view state.world)).advance state.now with ⟨same, onward⟩
  have advanced : Accounts charge loose mine (state.advance activity).2 := accounts.spare seen same
  have spared : ∀ view, Spares charge.view (fun _ => True) view (state.advance activity).1 := onward
  unfold State.beginWork
  split
  · rename_i reply next ran
    rw [ran] at advanced
    exact advanced.quiet rfl rfl rfl rfl rfl [] (List.append_nil _).symm
  · rename_i rest next _ ran
    rw [ran] at advanced spared
    exact advanced.spawnIdle ⟨rfl, spared⟩ (fun _ => TaskName.noConfusion)
      fun _ => TaskName.noConfusion

/-! ## Starting builds -/

theorem startOrJoin (accounts : Accounts charge loose mine state)
    (careful : charge.Careful builder) (key : String) :
    Accounts charge loose mine (State.startOrJoin builder state key).2 := by
  cases building : (state.entry key).building with
  | some build =>
      rw [State.startOrJoin_join builder state building]
      exact accounts
  | none =>
      rw [State.startOrJoin_start builder state building]
      have marked : Accounts charge loose mine { state with
          entries := state.entries.insert key
            { state.entry key with building := some (state.nextBuild key) }
          started := state.started.insert key ((state.nextBuild key).number + 1)
          journal := state.journal ++ [.started (state.nextBuild key) state.epoch] } := by
        refine accounts.mark ?_ ?_ rfl rfl rfl rfl [_] rfl
        · exact accounts.ascending.insert _ _
        · exact Charge.entriesShare_insert_of_eq accounts.ascending rfl
      have minds : charge.Minds 0 (.building (state.nextBuild key) state.epoch
          (builder.build (state.nextBuild key)) : Task World Runtime Resource Reply) :=
        careful.build _
      exact marked.spawnIdle minds (fun _ => TaskName.noConfusion) fun _ => TaskName.noConfusion

theorem lookUp (accounts : Accounts charge loose mine state) (careful : charge.Careful builder)
    (key : String) : Accounts charge loose mine (State.lookUp builder state key).2 := by
  rcases State.lookUp_cases builder state key with
    ⟨build, _, found⟩ | ⟨installed, _, _, found⟩ | ⟨_, _, found⟩
  · rw [found]
    exact accounts
  · rw [found]
    exact accounts
  · rw [found]
    exact accounts.startOrJoin careful key

theorem beginGet (accounts : Accounts charge loose mine state) (careful : charge.Careful builder)
    (call : CallId) (key : String) :
    Accounts charge loose mine (State.beginGet builder state call key) := by
  have looked := accounts.lookUp careful key
  unfold State.beginGet
  split
  · rename_i id next found
    rw [found] at looked
    exact looked.deliver call .get id
  · rename_i build next found
    rw [found] at looked
    exact looked.spawnIdle rfl (fun _ => TaskName.noConfusion) fun _ => TaskName.noConfusion

theorem beginRebuild (accounts : Accounts charge loose mine state)
    (careful : charge.Careful builder) (call : CallId) (key : String) :
    Accounts charge loose mine (State.beginRebuild builder state call key) :=
  (accounts.startOrJoin careful key).spawnIdle rfl (fun _ => TaskName.noConfusion)
    fun _ => TaskName.noConfusion

/-! ## Invalidation and requested rebuilds -/

theorem invalidate (accounts : Accounts charge loose mine state) (key : String) :
    Accounts charge loose mine (state.invalidate key) := by
  unfold State.invalidate
  dsimp only
  split
  · rename_i entry found
    refine accounts.mark ?_ ?_ rfl rfl rfl rfl [.invalidated key] rfl
    · exact accounts.ascending.insert _ _
    · refine Charge.entriesShare_insert_of_eq accounts.ascending ?_
      rw [State.entry, found]
      rfl
  · exact accounts.quiet rfl rfl rfl rfl rfl [.invalidated key] rfl

theorem invalidateAll (accounts : Accounts charge loose mine state) :
    Accounts charge loose mine state.invalidateAll := by
  refine accounts.mark ?_ ?_ rfl rfl rfl rfl [.invalidatedAll] rfl
  · exact accounts.ascending.mapValues (Entry.invalidate · (state.epoch + 1))
  · exact Charge.entriesShare_mapValues
      (show ∀ entry : Entry Runtime Resource,
        (entry.invalidate (state.epoch + 1)).installed = entry.installed from fun _ => rfl)

theorem refresh (accounts : Accounts charge loose mine state) (careful : charge.Careful builder)
    (key : String) : Accounts charge loose mine (State.refresh builder state key) := by
  have looked := accounts.lookUp careful key
  unfold State.refresh
  split
  · rename_i id next found
    rw [found] at looked
    exact looked.note _
  · rename_i build next found
    rw [found] at looked
    exact looked.spawnIdle rfl (fun _ => TaskName.noConfusion) fun _ => TaskName.noConfusion

theorem fire (accounts : Accounts charge loose mine state) (careful : charge.Careful builder)
    (key : String) : Accounts charge loose mine (State.fire builder state key) := by
  have fired : Accounts charge loose mine
      ({ state with timers := state.timers.erase key }.note (.fired key state.now)) :=
    accounts.quiet rfl rfl rfl rfl rfl [.fired key state.now] rfl
  exact (fired.invalidate key).refresh careful key

theorem cancelTimer (accounts : Accounts charge loose mine state) (key : String) :
    Accounts charge loose mine (state.cancelTimer key) := by
  rcases State.cancelTimer_eq state key with same | same <;> rw [same]
  · exact accounts
  · exact accounts.quiet rfl rfl rfl rfl rfl [.cancelled key] rfl

theorem cancelTimers (accounts : Accounts charge loose mine state) (keys : List String) :
    Accounts charge loose mine (keys.foldl State.cancelTimer state) := by
  induction keys generalizing state with
  | nil => exact accounts
  | cons key keys induction => exact induction (accounts.cancelTimer key)

theorem requestRebuild (accounts : Accounts charge loose mine state) (key : String)
    (delay : Time) : Accounts charge loose mine (state.requestRebuild key delay).2 := by
  rcases State.requestRebuild_eq state key delay with same | same <;> rw [same]
  · exact accounts.note _
  · exact accounts.quiet rfl rfl rfl rfl rfl [.armed key (state.now + delay)] rfl

/-! ## Retiring graphs -/

/-- Whoever retires a graph owns what there is to release of it at once. -/
theorem retire {graph : Installed Runtime Resource}
    (accounts : Accounts charge (graph :: loose) aside state) (careful : charge.Careful builder) :
    ∃ mine, charge.Clears mine (State.retire builder state graph).1 ∧
      Accounts charge loose (mine + aside) (State.retire builder state graph).2 := by
  rcases accounts.inOrder with ⟨owned, minded, inOrder⟩
  unfold State.retire
  split
  · refine ⟨0, Keeps.done rfl, accounts.ascending, accounts.once, accounts.subscribers, owned,
      minded, ?_⟩
    have same : 0 + aside + (owned + charge.placed loose { state with
          deferred := state.deferred ++ [(graph.id, graph.graph.scope)] }) =
        aside + (owned + charge.placed (graph :: loose) state) := by
      unfold Charge.placed Charge.deferredShare
      rw [Charge.graphsShare_cons, List.map_append, List.sum_append, List.map_singleton,
        List.sum_singleton]
      change 0 + aside + (owned + (charge.entriesShare state.entries +
        (_ + charge.graphShare graph + charge.graphsShare loose))) = _
      abel
    rw [same]
    exact inOrder
  · refine ⟨charge.graphShare graph, careful.closeScope _, ?_⟩
    have gathered : Accounts charge loose (charge.graphShare graph + aside) state := by
      refine ⟨accounts.ascending, accounts.once, accounts.subscribers, owned, minded, ?_⟩
      have same : charge.graphShare graph + aside + (owned + charge.placed loose state) =
          aside + (owned + charge.placed (graph :: loose) state) := by
        unfold Charge.placed
        rw [Charge.graphsShare_cons]
        abel
      rw [same]
      exact inOrder
    exact gathered.note _

/-- Graphs are closed one after the other, and then the rest is done. -/
theorem closeGraphs (careful : charge.Careful builder) (call : CallId) (hadGraph : Bool)
    {current afterwards : Activity World Unit} {now : Estate}
    (clears : charge.Clears now current) (thereafter : charge.Clears later afterwards)
    (accounts : Accounts charge loose (now + (later + aside)) state) :
    Accounts charge [] aside
      (State.closeGraphs builder call hadGraph afterwards loose current state) := by
  induction loose generalizing state current now with
  | nil =>
      have whole : charge.Clears (now + later) (current.bind fun _ => afterwards) := by
        refine (clears.frame later).bind ?_
        rintro _ last ⟨own, rfl, rfl⟩
        rw [zero_add]
        exact thereafter
      rw [← add_assoc] at accounts
      rcases accounts.advance whole with ⟨last, advanced, onward⟩
      unfold State.closeGraphs
      split
      · rename_i next ran
        rw [ran] at advanced onward
        exact (advanced.cleared onward).quiet rfl rfl rfl rfl rfl [] (List.append_nil _).symm
      · rename_i rest next _ ran
        rw [ran] at advanced onward
        refine advanced.spawn ⟨last, 0, ?_, onward, Keeps.done rfl⟩
          (advanced.once.spawn (fun _ => TaskName.noConfusion) fun _ => TaskName.noConfusion)
        rw [zero_add]
        exact (add_zero last).symm
  | cons graph remaining induction =>
      rcases accounts.advance clears with ⟨last, advanced, onward⟩
      unfold State.closeGraphs
      split
      · rename_i next ran
        rw [ran] at advanced onward
        rcases (advanced.cleared onward).retire careful with ⟨mine, closing, retired⟩
        exact induction closing retired
      · rename_i rest next _ ran
        rw [ran] at advanced onward
        have gathered := advanced.gather
        have same : charge.graphsShare (graph :: remaining) + (last + (later + aside)) =
            last + (later + charge.graphsShare (graph :: remaining)) + aside := by abel
        rw [same] at gathered
        exact gathered.spawn ⟨last, later, rfl, onward, thereafter⟩
          (advanced.once.spawn (fun _ => TaskName.noConfusion) fun _ => TaskName.noConfusion)

/-- A graph that is taken out of its entry is loose. -/
theorem evict (accounts : Accounts charge loose mine state) (key : String) :
    Accounts charge (loose ++ (state.evict key).1.toList) mine (state.evict key).2 := by
  rcases accounts.inOrder with ⟨owned, minded, inOrder⟩
  have ascending : (state.evict key).2.entries.Ascending := by
    unfold State.evict
    split
    · exact accounts.ascending
    · dsimp only
      split
      · exact accounts.ascending.insert _ _
      · exact accounts.ascending.erase _
  have share : charge.entriesShare (state.evict key).2.entries =
      charge.entriesShare (state.entries.erase key) := by
    unfold State.evict
    split
    · rename_i absent
      rw [Catalog.erase_of_absent absent]
      rfl
    · dsimp only
      split
      · exact (Charge.entriesShare_insert accounts.ascending key _).trans (zero_add _)
      · rfl
  rcases State.evict_eq state key with ⟨entries, changed⟩
  rw [State.evict_installed]
  rw [changed] at ascending share ⊢
  refine ⟨ascending, ?_, accounts.subscribers, owned, minded, ?_⟩
  · exact accounts.once.mono (fun _ => Nat.le_refl _) (fun _ => Nat.le_refl _) [_] rfl
  · have same : mine + (owned + charge.placed (loose ++ (state.entry key).installed.toList)
          { state with entries := entries, journal := state.journal ++ [.emptied key] }) =
        mine + (owned + charge.placed loose state) := by
      unfold Charge.placed
      dsimp only at share ⊢
      rw [share, Charge.graphsShare_append, Charge.entriesShare_split accounts.ascending key]
      change mine + (owned + (_ + (_ + (_ + charge.entryShare (state.entry key))))) =
        mine + (owned + (charge.entryShare (state.entry key) + _ + _))
      abel
    rw [same]
    exact inOrder

/-- Evicting several keys sets loose what the cache had installed under them. -/
theorem evictAll (accounts : Accounts charge loose mine state) {keys : List String}
    (nodup : keys.Nodup) :
    Accounts charge (loose ++ keys.filterMap fun key => (state.entry key).installed) mine
      (keys.foldl (fun state key => (state.evict key).2) state) := by
  induction keys generalizing state loose with
  | nil =>
      rw [List.filterMap_nil, List.append_nil]
      exact accounts
  | cons key keys induction =>
      have tail := induction (accounts.evict key) (List.nodup_cons.mp nodup).2
      rw [List.append_assoc, State.installed_evict_cons nodup] at tail
      exact tail

theorem beginClose (accounts : Accounts charge [] mine state) (careful : charge.Careful builder)
    (call : CallId) (key : String) :
    Accounts charge [] mine (State.beginClose builder state call key) := by
  have evicted := ((accounts.cancelTimer key).evict key).note
    (.closed call key ((state.cancelTimer key).evict key).1.isSome)
  rw [← zero_add mine, ← zero_add (0 + mine)] at evicted
  exact closeGraphs careful call _ (Keeps.done rfl) (Keeps.done rfl) evicted

/-- Whoever closes all graphs goes on with the rest as the owner of what he owned before. -/
theorem beginCloseAll (careful : charge.Careful builder) (call : CallId)
    {afterwards : Activity World Unit} (clears : charge.Clears later afterwards)
    (accounts : Accounts charge [] (later + mine) state) :
    Accounts charge [] mine (State.beginCloseAll builder state call afterwards) := by
  have noted := (accounts.cancelTimers state.timers.keys).note (.closedAll call)
  have evicted := noted.evictAll noted.ascending.keys_nodup
  rw [State.filterMap_installed noted.ascending, ← zero_add (later + mine)] at evicted
  exact closeGraphs careful call _ (Keeps.done rfl) clears evicted

/-! ## Finishing builds -/

omit [AddCommMonoid Estate] in
/-- Subscribers leave all that there is to account for. -/
theorem view_notifyFrom (id : BuildId) (position : Nat) {subscribers : List (Subscriber World)}
    (spare : ∀ subscriber ∈ subscribers, ∀ id world,
      charge.view (subscriber.notify id world) = charge.view world) :
    charge.view (State.notifyFrom id position subscribers state).world =
      charge.view state.world := by
  induction subscribers generalizing state position with
  | nil => rfl
  | cons subscriber rest induction =>
      have later := fun other member => spare other (List.mem_cons_of_mem _ member)
      unfold State.notifyFrom
      dsimp only
      refine (induction (position + 1) later).trans ?_
      split <;> exact spare subscriber List.mem_cons_self id state.world

theorem notifyAll (accounts : Accounts charge loose mine state)
    (seen : SeenBy charge.sound charge.view) (id : BuildId) :
    Accounts charge loose mine (state.notifyAll id) := by
  have told : charge.view (state.notifyAll id).world = charge.view state.world :=
    view_notifyFrom id 0 accounts.subscribers
  rcases State.notifyAll_eq state id with ⟨world, holders, _, same⟩
  rw [same] at told ⊢
  exact (accounts.spare seen told).quiet rfl rfl rfl rfl rfl _ rfl

/-- The graph of a build goes into its entry, and the one that was there is loose. -/
theorem install {graph : Graph Runtime Resource}
    (accounts : Accounts charge loose (charge.scopeShare graph.scope + mine) state) (id : BuildId)
    (startEpoch : Nat) (reason : Option String) :
    Accounts charge (loose ++ (state.entry id.key).installed.toList) mine
      (state.install id startEpoch graph reason) := by
  rcases accounts.inOrder with ⟨owned, minded, inOrder⟩
  refine ⟨accounts.ascending.insert _ _, ?_, accounts.subscribers, owned, minded, ?_⟩
  · exact accounts.once.mono (fun _ => Nat.le_refl _) (fun _ => Nat.le_refl _) [_] rfl
  · have added : charge.entriesShare (state.install id startEpoch graph reason).entries =
        charge.scopeShare graph.scope + charge.entriesShare (state.entries.erase id.key) := by
      refine (Charge.entriesShare_insert accounts.ascending id.key _).trans ?_
      exact congrArg (· + _) (add_zero (charge.scopeShare graph.scope))
    have same : mine + (owned + charge.placed (loose ++ (state.entry id.key).installed.toList)
          (state.install id startEpoch graph reason)) =
        charge.scopeShare graph.scope + mine + (owned + charge.placed loose state) := by
      unfold Charge.placed
      rw [added, Charge.graphsShare_append, Charge.entriesShare_split accounts.ascending id.key]
      change mine + (owned + (_ + (charge.deferredShare state.deferred +
          (_ + charge.entryShare (state.entry id.key))))) =
        _ + mine + (owned + (charge.entryShare (state.entry id.key) + _ + _))
      abel
    rw [same]
    exact inOrder

theorem abandon (accounts : Accounts charge loose mine state) (id : BuildId) (text : String) :
    Accounts charge loose mine (state.abandon id text) := by
  refine accounts.mark ?_ ?_ rfl rfl rfl rfl [.failed id] rfl
  · exact accounts.ascending.insert _ _
  · exact Charge.entriesShare_insert_of_eq accounts.ascending rfl

/-- A graph belongs to the cache once it is installed, and the one it replaces is released. -/
theorem replaceGraph {graph : Graph Runtime Resource}
    (accounts : Accounts charge [] (charge.scopeShare graph.scope + mine) state)
    (careful : charge.Careful builder) {id : BuildId} (startEpoch : Nat) (reason : Option String)
    (unfinished : state.tasks.countP (·.name = .finishing id) = 0) :
    Accounts charge [] mine (State.replaceGraph builder state id startEpoch graph reason) := by
  have installed := accounts.install id startEpoch reason
  rw [List.nil_append] at installed
  have known : Accounts charge (state.entry id.key).installed.toList mine
      ((state.install id startEpoch graph reason).setOutcome id (.ok ())) :=
    installed.quiet rfl rfl rfl rfl rfl [] (List.append_nil _).symm
  have told := known.notifyAll careful.seen id
  rcases State.notifyAll_eq
      ((state.install id startEpoch graph reason).setOutcome id (.ok ())) id with
    ⟨world, holders, _, changed⟩
  unfold State.replaceGraph
  dsimp only
  split
  · rename_i vacant
    rw [vacant] at told
    exact told
  · rename_i old occupied
    rw [occupied] at told
    rcases retire told careful with ⟨own, closing, retired⟩
    rcases retired.advance closing with ⟨last, advanced, onward⟩
    split
    · rename_i final ran
      rw [ran] at advanced onward
      exact advanced.cleared onward
    · rename_i rest final _ ran
      rw [ran] at advanced onward
      rcases State.eq_of_advance ran with ⟨world, rfl⟩
      refine advanced.spawn onward (advanced.once.finishing ?_ ?_)
      · change (State.retire builder _ old).2.tasks.countP _ = 0
        rw [State.tasks_retire, changed]
        exact unfinished
      · refine State.mem_journal_retire builder old ?_
        rw [changed]
        exact List.mem_append_left _ (List.mem_append_right _ List.mem_cons_self)

/-- A build that has ended has handed over what it owned. -/
theorem finishBuild {outcome : Outcome Runtime Resource}
    (accounts : Accounts charge [] (charge.outcomeShare outcome + mine) state)
    (careful : charge.Careful builder) {id : BuildId} (startEpoch : Nat)
    (unfinished : state.tasks.countP (·.name = .finishing id) = 0) :
    Accounts charge [] mine (State.finishBuild builder state id startEpoch outcome) := by
  cases outcome with
  | workflow graph => exact replaceGraph accounts careful startEpoch none unfinished
  | fallback graph reason => exact replaceGraph accounts careful startEpoch (some reason) unfinished
  | failed fault => exact abandon (zero_add mine ▸ accounts) id fault.message
  | panicked => exact abandon (zero_add mine ▸ accounts) id (State.abortedText id.key)

/-! ## Dropped runtimes -/

/-- What nobody holds any more is handed to tasks of its own. -/
theorem releaseDropped (accounts : Accounts charge loose mine state) :
    Accounts charge loose mine state.releaseDropped := by
  rcases accounts.inOrder with ⟨owned, minded, inOrder⟩
  refine ⟨accounts.ascending, ?_, accounts.subscribers,
    owned + charge.deferredShare (state.deferred.filter fun entry => !state.isHeld entry.1),
    minded.append (.orphaned _), ?_⟩
  · refine accounts.once.mono ?_ ?_ [] (List.append_nil _).symm <;> intro id
    · exact Nat.le_of_eq (State.countP_releaseDropped _ fun _ => TaskName.noConfusion)
    · exact Nat.le_of_eq (State.countP_releaseDropped _ fun _ => TaskName.noConfusion)
  · have parts : charge.deferredShare state.deferred =
        charge.deferredShare (state.deferred.filter fun entry => state.isHeld entry.1) +
          charge.deferredShare (state.deferred.filter fun entry => !state.isHeld entry.1) := by
      unfold Charge.deferredShare
      rw [← List.sum_append, ← List.map_append]
      exact ((List.filter_append_perm _ state.deferred).map _).sum_eq.symm
    have same : mine + (owned +
          charge.deferredShare (state.deferred.filter fun entry => !state.isHeld entry.1) +
            charge.placed loose state.releaseDropped) =
        mine + (owned + charge.placed loose state) := by
      unfold Charge.placed
      rw [parts]
      change mine + (owned + _ + (charge.entriesShare state.entries +
        (charge.deferredShare (state.deferred.filter fun entry => state.isHeld entry.1) + _))) = _
      abel
    rw [same]
    exact inOrder

/-! ## Steps -/

theorem receive (accounts : Accounts charge loose mine state) (careful : charge.Careful builder)
    (call : CallId) (build : BuildId) (purpose : Purpose) (outcome : Except String Unit) :
    Accounts charge loose mine (State.receive builder state call build purpose outcome) := by
  cases outcome with
  | error text => exact accounts.quiet rfl rfl rfl rfl rfl [.answered call purpose build.key _] rfl
  | ok delivered =>
      cases purpose with
      | get => exact accounts.beginGet careful call build.key
      | rebuild => exact accounts.deliver call .rebuild build

/-- A caller's own work owns nothing, so that it does not matter whose it is. -/
theorem replaceWorking (accounts : Accounts charge loose mine state) (call : CallId)
    (held : Option BuildId) {rest : Activity World Reply}
    (spares : ∀ seen, Spares charge.view (fun _ => True) seen rest) :
    Accounts charge loose mine (state.replace (.working call held rest)) := by
  rcases accounts.inOrder with ⟨owned, minded, inOrder⟩
  refine ⟨accounts.ascending, accounts.once.replace _, accounts.subscribers, owned, ?_, inOrder⟩
  refine minded.map fun own task _ minds => ?_
  split
  · rename_i named
    cases task with
    | working => exact ⟨minds.1, spares⟩
    | _ => cases named
  · exact minds

/-- The activity of a task goes on, while the task is set aside. -/
theorem resumeAside {Result : Type} {ends : Result → Estate → Prop} {own : Estate}
    {rest after : Activity World Result} {name : TaskName}
    (accounts : Accounts charge loose (own + mine) (state.dismiss name))
    (keeps : Keeps charge.sound (fun _ => True) ends own rest)
    (ready : rest.isReady state.now state.world = true)
    (resumed : state.resume rest = (after, next)) :
    ∃ last, Accounts charge loose (last + mine) (next.dismiss name) ∧
      Keeps charge.sound (fun _ => True) ends last after := by
  rcases accounts.resume keeps ready with ⟨last, further, onward⟩
  obtain rfl : (state.resume rest).1 = after := congrArg Prod.fst resumed
  obtain rfl : (state.resume rest).2 = next := congrArg Prod.snd resumed
  exact ⟨last, further, onward⟩

/-- The work of a build goes on. -/
theorem proceedBuilding (accounts : Accounts charge [] mine state)
    (careful : charge.Careful builder) (ledger : Ledger state) {id : BuildId} {startEpoch : Nat}
    {rest : Activity World (Outcome Runtime Resource)}
    (found : state.task? (.building id) = some (.building id startEpoch rest))
    (ready : rest.isReady state.now state.world = true) :
    Accounts charge [] mine (State.proceed builder state (.building id startEpoch rest)) := by
  rcases accounts.dismiss found with ⟨own, minds, dismissed⟩
  rcases ledger.outcome_of_inProgress (State.inProgress_pos found) with
    ⟨single, _, _, notInstalled, _⟩
  unfold State.proceed
  dsimp only
  split
  · rename_i outcome next resumed
    rcases dismissed.resumeAside minds ready resumed with ⟨last, further, onward⟩
    rcases further.settle onward with ⟨last, rfl, settled⟩
    refine settled.finishBuild careful startEpoch ?_
    rcases State.eq_of_resume resumed with ⟨world, rfl⟩
    rw [State.countP_dismiss_of_ne TaskName.noConfusion]
    have bound := (accounts.once id).1
    change state.tasks.countP (·.name = .finishing id) = 0
    omega
  · rename_i after next _ resumed
    rcases dismissed.resumeAside minds ready resumed with ⟨last, further, onward⟩
    rcases State.eq_of_resume resumed with ⟨world, rfl⟩
    exact replace found (Nat.le_of_eq single) further accounts.once onward

/-- Closing the scope of a graph that was replaced goes on. -/
theorem proceedFinishing (accounts : Accounts charge [] mine state) (ledger : Ledger state)
    {id : BuildId} {rest : Activity World Unit}
    (found : state.task? (.finishing id) = some (.finishing id rest))
    (ready : rest.isReady state.now state.world = true) :
    Accounts charge [] mine (State.proceed builder state (.finishing id rest)) := by
  rcases accounts.dismiss found with ⟨own, minds, dismissed⟩
  unfold State.proceed
  dsimp only
  split
  · rename_i next resumed
    rcases dismissed.resumeAside minds ready resumed with ⟨last, further, onward⟩
    exact further.cleared onward
  · rename_i after next _ resumed
    rcases dismissed.resumeAside minds ready resumed with ⟨last, further, onward⟩
    rcases State.eq_of_resume resumed with ⟨world, rfl⟩
    have single := Nat.le_trans (accounts.once id).1 (ledger.installations_le_one id)
    exact replace found single further accounts.once onward

/-- Closing the scope of a graph that nobody holds any more goes on. -/
theorem proceedReleasing (accounts : Accounts charge [] mine state)
    (released : ∀ id, releases state.journal id ≤ 1) {id : BuildId} {rest : Activity World Unit}
    (found : state.task? (.releasing id) = some (.releasing id rest))
    (ready : rest.isReady state.now state.world = true) :
    Accounts charge [] mine (State.proceed builder state (.releasing id rest)) := by
  rcases accounts.dismiss found with ⟨own, minds, dismissed⟩
  unfold State.proceed
  dsimp only
  split
  · rename_i next resumed
    rcases dismissed.resumeAside minds ready resumed with ⟨last, further, onward⟩
    exact further.cleared onward
  · rename_i after next _ resumed
    rcases dismissed.resumeAside minds ready resumed with ⟨last, further, onward⟩
    rcases State.eq_of_resume resumed with ⟨world, rfl⟩
    have single := Nat.le_trans (accounts.once id).2 (released id)
    exact replace found single further accounts.once onward

/-- Closing the scope of a graph that nobody holds any more begins. -/
theorem proceedOrphaned (accounts : Accounts charge [] mine state)
    (careful : charge.Careful builder) {id : BuildId} {scope : Scope Resource}
    (found : state.task? (.orphaned id) = some (.orphaned id scope))
    (unreleased : releases state.journal id = 0) :
    Accounts charge [] mine (State.proceed builder state (.orphaned id scope)) := by
  rcases accounts.dismiss found with ⟨own, rfl, dismissed⟩
  rcases (dismissed.note (.released id)).advance (careful.closeScope scope) with
    ⟨last, advanced, onward⟩
  unfold State.proceed
  dsimp only
  split
  · rename_i next ran
    have same : (State.note (state.dismiss (.orphaned id)) (.released id)).advance
      (builder.closeScope scope) = (.done _, next) := ran
    rw [same] at advanced onward
    exact advanced.cleared onward
  · rename_i rest next _ ran
    have same : (State.note (state.dismiss (.orphaned id)) (.released id)).advance
      (builder.closeScope scope) = (rest, next) := ran
    rw [same] at advanced onward
    refine advanced.spawn onward (advanced.once.releasing ?_ ?_)
    · rcases State.eq_of_advance same with ⟨world, rfl⟩
      have bound := (accounts.once id).2
      refine Eq.trans (State.countP_dismiss_of_ne TaskName.noConfusion) ?_
      omega
    · rcases State.eq_of_advance same with ⟨world, rfl⟩
      exact List.mem_append_right _ List.mem_cons_self

/-- Closing graphs goes on. -/
theorem proceedClosing (accounts : Accounts charge [] mine state)
    (careful : charge.Careful builder) {call : CallId} {hadGraph : Bool}
    {current afterwards : Activity World Unit} {remaining : List (Installed Runtime Resource)}
    (found : state.task? (.closing call) =
      some (.closing call hadGraph current remaining afterwards))
    (ready : current.isReady state.now state.world = true) :
    Accounts charge [] mine
      (State.proceed builder state (.closing call hadGraph current remaining afterwards)) := by
  rcases accounts.dismiss found with ⟨own, ⟨now, later, rfl, clears, thereafter⟩, dismissed⟩
  unfold State.proceed
  dsimp only
  cases resumed : state.resume current with
  | mk after next =>
    have parted : now + (later + charge.graphsShare remaining) + mine =
        now + (charge.graphsShare remaining + (later + mine)) := by abel
    rw [parted] at dismissed
    rcases dismissed.resumeAside clears ready resumed with ⟨last, further, onward⟩
    rw [add_left_comm] at further
    exact closeGraphs careful call hadGraph onward thereafter further.scatter

/-- A caller's own work goes on. -/
theorem proceedWorking (accounts : Accounts charge [] mine state)
    (seen : SeenBy charge.sound charge.view) {call : CallId} {held : Option BuildId}
    {rest : Activity World Reply}
    (found : state.task? (.working call) = some (.working call held rest)) :
    Accounts charge [] mine (State.proceed builder state (.working call held rest)) := by
  rcases accounts.dismiss found with ⟨own, ⟨rfl, spares⟩, dismissed⟩
  rw [zero_add] at dismissed
  rcases Spares.resume spares state.now state.world with ⟨same, onward⟩
  unfold State.proceed
  dsimp only
  split
  · rename_i reply next resumed
    obtain rfl : (state.resume rest).2 = next := congrArg Prod.snd resumed
    exact (dismissed.spare seen same).quiet rfl rfl rfl rfl rfl [] (List.append_nil _).symm
  · rename_i after next _ resumed
    obtain rfl : (state.resume rest).2 = next := congrArg Prod.snd resumed
    obtain rfl : (state.resume rest).1 = after := congrArg Prod.fst resumed
    exact (accounts.spare seen same).replaceWorking call held onward

/-- A task goes on. -/
theorem proceed (accounts : Accounts charge [] mine state) (careful : charge.Careful builder)
    (ledger : Ledger state) (conserved : Conserved [] state) {name : TaskName}
    {task : Task World Runtime Resource Reply} (found : state.task? name = some task)
    (ready : state.isReady task = true) :
    Accounts charge [] mine (State.proceed builder state task) := by
  have named := State.task?_name found
  subst named
  cases task with
  | waiting call build purpose =>
      unfold State.proceed
      dsimp only
      split
      · exact (accounts.dismissIdle found fun _ => id).receive careful call build purpose _
      · exact accounts
  | refreshing build =>
      unfold State.proceed
      dsimp only
      split
      · exact (accounts.dismissIdle found fun _ => id).refresh careful build.key
      · exact (accounts.dismissIdle found fun _ => id).note _
      · exact accounts
  | building id startEpoch rest => exact accounts.proceedBuilding careful ledger found ready
  | finishing id rest => exact accounts.proceedFinishing ledger found ready
  | orphaned id scope =>
      refine accounts.proceedOrphaned careful found ?_
      have balance := conserved.balanced id
      have atMostOnce := ledger.installations_le_one id
      have pledged := State.pledges_pos_of_orphaned (State.mem_of_task? found)
      omega
  | releasing id rest =>
      refine accounts.proceedReleasing (fun other => ?_) found ready
      have balance := conserved.balanced other
      have atMostOnce := ledger.installations_le_one other
      omega
  | closing call hadGraph current remaining afterwards =>
      exact accounts.proceedClosing careful found ready
  | working call held rest => exact accounts.proceedWorking careful.seen found

end Accounts

/-- An action that has nothing to do with what there is to account for, but for the builds that
it starts and the graphs that it closes. -/
inductive Charge.Permits (charge : Charge World Resource View Estate) :
    Action World Runtime Resource Reply → Prop where
  | get (call : CallId) (key : String) : Permits charge (.get call key)
  | rebuild (call : CallId) (key : String) : Permits charge (.rebuild call key)
  | work (call : CallId) (held : Option BuildId) (activity : Activity World Reply)
      (spares : ∀ seen, Spares charge.view (fun _ => True) seen activity) :
      Permits charge (.work call held activity)
  | invalidate (key : String) : Permits charge (.invalidate key)
  | invalidateAll : Permits charge .invalidateAll
  | requestRebuild (key : String) (delay : Time) : Permits charge (.requestRebuild key delay)
  | close (call : CallId) (key : String) : Permits charge (.close call key)
  | subscribe (subscriber : Subscriber World)
      (spares : ∀ id world, charge.view (subscriber.notify id world) = charge.view world) :
      Permits charge (.subscribe subscriber)
  | share (holder : Holder) (id : BuildId) : Permits charge (.share holder id)
  | drop (holder : Holder) : Permits charge (.drop holder)
  | forget (call : CallId) : Permits charge (.forget call)
  | edit (change : World → World)
      (spares : ∀ world, charge.view (change world) = charge.view world) :
      Permits charge (.edit change)
  | elapse (duration : Time) : Permits charge (.elapse duration)
  | fire (key : String) : Permits charge (.fire key)
  | resume (task : TaskName) : Permits charge (.resume task)

namespace Accounts

theorem perform (accounts : Accounts charge [] mine state) (careful : charge.Careful builder)
    (ledger : Ledger state) (conserved : Conserved [] state)
    {action : Action World Runtime Resource Reply} (permits : charge.Permits action) :
    Accounts charge [] mine (State.perform builder state action) := by
  cases permits with
  | get call key => exact (accounts.note _).beginGet careful call key
  | rebuild call key => exact (accounts.note _).beginRebuild careful call key
  | work call held activity spares =>
      unfold State.perform
      dsimp only
      split
      · exact accounts.beginWork careful.seen call held spares
      · exact accounts
  | invalidate key => exact accounts.invalidate key
  | invalidateAll => exact accounts.invalidateAll
  | requestRebuild key delay => exact accounts.requestRebuild key delay
  | close call key => exact accounts.beginClose careful call key
  | subscribe subscriber spares =>
      refine ⟨accounts.ascending, accounts.once, ?_, accounts.inOrder⟩
      intro other member
      rcases List.mem_append.mp member with present | new
      · exact accounts.subscribers other present
      · rw [List.mem_singleton.mp new]
        exact spares
  | share holder id =>
      unfold State.perform
      dsimp only
      split
      · exact accounts.quiet rfl rfl rfl rfl rfl [] (List.append_nil _).symm
      · exact accounts
  | drop holder => exact accounts.quiet rfl rfl rfl rfl rfl [] (List.append_nil _).symm
  | forget call => exact accounts.quiet rfl rfl rfl rfl rfl [] (List.append_nil _).symm
  | edit change spares => exact accounts.spare careful.seen (spares state.world)
  | elapse duration => exact accounts.quiet rfl rfl rfl rfl rfl [] (List.append_nil _).symm
  | fire key =>
      unfold State.perform
      dsimp only
      split
      · split
        · exact accounts.fire careful key
        · exact accounts
      · exact accounts
  | resume name =>
      unfold State.perform
      dsimp only
      split
      · rename_i task found
        split
        · rename_i ready
          exact accounts.proceed careful ledger conserved found ready
        · exact accounts
      · exact accounts

/-- A run of such actions leaves the accounts in order. -/
theorem run {world : World} (reachable : State.Reachable builder { world := world } state)
    (accounts : Accounts charge [] mine state) (careful : charge.Careful builder)
    {actions : List (Action World Runtime Resource Reply)}
    (permits : ∀ action ∈ actions, charge.Permits action) :
    Accounts charge [] mine (State.run builder state actions) := by
  induction actions generalizing state with
  | nil => exact accounts
  | cons action actions induction =>
      have performed := accounts.perform careful reachable.dated.1 reachable.conserved
        (permits action List.mem_cons_self)
      exact induction (reachable.extend [action]) performed.releaseDropped
        fun other member => permits other (List.mem_cons_of_mem _ member)

end Accounts

end RuntimeCache

end AssistantEngine
