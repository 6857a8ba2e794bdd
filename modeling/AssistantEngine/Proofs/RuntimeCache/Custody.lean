import Mathlib.Algebra.BigOperators.Group.List.Basic
import AssistantEngine.Proofs.Concurrency.Custody
import AssistantEngine.Proofs.RuntimeCache.Release

/-!
Who owns what in the runtime cache. Every task owns an estate; what the graphs keep open belongs
to the cache while they are installed or kept for later, and to nobody else. If building a graph
and releasing its resources are in order, then so is all that happens between them.
-/

namespace AssistantEngine

namespace RuntimeCache

open Activity (Keeps KeepsFrom Tenable Trades SeenBy Spares)
open History

variable {World Runtime Resource Reply View Estate : Type} [AddCommMonoid Estate]

/-- What there is to account for in a world, what of the world this depends on, and which part
of it comes with a resource. -/
structure Charge (World Resource View Estate : Type) where
  sound : Estate → World → Prop
  view : World → View
  share : Resource → Estate

namespace Charge

variable (charge : Charge World Resource View Estate)

/-! ## Shares of graphs -/

/-- What there is to release with a scope. -/
def scopeShare (scope : Scope Resource) : Estate := (scope.close.1.map charge.share).sum

def graphShare (installed : Installed Runtime Resource) : Estate :=
  charge.scopeShare installed.graph.scope

def graphsShare (graphs : List (Installed Runtime Resource)) : Estate :=
  (graphs.map charge.graphShare).sum

def entryShare (entry : Entry Runtime Resource) : Estate :=
  charge.graphsShare entry.installed.toList

def entriesShare (entries : Catalog (Entry Runtime Resource)) : Estate :=
  (entries.map fun entry => charge.entryShare entry.2).sum

def deferredShare (deferred : List (BuildId × Scope Resource)) : Estate :=
  (deferred.map fun entry => charge.scopeShare entry.2).sum

def outcomeShare (outcome : Outcome Runtime Resource) : Estate :=
  match outcome.graph? with
  | some graph => charge.scopeShare graph.scope
  | none => 0

/-- What belongs to the cache itself, and to the graphs that are about to be retired. -/
def placed (loose : List (Installed Runtime Resource))
    (state : State World Runtime Resource Reply) : Estate :=
  charge.entriesShare state.entries + (charge.deferredShare state.deferred +
    charge.graphsShare loose)

/-! ## Tasks -/

/-- An activity that owns nothing in the end. -/
abbrev Clears {Result : Type} (mine : Estate) (activity : Activity World Result) : Prop :=
  Keeps charge.sound (fun _ => True) (fun _ last => last = 0) mine activity

/-- What a task owns while it waits, so that it can go on in order. -/
def Minds : Estate → Task World Runtime Resource Reply → Prop
  | mine, .waiting .. => mine = 0
  | mine, .refreshing _ => mine = 0
  | mine, .building _ _ rest =>
    Keeps charge.sound (fun _ => True) (fun outcome last => last = charge.outcomeShare outcome)
      mine rest
  | mine, .finishing _ rest => charge.Clears mine rest
  | mine, .orphaned _ scope => mine = charge.scopeShare scope
  | mine, .releasing _ rest => charge.Clears mine rest
  | mine, .closing _ _ current remaining afterwards =>
    ∃ now later, mine = now + (later + charge.graphsShare remaining) ∧
      charge.Clears now current ∧ charge.Clears later afterwards
  | mine, .working _ _ rest => mine = 0 ∧ ∀ seen, Spares charge.view (fun _ => True) seen rest

/-- What all tasks own together. -/
inductive Minded : List (Task World Runtime Resource Reply) → Estate → Prop where
  | nil : Minded [] 0
  | cons {task : Task World Runtime Resource Reply} {tasks : List _} {mine others : Estate}
      (minds : charge.Minds mine task) (rest : Minded tasks others) :
      Minded (task :: tasks) (mine + others)

/-- Building a graph is in order if nothing is owned but what comes with the graph, and releasing
a resource if nothing is owned of it afterwards. -/
structure Careful (builder : Builder World Runtime Resource) : Prop where
  seen : SeenBy charge.sound charge.view
  build : ∀ id, Keeps charge.sound (fun _ => True)
    (fun outcome last => last = charge.outcomeShare outcome) 0 (builder.build id)
  release : ∀ resource, charge.Clears (charge.share resource) (builder.release resource)

end Charge

variable {charge : Charge World Resource View Estate} {builder : Builder World Runtime Resource}
variable {state next : State World Runtime Resource Reply}
variable {loose graphs : List (Installed Runtime Resource)}
variable {task : Task World Runtime Resource Reply}
variable {mine last others aside : Estate}

/-! ## Sums -/

namespace Charge

theorem graphsShare_cons (graph : Installed Runtime Resource) :
    charge.graphsShare (graph :: graphs) = charge.graphShare graph + charge.graphsShare graphs :=
  List.sum_cons

theorem graphsShare_append (first second : List (Installed Runtime Resource)) :
    charge.graphsShare (first ++ second) =
      charge.graphsShare first + charge.graphsShare second := by
  unfold graphsShare
  rw [List.map_append, List.sum_append]

/-- The share of all entries is that of one entry and that of the others. -/
theorem entriesShare_split {entries : Catalog (Entry Runtime Resource)}
    (ascending : entries.Ascending) (key : String) :
    charge.entriesShare entries = charge.entryShare ((entries.find? key).getD {}) +
      charge.entriesShare (entries.erase key) := by
  cases found : entries.find? key with
  | none =>
      rw [Catalog.erase_of_absent found]
      exact (zero_add _).symm
  | some entry =>
      unfold entriesShare
      rw [((Catalog.perm_erase ascending.keys_nodup found).map _).sum_eq, List.map_cons,
        List.sum_cons]
      rfl

theorem entriesShare_insert {entries : Catalog (Entry Runtime Resource)}
    (ascending : entries.Ascending) (key : String) (entry : Entry Runtime Resource) :
    charge.entriesShare (Catalog.insert entries key entry) =
      charge.entryShare entry + charge.entriesShare (entries.erase key) := by
  unfold entriesShare
  rw [((ascending.perm_insert key entry).map _).sum_eq, List.map_cons, List.sum_cons]

/-- Replacing an entry by one with the same graph changes no share. -/
theorem entriesShare_insert_of_eq {key : String} {entry : Entry Runtime Resource}
    (ascending : state.entries.Ascending)
    (same : entry.installed = (state.entry key).installed) :
    charge.entriesShare (state.entries.insert key entry) = charge.entriesShare state.entries := by
  rw [entriesShare_insert ascending, entriesShare_split ascending key]
  unfold entryShare
  rw [same]
  rfl

theorem entriesShare_mapValues {entries : Catalog (Entry Runtime Resource)}
    {change : Entry Runtime Resource → Entry Runtime Resource}
    (same : ∀ entry, (change entry).installed = entry.installed) :
    charge.entriesShare (entries.mapValues change) = charge.entriesShare entries := by
  unfold entriesShare Catalog.mapValues entryShare
  rw [List.map_map]
  congr 1
  apply List.map_congr_left
  intro entry _
  exact congrArg (fun installed => charge.graphsShare installed.toList) (same entry.2)

/-! ## Tasks together -/

namespace Minded

theorem append {first second : List (Task World Runtime Resource Reply)}
    (front : charge.Minded first mine) (back : charge.Minded second others) :
    charge.Minded (first ++ second) (mine + others) := by
  induction front with
  | nil =>
      rw [zero_add]
      exact back
  | cons minds _ induction =>
      rw [add_assoc]
      exact .cons minds induction

theorem single (minds : charge.Minds mine task) : charge.Minded [task] mine :=
  add_zero mine ▸ .cons minds .nil

/-- One task and the others own what all of them own. -/
theorem split {front rest : List (Task World Runtime Resource Reply)}
    (minded : charge.Minded (front ++ task :: rest) aside) :
    ∃ mine others, aside = mine + others ∧ charge.Minds mine task ∧
      charge.Minded (front ++ rest) others := by
  induction front generalizing aside with
  | nil =>
      cases minded with
      | @cons _ _ mine others minds rest => exact ⟨mine, others, rfl, minds, rest⟩
  | cons first front induction =>
      cases minded with
      | @cons _ _ own rest minds tail =>
          rcases induction tail with ⟨mine, others, rfl, found, left⟩
          exact ⟨mine, own + others, add_left_comm own mine others, found, .cons minds left⟩

theorem insert {front rest : List (Task World Runtime Resource Reply)}
    (minds : charge.Minds mine task) (minded : charge.Minded (front ++ rest) others) :
    charge.Minded (front ++ task :: rest) (mine + others) := by
  induction front generalizing others with
  | nil => exact .cons minds minded
  | cons first front induction =>
      cases minded with
      | @cons _ _ own rest found tail =>
          rw [add_left_comm]
          exact .cons found (induction tail)

/-- Tasks may be exchanged for tasks that own the same. -/
theorem map {tasks : List (Task World Runtime Resource Reply)}
    {change : Task World Runtime Resource Reply → Task World Runtime Resource Reply}
    (same : ∀ mine, ∀ task ∈ tasks, charge.Minds mine task → charge.Minds mine (change task))
    (minded : charge.Minded tasks aside) : charge.Minded (tasks.map change) aside := by
  induction minded with
  | nil => exact .nil
  | cons minds _ induction =>
      exact .cons (same _ _ List.mem_cons_self minds)
        (induction fun mine task member => same mine task (List.mem_cons_of_mem _ member))

/-- The scopes that are handed to tasks of their own belong to these. -/
theorem orphaned (deferred : List (BuildId × Scope Resource)) :
    charge.Minded (deferred.map fun entry =>
      (.orphaned entry.1 entry.2 : Task World Runtime Resource Reply))
      (charge.deferredShare deferred) := by
  induction deferred with
  | nil => exact .nil
  | cons entry rest induction => exact .cons rfl induction

end Minded

end Charge

/-! ## Names that are used once -/

/-- Nobody finishes a build or releases a graph more often than there was one to. -/
def Once (state : State World Runtime Resource Reply) : Prop :=
  ∀ id, state.tasks.countP (·.name = .finishing id) ≤ installations state.journal id ∧
    state.tasks.countP (·.name = .releasing id) ≤ releases state.journal id

namespace Once

theorem mono (once : Once state)
    (finishing : ∀ id, next.tasks.countP (·.name = .finishing id) ≤
      state.tasks.countP (·.name = .finishing id))
    (releasing : ∀ id, next.tasks.countP (·.name = .releasing id) ≤
      state.tasks.countP (·.name = .releasing id))
    (more : List Occurrence) (journal : next.journal = state.journal ++ more) : Once next := by
  intro id
  have fewer := finishing id
  have less := releasing id
  have bounds := once id
  rw [journal, installations_append, releases_append]
  omega

/-- A task that neither finishes a build nor releases a graph. -/
theorem spawn (once : Once state) (notFinishing : ∀ id, task.name ≠ .finishing id)
    (notReleasing : ∀ id, task.name ≠ .releasing id) : Once (state.spawn task) := by
  refine once.mono ?_ ?_ [] (List.append_nil _).symm <;> intro id
  · exact Nat.le_of_eq (State.countP_spawn_of_ne (notFinishing id))
  · exact Nat.le_of_eq (State.countP_spawn_of_ne (notReleasing id))

/-- A build is finished that has not been finished before. -/
theorem finishing (once : Once state) {id : BuildId} {rest : Activity World Unit}
    (unfinished : state.tasks.countP (·.name = .finishing id) = 0)
    (installed : .installed id ∈ state.journal) : Once (state.spawn (.finishing id rest)) := by
  intro other
  rcases once other with ⟨finishing, releasing⟩
  have counted := installations_pos_iff.mpr installed
  rw [State.countP_spawn, State.countP_spawn_of_ne (by exact TaskName.noConfusion)]
  refine ⟨?_, releasing⟩
  change _ ≤ installations state.journal other
  split
  · rename_i same
    cases same
    omega
  · exact finishing

/-- A graph is released that has not been released before. -/
theorem releasing (once : Once state) {id : BuildId} {rest : Activity World Unit}
    (unreleased : state.tasks.countP (·.name = .releasing id) = 0)
    (released : .released id ∈ state.journal) : Once (state.spawn (.releasing id rest)) := by
  intro other
  rcases once other with ⟨finishing, releasing⟩
  have counted := releases_pos_iff.mpr released
  rw [State.countP_spawn_of_ne (by exact TaskName.noConfusion), State.countP_spawn]
  refine ⟨finishing, ?_⟩
  change _ ≤ releases state.journal other
  split
  · rename_i same
    cases same
    omega
  · exact releasing

theorem dismiss (once : Once state) (name : TaskName) : Once (state.dismiss name) :=
  once.mono (fun _ => (List.eraseP_sublist).countP_le) (fun _ => (List.eraseP_sublist).countP_le)
    [] (List.append_nil _).symm

theorem replace (once : Once state) (task : Task World Runtime Resource Reply) :
    Once (state.replace task) :=
  once.mono (fun _ => Nat.le_of_eq (State.countP_replace task _))
    (fun _ => Nat.le_of_eq (State.countP_replace task _)) [] (List.append_nil _).symm

end Once

/-! ## Accounts -/

/-- What one party owns, what the tasks own, and what belongs to the cache is all in order. -/
structure Accounts (charge : Charge World Resource View Estate)
    (loose : List (Installed Runtime Resource)) (mine : Estate)
    (state : State World Runtime Resource Reply) : Prop where
  ascending : state.entries.Ascending
  once : Once state
  subscribers : ∀ subscriber ∈ state.subscribers, ∀ id world,
    charge.view (subscriber.notify id world) = charge.view world
  inOrder : ∃ owned, charge.Minded state.tasks owned ∧
    charge.sound (mine + (owned + charge.placed loose state)) state.world

namespace Accounts

theorem tenable (accounts : Accounts charge loose (mine + aside) state) :
    Tenable charge.sound mine state.world := by
  rcases accounts.inOrder with ⟨owned, _, inOrder⟩
  exact ⟨aside + (owned + charge.placed loose state), add_assoc mine aside _ ▸ inOrder⟩

/-- What has nothing to do with what anybody owns. -/
theorem quiet (accounts : Accounts charge loose mine state) (entries : next.entries = state.entries)
    (tasks : next.tasks = state.tasks) (deferred : next.deferred = state.deferred)
    (subscribers : next.subscribers = state.subscribers) (world : next.world = state.world)
    (more : List Occurrence) (journal : next.journal = state.journal ++ more) :
    Accounts charge loose mine next where
  ascending := entries ▸ accounts.ascending
  once := accounts.once.mono (fun _ => tasks ▸ Nat.le_refl _) (fun _ => tasks ▸ Nat.le_refl _) more
    journal
  subscribers := subscribers ▸ accounts.subscribers
  inOrder := by
    unfold Charge.placed
    rw [entries, tasks, deferred, world]
    exact accounts.inOrder

theorem note (accounts : Accounts charge loose mine state) (occurrence : Occurrence) :
    Accounts charge loose mine (state.note occurrence) :=
  accounts.quiet rfl rfl rfl rfl rfl [occurrence] rfl

/-- The entries change, and the graphs in them do not. -/
theorem mark (accounts : Accounts charge loose mine state) (ascending : next.entries.Ascending)
    (share : charge.entriesShare next.entries = charge.entriesShare state.entries)
    (tasks : next.tasks = state.tasks) (deferred : next.deferred = state.deferred)
    (subscribers : next.subscribers = state.subscribers) (world : next.world = state.world)
    (more : List Occurrence) (journal : next.journal = state.journal ++ more) :
    Accounts charge loose mine next where
  ascending := ascending
  once := accounts.once.mono (fun _ => tasks ▸ Nat.le_refl _) (fun _ => tasks ▸ Nat.le_refl _) more
    journal
  subscribers := subscribers ▸ accounts.subscribers
  inOrder := by
    unfold Charge.placed
    rw [share, tasks, deferred, world]
    exact accounts.inOrder

theorem trade (accounts : Accounts charge loose mine state) {world : World}
    (trades : Trades charge.sound mine state.world last world) :
    Accounts charge loose last { state with world := world } where
  ascending := accounts.ascending
  once := accounts.once
  subscribers := accounts.subscribers
  inOrder := by
    rcases accounts.inOrder with ⟨owned, minded, inOrder⟩
    exact ⟨owned, minded, trades _ inOrder⟩

/-- When nothing goes on any more, all there is belongs to the entries, or to that one party. -/
theorem settled (accounts : Accounts charge [] mine state) (idle : state.tasks = [])
    (undeferred : state.deferred = []) :
    charge.sound (mine + charge.entriesShare state.entries) state.world := by
  rcases accounts.inOrder with ⟨owned, minded, inOrder⟩
  rw [idle] at minded
  cases minded
  have placed : charge.placed [] state = charge.entriesShare state.entries := by
    unfold Charge.placed
    rw [undeferred]
    change charge.entriesShare state.entries + (0 + 0) = _
    rw [add_zero, add_zero]
  rwa [placed, zero_add] at inOrder

/-- What the loose graphs keep open may be counted as somebody's own. -/
theorem gather (accounts : Accounts charge loose mine state) :
    Accounts charge [] (charge.graphsShare loose + mine) state where
  ascending := accounts.ascending
  once := accounts.once
  subscribers := accounts.subscribers
  inOrder := by
    rcases accounts.inOrder with ⟨owned, minded, inOrder⟩
    refine ⟨owned, minded, ?_⟩
    have same : charge.graphsShare loose + mine + (owned + charge.placed [] state) =
        mine + (owned + charge.placed loose state) := by
      unfold Charge.placed
      rw [show charge.graphsShare ([] : List (Installed Runtime Resource)) = 0 from rfl]
      abel
    rw [same]
    exact inOrder

/-- The other way round. -/
theorem scatter (accounts : Accounts charge [] (charge.graphsShare loose + mine) state) :
    Accounts charge loose mine state where
  ascending := accounts.ascending
  once := accounts.once
  subscribers := accounts.subscribers
  inOrder := by
    rcases accounts.inOrder with ⟨owned, minded, inOrder⟩
    refine ⟨owned, minded, ?_⟩
    have same : charge.graphsShare loose + mine + (owned + charge.placed [] state) =
        mine + (owned + charge.placed loose state) := by
      unfold Charge.placed
      rw [show charge.graphsShare ([] : List (Installed Runtime Resource)) = 0 from rfl]
      abel
    rw [← same]
    exact inOrder

/-! ## Activities -/

variable {Result : Type} {activity : Activity World Result} {ends : Result → Estate → Prop}

/-- An activity runs up to its next pause. -/
theorem advance (accounts : Accounts charge loose (mine + aside) state)
    (keeps : Keeps charge.sound (fun _ => True) ends mine activity) :
    ∃ last, Accounts charge loose (last + aside) (state.advance activity).2 ∧
      Keeps charge.sound (fun _ => True) ends last (state.advance activity).1 := by
  rcases (keeps state.world accounts.tenable).advance state.now with ⟨last, trades, onward⟩
  exact ⟨last, accounts.trade (trades.frame aside), onward⟩

theorem resume (accounts : Accounts charge loose (mine + aside) state)
    (keeps : Keeps charge.sound (fun _ => True) ends mine activity)
    (ready : activity.isReady state.now state.world = true) :
    ∃ last, Accounts charge loose (last + aside) (state.resume activity).2 ∧
      Keeps charge.sound (fun _ => True) ends last (state.resume activity).1 := by
  rcases keeps.resume accounts.tenable ready with ⟨last, trades, onward⟩
  exact ⟨last, accounts.trade (trades.frame aside), onward⟩

/-- An activity is done. -/
theorem settle {result : Result} (accounts : Accounts charge loose (mine + aside) state)
    (keeps : Keeps charge.sound (fun _ => True) ends mine (.done result)) :
    ∃ last, ends result last ∧ Accounts charge loose (last + aside) state := by
  rcases keeps.of_done accounts.tenable with ⟨last, trades, ended⟩
  exact ⟨last, ended, accounts.trade (trades.frame aside)⟩

theorem cleared {result : Result} (accounts : Accounts charge loose (mine + aside) state)
    (clears : charge.Clears mine (.done result)) : Accounts charge loose aside state := by
  rcases accounts.settle clears with ⟨last, rfl, settled⟩
  exact zero_add aside ▸ settled

/-- A change of the world that leaves all there is to account for. -/
theorem spare (accounts : Accounts charge loose mine state) (seen : SeenBy charge.sound charge.view)
    {world : World} (same : charge.view world = charge.view state.world) :
    Accounts charge loose mine { state with world := world } :=
  accounts.trade fun _ => seen _ state.world world same

/-! ## Tasks -/

theorem spawn (accounts : Accounts charge loose (mine + aside) state)
    (minds : charge.Minds mine task) (once : Once (state.spawn task)) :
    Accounts charge loose aside (state.spawn task) where
  ascending := accounts.ascending
  once := once
  subscribers := accounts.subscribers
  inOrder := by
    rcases accounts.inOrder with ⟨owned, minded, inOrder⟩
    refine ⟨owned + mine, minded.append (.single minds), ?_⟩
    have same : aside + (owned + mine + charge.placed loose (state.spawn task)) =
        mine + aside + (owned + charge.placed loose state) := by
      change aside + (owned + mine + charge.placed loose state) = _
      abel
    rw [same]
    exact inOrder

/-- What a task owned is its successor's. -/
theorem dismiss (accounts : Accounts charge loose aside state) {name : TaskName}
    (found : state.task? name = some task) :
    ∃ mine, charge.Minds mine task ∧ Accounts charge loose (mine + aside) (state.dismiss name) := by
  rcases accounts.inOrder with ⟨owned, minded, inOrder⟩
  rcases State.dismiss_split found with ⟨front, rest, split, dismissed⟩
  rw [split] at minded
  rcases minded.split with ⟨mine, others, rfl, minds, left⟩
  refine ⟨mine, minds, accounts.ascending, accounts.once.dismiss name, accounts.subscribers,
    others, ?_, ?_⟩
  · rw [dismissed]
    exact left
  · have same : mine + aside + (others + charge.placed loose (state.dismiss name)) =
        aside + (mine + others + charge.placed loose state) := by
      change mine + aside + (others + charge.placed loose state) = _
      abel
    rw [same]
    exact inOrder

/-- A task takes the place of the only one with its name. -/
theorem replace {present : Task World Runtime Resource Reply}
    (found : state.task? task.name = some present)
    (single : state.tasks.countP (·.name = task.name) ≤ 1)
    (accounts : Accounts charge loose (mine + aside) (state.dismiss task.name))
    (once : Once state) (minds : charge.Minds mine task) :
    Accounts charge loose aside (state.replace task) := by
  rcases accounts.inOrder with ⟨owned, minded, inOrder⟩
  rcases State.dismiss_split found with ⟨front, rest, split, dismissed⟩
  have named := State.task?_name found
  have others : (front ++ rest).countP (·.name = task.name) = 0 := by
    have counted := State.countP_dismiss found
    rw [dismissed] at counted
    dsimp only at counted
    omega
  have kept (part : List (Task World Runtime Resource Reply))
      (within : ∀ other ∈ part, other ∈ front ++ rest) :
      part.map (fun other => if other.name = task.name then task else other) = part := by
    refine (List.map_congr_left fun other member => ?_).trans (List.map_id part)
    have different := List.countP_eq_zero.mp others other (within other member)
    exact if_neg (by simpa using different)
  have replaced : (state.replace task).tasks = front ++ task :: rest := by
    unfold State.replace
    rw [split, List.map_append, List.map_cons, if_pos named,
      kept front fun _ => List.mem_append_left _, kept rest fun _ => List.mem_append_right _]
  rw [dismissed] at minded
  refine ⟨accounts.ascending, once.replace task, accounts.subscribers, mine + owned, ?_, ?_⟩
  · rw [replaced]
    exact minded.insert minds
  · have same : aside + (mine + owned + charge.placed loose (state.replace task)) =
        mine + aside + (owned + charge.placed loose state) := by
      change aside + (mine + owned + charge.placed loose state) = _
      abel
    rw [same]
    exact inOrder

end Accounts

end RuntimeCache

end AssistantEngine
