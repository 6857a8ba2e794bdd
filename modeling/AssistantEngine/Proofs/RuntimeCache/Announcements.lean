import AssistantEngine.Proofs.RuntimeCache.Builds

/-!
Announcements. A graph that is installed is announced in the same step, to every subscriber there
is, one after the other, and nothing else is ever announced. So every subscriber is told of the
runtimes that are installed, in the order of their installation.
-/

namespace AssistantEngine

namespace RuntimeCache

open History

namespace Occurrence

/-- The build whose graph is installed. -/
def installation? : Occurrence → Option BuildId
  | installed id => some id
  | _ => none

/-- The build that the subscriber at a position is told of. -/
def notice? (position : Nat) : Occurrence → Option BuildId
  | notified other id => if other = position then some id else none
  | _ => none

/-- Whether a graph is installed or a subscriber told. -/
@[simp] def announces : Occurrence → Bool
  | installed _ => true
  | notified _ _ => true
  | _ => false

end Occurrence

namespace History

/-- The builds whose graphs were installed, in order. -/
def installed (journal : List Occurrence) : List BuildId :=
  journal.filterMap Occurrence.installation?

/-- The builds that the subscriber at a position was told of, in order. -/
def notices (journal : List Occurrence) (position : Nat) : List BuildId :=
  journal.filterMap (Occurrence.notice? position)

/-- A graph is installed, and so many subscribers are told of it. -/
def announcement (id : BuildId) (subscribers : Nat) : List Occurrence :=
  .installed id :: (List.range subscribers).map (.notified · id)

variable {journal more : List Occurrence}

@[simp] theorem installed_append :
    installed (journal ++ more) = installed journal ++ installed more := List.filterMap_append

@[simp] theorem notices_append (position : Nat) :
    notices (journal ++ more) position = notices journal position ++ notices more position :=
  List.filterMap_append

theorem mem_installed_iff {id : BuildId} : id ∈ installed journal ↔ .installed id ∈ journal := by
  unfold installed
  rw [List.mem_filterMap]
  constructor
  · rintro ⟨occurrence, member, selected⟩
    cases occurrence with
    | installed other =>
        cases selected
        exact member
    | _ => cases selected
  · exact fun member => ⟨_, member, rfl⟩

/-- Only what announces counts. -/
theorem installed_filter (journal : List Occurrence) :
    installed (journal.filter (·.announces)) = installed journal := by
  unfold installed
  rw [List.filterMap_filter]
  congr
  funext occurrence
  cases occurrence <;> rfl

theorem notices_filter (journal : List Occurrence) (position : Nat) :
    notices (journal.filter (·.announces)) position = notices journal position := by
  unfold notices
  rw [List.filterMap_filter]
  congr
  funext occurrence
  cases occurrence <;> rfl

theorem installed_of_unannounced (quiet : ∀ occurrence ∈ more, occurrence.announces = false) :
    installed more = [] := by
  rw [← installed_filter, List.filter_eq_nil_iff.mpr]
  · rfl
  · simpa using quiet

theorem installed_announcement (id : BuildId) (subscribers : Nat) :
    installed (announcement id subscribers) = [id] := by
  have none : installed ((List.range subscribers).map (.notified · id)) = [] := by
    unfold installed
    rw [List.filterMap_map]
    exact List.filterMap_eq_nil_iff.mpr fun _ _ => rfl
  exact congrArg (List.cons id) none

/-- Everyone who is told is told once. -/
theorem notices_announcement (id : BuildId) {subscribers position : Nat}
    (registered : position < subscribers) :
    notices (announcement id subscribers) position = [id] := by
  induction subscribers with
  | zero => exact absurd registered (Nat.not_lt_zero _)
  | succ subscribers induction =>
      have last : announcement id (subscribers + 1) =
          announcement id subscribers ++ [.notified subscribers id] := by
        rw [announcement, List.range_succ, List.map_append]
        rfl
      rw [last, notices_append]
      by_cases same : subscribers = position
      · subst same
        have none : notices (announcement id subscribers) subscribers = [] := by
          refine List.filterMap_eq_nil_iff.mpr fun occurrence member => ?_
          rcases List.mem_cons.mp member with rfl | told
          · rfl
          · rcases List.mem_map.mp told with ⟨other, earlier, rfl⟩
            exact if_neg (Nat.ne_of_lt (List.mem_range.mp earlier))
        rw [none]
        simp [notices, Occurrence.notice?]
      · rw [induction (by omega)]
        simp [notices, Occurrence.notice?, same]

theorem filter_announcement (id : BuildId) (subscribers : Nat) :
    (announcement id subscribers).filter (·.announces) = announcement id subscribers := by
  rw [List.filter_eq_self]
  intro occurrence member
  rcases List.mem_cons.mp member with rfl | told
  · rfl
  · rcases List.mem_map.mp told with ⟨position, _, rfl⟩
    rfl

end History

variable {World Runtime Resource Reply : Type} {builder : Builder World Runtime Resource}
variable {start state next : State World Runtime Resource Reply}

/-! ## What moves announce -/

/-- A change with which no graph is installed and nobody is told of one. -/
structure Unannounced (state next : State World Runtime Resource Reply) : Prop where
  journal : ∃ more, next.journal = state.journal ++ more ∧
    ∀ occurrence ∈ more, occurrence.announces = false
  runtimes : next.runtimes = state.runtimes
  graphs : ∀ key graph, (next.entry key).installed = some graph →
    (state.entry key).installed = some graph
  subscribers : state.subscribers.length ≤ next.subscribers.length

namespace Unannounced

theorem ofEntries (more : List Occurrence) (journal : next.journal = state.journal ++ more)
    (silent : ∀ occurrence ∈ more, occurrence.announces = false)
    (runtimes : next.runtimes = state.runtimes) (entries : next.entries = state.entries)
    (subscribers : state.subscribers.length ≤ next.subscribers.length) :
    Unannounced state next where
  journal := ⟨more, journal, silent⟩
  runtimes := runtimes
  graphs := by
    intro key graph present
    unfold State.entry at present ⊢
    rwa [← entries]
  subscribers := subscribers

theorem quiet (journal : next.journal = state.journal) (runtimes : next.runtimes = state.runtimes)
    (entries : next.entries = state.entries)
    (subscribers : state.subscribers.length ≤ next.subscribers.length) : Unannounced state next :=
  .ofEntries [] (journal.trans (List.append_nil _).symm) (by simp) runtimes entries subscribers

theorem note (occurrence : Occurrence) (journal : next.journal = state.journal ++ [occurrence])
    (silent : occurrence.announces = false) (runtimes : next.runtimes = state.runtimes)
    (entries : next.entries = state.entries) (subscribers : next.subscribers = state.subscribers) :
    Unannounced state next :=
  .ofEntries [occurrence] journal (by simpa using silent) runtimes entries
    (Nat.le_of_eq (congrArg List.length subscribers.symm))

theorem ofGraphs (more : List Occurrence) (journal : next.journal = state.journal ++ more)
    (silent : ∀ occurrence ∈ more, occurrence.announces = false)
    (runtimes : next.runtimes = state.runtimes)
    (graphs : ∀ key, (next.entry key).installed = (state.entry key).installed)
    (subscribers : next.subscribers = state.subscribers) : Unannounced state next where
  journal := ⟨more, journal, silent⟩
  runtimes := runtimes
  graphs := fun key _ present => (graphs key).symm.trans present
  subscribers := Nat.le_of_eq (congrArg List.length subscribers.symm)

theorem trans {between : State World Runtime Resource Reply} (first : Unannounced state between)
    (second : Unannounced between next) : Unannounced state next where
  journal := by
    rcases first.journal with ⟨early, begun, silent⟩
    rcases second.journal with ⟨late, ended, quiet⟩
    exact ⟨early ++ late, by rw [ended, begun, List.append_assoc],
      List.forall_mem_append.mpr ⟨silent, quiet⟩⟩
  runtimes := second.runtimes.trans first.runtimes
  graphs := fun key graph present => first.graphs key graph (second.graphs key graph present)
  subscribers := Nat.le_trans first.subscribers second.subscribers

theorem dismiss (state : State World Runtime Resource Reply) (name : TaskName) :
    Unannounced state (state.dismiss name) :=
  .quiet rfl rfl rfl (Nat.le_refl _)

theorem begin (builder : Builder World Runtime Resource) {key : String}
    (idle : (state.entry key).building = none) :
    Unannounced state (State.startOrJoin builder state key).2 := by
  have graphs := State.entry_startOrJoin builder idle
  rw [State.startOrJoin_start builder state idle] at graphs ⊢
  refine .ofGraphs [_] rfl (by simp) rfl (fun other => ?_) rfl
  rw [graphs]

theorem evict (state : State World Runtime Resource Reply) (key : String) :
    Unannounced state (state.evict key).2 := by
  have graphs (other : String) (graph : Installed Runtime Resource)
      (present : ((state.evict key).2.entry other).installed = some graph) :
      (state.entry other).installed = some graph := by
    by_cases same : key = other
    · subst same
      rw [State.entry_evict] at present
      split at present <;> cases present
    · rwa [State.entry_evict_of_ne same] at present
  rcases State.evict_eq state key with ⟨entries, same⟩
  rw [same] at graphs ⊢
  exact ⟨⟨[_], rfl, by simp⟩, rfl, graphs, Nat.le_refl _⟩

theorem deliver (state : State World Runtime Resource Reply) (call : CallId) (purpose : Purpose)
    (id : BuildId) : Unannounced state (state.deliver call purpose id) := by
  rcases State.deliver_eq state call purpose id with ⟨holders, _, same⟩
  rw [same]
  exact .note _ rfl rfl rfl rfl rfl

theorem retire (builder : Builder World Runtime Resource)
    (state : State World Runtime Resource Reply) (graph : Installed Runtime Resource) :
    Unannounced state (State.retire builder state graph).2 := by
  unfold State.retire
  split
  · exact .quiet rfl rfl rfl (Nat.le_refl _)
  · exact .note _ rfl rfl rfl rfl rfl

end Unannounced

/-- The state in which a build has been installed and announced. -/
def State.announce (state : State World Runtime Resource Reply) (id : BuildId) (startEpoch : Nat)
    (graph : Graph Runtime Resource) (reason : Option String) :
    State World Runtime Resource Reply :=
  ((state.install id startEpoch graph reason).setOutcome id (.ok ())).notifyAll id

namespace State

theorem world_notifyFrom (id : BuildId) (position : Nat) (subscribers : List (Subscriber World))
    (state : State World Runtime Resource Reply) :
    (notifyFrom id position subscribers state).world =
      subscribers.foldl (fun world subscriber => subscriber.notify id world) state.world := by
  induction subscribers generalizing position state with
  | nil => rfl
  | cons subscriber rest induction =>
      unfold notifyFrom
      dsimp only
      rw [induction]
      split <;> rfl

variable {id : BuildId} {startEpoch : Nat} {graph : Graph Runtime Resource} {reason : Option String}

/-- Every subscriber has its way with the world in turn, whether or not it then panics. -/
theorem world_announce :
    (state.announce id startEpoch graph reason).world =
      state.subscribers.foldl (fun world subscriber => subscriber.notify id world) state.world :=
  world_notifyFrom id 0 _ _

theorem announce_eq :
    ∃ world holders, state.announce id startEpoch graph reason =
      { (state.install id startEpoch graph reason).setOutcome id (.ok ()) with
        world := world
        holders := holders
        journal := state.journal ++ announcement id state.subscribers.length } := by
  rcases notifyAll_eq ((state.install id startEpoch graph reason).setOutcome id (.ok ())) id with
    ⟨world, holders, _, same⟩
  refine ⟨world, state.holders ++ holders, same.trans ?_⟩
  have joined : (state.journal ++ [.installed id]) ++
      (List.range state.subscribers.length).map (.notified · id) =
        state.journal ++ announcement id state.subscribers.length := List.append_assoc _ _ _
  rw [← joined]
  rfl

theorem now_announce : (state.announce id startEpoch graph reason).now = state.now := by
  rcases announce_eq with ⟨world, holders, same⟩
  rw [same]
  rfl

theorem journal_announce :
    (state.announce id startEpoch graph reason).journal =
      state.journal ++ announcement id state.subscribers.length := by
  rcases announce_eq with ⟨world, holders, same⟩
  rw [same]

theorem runtimes_announce :
    (state.announce id startEpoch graph reason).runtimes =
      state.runtimes ++ [(id, graph.runtime)] := by
  rcases announce_eq with ⟨world, holders, same⟩
  rw [same]
  rfl

theorem subscribers_announce :
    (state.announce id startEpoch graph reason).subscribers = state.subscribers := by
  rcases announce_eq with ⟨world, holders, same⟩
  rw [same]
  rfl

theorem installed_announce (key : String) :
    ((state.announce id startEpoch graph reason).entry key).installed =
      if id.key = key then some ⟨id, graph⟩ else (state.entry key).installed := by
  unfold announce
  rw [entry, entries_notifyAll]
  have placed := entry_install state id startEpoch graph reason key
  refine (congrArg Entry.installed placed).trans ?_
  split <;> rfl

end State

/-- A move either announces nothing or is the installation of a build that was in progress. -/
theorem Move.announcing {before after : Situation World Runtime Resource Reply}
    (move : Move builder before after) :
    Unannounced before.state after.state ∨
      ∃ id startEpoch rest graph reason,
        before.state.task? (.building id) = some (.building id startEpoch rest) ∧
          after.state =
            (before.state.dismiss (.building id)).announce id startEpoch graph reason := by
  cases move with
  | install id startEpoch rest graph reason found =>
      exact .inr ⟨id, startEpoch, rest, graph, reason, found, rfl⟩
  | subscribe subscriber =>
      refine .inl (.quiet rfl rfl rfl ?_)
      rw [List.length_append]
      exact Nat.le_add_right _ _
  | world | elapse | answer | share | drop | forget | await | awaitRefresh | wake | wakeRefresh
  | proceed | work | worked | finish | finished | park | unpark | setFree | releasing | released =>
      exact .inl (.quiet rfl rfl rfl (Nat.le_refl _))
  | ask | closed | closedAll | refreshed | fire | refuse | failRefresh | release =>
      exact .inl (.note _ rfl rfl rfl rfl rfl)
  | request key delay =>
      rcases State.requestRebuild_eq _ key delay with same | same <;> rw [same] <;>
        exact .inl (.note _ rfl rfl rfl rfl rfl)
  | cancel key =>
      rcases State.cancelTimer_eq _ key with same | same <;> rw [same]
      · exact .inl (.quiet rfl rfl rfl (Nat.le_refl _))
      · exact .inl (.note _ rfl rfl rfl rfl rfl)
  | invalidate key =>
      refine .inl (.ofGraphs [.invalidated key] rfl (by simp) rfl (fun other => ?_) rfl)
      rw [State.entry_invalidate]
      split <;> rfl
  | invalidateAll =>
      refine .inl (.ofGraphs [.invalidatedAll] rfl (by simp) rfl (fun other => ?_) rfl)
      rw [State.entry_invalidateAll]
      split <;> rfl
  | evict key => exact .inl (.evict _ key)
  | start key idle stale => exact .inl (.begin builder idle)
  | @restart loose state call key idle =>
      have asking : Unannounced state (state.note (.asked call .rebuild key)) :=
        .note _ rfl rfl rfl rfl rfl
      exact .inl (asking.trans (.begin builder idle))
  | serve call key graph => exact .inl (.deliver _ call .get graph.id)
  | @deliver loose state call build =>
      exact .inl ((Unannounced.dismiss state _).trans (.deliver _ call .rebuild build))
  | @abandon loose state id startEpoch rest text found =>
      have ended : Unannounced (state.dismiss (.building id))
          ((state.dismiss (.building id)).abandon id text) := by
        refine .ofGraphs [.failed id] rfl (by simp) rfl (fun key => ?_) rfl
        rw [State.entry_abandon]
      exact .inl ((Unannounced.dismiss state _).trans ended)
  | retire graph => exact .inl (.retire builder _ graph)

/-! ## Everything announced -/

/-- What has been announced since an earlier state: one graph after the other, and of each so many
subscribers were told. -/
structure Bulletin (start state : State World Runtime Resource Reply)
    (announced : List (BuildId × Nat)) : Prop where
  journal : ∃ segment, state.journal = start.journal ++ segment ∧
    segment.filter (·.announces) =
      announced.flatMap fun entry => announcement entry.1 entry.2
  told : ∀ entry ∈ announced,
    start.subscribers.length ≤ entry.2 ∧ entry.2 ≤ state.subscribers.length
  subscribers : start.subscribers.length ≤ state.subscribers.length

namespace Bulletin

variable {announced : List (BuildId × Nat)}

theorem initial (start : State World Runtime Resource Reply) : Bulletin start start [] where
  journal := ⟨[], (List.append_nil _).symm, rfl⟩
  told := fun _ member => absurd member List.not_mem_nil
  subscribers := Nat.le_refl _

theorem passes (bulletin : Bulletin start state announced) (quiet : Unannounced state next) :
    Bulletin start next announced where
  journal := by
    rcases bulletin.journal with ⟨segment, journal, filtered⟩
    rcases quiet.journal with ⟨more, grown, silent⟩
    refine ⟨segment ++ more, by rw [grown, journal, List.append_assoc], ?_⟩
    rw [List.filter_append, filtered, List.filter_eq_nil_iff.mpr (by simpa using silent),
      List.append_nil]
  told := fun entry member =>
    ⟨(bulletin.told entry member).1,
      Nat.le_trans (bulletin.told entry member).2 quiet.subscribers⟩
  subscribers := Nat.le_trans bulletin.subscribers quiet.subscribers

theorem announce (bulletin : Bulletin start state announced) (id : BuildId) (startEpoch : Nat)
    (graph : Graph Runtime Resource) (reason : Option String) :
    Bulletin start (state.announce id startEpoch graph reason)
      (announced ++ [(id, state.subscribers.length)]) where
  journal := by
    rcases bulletin.journal with ⟨segment, journal, filtered⟩
    refine ⟨segment ++ announcement id state.subscribers.length, ?_, ?_⟩
    · rw [State.journal_announce, journal, List.append_assoc]
    · rw [List.filter_append, filtered, filter_announcement, List.flatMap_append,
        List.flatMap_singleton]
  told := by
    rw [State.subscribers_announce]
    intro entry member
    rcases List.mem_append.mp member with old | new
    · exact bulletin.told entry old
    · cases List.mem_singleton.mp new
      exact ⟨bulletin.subscribers, Nat.le_refl _⟩
  subscribers := by
    rw [State.subscribers_announce]
    exact bulletin.subscribers

/-- The subscribers there were at the beginning are told of what is installed, in the same order. -/
theorem notices_eq (bulletin : Bulletin start state announced) {segment : List Occurrence}
    (journal : state.journal = start.journal ++ segment) {position : Nat}
    (registered : position < start.subscribers.length) :
    notices segment position = installed segment := by
  rcases bulletin.journal with ⟨other, same, filtered⟩
  cases List.append_cancel_left (journal.symm.trans same)
  rw [← notices_filter, ← installed_filter, filtered]
  have each : ∀ entry ∈ announced,
      notices (announcement entry.1 entry.2) position =
        installed (announcement entry.1 entry.2) := by
    intro entry member
    rw [notices_announcement entry.1 (Nat.lt_of_lt_of_le registered (bulletin.told entry member).1),
      installed_announcement]
  clear filtered bulletin
  induction announced with
  | nil => rfl
  | cons entry announced induction =>
      rw [List.flatMap_cons, notices_append, installed_append, each entry List.mem_cons_self,
        induction fun other member => each other (List.mem_cons_of_mem _ member)]

end Bulletin

/-- The cache knows the runtime of every graph that was ever installed, and what is installed under
a key is what was installed last. -/
structure Standing (state : State World Runtime Resource Reply) : Prop where
  recorded : state.runtimes.map (·.1) = installed state.journal
  latest : ∀ key graph, (state.entry key).installed = some graph →
    ((installed state.journal).filter (·.key = key)).getLast? = some graph.id ∧
      state.runtime? graph.id = some graph.graph.runtime

namespace Standing

theorem passes (standing : Standing state) (quiet : Unannounced state next) : Standing next := by
  rcases quiet.journal with ⟨more, grown, silent⟩
  have same : installed next.journal = installed state.journal := by
    rw [grown, installed_append, installed_of_unannounced silent, List.append_nil]
  constructor
  case recorded => rw [quiet.runtimes, same, standing.recorded]
  case latest =>
    intro key graph present
    rw [same, State.runtime?, quiet.runtimes]
    exact standing.latest key graph (quiet.graphs key graph present)

theorem announce (standing : Standing state) {id : BuildId}
    (first : id ∉ installed state.journal) (startEpoch : Nat) (graph : Graph Runtime Resource)
    (reason : Option String) : Standing (state.announce id startEpoch graph reason) := by
  have grown : installed (state.announce id startEpoch graph reason).journal =
      installed state.journal ++ [id] := by
    rw [State.journal_announce, installed_append, installed_announcement]
  have unknown : state.runtimes.lookup id = none := by
    rw [List.lookup_eq_none_iff]
    intro entry member
    have other : id ≠ entry.1 := by
      rintro rfl
      exact first (standing.recorded ▸ List.mem_map_of_mem member)
    simpa using other
  constructor
  case recorded =>
    rw [State.runtimes_announce, grown, List.map_append, standing.recorded]
    rfl
  case latest =>
    intro key present installed
    rw [State.installed_announce] at installed
    rw [grown, List.filter_append, State.runtime?, State.runtimes_announce, State.lookup_concat]
    split at installed
    · rename_i same
      cases installed
      subst same
      simp [unknown]
    · rename_i different
      rcases standing.latest key present installed with ⟨last, carried⟩
      unfold State.runtime? at carried
      rw [carried, List.filter_singleton, decide_eq_false different, cond_false, List.append_nil]
      exact ⟨last, rfl⟩

end Standing

theorem announcements_kept (start : State World Runtime Resource Reply) :
    Kept builder fun situation : Situation World Runtime Resource Reply =>
      Ledger situation.state ∧ Standing situation.state ∧
        ∃ announced, Bulletin start situation.state announced := by
  rintro before after move ⟨ledger, standing, announced, bulletin⟩
  refine ⟨ledger_kept before after move ledger, ?_⟩
  rcases move.announcing with quiet | ⟨id, startEpoch, rest, graph, reason, found, same⟩
  · exact ⟨standing.passes quiet, announced, bulletin.passes quiet⟩
  · have dismissed := Unannounced.dismiss before.state (.building id)
    -- The graph of a build that is in progress has not been installed before.
    have first : id ∉ installed before.state.journal := by
      intro member
      rcases ledger.outcome_of_inProgress (State.inProgress_pos found) with ⟨_, _, _, none, _⟩
      have counted : 0 < installations before.state.journal id :=
        installations_pos_iff.mpr (mem_installed_iff.mp member)
      omega
    rw [same]
    exact ⟨(standing.passes dismissed).announce first startEpoch graph reason, _,
      (bulletin.passes dismissed).announce id startEpoch graph reason⟩

/-! ## Builds that end -/

namespace State

/-- A graph is announced as soon as it is installed; what follows is the release of the one that it
replaces. -/
theorem replaceGraph_announced (builder : Builder World Runtime Resource)
    (state : State World Runtime Resource Reply) (id : BuildId) (startEpoch : Nat)
    (graph : Graph Runtime Resource) (reason : Option String) :
    let told := state.announce id startEpoch graph reason
    let next := replaceGraph builder state id startEpoch graph reason
    Unannounced told next ∧ next.entries = told.entries ∧
      ∃ closing : Activity World Unit,
        (closing = .done () ∨ ∃ old, (state.entry id.key).installed = some old ∧
          closing = builder.closeScope old.graph.scope) ∧
        next.world = (closing.advance told.now told.world).2 := by
  intro told next
  have installing :
      ((state.install id startEpoch graph reason).setOutcome id (.ok ())).notifyAll id = told := rfl
  have same : next = replaceGraph builder state id startEpoch graph reason := rfl
  unfold replaceGraph at same
  dsimp only at same
  rw [installing] at same
  rw [same]
  split
  · exact ⟨.quiet rfl rfl rfl (Nat.le_refl _), rfl, .done (), .inl rfl, rfl⟩
  · rename_i old replaced
    rcases retire_eq builder told old with held | free
    · rw [held]
      exact ⟨.quiet rfl rfl rfl (Nat.le_refl _), rfl, .done (), .inl rfl, rfl⟩
    · rw [free]
      split
      · rename_i after advanced
        have world := congrArg (·.2.world) advanced
        rcases eq_of_advance advanced with ⟨_, rfl⟩
        exact ⟨.note _ rfl rfl rfl rfl rfl, rfl, _, .inr ⟨old, replaced, rfl⟩, world.symm⟩
      · rename_i rest after _ advanced
        have world := congrArg (·.2.world) advanced
        rcases eq_of_advance advanced with ⟨_, rfl⟩
        exact ⟨.note _ rfl rfl rfl rfl rfl, rfl, _, .inr ⟨old, replaced, rfl⟩, world.symm⟩

theorem finishBuild_of_graph {outcome : Outcome Runtime Resource} {graph : Graph Runtime Resource}
    (given : outcome.graph? = some graph) (builder : Builder World Runtime Resource)
    (state : State World Runtime Resource Reply) (id : BuildId) (startEpoch : Nat) :
    finishBuild builder state id startEpoch outcome =
      replaceGraph builder state id startEpoch graph outcome.reason? := by
  cases outcome <;> cases given <;> rfl

end State

/-- What can be relied on about the announcements of new runtimes. -/
structure Announced (builder : Builder World Runtime Resource)
    (state : State World Runtime Resource Reply) : Prop where
  /-- A build that succeeds installs its graph and tells every subscriber there is, once each and in
  the order of their registration, whichever of them panic. Then the graph that it replaces may be
  released. -/
  completed : ∀ id startEpoch rest outcome graph,
    state.task? (.building id) = some (.building id startEpoch rest) →
      rest.isReady state.now state.world →
        (rest.resume state.now state.world).1 = .done outcome → outcome.graph? = some graph →
          let next := State.step builder state (.resume (.building id))
          (∃ more, next.journal =
              state.journal ++ announcement id state.subscribers.length ++ more ∧
            ∀ occurrence ∈ more, occurrence.announces = false) ∧
          (next.entry id.key).installed = some ⟨id, graph⟩ ∧
          next.runtime? id = some graph.runtime ∧
          ∃ closing : Activity World Unit,
            (closing = .done () ∨ ∃ old, (state.entry id.key).installed = some old ∧
              closing = builder.closeScope old.graph.scope) ∧
            next.world = (closing.advance state.now
              (state.subscribers.foldl (fun world subscriber => subscriber.notify id world)
                (rest.resume state.now state.world).2)).2
  /-- A build that fails or panics installs nothing and tells nobody. -/
  abandoned : ∀ id startEpoch rest outcome text,
    state.task? (.building id) = some (.building id startEpoch rest) →
      rest.isReady state.now state.world →
        (rest.resume state.now state.world).1 = .done outcome →
          outcome.failure? id.key = some text →
            let next := State.step builder state (.resume (.building id))
            next.journal = state.journal ++ [.failed id] ∧
              next.world = (rest.resume state.now state.world).2
  /-- There are no other announcements than those of the graphs that were installed. -/
  bulletin : ∃ announced : List (BuildId × Nat),
    (state.journal.filter (·.announces) =
      announced.flatMap fun entry => announcement entry.1 entry.2) ∧
    ∀ entry ∈ announced, entry.2 ≤ state.subscribers.length
  recorded : state.runtimes.map (·.1) = installed state.journal
  /-- What is installed under a key is what was installed last. -/
  latest : ∀ key graph, (state.entry key).installed = some graph →
    ((installed state.journal).filter (·.key = key)).getLast? = some graph.id ∧
      state.runtime? graph.id = some graph.graph.runtime
  /-- From any moment on, whoever is registered is told of just the runtimes that are installed, in
  the same order. -/
  ordered : ∀ actions segment,
    (State.run builder state actions).journal = state.journal ++ segment →
      ∀ position < state.subscribers.length, notices segment position = installed segment
  /-- If the graph of a key was installed meanwhile, its runtime is the last one of the key that a
  subscriber was told of. -/
  newest : ∀ actions segment,
    (State.run builder state actions).journal = state.journal ++ segment →
      ∀ position < state.subscribers.length, ∀ key graph,
        ((State.run builder state actions).entry key).installed = some graph →
          graph.id ∈ installed segment →
            ((notices segment position).filter (·.key = key)).getLast? = some graph.id

namespace State

theorem Reachable.announcements {world : World}
    (reachable : Reachable builder { world := world } state)
    (actions : List (Action World Runtime Resource Reply)) :
    Standing (run builder state actions) ∧
      ∃ announced, Bulletin state (run builder state actions) announced := by
  have initial : Standing ({ world := world } : State World Runtime Resource Reply) :=
    ⟨rfl, fun key graph present => nomatch present⟩
  have standing : Standing state :=
    ((announcements_kept { world := world }).reachable
      ⟨Ledger.initial world, initial, [], .initial _⟩ reachable).2.1
  have moves : Moves builder ⟨[], state⟩ ⟨[], run builder state actions⟩ :=
    run_moves reachable.ascending actions
  exact ((announcements_kept state).moves moves
    ⟨reachable.dated.1, standing, [], .initial state⟩).2

/-- A graph that there is or was comes from a build that was started. -/
theorem Reachable.started_of_runtime {world : World}
    (reachable : Reachable builder { world := world } state) {id : BuildId} {runtime : Runtime}
    (member : (id, runtime) ∈ state.runtimes) : 0 < starts state.journal id := by
  have standing : Standing state := (reachable.announcements []).1
  have listed : id ∈ installed state.journal := standing.recorded ▸ List.mem_map_of_mem member
  exact reachable.dated.1.started_of_installed
    (installations_pos_iff.mpr (mem_installed_iff.mp listed))

theorem Reachable.announced {world : World}
    (reachable : Reachable builder { world := world } state) : Announced builder state where
  completed := by
    intro id startEpoch rest outcome graph found ready ends given next
    let resumed := { state with world := (rest.resume state.now state.world).2 }
    let before := resumed.dismiss (.building id)
    have stepped : next = (replaceGraph builder before id startEpoch graph
        outcome.reason?).releaseDropped := by
      rw [← finishBuild_of_graph given]
      exact step_resume_of_done builder found ready ends
    rcases replaceGraph_announced builder before id startEpoch graph outcome.reason? with
      ⟨quiet, entries, closing, allowed, ended⟩
    rcases quiet.journal with ⟨more, grown, silent⟩
    have standing := (reachable.announcements [.resume (.building id)]).1
    have present : (next.entry id.key).installed = some ⟨id, graph⟩ := by
      have placed : ((before.announce id startEpoch graph outcome.reason?).entry
          id.key).installed = some ⟨id, graph⟩ := (installed_announce id.key).trans (if_pos rfl)
      rw [stepped, ← placed]
      change ((replaceGraph builder before id startEpoch graph outcome.reason?).entry
        id.key).installed = _
      unfold State.entry
      rw [entries]
    refine ⟨⟨more, ?_, silent⟩, present, (standing.latest id.key _ present).2, closing, allowed, ?_⟩
    · rw [stepped]
      exact grown.trans (congrArg (· ++ more) journal_announce)
    · rw [stepped]
      rw [world_announce, now_announce] at ended
      exact ended
  abandoned := by
    intro id startEpoch rest outcome text found ready ends failure next
    have stepped := step_resume_of_done builder found ready ends
    change next = _ at stepped
    rw [stepped]
    cases outcome <;> cases failure <;> exact ⟨rfl, rfl⟩
  bulletin := by
    rcases reachable with ⟨earlier, rfl⟩
    have begun : Reachable builder { world := world }
        ({ world := world } : State World Runtime Resource Reply) := ⟨[], rfl⟩
    rcases (begun.announcements earlier).2 with ⟨announced, bulletin⟩
    rcases bulletin.journal with ⟨segment, journal, filtered⟩
    refine ⟨announced, ?_, fun entry member => (bulletin.told entry member).2⟩
    rw [journal]
    exact filtered
  recorded := (reachable.announcements []).1.recorded
  latest := (reachable.announcements []).1.latest
  ordered := by
    intro actions segment journal position registered
    rcases (reachable.announcements actions).2 with ⟨announced, bulletin⟩
    exact bulletin.notices_eq journal registered
  newest := by
    intro actions segment journal position registered key graph present fresh
    rcases reachable.announcements actions with ⟨standing, announced, bulletin⟩
    rw [bulletin.notices_eq journal registered]
    have last := (standing.latest key graph present).1
    rw [journal, installed_append, List.filter_append] at last
    have same : graph.id.key = key := by
      have member := List.mem_of_getLast? last
      rw [← List.filter_append] at member
      exact of_decide_eq_true (List.mem_filter.mp member).2
    have some : (installed segment).filter (·.key = key) ≠ [] :=
      List.ne_nil_of_mem (List.mem_filter.mpr ⟨fresh, decide_eq_true same⟩)
    rwa [List.getLast?_append_of_ne_nil _ some] at last

/-- A subscriber that panics and one that keeps what it is told of. -/
def audience : State Unit Unit Unit Unit :=
  run Builder.instant { world := () }
    [.subscribe { notify := fun _ world => world, panics := true },
      .subscribe { notify := fun _ world => world, keeps := true }]

/-- Both subscribers are told of two builds, in the order in which the graphs are installed. -/
theorem Reachable.announced_twice :
    let later := run Builder.instant audience
      [.get 0 "a", .resume (.building ⟨"a", 0⟩), .rebuild 1 "a", .resume (.building ⟨"a", 1⟩)]
    Reachable Builder.instant { world := () } audience ∧
      installed later.journal = [⟨"a", 0⟩, ⟨"a", 1⟩] ∧
      ∀ position < 2, notices later.journal position = [⟨"a", 0⟩, ⟨"a", 1⟩] := by
  intro later
  have reachable : Reachable Builder.instant { world := () } audience := ⟨_, rfl⟩
  have built : installed later.journal = [⟨"a", 0⟩, ⟨"a", 1⟩] := by decide +kernel
  refine ⟨reachable, built, fun position registered => ?_⟩
  rw [← built]
  exact reachable.announced.ordered _ later.journal (List.nil_append _).symm position registered

end State

end RuntimeCache

end AssistantEngine
