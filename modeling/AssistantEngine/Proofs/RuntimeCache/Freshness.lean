import AssistantEngine.Proofs.RuntimeCache.Answer
import AssistantEngine.Proofs.RuntimeCache.Ledger

/-!
Freshness. The epochs of an entry tell whether its key was invalidated since the build of its
graph was started, and a caller that wants a clean graph gets one that was started after every
invalidation of its key.
-/

namespace AssistantEngine

namespace RuntimeCache

open History

variable {World Runtime Resource Reply : Type} {builder : Builder World Runtime Resource}
variable {state next : State World Runtime Resource Reply}

/-- Whoever got a graph before got one that was installed, and not invalidated since its build
was started. -/
def Served (journal : List Occurrence) : Prop :=
  ∀ before occurrence after, journal = before ++ occurrence :: after →
    ∀ key id, occurrence.serves key id →
      id.key = key ∧ 0 < starts before id ∧ 0 < installations before id ∧ ¬ Invalidated before id

namespace Served

variable {journal more : List Occurrence}

theorem append (served : Served journal)
    (unconcerned : ∀ occurrence ∈ more, occurrence.concernsFreshness = false) :
    Served (journal ++ more) := by
  intro before occurrence after split key id serves
  rcases List.append_eq_append_iff.mp split with
    ⟨front, beforeEq, moreEq⟩ | ⟨rest, journalEq, restEq⟩
  · have member : occurrence ∈ more := moreEq ▸ List.mem_append_right _ List.mem_cons_self
    exact absurd serves (Occurrence.not_serves_of_unconcerned (unconcerned _ member) key id)
  · cases rest with
    | nil =>
        have member : occurrence ∈ more := by
          rw [← List.nil_append more, ← restEq]
          exact List.mem_cons_self
        exact absurd serves (Occurrence.not_serves_of_unconcerned (unconcerned _ member) key id)
    | cons head tail =>
        rcases List.cons.inj restEq with ⟨rfl, _⟩
        exact served before occurrence tail journalEq key id serves

theorem snoc (served : Served journal) (occurrence : Occurrence)
    (fresh : ∀ key id, occurrence.serves key id →
      id.key = key ∧ 0 < starts journal id ∧ 0 < installations journal id ∧
        ¬ Invalidated journal id) :
    Served (journal ++ [occurrence]) := by
  intro before other after split key id serves
  rcases List.append_eq_append_iff.mp split with
    ⟨front, beforeEq, moreEq⟩ | ⟨rest, journalEq, restEq⟩
  · cases front with
    | nil =>
        rcases List.cons.inj moreEq with ⟨rfl, _⟩
        rw [beforeEq, List.append_nil]
        exact fresh key id serves
    | cons head tail =>
        have lengths := congrArg List.length moreEq
        simp at lengths
  · cases rest with
    | nil =>
        rcases List.cons.inj restEq with ⟨rfl, _⟩
        rw [List.append_nil] at journalEq
        exact journalEq ▸ fresh key id serves
    | cons head tail =>
        rcases List.cons.inj restEq with ⟨rfl, _⟩
        exact served before other tail journalEq key id serves

end Served

structure Dated (state : State World Runtime Resource Reply) : Prop where
  bounded : ∀ key, (state.entry key).invalidatedEpoch ≤ state.epoch
  begun : ∀ id startEpoch rest, Task.building id startEpoch rest ∈ state.tasks →
    startEpoch ≤ state.epoch ∧
      (startEpoch < (state.entry id.key).invalidatedEpoch ↔ Invalidated state.journal id)
  present : ∀ key installed, (state.entry key).installed = some installed →
    installed.id.key = key ∧ 0 < installations state.journal installed.id
  dirty : ∀ key installed, (state.entry key).installed = some installed →
    ((state.entry key).dirty = true ↔ Invalidated state.journal installed.id)
  served : Served state.journal

namespace Dated

theorem initial (world : World) :
    Dated ({ world := world } : State World Runtime Resource Reply) where
  bounded := fun _ => Nat.le_refl 0
  begun := by
    intro id startEpoch rest member
    cases member
  present := by
    intro key installed present
    cases present
  dirty := by
    intro key installed present
    cases present
  served := by
    intro before occurrence after split
    have lengths := congrArg List.length split
    simp at lengths

/-- What neither dates nor graphs are concerned with leaves everything as fresh as it is. -/
theorem frame (dated : Dated state) (ledger : Ledger state) (epoch : next.epoch = state.epoch)
    (bounded : ∀ key, (next.entry key).invalidatedEpoch ≤ state.epoch)
    (dates : ∀ key, (state.entry key).building.isSome →
      (next.entry key).invalidatedEpoch = (state.entry key).invalidatedEpoch)
    (graphs : ∀ key installed, (next.entry key).installed = some installed →
      (state.entry key).installed = some installed ∧
        (next.entry key).dirty = (state.entry key).dirty)
    (tasks : ∀ id startEpoch rest, Task.building id startEpoch rest ∈ next.tasks →
      ∃ earlier, Task.building id startEpoch earlier ∈ state.tasks)
    (invalidatedIff : ∀ id, Invalidated next.journal id ↔ Invalidated state.journal id)
    (recorded : ∀ id, installations state.journal id ≤ installations next.journal id)
    (served : Served next.journal) : Dated next where
  bounded := by
    intro key
    rw [epoch]
    exact bounded key
  begun := by
    intro id startEpoch rest member
    rcases tasks id startEpoch rest member with ⟨earlier, present⟩
    have marked : (state.entry id.key).building.isSome := ledger.isSome_of_building present
    rw [epoch, dates id.key marked, invalidatedIff]
    exact dated.begun id startEpoch earlier present
  present := by
    intro key installed present
    rcases dated.present key installed (graphs key installed present).1 with ⟨same, earlier⟩
    exact ⟨same, Nat.lt_of_lt_of_le earlier (recorded installed.id)⟩
  dirty := by
    intro key installed present
    rcases graphs key installed present with ⟨earlier, sameDirt⟩
    rw [sameDirt, invalidatedIff]
    exact dated.dirty key installed earlier
  served := served

/-- A change of entries and tasks of which the journal says nothing that has to do with
freshness. -/
theorem change (dated : Dated state) (ledger : Ledger state) (epoch : next.epoch = state.epoch)
    (bounded : ∀ key, (next.entry key).invalidatedEpoch ≤ state.epoch)
    (dates : ∀ key, (state.entry key).building.isSome →
      (next.entry key).invalidatedEpoch = (state.entry key).invalidatedEpoch)
    (graphs : ∀ key installed, (next.entry key).installed = some installed →
      (state.entry key).installed = some installed ∧
        (next.entry key).dirty = (state.entry key).dirty)
    (tasks : ∀ id startEpoch rest, Task.building id startEpoch rest ∈ next.tasks →
      ∃ earlier, Task.building id startEpoch earlier ∈ state.tasks)
    (more : List Occurrence) (journal : next.journal = state.journal ++ more)
    (unconcerned : ∀ occurrence ∈ more, occurrence.concernsFreshness = false) : Dated next := by
  apply dated.frame ledger epoch bounded dates graphs tasks
  · intro id
    rw [journal]
    exact invalidated_of_unconcerned unconcerned
  · intro id
    rw [journal, installations_append]
    exact Nat.le_add_right _ _
  · rw [journal]
    exact dated.served.append unconcerned

/-- A change that leaves the entries. -/
theorem shift (dated : Dated state) (ledger : Ledger state) (epoch : next.epoch = state.epoch)
    (entries : next.entries = state.entries)
    (tasks : ∀ id startEpoch rest, Task.building id startEpoch rest ∈ next.tasks →
      ∃ earlier, Task.building id startEpoch earlier ∈ state.tasks)
    (more : List Occurrence) (journal : next.journal = state.journal ++ more)
    (unconcerned : ∀ occurrence ∈ more, occurrence.concernsFreshness = false) : Dated next := by
  have sameEntry (key : String) : next.entry key = state.entry key := by
    unfold State.entry
    rw [entries]
  refine dated.change ledger epoch ?_ ?_ ?_ tasks more journal unconcerned
  · intro key
    rw [sameEntry]
    exact dated.bounded key
  · intro key _
    rw [sameEntry]
  · intro key installed present
    rw [sameEntry] at present ⊢
    exact ⟨present, rfl⟩

/-- A change that leaves the entries and the tasks. -/
theorem quiet (dated : Dated state) (ledger : Ledger state) (epoch : next.epoch = state.epoch)
    (entries : next.entries = state.entries) (tasks : next.tasks = state.tasks)
    (more : List Occurrence) (journal : next.journal = state.journal ++ more)
    (unconcerned : ∀ occurrence ∈ more, occurrence.concernsFreshness = false) : Dated next := by
  refine dated.shift ledger epoch entries ?_ more journal unconcerned
  intro id startEpoch rest member
  exact ⟨rest, tasks ▸ member⟩

theorem dismiss (dated : Dated state) (ledger : Ledger state) (name : TaskName) :
    Dated (state.dismiss name) :=
  dated.shift ledger rfl rfl
    (fun _ _ rest member => ⟨rest, State.mem_of_mem_dismiss member⟩) []
    (List.append_nil _).symm (by simp)

theorem spawn (dated : Dated state) (ledger : Ledger state)
    (task : Task World Runtime Resource Reply) (different : ∀ id, task.name ≠ .building id) :
    Dated (state.spawn task) := by
  refine dated.shift ledger rfl rfl ?_ [] (List.append_nil _).symm (by simp)
  intro id startEpoch rest member
  rcases List.mem_append.mp member with present | new
  · exact ⟨rest, present⟩
  · have same := List.mem_singleton.mp new
    exact absurd (congrArg Task.name same).symm (different id)

theorem note (dated : Dated state) (ledger : Ledger state) (occurrence : Occurrence)
    (unconcerned : occurrence.concernsFreshness = false) : Dated (state.note occurrence) :=
  dated.quiet ledger rfl rfl rfl [occurrence] rfl (by simpa using unconcerned)

/-- A caller, or a requested rebuild, gets the clean graph of a key. -/
theorem serve (dated : Dated state) (ledger : Ledger state) {key : String}
    {installed : Installed Runtime Resource} (clean : state.entryState key = .clean)
    (present : (state.entry key).installed = some installed)
    (epoch : next.epoch = state.epoch) (entries : next.entries = state.entries)
    (tasks : next.tasks = state.tasks) (occurrence : Occurrence)
    (journal : next.journal = state.journal ++ [occurrence])
    (notInvalidation : ∀ key, occurrence.invalidates key = false)
    (serves : ∀ other id, occurrence.serves other id → other = key ∧ id = installed.id) :
    Dated next := by
  have sameEntry (key : String) : next.entry key = state.entry key := by
    unfold State.entry
    rw [entries]
  apply dated.frame ledger epoch
  · intro other
    rw [sameEntry]
    exact dated.bounded other
  · intro other _
    rw [sameEntry]
  · intro other graph found
    rw [sameEntry] at found ⊢
    exact ⟨found, rfl⟩
  · intro id startEpoch rest member
    exact ⟨rest, tasks ▸ member⟩
  · intro id
    rw [journal, invalidated_snoc, notInvalidation]
    simp
  · intro id
    rw [journal, installations_append]
    exact Nat.le_add_right _ _
  · rw [journal]
    apply dated.served.snoc occurrence
    intro other id served
    rcases serves other id served with ⟨rfl, rfl⟩
    rcases dated.present other installed present with ⟨same, recorded⟩
    refine ⟨same, ledger.started_of_installed recorded, recorded, ?_⟩
    rw [← dated.dirty other installed present, (State.entryState_eq_clean_iff.mp clean).2.2]
    exact Bool.false_ne_true

/-- An invalidation makes the graphs of its keys dirty, and the builds that are in progress
outdated. -/
theorem invalidate (dated : Dated state) (ledger : Ledger state) (occurrence : Occurrence)
    (unserving : ∀ key id, ¬ occurrence.serves key id)
    (epoch : next.epoch = state.epoch + 1) (tasks : next.tasks = state.tasks)
    (journal : next.journal = state.journal ++ [occurrence])
    (entries : ∀ key, next.entry key =
      if occurrence.invalidates key ∧ (state.entries.find? key).isSome then
        (state.entry key).invalidate (state.epoch + 1)
      else state.entry key) : Dated next := by
  have installedEq (key : String) : (next.entry key).installed = (state.entry key).installed := by
    rw [entries]
    split <;> rfl
  have invalidatedIff (id : BuildId) : Invalidated next.journal id ↔
      Invalidated state.journal id ∨
        (0 < starts state.journal id ∧ occurrence.invalidates id.key) := by
    rw [journal]
    exact invalidated_snoc occurrence
  constructor
  case bounded =>
    intro key
    rw [entries, epoch]
    split
    · exact Nat.le_refl _
    · exact Nat.le_succ_of_le (dated.bounded key)
  case begun =>
    intro id startEpoch rest member
    rw [tasks] at member
    rcases dated.begun id startEpoch rest member with ⟨bound, outdated⟩
    -- An invalidation reaches the entry, which is there as long as its build is in progress.
    rcases Option.isSome_iff_exists.mp (ledger.isSome_of_building member) with ⟨build, marked⟩
    have found := State.isSome_find?_of_building marked
    have begun : 0 < starts state.journal id := ledger.started_of_building member
    rw [invalidatedIff, entries, epoch]
    refine ⟨Nat.le_succ_of_le bound, ?_⟩
    by_cases hit : occurrence.invalidates id.key
    · rw [if_pos ⟨hit, found⟩]
      exact ⟨fun _ => Or.inr ⟨begun, hit⟩, fun _ => Nat.lt_succ_of_le bound⟩
    · rw [if_neg (fun both => hit both.1)]
      exact outdated.trans ⟨Or.inl, fun either => either.resolve_right fun both => hit both.2⟩
  case present =>
    intro key installed present
    rw [installedEq] at present
    rcases dated.present key installed present with ⟨same, recorded⟩
    refine ⟨same, ?_⟩
    rw [journal, installations_append]
    exact Nat.lt_of_lt_of_le recorded (Nat.le_add_right _ _)
  case dirty =>
    intro key installed present
    rw [installedEq] at present
    have found := State.isSome_find?_of_installed present
    rcases dated.present key installed present with ⟨rfl, recorded⟩
    have begun : 0 < starts state.journal installed.id := ledger.started_of_installed recorded
    rw [invalidatedIff, entries]
    by_cases hit : occurrence.invalidates installed.id.key
    · rw [if_pos ⟨hit, found⟩]
      exact ⟨fun _ => Or.inr ⟨begun, hit⟩, fun _ => rfl⟩
    · rw [if_neg (fun both => hit both.1)]
      exact (dated.dirty _ installed present).trans
        ⟨Or.inl, fun either => either.resolve_right fun both => hit both.2⟩
  case served =>
    rw [journal]
    exact dated.served.snoc occurrence fun key id serves => absurd serves (unserving key id)

/-- A build that is started is as new as the latest invalidation. -/
theorem begin (dated : Dated state) (ledger : Ledger state) {key : String}
    (idle : (state.entry key).building = none) :
    Dated (State.startOrJoin builder state key).2 := by
  have entries := State.entry_startOrJoin builder idle
  have fresh : ¬ Invalidated state.journal (state.nextBuild key) := by
    intro invalidated
    have begun := starts_pos_of_invalidated invalidated
    rw [ledger.starts_nextBuild] at begun
    exact Nat.lt_irrefl 0 begun
  have parts := State.startOrJoin_start builder state idle
  have journal : (State.startOrJoin builder state key).2.journal =
      state.journal ++ [.started (state.nextBuild key) state.epoch] := by rw [parts]
  have epoch : (State.startOrJoin builder state key).2.epoch = state.epoch := by rw [parts]
  have invalidatedIff (id : BuildId) :
      Invalidated (State.startOrJoin builder state key).2.journal id ↔
        Invalidated state.journal id := by
    rw [journal, invalidated_snoc]
    simp [Occurrence.invalidates]
  constructor
  case bounded =>
    intro other
    rw [entries, epoch]
    exact dated.bounded other
  case begun =>
    intro id startEpoch rest member
    rw [invalidatedIff, entries, epoch]
    rw [parts] at member
    rcases List.mem_append.mp member with present | new
    · exact dated.begun id startEpoch rest present
    · cases List.mem_singleton.mp new
      refine ⟨Nat.le_refl _, ?_⟩
      have bound := dated.bounded key
      exact ⟨fun later => absurd later (Nat.not_lt.mpr bound),
        fun outdated => absurd outdated fresh⟩
  case present =>
    intro other installed present
    rw [entries] at present
    rcases dated.present other installed present with ⟨same, recorded⟩
    refine ⟨same, ?_⟩
    rw [journal, installations_append]
    exact Nat.lt_of_lt_of_le recorded (Nat.le_add_right _ _)
  case dirty =>
    intro other installed present
    rw [invalidatedIff, entries]
    rw [entries] at present
    exact dated.dirty other installed present
  case served =>
    rw [journal]
    exact dated.served.snoc _ fun _ _ serves => False.elim serves

/-- A graph that is installed is dirty if its build is outdated. -/
theorem install (dated : Dated state) {id : BuildId} {startEpoch : Nat}
    {rest : Activity World (Outcome Runtime Resource)}
    (found : state.task? (.building id) = some (.building id startEpoch rest))
    (graph : Graph Runtime Resource) (reason : Option String)
    (entries : ∀ key, next.entry key =
      if id.key = key then
        { state.entry key with
          installed := some ⟨id, graph⟩
          fallbackReason := reason
          builtEpoch := startEpoch
          dirty := (state.entry key).invalidatedEpoch > startEpoch
          building := none }
      else state.entry key)
    (epoch : next.epoch = state.epoch) (tasks : next.tasks = (state.dismiss (.building id)).tasks)
    (more : List Occurrence) (journal : next.journal = state.journal ++ .installed id :: more)
    (unconcerned : ∀ occurrence ∈ more, occurrence.concernsFreshness = false) : Dated next := by
  have unconcernedAll : ∀ occurrence ∈ Occurrence.installed id :: more,
      occurrence.concernsFreshness = false := by
    intro occurrence member
    rcases List.mem_cons.mp member with first | later
    · exact first ▸ rfl
    · exact unconcerned occurrence later
  have invalidatedIff (other : BuildId) :
      Invalidated next.journal other ↔ Invalidated state.journal other := by
    rw [journal]
    exact invalidated_of_unconcerned unconcernedAll
  have dates (key : String) :
      (next.entry key).invalidatedEpoch = (state.entry key).invalidatedEpoch := by
    rw [entries]
    split <;> rfl
  constructor
  case bounded =>
    intro key
    rw [dates, epoch]
    exact dated.bounded key
  case begun =>
    intro other otherEpoch otherRest member
    rw [tasks] at member
    rw [invalidatedIff, dates, epoch]
    exact dated.begun other otherEpoch otherRest (State.mem_of_mem_dismiss member)
  case present =>
    intro key installed present
    rw [journal, installations_append]
    rw [entries] at present
    split at present
    · rename_i same
      cases present
      refine ⟨same, ?_⟩
      have once : installations [Occurrence.installed id] id = 1 := by
        simp [installations, Occurrence.isInstallation]
      rw [← List.singleton_append, installations_append, once]
      omega
    · rcases dated.present key installed present with ⟨same, recorded⟩
      exact ⟨same, Nat.lt_of_lt_of_le recorded (Nat.le_add_right _ _)⟩
  case dirty =>
    intro key installed present
    rw [invalidatedIff]
    rw [entries] at present ⊢
    split at present
    · rename_i same
      cases present
      subst same
      rw [if_pos rfl]
      -- The epochs that the new graph is compared by are those of its build until now.
      rcases dated.begun id startEpoch rest (State.mem_of_task? found) with ⟨_, outdated⟩
      rw [← outdated]
      exact decide_eq_true_iff
    · rename_i different
      rw [if_neg different]
      exact dated.dirty key installed present
  case served =>
    rw [journal]
    exact dated.served.append unconcernedAll

/-- Taking a graph out of its entry leaves the date of the entry while a build is in progress. -/
theorem evict (dated : Dated state) (ledger : Ledger state) (key : String) :
    Dated (state.evict key).2 := by
  have entryEq (other : String) : (state.evict key).2.entry other =
      if key = other then
        if (state.entry other).building.isSome then { state.entry other with installed := none }
        else {}
      else state.entry other := by
    split
    · rename_i same
      exact same ▸ State.entry_evict key
    · rename_i different
      exact State.entry_evict_of_ne different
  rcases State.evict_eq state key with ⟨entries, parts⟩
  refine dated.change ledger ?_ ?_ ?_ ?_ ?_ [.emptied key] ?_ (by simp)
  · rw [parts]
  · intro other
    rw [entryEq]
    split
    · split
      · exact dated.bounded other
      · exact Nat.zero_le _
    · exact dated.bounded other
  · intro other marked
    rw [entryEq, if_pos marked]
    split <;> rfl
  · intro other installed present
    rw [entryEq] at present ⊢
    split at present
    · split at present <;> cases present
    · rename_i different
      rw [if_neg different]
      exact ⟨present, rfl⟩
  · intro id startEpoch rest member
    rw [parts] at member
    exact ⟨rest, member⟩
  · rw [parts]

end Dated

/-- Every move keeps the dates of the entries. -/
theorem dated_kept :
    Kept builder fun situation : Situation World Runtime Resource Reply =>
      Ledger situation.state ∧ Dated situation.state := by
  rintro before after move ⟨ledger, dated⟩
  refine ⟨ledger_kept before after move ledger, ?_⟩
  cases move with
  | world | elapse | subscribe | answer | share | drop | forget =>
      exact dated.quiet ledger rfl rfl rfl [] (List.append_nil _).symm (by simp)
  | ask | closed | closedAll => exact dated.note ledger _ rfl
  | request key delay =>
      rcases State.requestRebuild_eq _ key delay with same | same <;> rw [same]
      · exact dated.note ledger _ rfl
      · exact dated.quiet ledger rfl rfl rfl [.armed _ _] rfl
          (by simp)
  | cancel key =>
      rcases State.cancelTimer_eq _ key with same | same <;> rw [same]
      · exact dated
      · exact dated.quiet ledger rfl rfl rfl [.cancelled _] rfl
          (by simp)
  | fire key expiry armed due =>
      exact dated.quiet ledger rfl rfl rfl [.fired _ _] rfl
        (by simp)
  | invalidate key =>
      refine dated.invalidate ledger (.invalidated key) (fun _ _ serves => False.elim serves)
        rfl rfl rfl ?_
      intro other
      rw [State.entry_invalidate]
      simp [Occurrence.invalidates]
  | invalidateAll =>
      refine dated.invalidate ledger .invalidatedAll (fun _ _ serves => False.elim serves)
        rfl rfl rfl ?_
      intro other
      rw [State.entry_invalidateAll]
      simp [Occurrence.invalidates]
  | evict key => exact dated.evict ledger key
  | start key idle stale => exact dated.begin ledger idle
  | restart call key idle =>
      exact (dated.note ledger (.asked call .rebuild key) rfl).begin (ledger.note _ rfl) idle
  | @serve loose state call key installed clean present =>
      rcases State.deliver_eq state call .get installed.id with ⟨holders, _, same⟩
      rw [same]
      refine dated.serve ledger clean present rfl rfl rfl _ rfl (fun _ => rfl) ?_
      rintro other id ⟨_, sameKey, sameId⟩
      cases sameId
      exact ⟨sameKey.symm.trans (dated.present key installed present).1, rfl⟩
  | refreshed key installed clean present =>
      refine dated.serve ledger clean present rfl rfl rfl _ rfl (fun _ => rfl) ?_
      rintro other id ⟨sameKey, sameId⟩
      cases sameId
      exact ⟨sameKey.symm, rfl⟩
  | await | awaitRefresh | work | finish | park | releasing =>
      exact dated.spawn ledger _ fun _ => TaskName.noConfusion
  | wake | wakeRefresh | worked | finished | unpark | released => exact dated.dismiss ledger _
  | @deliver loose state call build found delivered =>
      rcases State.deliver_eq (state.dismiss (.waiting call)) call .rebuild
          build with ⟨holders, _, same⟩
      rw [same]
      exact (dated.dismiss ledger (.waiting call)).quiet
        (ledger.dismiss _ fun _ => TaskName.noConfusion) rfl rfl rfl [.answered _ _ _ _] rfl
        (by simp)
  | refuse call build purpose text =>
      exact (dated.dismiss ledger (.waiting call)).quiet
        (ledger.dismiss _ fun _ => TaskName.noConfusion) rfl rfl rfl [.answered _ _ _ _] rfl
        (by simp)
  | failRefresh | release =>
      exact (dated.dismiss ledger _).note (ledger.dismiss _ fun _ => TaskName.noConfusion) _ rfl
  | @install loose state id startEpoch rest graph reason found =>
      rcases State.notifyAll_eq
          (((state.dismiss (.building id)).install id startEpoch graph reason).setOutcome id
          (.ok ())) id with ⟨world, holders, _, same⟩
      rw [same]
      refine dated.install found graph reason ?_ rfl rfl _ (List.append_assoc _ _ _) ?_
      · intro key
        exact State.entry_install _ id startEpoch graph reason key
      · intro occurrence member
        rcases List.mem_map.mp member with ⟨position, _, notified⟩
        rw [← notified]
        rfl
  | @abandon loose state id startEpoch rest text found =>
      refine dated.change ledger rfl ?_ ?_ ?_ ?_ [.failed id] rfl
        (by simp)
      · intro key
        rw [State.entry_abandon]
        exact dated.bounded key
      · intro key _
        rw [State.entry_abandon]
        rfl
      · intro key installed present
        rw [State.entry_abandon] at present ⊢
        exact ⟨present, rfl⟩
      · intro other otherEpoch otherRest member
        exact ⟨otherRest, State.mem_of_mem_dismiss member⟩
  | proceed before after member continues =>
      refine dated.shift ledger rfl rfl ?_ [] (List.append_nil _).symm (by simp)
      intro id startEpoch rest present
      rcases State.mem_replace present with new | old
      · subst new
        cases continues with
        | building id startEpoch earlier => exact ⟨earlier, member⟩
      · exact ⟨rest, old⟩
  | retire installed =>
      unfold State.retire
      split
      · exact dated.quiet ledger rfl rfl rfl [] (List.append_nil _).symm (by simp)
      · exact dated.note ledger _ rfl
  | setFree =>
      refine dated.shift ledger rfl rfl ?_ [] (List.append_nil _).symm (by simp)
      intro id startEpoch rest present
      rcases List.mem_append.mp present with old | new
      · exact ⟨rest, old⟩
      · rcases List.mem_map.mp new with ⟨deferred, _, same⟩
        cases same

namespace State

theorem Reachable.dated {world : World}
    (reachable : Reachable builder { world := world } state) : Ledger state ∧ Dated state :=
  dated_kept.reachable ⟨Ledger.initial world, Dated.initial world⟩ reachable

/-- A graph that is installed is dirty just if its key was invalidated after its build had been
started. Whoever asks for a clean graph, and every rebuild that was requested, gets a graph whose
build was started after all invalidations of its key until then. -/
theorem Reachable.freshness {world : World}
    (reachable : Reachable builder { world := world } state) :
    (∀ key installed, (state.entry key).installed = some installed →
      installed.id.key = key ∧
        ∃ before epoch after, state.journal = before ++ .started installed.id epoch :: after ∧
          (∀ other, Occurrence.started installed.id other ∉ before ++ after) ∧
            ((state.entry key).dirty = true ↔
              ∃ occurrence ∈ after, occurrence.invalidates key)) ∧
    (∀ before occurrence after key id, state.journal = before ++ occurrence :: after →
      occurrence.serves key id →
        id.key = key ∧ .installed id ∈ before ∧
          ∃ earlier epoch later, before = earlier ++ .started id epoch :: later ∧
            ∀ occurrence ∈ later, occurrence.invalidates key = false) ∧
    ∀ call result, (call, Answer.runtime result) ∈ state.answers ↔
      ∃ purpose key, .answered call purpose key result ∈ state.journal := by
  rcases reachable.dated with ⟨ledger, dated⟩
  refine ⟨?_, ?_, reachable.answered_iff⟩
  · intro key installed present
    rcases dated.present key installed present with ⟨rfl, recorded⟩
    have dirty := dated.dirty _ installed present
    have atMostOnce := ledger.starts_le_one installed.id
    rcases starts_pos_iff.mp (ledger.started_of_installed recorded) with ⟨epoch, member⟩
    rcases List.append_of_mem member with ⟨before, after, split⟩
    rw [split] at dirty atMostOnce
    refine ⟨rfl, before, epoch, after, split, ?_,
      dirty.trans (invalidated_iff_of_split atMostOnce)⟩
    intro other present
    have counted := starts_pos_iff.mpr ⟨other, present⟩
    rw [starts_append] at counted
    have := not_mem_of_starts_le_one atMostOnce
    omega
  · intro before occurrence after key id split serves
    rcases dated.served before occurrence after split key id serves with
      ⟨rfl, begun, recorded, current⟩
    exact ⟨rfl, installations_pos_iff.mp recorded, current_of_not_invalidated begun current⟩

/-- A graph that is invalidated after it was built is dirty, and its build came before. -/
theorem Reachable.freshness_invalidated :
    let state := run Builder.instant ({ world := () } : State Unit Unit Unit Unit)
      [.get 0 "a", .resume (.building ⟨"a", 0⟩), .resume (.waiting 0), .invalidate "a"]
    (state.entry "a").dirty = true ∧
      ∃ before epoch after, state.journal = before ++ .started ⟨"a", 0⟩ epoch :: after ∧
        ∃ occurrence ∈ after, occurrence.invalidates "a" := by
  intro state
  have dirty : (state.entry "a").dirty = true := rfl
  have present : (state.entry "a").installed = some ⟨⟨"a", 0⟩, ⟨(), { owner := "a" }⟩⟩ := rfl
  have reachable : Reachable Builder.instant { world := () } state := ⟨_, rfl⟩
  rcases reachable.freshness.1 "a" _ present with ⟨_, before, epoch, after, split, _, dirtyIff⟩
  exact ⟨dirty, before, epoch, after, split, dirtyIff.mp dirty⟩

end State

end RuntimeCache

end AssistantEngine
