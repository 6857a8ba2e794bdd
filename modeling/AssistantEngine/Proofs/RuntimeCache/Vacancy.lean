import AssistantEngine.Proofs.RuntimeCache.Ledger

/-!
What closing all graphs leaves behind: no entry has a graph then, and whatever is installed
afterwards had not been installed before.
-/

namespace AssistantEngine

namespace RuntimeCache

open History

variable {World Runtime Resource Reply : Type} {builder : Builder World Runtime Resource}
variable {state next : State World Runtime Resource Reply}

namespace State

/-! ## Closing all graphs -/

theorem entries_closeGraphs (call : CallId) (hadGraph : Bool) (afterwards : Activity World Unit)
    (remaining : List (Installed Runtime Resource)) (current : Activity World Unit) :
    (closeGraphs builder call hadGraph afterwards remaining current state).entries =
      state.entries := by
  induction remaining generalizing state current with
  | nil =>
      unfold closeGraphs
      split <;> rename_i advanced <;> rcases eq_of_advance advanced with ⟨world, rfl⟩ <;> rfl
  | cons graph remaining induction =>
      unfold closeGraphs
      split
      · rename_i advanced
        rcases eq_of_advance advanced with ⟨world, rfl⟩
        exact (induction _).trans (entries_retire graph)
      · rename_i advanced
        rcases eq_of_advance advanced with ⟨world, rfl⟩
        rfl

/-- Evicting some keys leaves no graph under them, and none that was not there before. -/
theorem installed_evictAll (keys : List String) (key : String)
    (vacant : key ∈ keys ∨ (state.entry key).installed = none) :
    ((keys.foldl (fun state key => (state.evict key).2) state).entry key).installed = none := by
  induction keys generalizing state with
  | nil => exact vacant.resolve_left List.not_mem_nil
  | cons first keys induction =>
      refine induction ?_
      by_cases same : first = key
      · subst same
        right
        rw [entry_evict]
        split <;> rfl
      · rw [entry_evict_of_ne same]
        exact vacant.imp_left fun member =>
          (List.mem_cons.mp member).resolve_left (Ne.symm same)

theorem installed_beginCloseAll (call : CallId) (afterwards : Activity World Unit) (key : String) :
    ((beginCloseAll builder state call afterwards).entry key).installed = none := by
  have entries : state.entries = (state.timers.keys.foldl cancelTimer state).entries :=
    (entries_cancelTimers state.timers.keys).symm
  unfold beginCloseAll entry
  rw [entries_closeGraphs]
  apply installed_evictAll
  rw [installed_entry]
  change _ ∨ ((state.timers.keys.foldl cancelTimer state).entries.find? key).bind _ = none
  cases found : (state.timers.keys.foldl cancelTimer state).entries.find? key with
  | none => exact Or.inr rfl
  | some entry => exact Or.inl (Catalog.mem_keys_of_find? found)

end State

/-! ## What is installed later -/

/-- A move adds to the journal and takes nothing away. -/
theorem Move.journal_grows {before after : Situation World Runtime Resource Reply}
    (move : Move builder before after) : before.state.journal <+: after.state.journal := by
  have grown (more : List Occurrence)
      (journal : after.state.journal = before.state.journal ++ more) :
      before.state.journal <+: after.state.journal :=
    ⟨more, journal.symm⟩
  cases move with
  | world | elapse | subscribe | answer | share | drop | forget | await | awaitRefresh | wake
  | wakeRefresh | proceed | work | worked | finish | finished | park | unpark | setFree | releasing
  | released => exact List.prefix_rfl
  | ask | closed | closedAll | refreshed | fire | refuse | failRefresh | release | invalidate
  | invalidateAll | abandon => exact grown [_] rfl
  | request key delay =>
      rcases State.requestRebuild_eq _ key delay with same | same <;>
        exact grown [_] (congrArg State.journal same)
  | cancel key =>
      rcases State.cancelTimer_eq _ key with same | same
      · exact grown [] ((congrArg State.journal same).trans (List.append_nil _).symm)
      · exact grown [_] (congrArg State.journal same)
  | @evict loose state key =>
      rcases State.evict_eq state key with ⟨entries, same⟩
      exact grown [_] (congrArg State.journal same)
  | start key idle =>
      exact grown [_] (congrArg (·.2.journal) (State.startOrJoin_start builder _ idle))
  | @restart loose state call key idle =>
      have started := State.startOrJoin_start builder (state.note (.asked call .rebuild key)) idle
      exact grown ([_] ++ [_])
        ((congrArg (·.2.journal) started).trans (List.append_assoc _ [_] [_]))
  | @serve loose state call key installed =>
      rcases State.deliver_eq state call .get installed.id with ⟨holders, _, same⟩
      exact grown [_] (congrArg State.journal same)
  | @deliver loose state call build =>
      rcases State.deliver_eq (state.dismiss (.waiting call)) call .rebuild build with
        ⟨holders, _, same⟩
      exact grown [_] (congrArg State.journal same)
  | @install loose state id startEpoch rest graph reason found =>
      rcases State.notifyAll_eq
          (((state.dismiss (.building id)).install id startEpoch graph reason).setOutcome id
          (.ok ())) id with ⟨world, holders, _, same⟩
      exact grown _ ((congrArg State.journal same).trans (List.append_assoc _ _ _))
  | @retire loose state installed =>
      change state.journal <+: (State.retire builder state installed).2.journal
      unfold State.retire
      split
      · exact List.prefix_rfl
      · exact List.prefix_append _ _

theorem grown_kept (past : List Occurrence) :
    Kept builder fun situation : Situation World Runtime Resource Reply =>
      past <+: situation.state.journal :=
  fun _ _ move grown => grown.trans move.journal_grows

theorem told_kept (past : List Occurrence) :
    Kept builder fun situation : Situation World Runtime Resource Reply =>
      past ⊆ situation.state.journal :=
  fun _ _ move told => List.Subset.trans told move.journal_grows.subset

/-- No graph that had been installed in the past is installed. -/
def Newer (past : List Occurrence) (state : State World Runtime Resource Reply) : Prop :=
  ∀ key installed, (state.entry key).installed = some installed → .installed installed.id ∉ past

namespace Newer

variable {past : List Occurrence}

theorem frame (newer : Newer past state)
    (installed : ∀ key, (next.entry key).installed = (state.entry key).installed) :
    Newer past next := by
  intro key graph present
  rw [installed] at present
  exact newer key graph present

theorem quiet (newer : Newer past state) (entries : next.entries = state.entries) :
    Newer past next := by
  apply newer.frame
  intro key
  unfold State.entry
  rw [entries]

theorem evict (newer : Newer past state) (key : String) : Newer past (state.evict key).2 := by
  intro other graph present
  by_cases same : key = other
  · subst same
    rw [State.entry_evict] at present
    split at present <;> cases present
  · rw [State.entry_evict_of_ne same] at present
    exact newer other graph present

/-- The graph of a build that is in progress has not been installed before. -/
theorem install (newer : Newer past state) (told : past ⊆ state.journal) (ledger : Ledger state)
    {id : BuildId} {task : Task World Runtime Resource Reply}
    (found : state.task? (.building id) = some task) (startEpoch : Nat)
    (graph : Graph Runtime Resource) (reason : Option String) :
    Newer past ((state.dismiss (.building id)).install id startEpoch graph reason) := by
  intro key installed present
  rw [State.entry_install] at present
  split at present
  · cases present
    intro before
    have counted : 0 < installations state.journal id :=
      installations_pos_iff.mpr (told before)
    rcases ledger.outcome_of_inProgress (State.inProgress_pos found) with ⟨_, _, _, none, _⟩
    omega
  · exact newer key installed present

end Newer

theorem newer_kept (past : List Occurrence) :
    Kept builder fun situation : Situation World Runtime Resource Reply =>
      (Ledger situation.state ∧ past ⊆ situation.state.journal) ∧ Newer past situation.state := by
  rintro before after move ⟨⟨ledger, told⟩, newer⟩
  refine ⟨⟨ledger_kept before after move ledger, told_kept past before after move told⟩, ?_⟩
  cases move with
  | world | elapse | subscribe | answer | share | drop | forget | await | awaitRefresh | wake
  | wakeRefresh | proceed | work | worked | finish | finished | park | unpark | setFree | releasing
  | released | ask | closed | closedAll | refreshed | fire | refuse | failRefresh | release =>
      exact newer.quiet rfl
  | request key delay => exact newer.quiet (State.entries_requestRebuild key delay)
  | cancel key => exact newer.quiet (State.entries_cancelTimer key)
  | serve => exact newer.quiet (State.entries_deliver _ _ _)
  | deliver => exact newer.quiet (State.entries_deliver _ _ _)
  | retire installed => exact newer.quiet (State.entries_retire installed)
  | invalidate key =>
      refine newer.frame fun other => ?_
      rw [State.entry_invalidate]
      split <;> rfl
  | invalidateAll =>
      refine newer.frame fun other => ?_
      rw [State.entry_invalidateAll]
      split <;> rfl
  | evict key => exact newer.evict key
  | start key idle =>
      refine newer.frame fun other => ?_
      rw [State.entry_startOrJoin builder idle]
  | @restart loose state call key idle =>
      have idle : ((state.note (.asked call .rebuild key)).entry key).building = none := idle
      refine newer.frame fun other => ?_
      have joined := congrArg Entry.installed (State.entry_startOrJoin builder idle other)
      exact joined
  | install id startEpoch rest graph reason found =>
      exact (newer.install told ledger found startEpoch graph reason).quiet
        (State.entries_notifyAll _ id)
  | abandon id startEpoch rest text found =>
      refine newer.frame fun key => ?_
      rw [State.entry_abandon id text key]
      rfl

/-- What is installed after all graphs have been closed had not been installed before. -/
theorem State.Reachable.newer {world : World}
    (reachable : Reachable builder { world := world } state) (call : CallId)
    (afterwards : Activity World Unit) (actions : List (Action World Runtime Resource Reply)) :
    Newer state.journal (run builder state (.closeAll call afterwards :: actions)) := by
  have closing : Moves builder ⟨[], state⟩ ⟨[], step builder state (.closeAll call afterwards)⟩ :=
    step_moves reachable.ascending (.closeAll call afterwards)
  have told := (told_kept state.journal).moves closing fun _ => id
  have ledger : Ledger (step builder state (.closeAll call afterwards)) :=
    ledger_kept.reachable (Ledger.initial world) (reachable.extend [.closeAll call afterwards])
  have vacant : Newer state.journal (step builder state (.closeAll call afterwards)) := by
    intro key installed present
    have none : ((step builder state (.closeAll call afterwards)).entry key).installed = none :=
      installed_beginCloseAll call afterwards key
    rw [none] at present
    cases present
  exact ((newer_kept state.journal).moves
    (run_moves (reachable.extend [.closeAll call afterwards]).ascending actions)
    ⟨⟨ledger, told⟩, vacant⟩).2

end RuntimeCache

end AssistantEngine
