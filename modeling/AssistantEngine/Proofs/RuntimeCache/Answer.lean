import AssistantEngine.Proofs.RuntimeCache.Reach

/-!
The journal tells of every runtime that was answered, in the order of the answers. What is said of
the journal is thereby said of what callers receive.
-/

namespace AssistantEngine

namespace RuntimeCache

/-- The answer that an occurrence tells of. -/
def Occurrence.answer? : Occurrence → Option (CallId × Except Fault BuildId)
  | answered call _ _ result => some (call, result)
  | _ => none

variable {World Runtime Resource Reply : Type} {builder : Builder World Runtime Resource}
variable {state next : State World Runtime Resource Reply}

def Recorded (state : State World Runtime Resource Reply) : Prop :=
  state.answers.filterMap (fun answer => answer.2.result?.map (answer.1, ·)) =
    state.journal.filterMap Occurrence.answer?

namespace Recorded

/-- New answers that the journal tells of. -/
theorem extend (recorded : Recorded state) (answers : List (CallId × Answer Reply))
    (more : List Occurrence) (answersEq : next.answers = state.answers ++ answers)
    (journal : next.journal = state.journal ++ more)
    (same : answers.filterMap (fun answer => answer.2.result?.map (answer.1, ·)) =
      more.filterMap Occurrence.answer?) : Recorded next := by
  unfold Recorded at recorded ⊢
  rw [answersEq, journal, List.filterMap_append, List.filterMap_append, recorded, same]

/-- A change without answers. -/
theorem silent (recorded : Recorded state) (answers : next.answers = state.answers)
    (more : List Occurrence) (journal : next.journal = state.journal ++ more)
    (unanswered : ∀ occurrence ∈ more, occurrence.answer? = none) : Recorded next := by
  refine recorded.extend [] more ?_ journal ?_
  · rw [answers, List.append_nil]
  · rw [List.filterMap_nil]
    exact (List.filterMap_eq_nil_iff.mpr unanswered).symm

theorem note (recorded : Recorded state) (occurrence : Occurrence)
    (unanswered : occurrence.answer? = none) : Recorded (state.note occurrence) :=
  recorded.silent rfl [occurrence] rfl (by simpa using unanswered)

theorem deliver (recorded : Recorded state) (call : CallId) (purpose : Purpose) (id : BuildId) :
    Recorded (state.deliver call purpose id) := by
  rcases State.deliver_eq state call purpose id with ⟨holders, _, same⟩
  rw [same]
  exact recorded.extend [(call, .runtime (.ok id))] [.answered call purpose id.key (.ok id)] rfl rfl
    rfl

end Recorded

/-- Every move keeps the record of answers. -/
theorem recorded_kept :
    Kept builder fun situation : Situation World Runtime Resource Reply =>
      Recorded situation.state := by
  intro before after move recorded
  cases move with
  | world | elapse | subscribe | share | drop | forget | await | wake | awaitRefresh
  | wakeRefresh | proceed | work | worked | finish | finished | park | unpark | setFree
  | releasing | released => exact recorded
  | answer call answer plain =>
      exact recorded.extend [(call, answer)] [] rfl (List.append_nil _).symm (by simp [plain])
  | ask | closed | closedAll | refreshed | fire | invalidate | invalidateAll | failRefresh
  | release => exact recorded.silent rfl [_] rfl (by simp [Occurrence.answer?])
  | request key delay =>
      rcases State.requestRebuild_eq _ key delay with same | same <;> rw [same] <;>
        exact recorded.silent rfl [_] rfl (by simp [Occurrence.answer?])
  | cancel key =>
      rcases State.cancelTimer_eq _ key with same | same <;> rw [same]
      · exact recorded
      · exact recorded.silent rfl [_] rfl (by simp [Occurrence.answer?])
  | @evict loose state key =>
      rcases State.evict_eq state key with ⟨entries, same⟩
      rw [same]
      exact recorded.silent rfl [_] rfl (by simp [Occurrence.answer?])
  | start key idle =>
      rw [State.startOrJoin_start builder _ idle]
      exact recorded.silent rfl [_] rfl (by simp [Occurrence.answer?])
  | @restart loose state call key idle =>
      rw [State.startOrJoin_start builder (state.note (.asked call .rebuild key)) idle]
      exact (recorded.note (.asked call .rebuild key) rfl).silent rfl [_] rfl
        (by simp [Occurrence.answer?])
  | serve call key installed => exact recorded.deliver call .get installed.id
  | @deliver loose state call build =>
      have dismissed : Recorded (state.dismiss (.waiting call)) := recorded
      exact dismissed.deliver call .rebuild build
  | refuse call build purpose text =>
      exact recorded.extend [_] [.answered _ _ _ _] rfl rfl rfl
  | @install loose state id startEpoch rest graph reason found =>
      rcases State.notifyAll_eq
          (((state.dismiss (.building id)).install id startEpoch graph reason).setOutcome id
          (.ok ())) id with ⟨world, holders, _, same⟩
      rw [same]
      refine recorded.silent rfl _ (List.append_assoc _ _ _) ?_
      intro occurrence member
      rcases List.mem_append.mp member with first | later
      · exact List.mem_singleton.mp first ▸ rfl
      · rcases List.mem_map.mp later with ⟨position, _, notified⟩
        rw [← notified]
        rfl
  | abandon id startEpoch rest text found =>
      exact recorded.silent rfl [_] rfl (by simp [Occurrence.answer?])
  | retire installed =>
      unfold State.retire
      split
      · exact recorded
      · exact recorded.note _ rfl

namespace State

/-- A caller was answered with a runtime, or with a fault, just if the journal says so. -/
theorem Reachable.answered_iff {world : World}
    (reachable : Reachable builder { world := world } state) (call : CallId)
    (result : Except Fault BuildId) :
    (call, Answer.runtime result) ∈ state.answers ↔
      ∃ purpose key, .answered call purpose key result ∈ state.journal := by
  have recorded : Recorded state := recorded_kept.reachable rfl reachable
  have inAnswers : (call, Answer.runtime result) ∈ state.answers ↔
      (call, result) ∈
        state.answers.filterMap fun answer => answer.2.result?.map (answer.1, ·) := by
    rw [List.mem_filterMap]
    constructor
    · intro member
      exact ⟨_, member, rfl⟩
    · rintro ⟨⟨other, answer⟩, member, same⟩
      cases answer <;> cases same
      exact member
  have inJournal : (∃ purpose key, .answered call purpose key result ∈ state.journal) ↔
      (call, result) ∈ state.journal.filterMap Occurrence.answer? := by
    rw [List.mem_filterMap]
    constructor
    · rintro ⟨purpose, key, member⟩
      exact ⟨_, member, rfl⟩
    · rintro ⟨occurrence, member, same⟩
      cases occurrence <;> cases same
      exact ⟨_, _, member⟩
  rw [inAnswers, inJournal, recorded]

end State

end RuntimeCache

end AssistantEngine
