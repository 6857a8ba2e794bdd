import AssistantEngine.Proofs.RuntimeCache.Reach

/-!
Callers that wait for a build. One whose build has failed waits on until its turn comes, and then
learns of the failure; one whose build has left a graph gets a graph or waits for the next build.
-/

namespace AssistantEngine

namespace RuntimeCache

variable {World Runtime Resource Reply : Type} {builder : Builder World Runtime Resource}
variable {origin state next : State World Runtime Resource Reply}
variable {call : CallId} {build : BuildId} {purpose : Purpose} {text : String}

/-- Since a certain moment, a caller that waits for a failed build has waited on or was refused. -/
structure Refusing (origin : State World Runtime Resource Reply) (call : CallId) (build : BuildId)
    (purpose : Purpose) (text : String) (state : State World Runtime Resource Reply) : Prop where
  failed : state.outcomes.lookup build = some (.error text)
  waits : ∃ more, state.answers = origin.answers ++ more ∧
    ((call, .runtime (.error (.build text))) ∈ more ∨
      state.task? (.waiting call) = some (.waiting call build purpose))

namespace Refusing

theorem frame (refusing : Refusing origin call build purpose text state)
    (outcomes : List (BuildId × Except String Unit))
    (outcomesEq : next.outcomes = state.outcomes ++ outcomes)
    (answers : List (CallId × Answer Reply)) (answersEq : next.answers = state.answers ++ answers)
    (waits : state.task? (.waiting call) = some (.waiting call build purpose) →
      next.task? (.waiting call) = some (.waiting call build purpose)) :
    Refusing origin call build purpose text next := by
  rcases refusing.waits with ⟨more, earlier, either⟩
  constructor
  · rw [outcomesEq, List.lookup_append, refusing.failed]
    rfl
  · refine ⟨more ++ answers, ?_, ?_⟩
    · rw [answersEq, earlier, List.append_assoc]
    · rcases either with refused | waiting
      · exact Or.inl (List.mem_append_left _ refused)
      · exact Or.inr (waits waiting)

/-- A change that leaves the tasks, and answers no one. -/
theorem quiet (refusing : Refusing origin call build purpose text state)
    (outcomes : next.outcomes = state.outcomes) (answers : next.answers = state.answers)
    (tasks : next.tasks = state.tasks) : Refusing origin call build purpose text next := by
  refine refusing.frame [] ?_ [] ?_ ?_
  · rw [outcomes, List.append_nil]
  · rw [answers, List.append_nil]
  · unfold State.task?
    rw [tasks]
    exact id

theorem append (refusing : Refusing origin call build purpose text state)
    (outcomes : next.outcomes = state.outcomes) (answers : next.answers = state.answers)
    (tasks : List (Task World Runtime Resource Reply))
    (tasksEq : next.tasks = state.tasks ++ tasks) :
    Refusing origin call build purpose text next := by
  refine refusing.frame [] ?_ [] ?_ ?_
  · rw [outcomes, List.append_nil]
  · rw [answers, List.append_nil]
  · intro waiting
    have appended := State.task?_append waiting tasks
    unfold State.task? at appended ⊢
    rw [tasksEq]
    exact appended

theorem dismiss (refusing : Refusing origin call build purpose text state) {name : TaskName}
    (different : name ≠ .waiting call) :
    Refusing origin call build purpose text (state.dismiss name) := by
  refine refusing.frame [] (List.append_nil _).symm [] (List.append_nil _).symm ?_
  intro waiting
  exact (State.task?_dismiss_of_ne different).trans waiting

theorem deliver (refusing : Refusing origin call build purpose text state) (other : CallId)
    (reason : Purpose) (id : BuildId) :
    Refusing origin call build purpose text (state.deliver other reason id) := by
  rcases State.deliver_eq state other reason id with ⟨holders, _, parts⟩
  rw [parts]
  exact refusing.frame [] (List.append_nil _).symm _ rfl fun waiting => waiting

/-- A caller that goes on with a graph was not waiting for a failed build. -/
theorem wake (refusing : Refusing origin call build purpose text state) {other : CallId}
    {done : BuildId} {reason : Purpose}
    (found : state.task? (.waiting other) = some (.waiting other done reason))
    (delivered : state.outcomes.lookup done = some (.ok ())) :
    Refusing origin call build purpose text (state.dismiss (.waiting other)) := by
  by_cases same : other = call
  · subst same
    rcases refusing.waits with ⟨more, earlier, refused | waiting⟩
    · exact ⟨refusing.failed, more, earlier, Or.inl refused⟩
    · rw [waiting] at found
      cases found
      rw [refusing.failed] at delivered
      cases delivered
  · exact refusing.dismiss fun equal => same (TaskName.waiting.inj equal)

/-- A caller that is refused may be the one in question. -/
theorem refuse (refusing : Refusing origin call build purpose text state) {other : CallId}
    {done : BuildId} {reason : Purpose} {message : String}
    (found : state.task? (.waiting other) = some (.waiting other done reason))
    (failed : state.outcomes.lookup done = some (.error message)) :
    Refusing origin call build purpose text
      ((state.dismiss (.waiting other)).refuse other reason done.key message) := by
  by_cases same : other = call
  · subst same
    rcases refusing.waits with ⟨more, earlier, either⟩
    refine ⟨refusing.failed, more ++ [(other, .runtime (.error (.build message)))], ?_, Or.inl ?_⟩
    · rw [← List.append_assoc, ← earlier]
      rfl
    · rcases either with refused | waiting
      · exact List.mem_append_left _ refused
      · rw [waiting] at found
        cases found
        rw [refusing.failed] at failed
        cases failed
        exact List.mem_append_right _ List.mem_cons_self
  · have dismissed : Refusing origin call build purpose text (state.dismiss (.waiting other)) :=
      refusing.dismiss fun equal => same (TaskName.waiting.inj equal)
    exact dismissed.frame [] (List.append_nil _).symm [(other, .runtime (.error (.build message)))]
      rfl fun waiting => waiting

end Refusing

/-- Every move leaves a caller whose build has failed waiting, or refuses it. -/
theorem refusing_kept (origin : State World Runtime Resource Reply) (call : CallId)
    (build : BuildId) (purpose : Purpose) (text : String) :
    Kept builder fun situation : Situation World Runtime Resource Reply =>
      Refusing origin call build purpose text situation.state := by
  intro before after move refusing
  cases move with
  | world | elapse | subscribe | share | drop | forget | ask | closed | closedAll | fire
  | invalidate | invalidateAll | refreshed => exact refusing.quiet rfl rfl rfl
  | answer caller answer =>
      exact refusing.frame [] (List.append_nil _).symm [(caller, answer)] rfl fun waiting => waiting
  | request key delay =>
      rcases State.requestRebuild_eq _ key delay with same | same <;> rw [same] <;>
        exact refusing.quiet rfl rfl rfl
  | cancel key =>
      rcases State.cancelTimer_eq _ key with same | same <;> rw [same] <;>
        exact refusing.quiet rfl rfl rfl
  | @evict loose state key =>
      rcases State.evict_eq state key with ⟨entries, same⟩
      rw [same]
      exact refusing.quiet rfl rfl rfl
  | start key idle =>
      rw [State.startOrJoin_start builder _ idle]
      exact refusing.append rfl rfl _ rfl
  | @restart loose state caller key idle =>
      rw [State.startOrJoin_start builder (state.note (.asked caller .rebuild key)) idle]
      exact refusing.append rfl rfl _ rfl
  | serve caller key installed => exact refusing.deliver caller .get installed.id
  | await | awaitRefresh | work | finish | park | releasing | setFree =>
      exact refusing.append rfl rfl _ rfl
  | wake caller done found delivered => exact refusing.wake found delivered
  | deliver caller done found delivered =>
      exact (refusing.wake found delivered).deliver caller .rebuild done
  | refuse caller done reason message found failed => exact refusing.refuse found failed
  | wakeRefresh | worked | finished | unpark | released =>
      exact refusing.dismiss TaskName.noConfusion
  | failRefresh | release => exact (refusing.dismiss TaskName.noConfusion).quiet rfl rfl rfl
  | @install loose state id startEpoch rest graph reason found =>
      rcases State.notifyAll_eq
          (((state.dismiss (.building id)).install id startEpoch graph reason).setOutcome id
          (.ok ())) id with ⟨world, holders, _, same⟩
      rw [same]
      have dismissed : Refusing origin call build purpose text (state.dismiss (.building id)) :=
        refusing.dismiss TaskName.noConfusion
      exact dismissed.frame [(id, .ok ())] rfl [] (List.append_nil _).symm fun waiting => waiting
  | abandon id startEpoch rest message found =>
      have dismissed : Refusing origin call build purpose text (_ : State _ _ _ _) :=
        refusing.dismiss (TaskName.noConfusion : TaskName.building id ≠ .waiting call)
      exact dismissed.frame [(id, .error message)] rfl [] (List.append_nil _).symm
        fun waiting => waiting
  | proceed earlier later member continues =>
      refine refusing.frame [] (List.append_nil _).symm [] (List.append_nil _).symm ?_
      intro waiting
      refine (State.task?_replace_of_ne ?_).trans waiting
      cases continues <;> exact TaskName.noConfusion
  | retire installed =>
      unfold State.retire
      split <;> exact refusing.quiet rfl rfl rfl

namespace State

/-- A caller whose build has failed learns of it when its turn comes. -/
theorem step_resume_of_failed (builder : Builder World Runtime Resource)
    (found : state.task? (.waiting call) = some (.waiting call build purpose))
    (failed : state.outcomes.lookup build = some (.error text)) :
    (step builder state (.resume (.waiting call))).answers =
      state.answers ++ [(call, .runtime (.error (.build text)))] := by
  have ready : state.isReady (.waiting call build purpose) :=
    Option.isSome_iff_exists.mpr ⟨_, failed⟩
  rw [step_resume found ready]
  unfold proceed
  dsimp only
  rw [failed]
  rfl

/-- A caller whose build has left a graph gets a graph when its turn comes, or waits for the build
that is then in progress. -/
theorem step_resume_of_delivered (builder : Builder World Runtime Resource)
    (found : state.task? (.waiting call) = some (.waiting call build purpose))
    (delivered : state.outcomes.lookup build = some (.ok ())) :
    (∃ id, (step builder state (.resume (.waiting call))).answers =
      state.answers ++ [(call, .runtime (.ok id))]) ∨
    ∃ pending, .waiting call pending purpose ∈
        (step builder state (.resume (.waiting call))).tasks ∧
      ((step builder state (.resume (.waiting call))).entry build.key).building =
        some pending := by
  have ready : state.isReady (.waiting call build purpose) :=
    Option.isSome_iff_exists.mpr ⟨_, delivered⟩
  rw [step_resume found ready]
  unfold proceed
  dsimp only
  rw [delivered]
  cases purpose with
  | rebuild =>
      refine Or.inl ⟨build, ?_⟩
      rcases deliver_eq (state.dismiss (.waiting call)) call .rebuild build with ⟨holders, _, parts⟩
      exact congrArg State.answers parts
  | get =>
      change (∃ id, (beginGet builder (state.dismiss (.waiting call)) call build.key).answers = _) ∨
        ∃ pending, _ ∈ (beginGet builder (state.dismiss (.waiting call)) call
            build.key).releaseDropped.tasks ∧
          ((beginGet builder (state.dismiss (.waiting call)) call build.key).entry
            build.key).building = some pending
      unfold beginGet
      rcases lookUp_cases builder (state.dismiss (.waiting call)) build.key with
        ⟨pending, marked, looked⟩ | ⟨installed, _, _, looked⟩ | ⟨_, _, looked⟩
      · rw [looked]
        refine Or.inr ⟨pending, ?_, marked⟩
        exact List.mem_append_left _ (List.mem_append_right _ List.mem_cons_self)
      · rw [looked]
        rcases deliver_eq (state.dismiss (.waiting call)) call .get
            installed.id with ⟨holders, _, parts⟩
        exact Or.inl ⟨installed.id, congrArg State.answers parts⟩
      · rw [looked]
        refine Or.inr ⟨_, ?_, startOrJoin_building build.key⟩
        exact List.mem_append_left _ (List.mem_append_right _ List.mem_cons_self)

end State

end RuntimeCache

end AssistantEngine
