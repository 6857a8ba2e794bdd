import AssistantEngine.Proofs.RuntimeCache.Operation

/-!
States in which callers work side by side and nothing else is under way. A step changes the task of
one caller, its answer, and the world.
-/

namespace AssistantEngine

namespace RuntimeCache

namespace State

variable {World Runtime Resource Reply : Type} {state next : State World Runtime Resource Reply}
  {builder : Builder World Runtime Resource} {call : CallId} {held : Option BuildId}
  {rest : Activity World Reply}

/-- Nothing is under way but the work of callers. -/
structure Working (state : State World Runtime Resource Reply) : Prop where
  undeferred : state.deferred = []
  tasks : ∀ task ∈ state.tasks, ∃ call held rest, task = .working call held rest
  once : ∀ name, state.tasks.countP (·.name = name) ≤ 1

/-- Where no scope waits to be set free, a step is what its action does. -/
theorem step_of_perform {action : Action World Runtime Resource Reply}
    (performed : perform builder state action = next) (undeferred : next.deferred = []) :
    step builder state action = next := by
  have kept : next.releaseDropped = next := by
    cases next
    change _ = [] at undeferred
    subst undeferred
    simp [releaseDropped]
  unfold step
  rw [performed, kept]

/-! ## Where a piece of work leads -/

/-- A caller's work goes on after its next piece, or the caller is answered. -/
def moveOn (state : State World Runtime Resource Reply) (call : CallId) (held : Option BuildId)
    (piece : Activity World Reply × World) : State World Runtime Resource Reply :=
  let moved := { state with world := piece.2 }
  match piece.1.result? with
  | some reply => (moved.dismiss (.working call)).setAnswer call (.reply reply)
  | none => moved.replace (.working call held piece.1)

/-- A caller's work begins, or the caller is answered at once. -/
def setOut (state : State World Runtime Resource Reply) (call : CallId) (held : Option BuildId)
    (piece : Activity World Reply × World) : State World Runtime Resource Reply :=
  let moved := { state with world := piece.2 }
  match piece.1.result? with
  | some reply => moved.setAnswer call (.reply reply)
  | none => moved.spawn (.working call held piece.1)

/-- The task that is left after a piece of work. -/
def leftOver (call : CallId) (held : Option BuildId) (left : Activity World Reply) :
    Option (Task World Runtime Resource Reply) :=
  if left.result?.isSome then none else some (.working call held left)

namespace Working

theorem step_ready (working : Working state)
    (found : state.task? (.working call) = some (.working call held rest))
    (ready : rest.isReady state.now state.world = true) :
    step builder state (.resume (.working call)) =
      state.moveOn call held (rest.resume state.now state.world) := by
  have performed : perform builder state (.resume (.working call)) =
      state.moveOn call held (rest.resume state.now state.world) := by
    unfold perform
    dsimp only
    rw [found]
    dsimp only
    rw [if_pos (show state.isReady (.working call held rest) = true from ready)]
    unfold proceed State.resume moveOn
    dsimp only
    rcases rest.resume state.now state.world with ⟨left, world⟩
    cases left <;> rfl
  apply step_of_perform performed
  rcases rest.resume state.now state.world with ⟨left, world⟩
  cases left <;> exact working.undeferred

/-- A caller that cannot go on, or has nothing to do, changes nothing. -/
theorem step_idle (working : Working state)
    (idle : ∀ held rest, state.task? (.working call) = some (.working call held rest) →
      rest.isReady state.now state.world = false) :
    step builder state (.resume (.working call)) = state := by
  refine step_of_perform ?_ working.undeferred
  unfold perform
  dsimp only
  cases found : state.task? (.working call) with
  | none => rfl
  | some task =>
      rcases working.tasks task (mem_of_task? found) with ⟨other, held, rest, rfl⟩
      cases task?_name found
      have waits : state.isReady (.working call held rest) = false := idle held rest found
      dsimp only
      rw [waits, if_neg Bool.false_ne_true]

theorem step_work (working : Working state) (activity : Activity World Reply) :
    step builder state (.work call held activity) =
      if held.all state.isHeld then state.setOut call held (activity.advance state.now state.world)
      else state := by
  have begun : state.beginWork call held activity =
      state.setOut call held (activity.advance state.now state.world) := by
    unfold beginWork setOut State.advance
    dsimp only
    rcases activity.advance state.now state.world with ⟨left, world⟩
    cases left <;> rfl
  apply step_of_perform
  · unfold perform
    dsimp only
    rw [begun]
  · split
    · rcases activity.advance state.now state.world with ⟨left, world⟩
      cases left <;> exact working.undeferred
    · exact working.undeferred

/-! ## What it leaves of the state -/

variable {piece : Activity World Reply × World}

theorem world_moveOn : (state.moveOn call held piece).world = piece.2 := by
  unfold moveOn
  dsimp only
  cases piece.1.result? <;> rfl

theorem world_setOut : (state.setOut call held piece).world = piece.2 := by
  unfold setOut
  dsimp only
  cases piece.1.result? <;> rfl

theorem answer?_moveOn (other : CallId) :
    (state.moveOn call held piece).answer? other =
      (state.answer? other).or (if other = call then piece.1.result?.map .reply else none) := by
  unfold moveOn
  dsimp only
  cases piece.1.result? with
  | some reply => exact answer?_setAnswer _ call other (.reply reply)
  | none => simp [answer?, replace]

theorem answer?_setOut (other : CallId) :
    (state.setOut call held piece).answer? other =
      (state.answer? other).or (if other = call then piece.1.result?.map .reply else none) := by
  unfold setOut
  dsimp only
  cases piece.1.result? with
  | some reply => exact answer?_setAnswer _ call other (.reply reply)
  | none => simp [answer?, spawn]

theorem task?_moveOn_self (working : Working state)
    (found : state.task? (.working call) = some (.working call held rest)) :
    (state.moveOn call held piece).task? (.working call) = leftOver call held piece.1 := by
  unfold moveOn leftOver
  dsimp only
  cases piece.1.result? with
  | some reply => exact task?_dismiss_self (working.once _) found
  | none => exact task?_replace_self found

theorem task?_moveOn_of_ne {other : CallId} (different : other ≠ call) :
    (state.moveOn call held piece).task? (.working other) = state.task? (.working other) := by
  have names : TaskName.working call ≠ .working other := fun same =>
    different (TaskName.working.inj same).symm
  unfold moveOn
  dsimp only
  cases piece.1.result? with
  | some reply => exact task?_dismiss_of_ne names
  | none =>
      apply task?_replace_of_ne
      exact names

theorem task?_setOut_self (absent : state.task? (.working call) = none) :
    (state.setOut call held piece).task? (.working call) = leftOver call held piece.1 := by
  unfold setOut leftOver
  dsimp only
  cases piece.1.result? with
  | some reply => exact absent
  | none =>
      refine (task?_spawn _ _).trans ?_
      rw [show State.task? { state with world := piece.2 } (.working call) = none from absent]
      exact if_pos rfl

theorem task?_setOut_of_ne {other : CallId} (different : other ≠ call) :
    (state.setOut call held piece).task? (.working other) = state.task? (.working other) := by
  have names : TaskName.working call ≠ .working other := fun same =>
    different (TaskName.working.inj same).symm
  unfold setOut
  dsimp only
  cases piece.1.result? with
  | some reply => rfl
  | none =>
      refine (task?_spawn _ _).trans ?_
      rw [show (Task.working call held piece.1).name = .working call from rfl, if_neg names,
        Option.or_none]
      rfl

theorem moveOn (working : Working state) : Working (state.moveOn call held piece) := by
  unfold State.moveOn
  dsimp only
  cases piece.1.result? with
  | some reply =>
      refine ⟨working.undeferred, fun task member => ?_, fun name => ?_⟩
      · exact working.tasks task (List.mem_of_mem_eraseP member)
      · exact Nat.le_trans (List.Sublist.countP_le (List.eraseP_sublist)) (working.once name)
  | none =>
      refine ⟨working.undeferred, fun task member => ?_, fun name => ?_⟩
      · rcases mem_replace member with new | old
        · exact ⟨call, held, piece.1, new⟩
        · exact working.tasks task old
      · rw [countP_replace]
        exact working.once name

theorem setOut (working : Working state) (absent : state.task? (.working call) = none) :
    Working (state.setOut call held piece) := by
  unfold State.setOut
  dsimp only
  cases piece.1.result? with
  | some reply => exact ⟨working.undeferred, working.tasks, working.once⟩
  | none =>
      refine ⟨working.undeferred, fun task member => ?_, fun name => ?_⟩
      · rcases List.mem_append.mp member with old | new
        · exact working.tasks task old
        · exact ⟨call, held, piece.1, List.mem_singleton.mp new⟩
      · rw [countP_spawn]
        split
        · rename_i same
          rw [← same]
          exact Nat.le_of_eq (congrArg (· + 1) (countP_of_task?_none absent))
        · exact working.once name

end Working

end State

end RuntimeCache

end AssistantEngine
