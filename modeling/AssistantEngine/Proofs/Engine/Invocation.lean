import AssistantEngine.Proofs.Engine.Account
import AssistantEngine.Proofs.RuntimeCache.Work

/-!
The steps of invocations that run side by side on one thread. Every step keeps what the account
says, and so it is true of every run.
-/

namespace AssistantEngine

open RuntimeCache (CallId Task TaskName)
open RuntimeCache.State (Working)
open CompiledRuntime (Underway Uneventful Successful)

namespace Engine

variable {scope thread : String} {actions later : List (Action TurnReply)}
  {rows : Option (List CheckpointRow)} {written : List CheckpointRow}
  {state next : State TurnReply} {account : Account}

/-- How far an invocation has come, by its task and by what it has loaded. -/
inductive Standing (scope thread : String) (actions : List (Action TurnReply))
    (rows : Option (List CheckpointRow)) (written : List CheckpointRow) (call : CallId) :
    Option (Task World CompiledRuntime Resource TurnReply) → Option (Nat × ThreadState) →
      Prop where
  | idle (loaded : Option (Nat × ThreadState)) :
      Standing scope thread actions rows written call none loaded
  | begun (held : Option RuntimeCache.BuildId) (runtime : CompiledRuntime) (text : String)
      (own : runtime.checkpoints.scope = scope) (asked : Asked scope thread actions call text) :
      Standing scope thread actions rows written call
        (some (.working call held (runtime.invoke thread text))) none
  | underway (held : Option RuntimeCache.BuildId) (text : String)
      (rest : Activity World TurnReply) (seen : Nat) (base : ThreadState)
      (asked : Asked scope thread actions call text) (saw : Saw rows written seen base)
      (underway : Underway scope thread text base rest) :
      Standing scope thread actions rows written call (some (.working call held rest))
        (some (seen, base))

/-- The invariant of a run. -/
structure Told (scope thread : String) (actions : List (Action TurnReply))
    (rows : Option (List CheckpointRow)) (state : State TurnReply) (account : Account)
    (written : List CheckpointRow) : Prop where
  books : Books scope thread actions rows state account.turns written
  undeferred : state.deferred = []
  working : ∀ task ∈ state.tasks, ∃ call held rest, task = .working call held rest
  once : ∀ name, state.tasks.countP (·.name = name) ≤ 1
  standing : ∀ call, Standing scope thread actions rows written call
    (state.task? (.working call)) (account.loaded.lookup call)
  unanswered : ∀ call task, state.task? (.working call) = some task → state.answer? call = none
  unknown : ∀ call, call ∉ actions.filterMap caller? → state.task? (.working call) = none ∧
    state.answer? call = none ∧ account.loaded.lookup call = none

theorem Standing.grow {call : CallId}
    {task : Option (Task World CompiledRuntime Resource TurnReply)}
    {loaded : Option (Nat × ThreadState)}
    (standing : Standing scope thread actions rows written call task loaded)
    (more : actions ⊆ later) (added : List CheckpointRow) :
    Standing scope thread later rows (written ++ added) call task loaded := by
  cases standing with
  | idle => exact .idle loaded
  | begun held runtime text own asked => exact .begun held runtime text own (asked.mono more)
  | underway held text rest seen base asked saw underway =>
      exact .underway held text rest seen base (asked.mono more) (saw.grow added) underway

/-! ## Steps -/

/-- A call goes on after a piece of its own work, or is answered. -/
def settle (state : State TurnReply) (call : CallId) (held : Option RuntimeCache.BuildId) :
    Activity World TurnReply × World → State TurnReply
  | (.done reply, world) =>
    RuntimeCache.State.setAnswer
      (RuntimeCache.State.dismiss { state with world := world } (.working call)) call
      (.reply reply)
  | (left, world) =>
    RuntimeCache.State.replace { state with world := world } (.working call held left)

theorem settle_eq (state : State TurnReply) (call : CallId) (held : Option RuntimeCache.BuildId)
    (piece : Activity World TurnReply × World) :
    settle state call held piece = state.moveOn call held piece := by
  rcases piece with ⟨left, world⟩
  cases left <;> rfl

theorem answer?_settle (state : State TurnReply) (call other : CallId)
    (held : Option RuntimeCache.BuildId) (reply : TurnReply) (world : World) :
    (settle state call held (.done reply, world)).answer? other =
      (state.answer? other).or (if other = call then some (.reply reply) else none) :=
  RuntimeCache.State.answer?_setAnswer _ call other (.reply reply)

namespace Told

/-- Nothing is under way but invocations. -/
theorem works (told : Told scope thread actions rows state account written) : state.Working :=
  ⟨told.undeferred, told.working, told.once⟩

/-- A change that goes past all invocations. -/
theorem calm (told : Told scope thread actions rows state account written)
    (more : actions ⊆ later)
    (same : World.rowsOf scope thread next.world = World.rowsOf scope thread state.world)
    (tasks : next.tasks = state.tasks) (answers : next.answers = state.answers)
    (deferred : next.deferred = state.deferred) :
    Told scope thread later rows next account written := by
  have tasksEq (name : TaskName) : next.task? name = state.task? name := by
    unfold RuntimeCache.State.task?
    rw [tasks]
  have answersEq (call : CallId) : next.answer? call = state.answer? call := by
    unfold RuntimeCache.State.answer?
    rw [answers]
  exact {
    books := told.books.quiet more same fun call output => by rw [answersEq]
    undeferred := deferred.trans told.undeferred
    working := tasks.symm ▸ told.working
    once := tasks.symm ▸ told.once
    standing := fun call => by
      have grown := (told.standing call).grow more []
      rwa [List.append_nil, ← tasksEq] at grown
    unanswered := fun call task found =>
      (answersEq call).trans (told.unanswered call task (tasksEq _ ▸ found))
    unknown := fun call absent => by
      rw [tasksEq, answersEq]
      exact told.unknown call fun member => absent (List.filterMap_subset _ more member) }

/-- A change that concerns one invocation. -/
theorem change (told : Told scope thread actions rows state account written)
    (more : actions ⊆ later) {call : CallId} (known : call ∈ later.filterMap caller?)
    {after : Account} {added : List CheckpointRow}
    (books : Books scope thread later rows next after.turns (written ++ added))
    (works : next.Working)
    (elsewhere : ∀ other, other ≠ call →
      next.task? (.working other) = state.task? (.working other) ∧
        next.answer? other = state.answer? other ∧
        after.loaded.lookup other = account.loaded.lookup other)
    (here : Standing scope thread later rows (written ++ added) call
      (next.task? (.working call)) (after.loaded.lookup call))
    (unanswered : ∀ task, next.task? (.working call) = some task → next.answer? call = none) :
    Told scope thread later rows next after (written ++ added) where
  books := books
  undeferred := works.undeferred
  working := works.tasks
  once := works.once
  standing other := by
    by_cases same : other = call
    · exact same ▸ here
    · rcases elsewhere other same with ⟨task, _, loaded⟩
      rw [task, loaded]
      exact (told.standing other).grow more added
  unanswered other task found := by
    by_cases same : other = call
    · subst same
      exact unanswered task found
    · rcases elsewhere other same with ⟨taskEq, answer, _⟩
      rw [answer]
      exact told.unanswered other task (taskEq ▸ found)
  unknown other absent := by
    have different : other ≠ call := fun same => absent (same ▸ known)
    rcases elsewhere other different with ⟨task, answer, loaded⟩
    rw [task, answer, loaded]
    exact told.unknown other fun member => absent (List.filterMap_subset _ more member)

/-- An invocation begins. -/
theorem begin (told : Told scope thread actions rows state account written)
    (more : actions ⊆ later) {call : CallId} (fresh : call ∉ actions.filterMap caller?)
    (known : call ∈ later.filterMap caller?) (held : Option RuntimeCache.BuildId)
    {runtime : CompiledRuntime} {text : String} (own : runtime.checkpoints.scope = scope)
    (asked : Asked scope thread later call text) :
    Told scope thread later rows
      (state.spawn (.working call held (runtime.invoke thread text))) account written := by
  rcases told.unknown call fresh with ⟨absent, unanswered, unloaded⟩
  let piece : Activity World TurnReply × World := (runtime.invoke thread text, state.world)
  change Told scope thread later rows (state.setOut call held piece) account written
  have books : Books scope thread later rows (state.setOut call held piece) account.turns written :=
    told.books.quiet more rfl fun _ _ => Iff.rfl
  rw [← List.append_nil written] at books ⊢
  apply told.change more known books (told.works.setOut absent)
  · intro other different
    exact ⟨Working.task?_setOut_of_ne different, rfl, rfl⟩
  · rw [Working.task?_setOut_self absent, unloaded]
    exact .begun held runtime text own asked
  · exact fun _ _ => unanswered

variable {call : CallId} {held : Option RuntimeCache.BuildId} {rest : Activity World TurnReply}

/-- A call that has a task has been asked for. -/
theorem known (told : Told scope thread actions rows state account written)
    (found : state.task? (.working call) = some (.working call held rest)) :
    call ∈ actions.filterMap caller? := by
  by_cases known : call ∈ actions.filterMap caller?
  · exact known
  · have absent := (told.unknown call known).1
    rw [found] at absent
    cases absent

/-- An invocation goes on, and may have loaded the thread. -/
theorem proceed (told : Told scope thread actions rows state account written)
    (more : actions ⊆ later) (found : state.task? (.working call) = some (.working call held rest))
    {piece : Activity World TurnReply × World} (unfinished : piece.1.result? = none)
    (same : World.rowsOf scope thread piece.2 = World.rowsOf scope thread state.world)
    {after : Account} (turns : after.turns = account.turns)
    (loaded : ∀ other, other ≠ call → after.loaded.lookup other = account.loaded.lookup other)
    (here : Standing scope thread later rows written call (some (.working call held piece.1))
      (after.loaded.lookup call)) :
    Told scope thread later rows (settle state call held piece) after written := by
  rw [settle_eq]
  have answers (other : CallId) :
      (state.moveOn call held piece).answer? other = state.answer? other := by
    rw [Working.answer?_moveOn, unfinished, Option.map_none, ite_self, Option.or_none]
  have books : Books scope thread later rows (state.moveOn call held piece) after.turns written := by
    rw [turns]
    refine told.books.quiet more ?_ fun other output => by rw [answers]
    rw [Working.world_moveOn]
    exact same
  have task : (state.moveOn call held piece).task? (.working call) =
      some (.working call held piece.1) := by
    rw [Working.task?_moveOn_self told.works found]
    unfold RuntimeCache.State.leftOver
    rw [unfinished]
    rfl
  rw [← List.append_nil written] at books here ⊢
  apply told.change more (List.filterMap_subset _ more (told.known found)) books told.works.moveOn
  · intro other different
    exact ⟨Working.task?_moveOn_of_ne different, answers other, loaded other different⟩
  · rw [task]
    exact here
  · intro _ _
    rw [answers]
    exact told.unanswered call _ found

/-- An invocation ends. -/
theorem finish (told : Told scope thread actions rows state account written)
    (more : actions ⊆ later) (found : state.task? (.working call) = some (.working call held rest))
    {world : World} {after : Account} {added : List CheckpointRow} {reply : TurnReply}
    (books : Books scope thread later rows (settle state call held (.done reply, world))
      after.turns (written ++ added))
    (loaded : ∀ other, other ≠ call → after.loaded.lookup other = account.loaded.lookup other) :
    Told scope thread later rows (settle state call held (.done reply, world)) after
      (written ++ added) := by
  have gone : (settle state call held (.done reply, world)).task? (.working call) = none := by
    rw [settle_eq, Working.task?_moveOn_self told.works found]
    rfl
  apply told.change more (List.filterMap_subset _ more (told.known found)) books
  · rw [settle_eq]
    exact told.works.moveOn
  · intro other different
    refine ⟨?_, ?_, loaded other different⟩
    · rw [settle_eq]
      exact Working.task?_moveOn_of_ne different
    · rw [answer?_settle, if_neg different, Option.or_none]
  · rw [gone]
    exact .idle _
  · intro task present
    rw [gone] at present
    cases present

/-- An invocation fails. -/
theorem fail (told : Told scope thread actions rows state account written)
    (more : actions ⊆ later) (found : state.task? (.working call) = some (.working call held rest))
    {world : World}
    (same : World.rowsOf scope thread world = World.rowsOf scope thread state.world)
    {after : Account} (turns : after.turns = account.turns)
    (loaded : ∀ other, other ≠ call → after.loaded.lookup other = account.loaded.lookup other)
    (fault : Fault) :
    Told scope thread later rows (settle state call held (.done (.error fault), world)) after
      written := by
  rw [← List.append_nil written]
  refine told.finish more found ?_ loaded
  rw [List.append_nil, turns]
  refine told.books.quiet more same fun other output => ?_
  rw [answer?_settle]
  by_cases equal : other = call
  · subst equal
    rw [told.unanswered other _ found, if_pos rfl, Option.none_or]
    constructor <;> rintro ⟨⟩
  · rw [if_neg equal, Option.or_none]

end Told

variable {builder : RuntimeCache.Builder World CompiledRuntime Resource} {call : CallId}
  {held : Option RuntimeCache.BuildId} {rest : Activity World TurnReply}

namespace Told

/-- A piece of an invocation that has loaded the thread and does not save it. -/
theorem uneventful (told : Told scope thread actions rows state account written)
    (more : actions ⊆ later) (found : state.task? (.working call) = some (.working call held rest))
    {text : String} {seen : Nat} {base : ThreadState}
    {piece : Activity World TurnReply × World}
    (uneventful : Uneventful scope thread text base state.world piece)
    (asked : Asked scope thread later call text) (saw : Saw rows written seen base)
    {after : Account} (turns : after.turns = account.turns)
    (loaded : ∀ other, other ≠ call → after.loaded.lookup other = account.loaded.lookup other)
    (here : after.loaded.lookup call = some (seen, base)) :
    Told scope thread later rows (settle state call held piece) after written := by
  rcases piece with ⟨left, world⟩
  rcases uneventful with ⟨same, standing⟩
  rcases standing with ⟨fault, failed⟩ | underway
  · change left = _ at failed
    subst failed
    exact told.fail more found same turns loaded fault
  · change Underway scope thread text base left at underway
    have standing : Standing scope thread later rows written call
        (some (.working call held left)) (after.loaded.lookup call) :=
      here ▸ .underway held text left seen base asked saw underway
    have unfinished : left.result? = none := by
      rcases underway.pauses with ⟨deadline, ready, next, rfl⟩
      rfl
    exact told.proceed more found unfinished same turns loaded standing

/-- What an invocation loads is the state after the turns that have been saved. -/
theorem saw (told : Told scope thread actions rows state account written)
    {begins : Option ThreadState}
    (loaded : state.world.database.load scope thread = .ok begins) :
    Saw rows written account.turns.length (begins.getD {}) := by
  have rowsNow : state.world.database.rowsOf scope thread = rows.map (· ++ written) :=
    told.books.rowsNow
  rw [Database.load_eq, rowsNow] at loaded
  refine ⟨told.books.length ▸ Nat.le_refl _, ?_⟩
  cases rows with
  | none => cases loaded
  | some first =>
      refine ⟨first, begins, rfl, ?_, rfl⟩
      rw [← told.books.length, List.take_length]
      exact loaded

/-- The first piece of an invocation. -/
theorem load (told : Told scope thread actions rows state account written)
    (more : actions ⊆ later) {runtime : CompiledRuntime} {text : String}
    (found : state.task? (.working call) =
      some (.working call held (runtime.invoke thread text)))
    (unloaded : account.loaded.lookup call = none)
    (own : runtime.checkpoints.scope = scope) (asked : Asked scope thread actions call text) :
    let next := RuntimeCache.State.step builder state (.resume (.working call))
    Told scope thread later rows next
      (account.observe scope thread state next (.resume (.working call))) written := by
  intro next
  have ready : (runtime.invoke thread text).isReady state.now state.world = true := by
    rw [CompiledRuntime.invoke_eq]
    rfl
  have stepped : next = settle state call held _ :=
    (told.works.step_ready found ready).trans (settle_eq _ _ _ _).symm
  have others (other : CallId) (different : other ≠ call) :
      (account.loaded ++ [(call, account.turns.length, present scope thread state.world)]).lookup
        other = account.loaded.lookup other := by
    rw [RuntimeCache.State.lookup_concat, if_neg different, Option.or_none]
  rw [Account.observe_first found unloaded, stepped]
  have first := CompiledRuntime.invoke_resume own thread text state.now state.world
  rcases first with ⟨⟨fault, failed⟩, same⟩ | ⟨begins, loaded, uneventful⟩
  · rcases piece : (runtime.invoke thread text).resume state.now state.world with ⟨left, world⟩
    rw [piece] at failed same
    change left = _ at failed
    subst failed
    refine told.fail more found same ?_ others fault
    rfl
  · have base : present scope thread state.world = begins.getD {} := by
      rw [present, loaded]
    rw [base] at others ⊢
    refine told.uneventful more found uneventful (asked.mono more) (told.saw loaded) rfl others ?_
    rw [RuntimeCache.State.lookup_concat, unloaded, if_pos rfl, Option.none_or]

/-- The last piece of an invocation that succeeds. -/
theorem save (told : Told scope thread actions rows state account written)
    (more : actions ⊆ later) (found : state.task? (.working call) = some (.working call held rest))
    {text : String} {seen : Nat} {base : ThreadState}
    {piece : Activity World TurnReply × World} {output : RunOutput} {before : List CheckpointRow}
    {row : CheckpointRow}
    (successful : Successful scope thread text base state.world piece output before row)
    (asked : Asked scope thread later call text) (saw : Saw rows written seen base) :
    Told scope thread later rows (settle state call held piece)
      { account with turns := account.turns ++ [⟨call, seen, base, output⟩] }
      (written ++ [row]) := by
  rcases piece with ⟨left, world⟩
  rcases successful with ⟨done, begun, beforeEq, follows, text, afterEq⟩
  change left = _ at done
  subst done
  have rowsNow := told.books.rowsNow
  rw [beforeEq] at rowsNow
  cases rows with
  | none => cases rowsNow
  | some first =>
      cases rowsNow
      refine told.finish more found ?_ fun _ _ => rfl
      have unanswered := told.unanswered call _ found
      have place : written.length = account.turns.length := told.books.length
      refine told.books.save more ⟨call, seen, base, output⟩ row unanswered ?_ ?_ ?_ ?_
      · rw [answer?_settle, unanswered, if_pos rfl, Option.none_or]
      · intro other different
        rw [answer?_settle, if_neg different, Option.or_none]
      · rw [Option.map_some, ← List.append_assoc]
        exact afterEq
      · refine ⟨place ▸ saw.1, saw.grow [row], ⟨first, row, rfl, ?_, ?_, text⟩, ?_⟩
        · rw [← place, List.getElem?_concat_length]
        · rw [← place, List.take_left]
          exact follows
        · exact ⟨_, asked, begun⟩

/-- A piece of an invocation that has loaded the thread before. -/
theorem goOn (told : Told scope thread actions rows state account written)
    (more : actions ⊆ later) (found : state.task? (.working call) = some (.working call held rest))
    {text : String} {seen : Nat} {base : ThreadState}
    (loaded : account.loaded.lookup call = some (seen, base))
    (asked : Asked scope thread actions call text) (saw : Saw rows written seen base)
    (underway : Underway scope thread text base rest) :
    let next := RuntimeCache.State.step builder state (.resume (.working call))
    ∃ added, Told scope thread later rows next
      (account.observe scope thread state next (.resume (.working call))) (written ++ added) := by
  intro next
  have unanswered := told.unanswered call _ found
  by_cases ready : rest.isReady state.now state.world
  · have stepped : next = settle state call held _ :=
      (told.works.step_ready found ready).trans (settle_eq _ _ _ _).symm
    rcases underway.resume state.now state.world with
      uneventful | ⟨output, before, row, successful⟩
    · have advanced := told.uneventful more found uneventful (asked.mono more) saw rfl
        (fun _ _ => rfl) loaded
      -- An answer would be that of a turn, and no turn has been saved in this step.
      have silent (output : RunOutput) : next.answer? call ≠ some (.reply (.ok output)) := by
        intro answered
        rw [stepped] at answered
        have earlier := (told.books.answered call output).mpr
          ((advanced.books.answered call output).mp answered)
        rw [unanswered] at earlier
        cases earlier
      rw [Account.observe_silent found loaded silent, stepped]
      exact ⟨[], (List.append_nil written).symm ▸ advanced⟩
    · have saved := told.save more found successful (asked.mono more) saw
      have answered : next.answer? call = some (.reply (.ok output)) := by
        rw [stepped]
        exact (saved.books.answered call output).mpr
          ⟨_, List.mem_append_right _ (List.mem_singleton.mpr rfl), rfl, rfl⟩
      rw [Account.observe_saved found loaded answered, stepped]
      exact ⟨[row], saved⟩
  · -- The model or a tool has not answered yet.
    have idle : next = state := by
      apply told.works.step_idle
      intro held' rest' found'
      rw [found] at found'
      cases found'
      exact Bool.of_not_eq_true ready
    have silent (output : RunOutput) : next.answer? call ≠ some (.reply (.ok output)) := by
      intro answered
      rw [idle, unanswered] at answered
      cases answered
    rw [Account.observe_silent found loaded silent, idle]
    exact ⟨[], (List.append_nil written).symm ▸ told.calm more rfl rfl rfl rfl⟩

/-- An invocation's turn to go on. -/
theorem resume (told : Told scope thread actions rows state account written)
    (more : actions ⊆ later) (name : TaskName) :
    let next := RuntimeCache.State.step builder state (.resume name)
    ∃ added, Told scope thread later rows next
      (account.observe scope thread state next (.resume name)) (written ++ added) := by
  intro next
  cases found : state.task? name with
  | none =>
      have idle : next = state := by
        refine RuntimeCache.State.step_of_perform ?_ told.undeferred
        unfold RuntimeCache.State.perform
        dsimp only
        rw [found]
      have unobserved : account.observe scope thread state next (.resume name) = account := by
        unfold Account.observe
        split
        · rename_i call same
          cases same
          rw [found]
        · rfl
      rw [unobserved, idle]
      exact ⟨[], (List.append_nil written).symm ▸ told.calm more rfl rfl rfl rfl⟩
  | some task =>
      rcases told.working task (RuntimeCache.State.mem_of_task? found) with ⟨call, held, rest, rfl⟩
      obtain rfl : .working call = name := RuntimeCache.State.task?_name found
      have standing := told.standing call
      rw [found] at standing
      cases loaded : account.loaded.lookup call with
      | none =>
          rw [loaded] at standing
          cases standing with
          | begun held runtime text own asked =>
              exact ⟨[], (List.append_nil written).symm ▸ told.load more found loaded own asked⟩
      | some load =>
          rw [loaded] at standing
          cases standing with
          | underway held text rest seen base asked saw underway =>
              exact told.goOn more found loaded asked saw underway

/-- What an account tells stays true with every action. -/
theorem step (told : Told scope thread actions rows state account written)
    {action : Action TurnReply} (onThread : OnThread scope thread action)
    (fresh : ∀ call, caller? action = some call → call ∉ actions.filterMap caller?) :
    let next := RuntimeCache.State.step builder state action
    ∃ added, Told scope thread (actions ++ [action]) rows next
      (account.observe scope thread state next action) (written ++ added) := by
  have more : actions ⊆ actions ++ [action] := List.subset_append_left _ _
  have last : action ∈ actions ++ [action] :=
    List.mem_append_right _ (List.mem_singleton.mpr rfl)
  have unchanged {next : State TurnReply} :
      Told scope thread (actions ++ [action]) rows next account written →
        ∃ added, Told scope thread (actions ++ [action]) rows next account (written ++ added) :=
    fun calm => ⟨[], (List.append_nil written).symm ▸ calm⟩
  cases onThread with
  | resume name => exact told.resume more name
  | elapse duration =>
      have stepped : RuntimeCache.State.step builder state (.elapse duration) =
          state.elapse duration :=
        RuntimeCache.State.step_of_perform rfl told.undeferred
      apply unchanged
      rw [stepped]
      exact told.calm more rfl rfl rfl rfl
  | edit change spares =>
      have stepped : RuntimeCache.State.step builder state (.edit change) =
          { state with world := change state.world } :=
        RuntimeCache.State.step_of_perform rfl told.undeferred
      apply unchanged
      rw [stepped]
      exact told.calm more (spares state.world) rfl rfl rfl
  | invoke call held runtime text own =>
      apply unchanged
      by_cases allowed : held.all state.isHeld
      · have begun := told.begin more (fresh call rfl)
          (List.mem_filterMap.mpr ⟨_, last, rfl⟩) held own ⟨held, runtime, own, last⟩
        have stepped : RuntimeCache.State.perform builder state
            (.work call held (runtime.invoke thread text)) =
              state.spawn (.working call held (runtime.invoke thread text)) := by
          unfold RuntimeCache.State.perform
          dsimp only
          rw [if_pos allowed, CompiledRuntime.invoke_eq]
          rfl
        rw [RuntimeCache.State.step_of_perform stepped begun.undeferred]
        exact begun
      · have idle : RuntimeCache.State.step builder state
            (.work call held (runtime.invoke thread text)) = state :=
          RuntimeCache.State.step_of_perform (if_neg allowed) told.undeferred
        rw [idle]
        exact told.calm more rfl rfl rfl rfl

/-- Before anything has happened there is nothing to tell. -/
theorem start (scope thread : String) (world : World) :
    Told scope thread [] (World.rowsOf scope thread world) (Engine.start world) {} [] where
  books := {
    answered := fun call output => ⟨nofun, by rintro ⟨turn, ⟨⟩, _⟩⟩
    nodup := List.nodup_nil
    rowsNow := by cases same : World.rowsOf scope thread world <;> simp [Engine.start, same]
    length := rfl
    wrote := fun place turn found => by cases found }
  undeferred := rfl
  working := fun task member => by cases member
  once := fun name => Nat.zero_le 1
  standing := fun call => .idle none
  unanswered := fun call task found => rfl
  unknown := fun call absent => ⟨rfl, rfl, rfl⟩

/-- What an account tells is true of every run. -/
theorem run (told : Told scope thread actions rows state account written)
    (builder : RuntimeCache.Builder World CompiledRuntime Resource)
    (further : List (Action TurnReply))
    (onThread : ∀ action ∈ further, OnThread scope thread action)
    (distinct : ((actions ++ further).filterMap caller?).Nodup) :
    ∃ added, Told scope thread (actions ++ further) rows
      (RuntimeCache.State.run builder state further)
      (account.follow builder scope thread state further) (written ++ added) := by
  induction further generalizing actions state account written with
  | nil => exact ⟨[], by simpa [RuntimeCache.State.run, Account.follow] using told⟩
  | cons action further induction =>
      have fresh (call : CallId) (called : caller? action = some call) :
          call ∉ actions.filterMap caller? := by
        intro member
        rw [List.filterMap_append, List.nodup_append] at distinct
        have begun : call ∈ (action :: further).filterMap caller? :=
          List.mem_filterMap.mpr ⟨action, List.mem_cons_self, called⟩
        exact distinct.2.2 call member call begun rfl
      rcases told.step (onThread action List.mem_cons_self) fresh with ⟨first, stepped⟩
      have regrouped : actions ++ action :: further = actions ++ [action] ++ further := by
        rw [List.append_assoc, List.singleton_append]
      rw [regrouped] at distinct ⊢
      rcases (induction stepped
          (fun other member => onThread other (List.mem_cons_of_mem _ member)) distinct) with
        ⟨added, after⟩
      exact ⟨first ++ added, List.append_assoc written first added ▸ after⟩

end Told

end Engine

end AssistantEngine
