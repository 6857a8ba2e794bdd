import AssistantEngine.Engine.Basic
import AssistantEngine.Proofs.Engine.Turn

/-!
Invocations that take turns on one thread side by side, and an account of them: what each has
loaded, and the turns that were saved, in the order of the saves.
-/

namespace AssistantEngine

open RuntimeCache (CallId TaskName)

namespace Engine

abbrev TurnReply := Except Fault RunOutput

/-- An action of a run in which only invocations touch a thread. What else happens in the world
meanwhile leaves the rows of the thread as they are. -/
inductive OnThread (scope thread : String) : Action TurnReply → Prop where
  | invoke (call : CallId) (held : Option RuntimeCache.BuildId) (runtime : CompiledRuntime)
      (text : String) (own : runtime.checkpoints.scope = scope) :
      OnThread scope thread (.work call held (runtime.invoke thread text))
  | resume (task : TaskName) : OnThread scope thread (.resume task)
  | elapse (duration : Time) : OnThread scope thread (.elapse duration)
  | edit (change : World → World)
      (spares : ∀ world,
        World.rowsOf scope thread (change world) = World.rowsOf scope thread world) :
      OnThread scope thread (.edit change)

/-- The call that an action starts to work for. -/
def caller? : Action TurnReply → Option CallId
  | .work call _ _ => some call
  | _ => none

/-- A call has been asked to invoke a runtime with a text. -/
def Asked (scope thread : String) (actions : List (Action TurnReply)) (call : CallId)
    (text : String) : Prop :=
  ∃ held, ∃ runtime : CompiledRuntime, runtime.checkpoints.scope = scope ∧
    .work call held (runtime.invoke thread text) ∈ actions

/-! ## The account of a run -/

/-- An invocation that has saved its thread. -/
structure Turn where
  call : CallId
  /-- How many turns had been saved when it loaded the thread. -/
  seen : Nat
  /-- The state that it loaded. -/
  base : ThreadState
  output : RunOutput

/-- The state that was saved. -/
def Turn.state (turn : Turn) : ThreadState := turn.output.after turn.base

structure Account where
  /-- What the invocations have loaded, and how many turns had been saved by then. -/
  loaded : List (CallId × Nat × ThreadState) := []
  turns : List Turn := []

/-- The state that an invocation would begin with. -/
def present (scope thread : String) (world : World) : ThreadState :=
  match world.database.load scope thread with
  | .ok found => found.getD {}
  | .error _ => {}

namespace Account

/-- A call that goes on for the first time loads the thread. One that has then an output has
saved it. -/
def observe (scope thread : String) (account : Account) (before after : State TurnReply) :
    Action TurnReply → Account
  | .resume (.working call) =>
    match before.task? (.working call), account.loaded.lookup call with
    | none, _ => account
    | some _, none =>
      { account with
        loaded := account.loaded ++
          [(call, account.turns.length, present scope thread before.world)] }
    | some _, some (seen, base) =>
      match after.answer? call with
      | some (.reply (.ok output)) =>
        { account with turns := account.turns ++ [⟨call, seen, base, output⟩] }
      | _ => account
  | _ => account

/-- The account of a run, on top of an earlier one. -/
def follow (builder : RuntimeCache.Builder World CompiledRuntime Resource)
    (scope thread : String) (state : State TurnReply) (account : Account) :
    List (Action TurnReply) → Account
  | [] => account
  | action :: actions =>
    let next := RuntimeCache.State.step builder state action
    follow builder scope thread next (account.observe scope thread state next action) actions

end Account

/-! ## What an account says -/

/-- A state was loaded when so many turns had been saved. -/
def Saw (rows : Option (List CheckpointRow)) (written : List CheckpointRow) (seen : Nat)
    (base : ThreadState) : Prop :=
  seen ≤ written.length ∧ ∃ first found, rows = some first ∧
    CheckpointRow.state? (first ++ written.take seen) = .ok found ∧ found.getD {} = base

/-- A turn has written the row at its place: the state that it had loaded and its new messages,
of which the user's is the first. -/
def Wrote (scope thread : String) (actions : List (Action TurnReply))
    (rows : Option (List CheckpointRow)) (written : List CheckpointRow) (place : Nat)
    (turn : Turn) : Prop :=
  turn.seen ≤ place ∧ Saw rows written turn.seen turn.base ∧
    (∃ first row, rows = some first ∧ written[place]? = some row ∧
      CheckpointRow.Follows (first ++ written.take place) row ∧
      row.state = turn.state.toJson.compact) ∧
    ∃ text, Asked scope thread actions turn.call text ∧ [.user text] <+: turn.output.messages

/-- The turns of an account are the invocations that succeeded, and the rows they have written
are the new rows of the thread, one for each. -/
structure Books (scope thread : String) (actions : List (Action TurnReply))
    (rows : Option (List CheckpointRow)) (state : State TurnReply) (turns : List Turn)
    (written : List CheckpointRow) : Prop where
  answered : ∀ call output, state.answer? call = some (.reply (.ok output)) ↔
    ∃ turn ∈ turns, turn.call = call ∧ turn.output = output
  nodup : (turns.map (·.call)).Nodup
  rowsNow : World.rowsOf scope thread state.world = rows.map (· ++ written)
  length : written.length = turns.length
  wrote : ∀ place turn, turns[place]? = some turn →
    Wrote scope thread actions rows written place turn

variable {scope thread : String} {actions later : List (Action TurnReply)}
  {rows : Option (List CheckpointRow)} {written : List CheckpointRow}
  {state next : State TurnReply} {account : Account}

/-! ## What is observed -/

variable {call : CallId} {held : Option RuntimeCache.BuildId} {rest : Activity World TurnReply}

namespace Account

theorem observe_first (found : state.task? (.working call) = some (.working call held rest))
    (unloaded : account.loaded.lookup call = none) (after : State TurnReply) :
    account.observe scope thread state after (.resume (.working call)) =
      { account with
        loaded := account.loaded ++
          [(call, account.turns.length, present scope thread state.world)] } := by
  unfold observe
  dsimp only
  rw [found, unloaded]

theorem observe_silent (found : state.task? (.working call) = some (.working call held rest))
    {seen : Nat} {base : ThreadState} (loaded : account.loaded.lookup call = some (seen, base))
    {after : State TurnReply}
    (silent : ∀ output, after.answer? call ≠ some (.reply (.ok output))) :
    account.observe scope thread state after (.resume (.working call)) = account := by
  unfold observe
  dsimp only
  rw [found, loaded]
  dsimp only
  split
  · rename_i output answered
    exact absurd answered (silent output)
  · rfl

theorem observe_saved (found : state.task? (.working call) = some (.working call held rest))
    {seen : Nat} {base : ThreadState} (loaded : account.loaded.lookup call = some (seen, base))
    {after : State TurnReply} {output : RunOutput}
    (answered : after.answer? call = some (.reply (.ok output))) :
    account.observe scope thread state after (.resume (.working call)) =
      { account with turns := account.turns ++ [⟨call, seen, base, output⟩] } := by
  unfold observe
  dsimp only
  rw [found, loaded]
  dsimp only
  rw [answered]

end Account

/-! ## What stays true while a run goes on -/

theorem Asked.mono {call : CallId} {text : String} (asked : Asked scope thread actions call text)
    (more : actions ⊆ later) : Asked scope thread later call text := by
  rcases asked with ⟨held, runtime, own, member⟩
  exact ⟨held, runtime, own, more member⟩

theorem Saw.grow {seen : Nat} {base : ThreadState} (saw : Saw rows written seen base)
    (added : List CheckpointRow) : Saw rows (written ++ added) seen base := by
  rcases saw with ⟨within, first, found, begins, read, same⟩
  refine ⟨?_, first, found, begins, ?_, same⟩
  · rw [List.length_append]
    omega
  · rw [List.take_append_of_le_length within]
    exact read

theorem Wrote.grow {place : Nat} {turn : Turn}
    (wrote : Wrote scope thread actions rows written place turn) (more : actions ⊆ later)
    (added : List CheckpointRow) :
    Wrote scope thread later rows (written ++ added) place turn := by
  rcases wrote with ⟨earlier, saw, ⟨first, row, begins, found, follows, text⟩, user, asked, begun⟩
  have within : place < written.length := (List.getElem?_eq_some_iff.mp found).1
  refine ⟨earlier, saw.grow added, ⟨first, row, begins, ?_, ?_, text⟩, user, asked.mono more, begun⟩
  · rw [List.getElem?_append_left within]
    exact found
  · rw [List.take_append_of_le_length (Nat.le_of_lt within)]
    exact follows

namespace Books

variable {turns : List Turn}

/-- A change that saves no turn. -/
theorem quiet (books : Books scope thread actions rows state turns written)
    (more : actions ⊆ later)
    (same : World.rowsOf scope thread next.world = World.rowsOf scope thread state.world)
    (answers : ∀ call output, next.answer? call = some (.reply (.ok output)) ↔
      state.answer? call = some (.reply (.ok output))) :
    Books scope thread later rows next turns written where
  answered call output := (answers call output).trans (books.answered call output)
  nodup := books.nodup
  rowsNow := same.trans books.rowsNow
  length := books.length
  wrote place turn found := by
    have grown := (books.wrote place turn found).grow more []
    rwa [List.append_nil] at grown

/-- A turn is saved. -/
theorem save (books : Books scope thread actions rows state turns written)
    (more : actions ⊆ later) (turn : Turn) (row : CheckpointRow)
    (unanswered : state.answer? turn.call = none)
    (here : next.answer? turn.call = some (.reply (.ok turn.output)))
    (elsewhere : ∀ call, call ≠ turn.call → next.answer? call = state.answer? call)
    (rowsNow : World.rowsOf scope thread next.world = rows.map (· ++ (written ++ [row])))
    (wrote : Wrote scope thread later rows (written ++ [row]) turns.length turn) :
    Books scope thread later rows next (turns ++ [turn]) (written ++ [row]) where
  answered call output := by
    by_cases same : call = turn.call
    · subst same
      have absent : ¬ ∃ earlier ∈ turns, earlier.call = turn.call ∧ earlier.output = output := by
        intro present
        have answered := (books.answered turn.call output).mpr present
        rw [unanswered] at answered
        cases answered
      rw [here]
      constructor
      · rintro ⟨⟩
        exact ⟨turn, List.mem_append_right _ (List.mem_singleton.mpr rfl), rfl, rfl⟩
      · rintro ⟨found, member, called, given⟩
        rcases List.mem_append.mp member with old | new
        · exact absurd ⟨found, old, called, given⟩ absent
        · rw [← given, List.mem_singleton.mp new]
    · rw [elsewhere call same, books.answered call output]
      constructor
      · rintro ⟨found, member, given⟩
        exact ⟨found, List.mem_append_left _ member, given⟩
      · rintro ⟨found, member, called, given⟩
        rcases List.mem_append.mp member with old | new
        · exact ⟨found, old, called, given⟩
        · rw [List.mem_singleton.mp new] at called
          exact absurd called.symm same
  nodup := by
    rw [List.map_append, List.nodup_append]
    refine ⟨books.nodup, List.pairwise_singleton _ _, ?_⟩
    intro call member last single equal
    rw [List.map_singleton, List.mem_singleton] at single
    rcases List.mem_map.mp member with ⟨found, present, called⟩
    have answered := (books.answered call found.output).mpr ⟨found, present, called, rfl⟩
    rw [equal, single, unanswered] at answered
    cases answered
  rowsNow := rowsNow
  length := by
    rw [List.length_append, List.length_append, books.length]
    rfl
  wrote place found present := by
    rcases Nat.lt_or_ge place turns.length with old | new
    · rw [List.getElem?_append_left old] at present
      exact (books.wrote place found present).grow more [row]
    · have bound := (List.getElem?_eq_some_iff.mp present).1
      rw [List.length_append, List.length_singleton] at bound
      have last : place = turns.length := by omega
      subst last
      rw [List.getElem?_concat_length] at present
      cases present
      exact wrote

end Books

end Engine

end AssistantEngine
