import AssistantEngine.Proofs.Engine.Invocation

/-!
Overlapping invocations of one thread. An invocation saves what it had loaded together with its
own messages, and so a turn that others save meanwhile is not in what it saves. The present
state of a thread holds the turns of one line: the last that was saved, the last that this one
had seen, and so on.
-/

namespace AssistantEngine

open RuntimeCache (CallId)

namespace Engine

/-! ## The line of a state -/

/-- The turns that the state after so many turns rests on, the latest at the end. -/
def lineage (turns : List Turn) (count : Nat) : List Turn :=
  match count with
  | 0 => []
  | last + 1 =>
    match turns[last]? with
    | none => []
    | some turn => lineage turns (min turn.seen last) ++ [turn]
termination_by count
decreasing_by omega

/-- No turn had seen more turns than were saved before it. -/
def Ordered (turns : List Turn) : Prop :=
  ∀ place (turn : Turn), turns[place]? = some turn → turn.seen ≤ place

/-- Every turn had seen all those that were saved before it: none was saved between the loading
and the saving of another. -/
def Serial (turns : List Turn) : Prop :=
  ∀ place (turn : Turn), turns[place]? = some turn → turn.seen = place

/-- All turns that were saved after the one at a place had seen it. -/
def Noticed (turns : List Turn) (place : Nat) : Prop :=
  ∀ later (other : Turn), place < later → turns[later]? = some other → place < other.seen

variable {turns : List Turn}

theorem lineage_succ {last : Nat} {turn : Turn} (found : turns[last]? = some turn)
    (earlier : turn.seen ≤ last) :
    lineage turns (last + 1) = lineage turns turn.seen ++ [turn] := by
  rw [lineage]
  simp only [found, Nat.min_eq_left earlier]

/-- A turn that all later ones had seen is in the line. -/
theorem mem_lineage (ordered : Ordered turns) {place : Nat} {turn : Turn}
    (found : turns[place]? = some turn) (count : Nat) (within : place < count)
    (bounded : count ≤ turns.length)
    (noticed : ∀ later (other : Turn), place < later → later < count →
      turns[later]? = some other → place < other.seen) : turn ∈ lineage turns count := by
  induction count using Nat.strongRecOn with
  | ind count induction =>
  obtain ⟨last, rfl⟩ : ∃ last, count = last + 1 := ⟨count - 1, by omega⟩
  obtain ⟨final, present⟩ : ∃ final, turns[last]? = some final :=
    ⟨_, List.getElem?_eq_getElem (by omega)⟩
  have earlier := ordered last final present
  rw [lineage_succ present earlier]
  rcases Nat.lt_or_eq_of_le (Nat.le_of_lt_succ within) with before | same
  · -- The line of a later turn goes on with what that turn had seen, and it had seen ours.
    have seen := noticed last final before (Nat.lt_succ_self last) present
    refine List.mem_append_left _ (induction final.seen (by omega) seen (by omega) ?_)
    intro later other after inside
    exact noticed later other after (by omega)
  · subst same
    rw [found] at present
    cases present
    exact List.mem_append_right _ (List.mem_singleton.mpr rfl)

theorem length_lineage_le (ordered : Ordered turns) (count : Nat) :
    (lineage turns count).length ≤ count := by
  induction count using Nat.strongRecOn with
  | ind count induction =>
  cases count with
  | zero =>
      rw [lineage]
      exact Nat.le_refl 0
  | succ last =>
      cases found : turns[last]? with
      | none =>
          rw [lineage]
          simp [found]
      | some turn =>
          have earlier := ordered last turn found
          have shorter := induction turn.seen (by omega)
          rw [lineage_succ found earlier, List.length_append, List.length_singleton]
          omega

/-- A line leaves no turn out exactly when every turn had seen all those before it. -/
theorem lineage_eq_take_iff (ordered : Ordered turns) (count : Nat)
    (bounded : count ≤ turns.length) :
    lineage turns count = turns.take count ↔
      ∀ place (turn : Turn), place < count → turns[place]? = some turn → turn.seen = place := by
  induction count with
  | zero =>
      rw [lineage]
      exact ⟨fun _ place turn within => absurd within (Nat.not_lt_zero place), fun _ => rfl⟩
  | succ last induction =>
      obtain ⟨turn, found⟩ : ∃ turn, turns[last]? = some turn :=
        ⟨_, List.getElem?_eq_getElem (by omega)⟩
      have earlier := ordered last turn found
      have before := induction (by omega)
      have split : turns.take (last + 1) = turns.take last ++ [turn] := by
        rw [List.take_add_one, found]
        rfl
      rw [lineage_succ found earlier, split]
      constructor
      · intro whole place other within present
        -- The line is too short unless the last turn had seen all others.
        have lengths := congrArg List.length whole
        have shorter := length_lineage_le ordered turn.seen
        rw [List.length_append, List.length_append, List.length_take, List.length_singleton]
          at lengths
        have seen : turn.seen = last := by omega
        rcases Nat.lt_or_eq_of_le (Nat.le_of_lt_succ within) with inside | same
        · rw [seen] at whole
          exact before.mp (List.append_cancel_right whole) place other inside present
        · subst same
          rw [found] at present
          cases present
          exact seen
      · intro complete
        rw [complete last turn (Nat.lt_succ_self last) found]
        rw [before.mpr fun place other within => complete place other (by omega)]

/-! ## What a thread holds after its turns -/

variable {scope thread : String} {actions : List (Action TurnReply)}
  {rows : Option (List CheckpointRow)} {written : List CheckpointRow} {state : State TurnReply}

namespace Books

theorem ordered (books : Books scope thread actions rows state turns written) : Ordered turns :=
  fun place turn found => (books.wrote place turn found).1

/-- After a turn the thread holds the state that the turn has saved. -/
theorem state?_succ (books : Books scope thread actions rows state turns written) {place : Nat}
    {turn : Turn} (found : turns[place]? = some turn) (readsBack : turn.state.ReadsBack) :
    ∃ first, rows = some first ∧
      CheckpointRow.state? (first ++ written.take (place + 1)) = .ok (some turn.state) := by
  rcases books.wrote place turn found with ⟨-, -, ⟨first, row, begins, present, follows, text⟩, -⟩
  refine ⟨first, begins, ?_⟩
  rw [List.take_add_one, present, Option.toList_some, ← List.append_assoc]
  exact follows.state?_append text readsBack

/-- The messages after some turns are those there were before, and those of the line. -/
theorem messages_eq (books : Books scope thread actions rows state turns written)
    (readsBack : ∀ turn ∈ turns, turn.state.ReadsBack) {first : List CheckpointRow}
    (begins : rows = some first) (count : Nat) (bounded : count ≤ turns.length)
    {reached : Option ThreadState}
    (holds : CheckpointRow.state? (first ++ written.take count) = .ok reached) :
    ∃ found, CheckpointRow.state? first = .ok found ∧
      (reached.getD {}).messages =
        (found.getD {}).messages ++ (lineage turns count).flatMap (·.output.messages) := by
  -- A turn had seen fewer turns than there are once it is saved, so the induction goes back from
  -- a turn to what it had seen, and not to the turn that was saved before it.
  induction count using Nat.strongRecOn generalizing reached with
  | ind count induction =>
  cases count with
  | zero =>
      rw [List.take_zero, List.append_nil] at holds
      refine ⟨reached, holds, ?_⟩
      rw [lineage, List.flatMap_nil, List.append_nil]
  | succ last =>
      obtain ⟨turn, found⟩ : ∃ turn, turns[last]? = some turn :=
        ⟨_, List.getElem?_eq_getElem (by omega)⟩
      rcases books.state?_succ found
          (readsBack turn (List.mem_of_getElem? found)) with ⟨other, same, saved⟩
      rcases books.wrote last turn found with ⟨earlier, ⟨_, second, loaded, again, seen, base⟩, _⟩
      cases begins.symm.trans same
      cases begins.symm.trans again
      cases holds.symm.trans saved
      rcases induction turn.seen (by omega) (by omega) seen with ⟨start, initial, messages⟩
      refine ⟨start, initial, ?_⟩
      rw [lineage_succ found earlier, List.flatMap_append, ← List.append_assoc, ← messages, base,
        List.flatMap_singleton]
      rfl

end Books

/-! ## Two invocations that overlap -/

/-- A plain conversation with the model. -/
def plainChat : CompiledRuntime :=
  { workflowId := "chat", checkpoints := ⟨0, "chat"⟩, topology := .fallback "no workflow" }

/-- A world with an empty database and a model that always gives the same answer. -/
def plainWorld : World :=
  world { pluginDirectories := [] } {} (.memory {}) {}
    (ChatModel.ofList "script" [] { result := .ok (.assistant "(done)") })
    fun _ => .error (.internal "no servers")

/-- Both invocations load the thread before either of them saves it. -/
def overlap : List (Action TurnReply) :=
  [.work 0 none (plainChat.invoke "main" "first"), .work 1 none (plainChat.invoke "main" "second"),
    .resume (.working 0), .resume (.working 1), .resume (.working 0), .resume (.working 0),
    .resume (.working 1), .resume (.working 1)]

def noBuilder : RuntimeCache.Builder World CompiledRuntime Resource :=
  { build := fun _ => .done .panicked, release := fun _ => .done () }

/-- The state after both have ended. -/
def overlapped : State TurnReply := RuntimeCache.State.run noBuilder (start plainWorld) overlap

/-- The account of the two invocations that overlap. -/
def overlapTurns : List Turn :=
  (Account.follow noBuilder "chat" "main" (start plainWorld) {} overlap).turns

def outputOf? (state : State TurnReply) (call : CallId) : Option RunOutput :=
  match state.answer? call with
  | some (.reply (.ok output)) => some output
  | _ => none

theorem answer?_of_outputOf? {call : CallId} {output : RunOutput}
    (found : outputOf? state call = some output) :
    state.answer? call = some (.reply (.ok output)) := by
  unfold outputOf? at found
  split at found
  · rename_i given answered
    cases found
    exact answered
  · cases found

/-! ## What has become of the invocations -/

/-- What has become of the invocations of a thread. Each one that succeeded has added one row:
what it had loaded, and its own messages, the user's first. So the thread now holds what it held
at first and the turns of one line; a turn is in it if all later ones had seen it, and all turns
are in it exactly if none was saved between the loading and the saving of another. -/
theorem thread_holds_lineage (builder : RuntimeCache.Builder World CompiledRuntime Resource)
    (scope thread : String) (world : World) (actions : List (Action TurnReply))
    (onThread : ∀ action ∈ actions, OnThread scope thread action)
    (distinct : (actions.filterMap caller?).Nodup) :
    let state := RuntimeCache.State.run builder (start world) actions
    let turns := (Account.follow builder scope thread (start world) {} actions).turns
    (∃ written, Books scope thread actions (World.rowsOf scope thread world) state turns written) ∧
      ((∀ turn ∈ turns, turn.state.ReadsBack) → turns ≠ [] →
        ∃ found latest, world.database.load scope thread = .ok found ∧
          state.world.database.load scope thread = .ok (some latest) ∧
          latest.messages = (found.getD {}).messages ++
            (lineage turns turns.length).flatMap (·.output.messages)) ∧
      (∀ place turn, turns[place]? = some turn → Noticed turns place →
        turn ∈ lineage turns turns.length) ∧
      (lineage turns turns.length = turns ↔ Serial turns) := by
  intro state turns
  rcases (Told.start scope thread world).run builder actions onThread distinct with ⟨written, told⟩
  have books : Books scope thread actions (World.rowsOf scope thread world) state turns written :=
    told.books
  refine ⟨⟨written, books⟩, ?_, ?_, ?_⟩
  · intro readsBack nonempty
    obtain ⟨last, turn, length, found⟩ :
        ∃ last turn, turns.length = last + 1 ∧ turns[last]? = some turn := by
      have positive := List.length_pos_iff.mpr nonempty
      exact ⟨turns.length - 1, _, by omega, List.getElem?_eq_getElem (by omega)⟩
    rcases books.state?_succ found
        (readsBack turn (List.mem_of_getElem? found)) with ⟨first, begins, saved⟩
    have whole : written.take (last + 1) = written := by
      rw [← length, ← books.length, List.take_length]
    rcases books.messages_eq readsBack begins (last + 1)
        (Nat.le_of_eq length.symm) saved with ⟨initial, loaded, messages⟩
    rw [whole] at saved
    rw [← length] at messages
    refine ⟨initial, turn.state, ?_, ?_, messages⟩
    · have rowsThen : world.database.rowsOf scope thread = some first := begins
      rw [Database.load_eq, rowsThen]
      exact loaded
    · have rowsNow : state.world.database.rowsOf scope thread = some (first ++ written) := by
        have kept := books.rowsNow
        rw [begins] at kept
        exact kept
      rw [Database.load_eq, rowsNow]
      exact saved
  · intro place turn found noticed
    have within := (List.getElem?_eq_some_iff.mp found).1
    exact mem_lineage books.ordered found turns.length within (Nat.le_refl _)
      fun later other after _ => noticed later other after
  · have whole := lineage_eq_take_iff books.ordered turns.length (Nat.le_refl _)
    rw [List.take_length] at whole
    refine whole.trans ⟨fun complete place turn found => ?_, fun serial place turn _ found => ?_⟩
    · exact complete place turn (List.getElem?_eq_some_iff.mp found).1 found
    · exact serial place turn found

/-- Neither of the two has seen the other's turn, and the thread holds the line of the second. -/
theorem thread_holds_lineage_overlap :
    (∀ action ∈ overlap, OnThread "chat" "main" action) ∧ (overlap.filterMap caller?).Nodup ∧
      overlapTurns.map (fun turn => (turn.call, turn.seen)) = [(0, 0), (1, 0)] ∧
      ∃ found latest, plainWorld.database.load "chat" "main" = .ok found ∧
        overlapped.world.database.load "chat" "main" = .ok (some latest) ∧
        latest.messages = (found.getD {}).messages ++
          (lineage overlapTurns overlapTurns.length).flatMap (·.output.messages) := by
  have onThread : ∀ action ∈ overlap, OnThread "chat" "main" action := by
    simp only [overlap, List.forall_mem_cons]
    exact ⟨.invoke 0 none plainChat "first" rfl, .invoke 1 none plainChat "second" rfl, .resume _,
      .resume _, .resume _, .resume _, .resume _, .resume _, nofun⟩
  have distinct : (overlap.filterMap caller?).Nodup := by decide
  have told : overlapTurns.map (fun turn => (turn.call, turn.seen)) = [(0, 0), (1, 0)] := by
    decide +kernel
  have readsBack : ∀ turn ∈ overlapTurns, turn.state.ReadsBack := by decide +kernel
  have nonempty : overlapTurns ≠ [] := by
    intro empty
    rw [empty] at told
    cases told
  refine ⟨onThread, distinct, told, ?_⟩
  exact (thread_holds_lineage noBuilder "chat" "main" plainWorld overlap onThread distinct).2.1
    readsBack nonempty

/-- Invocations of one runtime on one thread may lose a turn although all of them succeed: the
first user message is in no state that the thread holds afterwards. -/
theorem overlap_loses_turn :
    ¬ ∀ (builder : RuntimeCache.Builder World CompiledRuntime Resource)
      (runtime : CompiledRuntime) (thread : String) (world : World)
      (actions : List (Action TurnReply)),
      (∀ action ∈ actions, (∃ call text, action = .work call none (runtime.invoke thread text)) ∨
        ∃ call, action = .resume (.working call)) →
      (actions.filterMap caller?).Nodup →
      (∀ call ∈ actions.filterMap caller?, ∃ output,
        (RuntimeCache.State.run builder (start world) actions).answer? call =
          some (.reply (.ok output))) →
      ∀ call output,
        (RuntimeCache.State.run builder (start world) actions).answer? call =
          some (.reply (.ok output)) →
        ∃ latest, (RuntimeCache.State.run builder (start world) actions).world.database.load
            runtime.checkpoints.scope thread = .ok (some latest) ∧
          ∀ message ∈ output.messages, message ∈ latest.messages := by
  intro claim
  have first : outputOf? overlapped 0 =
      some { messages := [.user "first", .assistant "(done)"], activeAssistant := none } := by
    decide +kernel
  have second : outputOf? overlapped 1 =
      some { messages := [.user "second", .assistant "(done)"], activeAssistant := none } := by
    decide +kernel
  have lost := claim noBuilder plainChat "main" plainWorld overlap ?_ (by decide) ?_ 0 _
    (answer?_of_outputOf? first)
  · rcases lost with ⟨latest, loaded, contains⟩
    have holds : overlapped.world.database.load "chat" "main" =
        .ok (some { messages := [.user "second", .assistant "(done)"] }) := by
      decide +kernel
    cases loaded.symm.trans holds
    have kept := contains (.user "first") List.mem_cons_self
    revert kept
    decide
  · simp [overlap]
  · intro call member
    have either : call = 0 ∨ call = 1 := by simpa [overlap, caller?] using member
    rcases either with rfl | rfl
    · exact ⟨_, answer?_of_outputOf? first⟩
    · exact ⟨_, answer?_of_outputOf? second⟩

end Engine

end AssistantEngine
