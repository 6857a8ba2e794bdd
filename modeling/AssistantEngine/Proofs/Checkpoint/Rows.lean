import AssistantEngine.Engine.Checkpoints

/-!
The rows of one thread. What a thread's store loads and what it saves depends on nothing else,
and a row that was saved becomes the thread's present one.
-/

namespace AssistantEngine

/-- A stored state reads back as it was written. -/
def ThreadState.ReadsBack (state : ThreadState) : Prop :=
  Reading.ofJsonText? ThreadState.read state.toJson.compact = some state

instance (state : ThreadState) : Decidable state.ReadsBack := inferInstanceAs (Decidable (_ = _))

/-- The rows of a thread, oldest first, if there is a table. -/
def Database.rowsOf (database : Database) (scope thread : String) : Option (List CheckpointRow) :=
  database.table.map (·.history scope thread)

/-- The rows of a thread in a world. -/
def World.rowsOf (scope thread : String) (world : World) : Option (List CheckpointRow) :=
  world.database.rowsOf scope thread

namespace CheckpointRow

/-- The row that holds the present state. -/
def latest? (rows : List CheckpointRow) : Option CheckpointRow :=
  rows.foldl CheckpointTable.later none

/-- The state that rows hold at present. -/
def state? (rows : List CheckpointRow) : Except Fault (Option ThreadState) :=
  match latest? rows with
  | none => .ok none
  | some row =>
    match Reading.ofJsonText? ThreadState.read row.state with
    | some state => .ok (some state)
    | none => .error (.internal "JSON error")

/-- A row that was saved after others becomes the present one. -/
def Follows (rows : List CheckpointRow) (row : CheckpointRow) : Prop :=
  ∀ latest, latest? rows = some latest → latest.sequence < row.sequence

theorem Follows.latest?_append {rows : List CheckpointRow} {row : CheckpointRow}
    (follows : Follows rows row) : latest? (rows ++ [row]) = some row := by
  unfold latest?
  rw [List.foldl_append]
  cases found : rows.foldl CheckpointTable.later none with
  | none => rfl
  | some latest =>
      have greater : latest.sequence < row.sequence := follows latest found
      simp only [List.foldl_cons, List.foldl_nil, CheckpointTable.later, if_pos greater]

/-- The state of the row that was saved last, when it reads back. -/
theorem Follows.state?_append {rows : List CheckpointRow} {row : CheckpointRow}
    {state : ThreadState} (follows : Follows rows row) (written : row.state = state.toJson.compact)
    (readsBack : state.ReadsBack) : state? (rows ++ [row]) = .ok (some state) := by
  unfold state?
  rw [follows.latest?_append]
  simp only [written]
  rw [readsBack]

end CheckpointRow

theorem CheckpointTable.history_append (table : CheckpointTable) (scope thread state : String) :
    ∃ row, CheckpointRow.Follows (table.history scope thread) row ∧ row.state = state ∧
      (table.append scope thread state).history scope thread =
        table.history scope thread ++ [row] := by
  refine ⟨{ scope := scope, thread := thread, sequence := table.nextSequence scope thread
            state := state, createdAt := table.nextTime }, ?_, rfl, ?_⟩
  · intro latest found
    have present : table.latest? scope thread = some latest := found
    simp only [CheckpointTable.nextSequence, present]
    omega
  · unfold CheckpointTable.append CheckpointTable.history
    simp

namespace Database

variable {database : Database} {scope thread : String}

theorem load_eq : database.load scope thread =
    match database.rowsOf scope thread with
    | none => .error noTable
    | some rows => CheckpointRow.state? rows := by
  unfold load rowsOf
  cases database.table with
  | none => rfl
  | some table => rfl

/-- Saving a state adds one row to its thread, or else it fails. -/
theorem save_ok {state : ThreadState} {sequence : Int} {saved : Database}
    (done : database.save scope thread state = .ok (sequence, saved)) :
    ∃ rows row, database.rowsOf scope thread = some rows ∧ CheckpointRow.Follows rows row ∧
      row.state = state.toJson.compact ∧ saved.rowsOf scope thread = some (rows ++ [row]) := by
  unfold save at done
  cases found : database.table with
  | none =>
      rw [found] at done
      cases done
  | some table =>
      rw [found] at done
      dsimp only at done
      split at done
      · cases done
      · cases done
        rcases table.history_append scope thread state.toJson.compact with
          ⟨row, follows, written, grown⟩
        refine ⟨table.history scope thread, row, ?_, follows, written, ?_⟩
        · rw [rowsOf, found]
          rfl
        · exact congrArg some grown

/-- One row has been added to the table, to this thread. -/
def Adds (scope thread : String) (before after : Database) : Prop :=
  ∃ table row, before.table = some table ∧
    after.table = some { rows := table.rows ++ [row], nextTime := table.nextTime + 1 } ∧
    row.scope = scope ∧ row.thread = thread

theorem adds_of_save {state : ThreadState} {sequence : Int} {saved : Database}
    (done : database.save scope thread state = .ok (sequence, saved)) :
    Adds scope thread database saved := by
  unfold save at done
  cases found : database.table with
  | none =>
      rw [found] at done
      cases done
  | some table =>
      rw [found] at done
      dsimp only at done
      split at done
      · cases done
      · cases done
        exact ⟨table, _, found, rfl, rfl, rfl⟩

/-- A row of one thread is none of another. -/
theorem Adds.rowsOf_other {before after : Database} (adds : Adds scope thread before after)
    {elsewhere other : String} (different : elsewhere ≠ scope ∨ other ≠ thread) :
    after.rowsOf elsewhere other = before.rowsOf elsewhere other := by
  rcases adds with ⟨table, row, stored, grown, own, named⟩
  unfold rowsOf
  rw [stored, grown]
  unfold CheckpointTable.history
  have apart : row.scope = elsewhere → row.thread ≠ other := by
    intro here same
    cases different with
    | inl scopes => exact scopes (here.symm.trans own)
    | inr threads => exact threads (same.symm.trans named)
  simpa [List.filter_append] using apart

end Database

end AssistantEngine
