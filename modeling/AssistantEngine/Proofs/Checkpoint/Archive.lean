import Mathlib.Data.List.Induction
import Mathlib.Data.List.Nodup
import AssistantEngine.Proofs.Catalog
import AssistantEngine.Proofs.Checkpoint.Rows

/-!
The archive behind checkpoint stores: for every thread of every scope the states that it went
through. However many stores share a database, and whether or not they have been released, what
they answer can be read off the archive, and a store changes nothing but the thread it is asked
about.
-/

namespace AssistantEngine

/-! ## Using stores -/

inductive StoreUse where
  | ask (action : CheckpointAction)
  | release

namespace StoreUse

/-- The thread whose states may change. -/
def changed? : StoreUse → Option String
  | ask (.save thread _) => some thread
  | ask (.deleteThread thread) => some thread
  | _ => none

end StoreUse

/-- Uses a store once; answers nothing but to questions. -/
def CheckpointStore.use (store : CheckpointStore) (world : World) :
    StoreUse → Except Fault (Option CheckpointAnswer) × World
  | .ask action =>
    match world.database.perform store.scope action with
    | .ok (answer, database) => (.ok (some answer), { world with database := database })
    | .error fault => (.error fault, world)
  | .release => (.ok none, (store.release.advance 0 world).2)

/-- The world after stores have been used one after the other. -/
def World.afterUses (world : World) (uses : List (CheckpointStore × StoreUse)) : World :=
  uses.foldl (fun world entry => (entry.1.use world entry.2).2) world

/-! ## The archive -/

structure Archive where
  states : String → String → List ThreadState := fun _ _ => []
  /-- How many states were ever saved. -/
  saves : Nat := 0
  /-- Which of all these saves was the last one of a thread. -/
  lastSave : String → String → Nat := fun _ _ => 0

namespace Archive

def set {α : Type} (values : String → String → α) (scope thread : String) (value : α) :
    String → String → α :=
  fun other name => if other = scope ∧ name = thread then value else values other name

/-- A thread has as many states at most as there are row numbers. -/
abbrev HasRoom (archive : Archive) (scope thread : String) : Prop :=
  ((archive.states scope thread).length : Int) < Database.greatestSequence

def after (archive : Archive) (scope : String) : StoreUse → Archive
  | .ask (.save thread state) =>
    if archive.HasRoom scope thread then
      { states := set archive.states scope thread (archive.states scope thread ++ [state])
        saves := archive.saves + 1
        lastSave := set archive.lastSave scope thread (archive.saves + 1) }
    else archive
  | .ask (.deleteThread thread) => { archive with states := set archive.states scope thread [] }
  | _ => archive

def ofUses (uses : List (CheckpointStore × StoreUse)) : Archive :=
  uses.foldl (fun archive entry => archive.after entry.1.scope entry.2) {}

/-- The threads of a scope that have states, the one saved last in front. -/
structure Lists (archive : Archive) (scope : String) (names : List String) : Prop where
  once : names.Nodup
  complete : ∀ thread, thread ∈ names ↔ archive.states scope thread ≠ []
  recent : names.Pairwise fun first second =>
    archive.lastSave scope second < archive.lastSave scope first

/-- What a store of a scope has to answer. -/
def Answers (archive : Archive) (scope : String) :
    StoreUse → Except Fault (Option CheckpointAnswer) → Prop
  | .ask (.save thread _), answer =>
    answer =
      if archive.HasRoom scope thread then
        .ok (some (.saved ((archive.states scope thread).length + 1)))
      else .error Database.sequenceOverflow
  | .ask (.load thread), answer =>
    answer = .ok (some (.loaded (archive.states scope thread).getLast?))
  | .ask .threads, answer =>
    ∃ names, answer = .ok (some (.threads names)) ∧ archive.Lists scope names
  | .ask (.deleteThread thread), answer =>
    answer = .ok (some (.deleted (archive.states scope thread).length))
  | .release, answer => answer = .ok none

@[simp] theorem set_self {α : Type} (values : String → String → α) (scope thread : String)
    (value : α) : set values scope thread value scope thread = value :=
  if_pos ⟨rfl, rfl⟩

theorem set_of_ne {α : Type} (values : String → String → α) {scope thread other name : String}
    (apart : ¬ (other = scope ∧ name = thread)) (value : α) :
    set values scope thread value other name = values other name :=
  if_neg apart

end Archive

/-! ## Rows of a table -/

namespace CheckpointTable

variable {table : CheckpointTable} {scope thread : String}

/-- Every row is younger than those before it, and the next one will be younger than all. -/
def Chronological (table : CheckpointTable) : Prop :=
  table.rows.Pairwise (·.createdAt < ·.createdAt) ∧
    ∀ row ∈ table.rows, row.createdAt < table.nextTime

/-- The row that a state is saved in. -/
def newRow (table : CheckpointTable) (scope thread state : String) : CheckpointRow :=
  { scope := scope, thread := thread, sequence := table.nextSequence scope thread
    state := state, createdAt := table.nextTime }

theorem rows_append (state : String) :
    (table.append scope thread state).rows = table.rows ++ [table.newRow scope thread state] := rfl

theorem history_append_self (state : String) :
    (table.append scope thread state).history scope thread =
      table.history scope thread ++ [table.newRow scope thread state] := by
  simp [history, rows_append, newRow]

theorem history_append_of_ne {other name : String} (apart : ¬ (other = scope ∧ name = thread))
    (state : String) :
    (table.append scope thread state).history other name = table.history other name := by
  have unlike : ¬ (scope = other ∧ thread = name) := fun same => apart ⟨same.1.symm, same.2.symm⟩
  simp [history, rows_append, newRow, unlike]

theorem history_delete_self : (table.delete scope thread).history scope thread = [] := by
  apply List.filter_eq_nil_iff.mpr
  intro row member
  have kept := (List.mem_filter.mp member).2
  simpa [imp_iff_not_or] using kept

theorem history_delete_of_ne {other name : String} (apart : ¬ (other = scope ∧ name = thread)) :
    (table.delete scope thread).history other name = table.history other name := by
  unfold history delete
  rw [List.filter_filter]
  apply List.filter_congr
  intro row _
  by_cases same : row.scope = other ∧ row.thread = name
  · simpa [same, imp_iff_not_or] using apart
  · simp [same]

theorem Chronological.append (chronological : table.Chronological) (state : String) :
    (table.append scope thread state).Chronological := by
  rcases chronological with ⟨ordered, bounded⟩
  constructor
  · rw [rows_append, List.pairwise_append]
    refine ⟨ordered, List.pairwise_singleton _ _, ?_⟩
    intro row member other new
    rw [List.mem_singleton.mp new]
    exact bounded row member
  · intro row member
    rw [rows_append] at member
    rcases List.mem_append.mp member with old | new
    · exact Nat.lt_succ_of_lt (bounded row old)
    · rw [List.mem_singleton.mp new]
      exact Nat.lt_succ_self _

theorem Chronological.delete (chronological : table.Chronological) :
    (table.delete scope thread).Chronological :=
  ⟨chronological.1.filter _, fun row member => chronological.2 row (List.mem_of_mem_filter member)⟩

/-- Times tell rows apart. -/
theorem Chronological.eq_of_createdAt (chronological : table.Chronological)
    {first second : CheckpointRow} (firstIn : first ∈ table.rows) (secondIn : second ∈ table.rows)
    (same : first.createdAt = second.createdAt) : first = second := by
  have nodup : (table.rows.map (·.createdAt)).Nodup :=
    List.pairwise_map.mpr (chronological.1.imp Nat.ne_of_lt)
  exact List.inj_on_of_nodup_map nodup firstIn secondIn same

/-! ## Listing threads -/

/-- One more row is taken into account in the times of its scope. -/
def noteTime (times : Catalog Nat) (row : CheckpointRow) : Catalog Nat :=
  times.insert row.thread (max ((times.find? row.thread).getD 0) row.createdAt)

/-- The rows so far; the induction is on these, since times are noted row by row. -/
theorem lastTimes_rows (rows : List CheckpointRow)
    (ordered : rows.Pairwise (·.createdAt < ·.createdAt)) (scope : String) :
    ((rows.filter (·.scope = scope)).foldl noteTime []).Ascending ∧
      ∀ thread, Catalog.find? ((rows.filter (·.scope = scope)).foldl noteTime []) thread =
        (rows.filter fun row => row.scope = scope && row.thread = thread).getLast?.map
          (·.createdAt) := by
  induction rows using List.reverseRecOn with
  | nil => exact ⟨Catalog.ascending_nil, fun _ => rfl⟩
  | append_singleton rows row induction =>
      have parts := List.pairwise_append.mp ordered
      rcases induction parts.1 with ⟨ascending, found⟩
      by_cases here : row.scope = scope
      · rw [List.filter_append, List.filter_singleton, decide_eq_true here, cond_true,
          List.foldl_append]
        refine ⟨ascending.insert _ _, fun thread => ?_⟩
        simp only [List.foldl_cons, List.foldl_nil, noteTime, Catalog.find?_insert, found]
        by_cases same : row.thread = thread
        · subst same
          have younger : ((rows.filter fun other => other.scope = scope &&
              other.thread = row.thread).getLast?.map (·.createdAt)).getD 0 ≤ row.createdAt := by
            cases last : (rows.filter fun other => other.scope = scope &&
                other.thread = row.thread).getLast? with
            | none => exact Nat.zero_le _
            | some other =>
                have member := List.mem_of_mem_filter (List.mem_of_getLast? last)
                exact Nat.le_of_lt (parts.2.2 other member row (List.mem_singleton.mpr rfl))
          rw [if_pos rfl, Nat.max_eq_right younger, List.filter_append]
          simp [here]
        · rw [if_neg same, List.filter_append]
          simp [here, same]
      · have silent : (rows ++ [row]).filter (·.scope = scope) = rows.filter (·.scope = scope) := by
          simp [List.filter_append, here]
        rw [silent]
        refine ⟨ascending, fun thread => ?_⟩
        rw [found]
        simp [List.filter_append, here]

theorem Chronological.find?_lastTimes (chronological : table.Chronological)
    (scope thread : String) :
    (table.lastTimes scope).find? thread =
      (table.history scope thread).getLast?.map (·.createdAt) :=
  (lastTimes_rows table.rows chronological.1 scope).2 thread

theorem Chronological.ascending_lastTimes (chronological : table.Chronological) (scope : String) :
    (table.lastTimes scope).Ascending :=
  (lastTimes_rows table.rows chronological.1 scope).1

theorem comesBefore_trans (first second third : String × Nat)
    (before : comesBefore first second) (after : comesBefore second third) :
    comesBefore first third := by
  simp only [comesBefore, Bool.or_eq_true, decide_eq_true_eq, Bool.and_eq_true, beq_iff_eq]
    at before after ⊢
  rcases before with later | ⟨same, less⟩
  · left
    omega
  · rcases after with later | ⟨equal, lesser⟩
    · left
      omega
    · exact Or.inr ⟨same.trans equal, String.le_trans less lesser⟩

theorem comesBefore_total (first second : String × Nat) :
    comesBefore first second || comesBefore second first := by
  simp only [comesBefore, Bool.or_eq_true, decide_eq_true_eq, Bool.and_eq_true, beq_iff_eq]
  rcases Nat.lt_trichotomy first.2 second.2 with less | equal | greater
  · exact Or.inr (Or.inl less)
  · rcases String.le_total first.1 second.1 with names | names
    · exact Or.inl (Or.inr ⟨equal, names⟩)
    · exact Or.inr (Or.inr ⟨equal.symm, names⟩)
  · exact Or.inl (Or.inl greater)

/-- The threads of a scope are listed once each, later ones in front. -/
theorem Chronological.threads_listed (chronological : table.Chronological) (scope : String) :
    (table.threads scope).Nodup ∧
      (∀ thread, thread ∈ table.threads scope ↔ table.history scope thread ≠ []) ∧
      (table.threads scope).Pairwise fun first second =>
        ∀ earlier later, (table.history scope second).getLast? = some earlier →
          (table.history scope first).getLast? = some later →
            earlier.createdAt < later.createdAt := by
  have ascending := chronological.ascending_lastTimes scope
  have found := chronological.find?_lastTimes scope
  have sorted : ((table.lastTimes scope).mergeSort comesBefore).Perm (table.lastTimes scope) :=
    List.mergeSort_perm _ _
  have nodup : (table.threads scope).Nodup := (sorted.map _).nodup_iff.mpr ascending.keys_nodup
  refine ⟨nodup, fun thread => ?_, ?_⟩
  · have listed : thread ∈ table.threads scope ↔ thread ∈ (table.lastTimes scope).keys :=
      (sorted.map (·.1)).mem_iff
    rw [listed, Catalog.mem_keys_iff, found, Option.isSome_map, List.getLast?_isSome]
  · have ordered : ((table.lastTimes scope).mergeSort comesBefore).Pairwise
        fun first second => comesBefore first second :=
      List.pairwise_mergeSort comesBefore_trans comesBefore_total _
    apply List.pairwise_map.mpr
    apply List.Pairwise.imp_of_mem _ (ordered.and (List.pairwise_map.mp nodup))
    rintro ⟨first, firstTime⟩ ⟨second, secondTime⟩ firstIn secondIn ⟨before, different⟩
      earlier later lastOfSecond lastOfFirst
    have firstFound := Catalog.find?_of_mem ascending.keys_nodup (sorted.mem_iff.mp firstIn)
    have secondFound := Catalog.find?_of_mem ascending.keys_nodup (sorted.mem_iff.mp secondIn)
    rw [found, lastOfFirst, Option.map_some, Option.some.injEq] at firstFound
    rw [found, lastOfSecond, Option.map_some, Option.some.injEq] at secondFound
    -- Names would decide between threads of one time, but no two rows have the same time.
    have distinct : later.createdAt ≠ earlier.createdAt := by
      intro same
      have firstRow := List.mem_filter.mp (List.mem_of_getLast? lastOfFirst)
      have secondRow := List.mem_filter.mp (List.mem_of_getLast? lastOfSecond)
      have one := chronological.eq_of_createdAt firstRow.1 secondRow.1 same
      simp only [Bool.and_eq_true, decide_eq_true_eq] at firstRow secondRow
      exact different (firstRow.2.2.symm.trans (one ▸ secondRow.2.2))
    simp only [comesBefore, Bool.or_eq_true, decide_eq_true_eq, Bool.and_eq_true, beq_iff_eq]
      at before
    omega

end CheckpointTable

/-! ## The archive of a table -/

/-- What a table holds: the texts of an archive's states, with the number and the time of every
thread's last row. `start` is the time of the first save. -/
structure Archive.Held (archive : Archive) (start : Nat) (table : CheckpointTable) : Prop where
  chronological : table.Chronological
  written : ∀ scope thread, (table.history scope thread).map (·.state) =
    (archive.states scope thread).map (·.toJson.compact)
  newest : ∀ scope thread, table.latest? scope thread = (table.history scope thread).getLast?
  numbered : ∀ scope thread row, (table.history scope thread).getLast? = some row →
    row.sequence = (archive.states scope thread).length
  clock : table.nextTime = start + archive.saves
  timed : ∀ scope thread row, (table.history scope thread).getLast? = some row →
    row.createdAt + 1 = start + archive.lastSave scope thread

namespace Archive.Held

variable {archive : Archive} {start : Nat} {table : CheckpointTable} {scope thread : String}

theorem initial {table : CheckpointTable} (empty : table.rows = []) :
    Held {} table.nextTime table where
  chronological := by simp [CheckpointTable.Chronological, empty]
  written scope thread := by simp [CheckpointTable.history, empty]
  newest scope thread := by simp [CheckpointTable.latest?, CheckpointTable.history, empty]
  numbered scope thread row last := by simp [CheckpointTable.history, empty] at last
  clock := rfl
  timed scope thread row last := by simp [CheckpointTable.history, empty] at last

theorem length_history (held : archive.Held start table) (scope thread : String) :
    (table.history scope thread).length = (archive.states scope thread).length := by
  simpa using congrArg List.length (held.written scope thread)

theorem history_eq_nil_iff (held : archive.Held start table) (scope thread : String) :
    table.history scope thread = [] ↔ archive.states scope thread = [] := by
  rw [← List.length_eq_zero_iff, held.length_history, List.length_eq_zero_iff]

theorem nextSequence (held : archive.Held start table) (scope thread : String) :
    table.nextSequence scope thread = (archive.states scope thread).length + 1 := by
  unfold CheckpointTable.nextSequence
  rw [held.newest]
  cases last : (table.history scope thread).getLast? with
  | none =>
      have empty := (held.history_eq_nil_iff scope thread).mp (List.getLast?_eq_none_iff.mp last)
      simp [empty]
  | some row => simp [held.numbered scope thread row last]

/-- Saving puts the state behind those that its thread has. -/
theorem save (held : archive.Held start table) (state : ThreadState)
    (room : archive.HasRoom scope thread) :
    (archive.after scope (.ask (.save thread state))).Held start
      (table.append scope thread state.toJson.compact) := by
  have follows : CheckpointRow.Follows (table.history scope thread)
      (table.newRow scope thread state.toJson.compact) := by
    intro latest found
    have numbered : table.nextSequence scope thread = latest.sequence + 1 := by
      simp only [CheckpointTable.nextSequence,
        show table.latest? scope thread = some latest from found]
    change latest.sequence < table.nextSequence scope thread
    omega
  simp only [after, if_pos room]
  refine ⟨held.chronological.append _, ?_, ?_, ?_, ?_, ?_⟩
  · intro other name
    by_cases own : other = scope ∧ name = thread
    · rcases own with ⟨rfl, rfl⟩
      simp [CheckpointTable.history_append_self, held.written, CheckpointTable.newRow]
    · simp only [CheckpointTable.history_append_of_ne own, set_of_ne _ own, held.written]
  · intro other name
    by_cases own : other = scope ∧ name = thread
    · rcases own with ⟨rfl, rfl⟩
      unfold CheckpointTable.latest?
      rw [CheckpointTable.history_append_self, List.getLast?_concat]
      exact follows.latest?_append
    · unfold CheckpointTable.latest?
      rw [CheckpointTable.history_append_of_ne own]
      exact held.newest other name
  · intro other name row last
    by_cases own : other = scope ∧ name = thread
    · rcases own with ⟨rfl, rfl⟩
      rw [CheckpointTable.history_append_self, List.getLast?_concat, Option.some.injEq] at last
      simp [← last, CheckpointTable.newRow, held.nextSequence]
    · rw [CheckpointTable.history_append_of_ne own] at last
      simpa only [set_of_ne _ own] using held.numbered other name row last
  · change table.nextTime + 1 = _
    rw [held.clock, Nat.add_assoc]
  · intro other name row last
    by_cases own : other = scope ∧ name = thread
    · rcases own with ⟨rfl, rfl⟩
      rw [CheckpointTable.history_append_self, List.getLast?_concat, Option.some.injEq] at last
      simp [← last, CheckpointTable.newRow, held.clock, Nat.add_assoc]
    · rw [CheckpointTable.history_append_of_ne own] at last
      simpa only [set_of_ne _ own] using held.timed other name row last

/-- Deleting a thread takes its states away. -/
theorem delete (held : archive.Held start table) (scope thread : String) :
    (archive.after scope (.ask (.deleteThread thread))).Held start (table.delete scope thread) := by
  refine ⟨held.chronological.delete, ?_, ?_, ?_, held.clock, ?_⟩
  · intro other name
    by_cases own : other = scope ∧ name = thread
    · rcases own with ⟨rfl, rfl⟩
      simp [after, CheckpointTable.history_delete_self]
    · simp only [after, set_of_ne _ own, CheckpointTable.history_delete_of_ne own, held.written]
  · intro other name
    unfold CheckpointTable.latest?
    by_cases own : other = scope ∧ name = thread
    · rcases own with ⟨rfl, rfl⟩
      rw [CheckpointTable.history_delete_self]
      rfl
    · rw [CheckpointTable.history_delete_of_ne own]
      exact held.newest other name
  · intro other name row last
    by_cases own : other = scope ∧ name = thread
    · rcases own with ⟨rfl, rfl⟩
      simp [CheckpointTable.history_delete_self] at last
    · rw [CheckpointTable.history_delete_of_ne own] at last
      simpa only [after, set_of_ne _ own] using held.numbered other name row last
  · intro other name row last
    by_cases own : other = scope ∧ name = thread
    · rcases own with ⟨rfl, rfl⟩
      simp [CheckpointTable.history_delete_self] at last
    · rw [CheckpointTable.history_delete_of_ne own] at last
      exact held.timed other name row last

/-- What is loaded is the last state of the thread. -/
theorem load (held : archive.Held start table)
    (readable : ∀ state ∈ archive.states scope thread, state.ReadsBack) :
    Database.load ⟨some table⟩ scope thread = .ok (archive.states scope thread).getLast? := by
  have last := congrArg List.getLast? (held.written scope thread)
  rw [List.getLast?_map, List.getLast?_map] at last
  unfold Database.load
  simp only [held.newest]
  cases found : (table.history scope thread).getLast? with
  | none =>
      rw [found, Option.map_none] at last
      rw [Option.map_eq_none_iff.mp last.symm]
  | some row =>
      rw [found, Option.map_some] at last
      rcases Option.map_eq_some_iff.mp last.symm with ⟨state, present, text⟩
      have readsBack : state.ReadsBack := readable state (List.mem_of_getLast? present)
      unfold ThreadState.ReadsBack at readsBack
      simp only [present, ← text, readsBack]

/-- What is listed are the threads that have states. -/
theorem lists (held : archive.Held start table) (scope : String) :
    archive.Lists scope (table.threads scope) := by
  rcases held.chronological.threads_listed scope with ⟨once, complete, recent⟩
  refine ⟨once, fun thread => ?_, ?_⟩
  · rw [complete, ne_eq, held.history_eq_nil_iff]
  · apply recent.imp_of_mem
    intro first second firstIn secondIn order
    have last {name : String} (listed : name ∈ table.threads scope) :
        ∃ row, (table.history scope name).getLast? = some row :=
      Option.isSome_iff_exists.mp (List.getLast?_isSome.mpr ((complete name).mp listed))
    obtain ⟨later, lastOfFirst⟩ := last firstIn
    obtain ⟨earlier, lastOfSecond⟩ := last secondIn
    have firstTime := held.timed scope first later lastOfFirst
    have secondTime := held.timed scope second earlier lastOfSecond
    have less := order earlier later lastOfSecond lastOfFirst
    omega

end Archive.Held

/-! ## Uses one after the other -/

namespace Archive

variable {archive : Archive} {scope thread : String}

/-- A state of a thread was there before, or it has just been saved. -/
theorem mem_states_after {use : StoreUse} {own : String} {state : ThreadState}
    (member : state ∈ (archive.after own use).states scope thread) :
    state ∈ archive.states scope thread ∨ use = .ask (.save thread state) := by
  cases use with
  | release => exact Or.inl member
  | ask action =>
      cases action with
      | load name => exact Or.inl member
      | threads => exact Or.inl member
      | save name saved =>
          by_cases room : archive.HasRoom own name
          · simp only [after, if_pos room] at member
            by_cases here : scope = own ∧ thread = name
            · rcases here with ⟨rfl, rfl⟩
              rw [set_self] at member
              rcases List.mem_append.mp member with old | new
              · exact Or.inl old
              · rw [List.mem_singleton.mp new]
                exact Or.inr rfl
            · exact Or.inl (by simpa only [set_of_ne _ here] using member)
          · simp only [after, if_neg room] at member
            exact Or.inl member
      | deleteThread name =>
          by_cases here : scope = own ∧ thread = name
          · rcases here with ⟨rfl, rfl⟩
            simp [after] at member
          · exact Or.inl (by simpa only [after, set_of_ne _ here] using member)

/-- Every state in the archive was saved once. -/
theorem mem_states_ofUses {uses : List (CheckpointStore × StoreUse)} {state : ThreadState}
    (member : state ∈ (ofUses uses).states scope thread) :
    ∃ store, (store, .ask (.save thread state)) ∈ uses := by
  induction uses using List.reverseRecOn with
  | nil => cases member
  | append_singleton earlier last induction =>
      rcases last with ⟨store, use⟩
      unfold ofUses at member induction
      rw [List.foldl_append] at member
      rcases mem_states_after member with old | rfl
      · rcases induction old with ⟨other, present⟩
        exact ⟨other, List.mem_append_left _ present⟩
      · exact ⟨store, List.mem_append_right _ (List.mem_singleton.mpr rfl)⟩

end Archive

namespace CheckpointStore

variable {archive : Archive} {start : Nat} {table : CheckpointTable} {world : World}

/-- One use of a store: the right answer, the archive kept up, and no other thread touched. -/
structure UsedRightly (store : CheckpointStore) (archive : Archive) (start : Nat) (world : World)
    (use : StoreUse) : Prop where
  answered : archive.Answers store.scope use (store.use world use).1
  kept : ∃ table, (store.use world use).2.database.table = some table ∧
    (archive.after store.scope use).Held start table
  apart : ∀ scope thread, ¬ (scope = store.scope ∧ use.changed? = some thread) →
    World.rowsOf scope thread (store.use world use).2 = World.rowsOf scope thread world

theorem use_release (store : CheckpointStore) (present : world.database.table = some table)
    (held : archive.Held start table) : store.UsedRightly archive start world .release := by
  have same : (store.use world .release).2.database = world.database := by
    change (if world.isStoreClosed store then world else _).database = _
    split <;> rfl
  refine ⟨rfl, ⟨table, same ▸ present, held⟩, fun scope thread _ => ?_⟩
  unfold World.rowsOf
  rw [same]

theorem use_save (store : CheckpointStore) (thread : String) (state : ThreadState)
    (present : world.database.table = some table) (held : archive.Held start table) :
    store.UsedRightly archive start world (.ask (.save thread state)) := by
  by_cases room : archive.HasRoom store.scope thread
  · have small : ¬ Database.greatestSequence < table.nextSequence store.scope thread := by
      rw [held.nextSequence]
      omega
    have saved : store.use world (.ask (.save thread state)) =
        (.ok (some (.saved (table.nextSequence store.scope thread))),
          { world with database :=
              ⟨some (table.append store.scope thread state.toJson.compact)⟩ }) := by
      simp only [use, Database.perform, Database.save, present, if_neg small, Except.map]
    refine ⟨?_, ?_, ?_⟩
    · rw [saved, held.nextSequence]
      simp only [Archive.Answers, if_pos room]
    · rw [saved]
      exact ⟨_, rfl, held.save state room⟩
    · intro scope name apart
      have other : ¬ (scope = store.scope ∧ name = thread) := by
        rintro ⟨rfl, rfl⟩
        exact apart ⟨rfl, rfl⟩
      rw [saved]
      simp only [World.rowsOf, Database.rowsOf, present, Option.map_some,
        CheckpointTable.history_append_of_ne other]
  · have large : Database.greatestSequence < table.nextSequence store.scope thread := by
      rw [held.nextSequence]
      omega
    have refused : store.use world (.ask (.save thread state)) =
        (.error Database.sequenceOverflow, world) := by
      simp only [use, Database.perform, Database.save, present, if_pos large, Except.map]
    refine ⟨?_, ?_, ?_⟩
    · rw [refused]
      simp only [Archive.Answers, if_neg room]
    · rw [refused]
      refine ⟨table, present, ?_⟩
      simpa only [Archive.after, if_neg room] using held
    · intro scope name _
      rw [refused]

theorem use_load (store : CheckpointStore) (thread : String)
    (present : world.database.table = some table) (held : archive.Held start table)
    (readable : ∀ state ∈ archive.states store.scope thread, state.ReadsBack) :
    store.UsedRightly archive start world (.ask (.load thread)) := by
  have stored : world.database = ⟨some table⟩ := by rw [← present]
  have loaded : store.use world (.ask (.load thread)) =
      (.ok (some (.loaded (archive.states store.scope thread).getLast?)), world) := by
    simp only [use, Database.perform, stored, held.load readable, Except.map]
    rw [← stored]
  refine ⟨?_, ?_, ?_⟩
  · rw [loaded]
    rfl
  · rw [loaded]
    exact ⟨table, present, held⟩
  · intro scope name _
    rw [loaded]

theorem use_threads (store : CheckpointStore) (present : world.database.table = some table)
    (held : archive.Held start table) :
    store.UsedRightly archive start world (.ask .threads) := by
  have listed : store.use world (.ask .threads) =
      (.ok (some (.threads (table.threads store.scope))), world) := by
    simp only [use, Database.perform, Database.threads, Database.withTable, present, Except.map]
  refine ⟨?_, ?_, ?_⟩
  · rw [listed]
    exact ⟨_, rfl, held.lists store.scope⟩
  · rw [listed]
    exact ⟨table, present, held⟩
  · intro scope name _
    rw [listed]

theorem use_deleteThread (store : CheckpointStore) (thread : String)
    (present : world.database.table = some table) (held : archive.Held start table) :
    store.UsedRightly archive start world (.ask (.deleteThread thread)) := by
  have deleted : store.use world (.ask (.deleteThread thread)) =
      (.ok (some (.deleted (table.history store.scope thread).length)),
        { world with database := ⟨some (table.delete store.scope thread)⟩ }) := by
    simp only [use, Database.perform, Database.deleteThread, present, Except.map]
  refine ⟨?_, ?_, ?_⟩
  · rw [deleted, held.length_history]
    rfl
  · rw [deleted]
    exact ⟨_, rfl, held.delete store.scope thread⟩
  · intro scope name apart
    have other : ¬ (scope = store.scope ∧ name = thread) := by
      rintro ⟨rfl, rfl⟩
      exact apart ⟨rfl, rfl⟩
    rw [deleted]
    simp only [World.rowsOf, Database.rowsOf, present, Option.map_some,
      CheckpointTable.history_delete_of_ne other]

theorem usedRightly (store : CheckpointStore) (use : StoreUse)
    (present : world.database.table = some table) (held : archive.Held start table)
    (readable : ∀ scope thread, ∀ state ∈ archive.states scope thread, state.ReadsBack) :
    store.UsedRightly archive start world use := by
  cases use with
  | release => exact store.use_release present held
  | ask action =>
      cases action with
      | save thread state => exact store.use_save thread state present held
      | load thread => exact store.use_load thread present held (readable store.scope thread)
      | threads => exact store.use_threads present held
      | deleteThread thread => exact store.use_deleteThread thread present held

/-- All states that are saved read back as they were written. -/
def Storable (uses : List (CheckpointStore × StoreUse)) : Prop :=
  ∀ store thread state, (store, .ask (.save thread state)) ∈ uses → state.ReadsBack

theorem held_afterUses (empty : table.rows = []) (present : world.database.table = some table)
    (uses : List (CheckpointStore × StoreUse)) (storable : Storable uses) :
    ∃ later, (world.afterUses uses).database.table = some later ∧
      (Archive.ofUses uses).Held table.nextTime later := by
  induction uses using List.reverseRecOn with
  | nil => exact ⟨table, present, .initial empty⟩
  | append_singleton earlier last induction =>
      have before : Storable earlier := fun store thread state member =>
        storable store thread state (List.mem_append_left _ member)
      rcases induction before with ⟨between, stored, held⟩
      have readable : ∀ scope thread, ∀ state ∈ (Archive.ofUses earlier).states scope thread,
          state.ReadsBack := by
        intro scope thread state member
        rcases Archive.mem_states_ofUses member with ⟨store, saved⟩
        exact before store thread state saved
      have rightly := last.1.usedRightly last.2 stored held readable
      unfold World.afterUses Archive.ofUses
      rw [List.foldl_append, List.foldl_append]
      exact rightly.kept

/-- Stores that share a database, of any scopes and several to a scope, released or not, are used
in any order, beginning with an empty table. Whatever is done next, the answer is the one that the
archive gives, and no thread changes but the one that a state is saved to or that is deleted. -/
theorem answers_archive (world : World) (table : CheckpointTable)
    (present : world.database.table = some table) (empty : table.rows = [])
    (uses : List (CheckpointStore × StoreUse)) (storable : Storable uses)
    (store : CheckpointStore) (next : StoreUse) :
    (Archive.ofUses uses).Answers store.scope next (store.use (world.afterUses uses) next).1 ∧
      ∀ scope thread, ¬ (scope = store.scope ∧ next.changed? = some thread) →
        World.rowsOf scope thread (store.use (world.afterUses uses) next).2 =
          World.rowsOf scope thread (world.afterUses uses) := by
  rcases held_afterUses empty present uses storable with ⟨later, stored, held⟩
  have readable : ∀ scope thread, ∀ state ∈ (Archive.ofUses uses).states scope thread,
      state.ReadsBack := by
    intro scope thread state member
    rcases Archive.mem_states_ofUses member with ⟨other, saved⟩
    exact storable other thread state saved
  have rightly := store.usedRightly next stored held readable
  exact ⟨rightly.answered, rightly.apart⟩

/-- A world in which nothing has been saved. -/
def freshWorld : World :=
  { registry := { directories := [] }
    artifacts := .ofCapacity 1
    model := .ofList "script" [] { result := .error (.model "offline") }
    reach := fun _ => .error (.internal "no servers") }

def deskState : ThreadState := { messages := [.user "hello", .assistant "(done)"] }

/-- Two stores of one scope, of which one is released, and a store of another scope. -/
def deskUses : List (CheckpointStore × StoreUse) :=
  [(⟨0, "desk"⟩, .ask (.save "main" deskState)), (⟨0, "desk"⟩, .release),
    (⟨1, "bar"⟩, .ask (.save "main" {})), (⟨0, "desk"⟩, .ask (.save "side" {})),
    (⟨2, "desk"⟩, .ask (.save "main" {})), (⟨2, "desk"⟩, .ask (.deleteThread "side"))]

theorem deskUses_storable : Storable deskUses := by
  have known : deskState.ReadsBack ∧ ThreadState.ReadsBack {} := by decide +kernel
  intro store thread state member
  simp only [deskUses, List.mem_cons, Prod.mk.injEq, StoreUse.ask.injEq,
    CheckpointAction.save.injEq, reduceCtorEq, and_false, false_or, or_false,
    List.not_mem_nil] at member
  rcases member with ⟨-, -, rfl⟩ | ⟨-, -, rfl⟩ | ⟨-, -, rfl⟩ | ⟨-, -, rfl⟩
  · exact known.1
  all_goals exact known.2

/-- The released store saves the third state of the thread that both stores share. -/
theorem answers_archive_shared :
    Storable deskUses ∧
      (use ⟨0, "desk"⟩ (freshWorld.afterUses deskUses) (.ask (.save "main" deskState))).1 =
        .ok (some (.saved 3)) := by
  have answered := (answers_archive freshWorld {} rfl rfl deskUses deskUses_storable ⟨0, "desk"⟩
    (.ask (.save "main" deskState))).1
  have length : ((Archive.ofUses deskUses).states "desk" "main").length = 2 := by decide +kernel
  simp only [Archive.Answers, Archive.HasRoom, length] at answered
  exact ⟨deskUses_storable, answered⟩

end CheckpointStore

end AssistantEngine
