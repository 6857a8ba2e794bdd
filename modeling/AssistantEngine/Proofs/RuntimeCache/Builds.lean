import AssistantEngine.Proofs.RuntimeCache.Refusal
import AssistantEngine.Proofs.RuntimeCache.Window

/-!
Builds of a key. There is at most one in progress, and the entry says which; whoever waits, waits
for a build in progress or for one that has left its outcome; callers share builds; and a build
that fails leaves nobody waiting and its key free for the next one.
-/

namespace AssistantEngine

namespace RuntimeCache

open History

namespace Task

variable {World Runtime Resource Reply : Type}

/-- The build that a task is at work on. -/
def building? : Task World Runtime Resource Reply → Option BuildId
  | building id _ _ => some id
  | _ => none

end Task

/-- The text for those who wait on a build of a key that ends without a graph. -/
def Outcome.failure? {Runtime Resource : Type} (key : String) :
    Outcome Runtime Resource → Option String
  | failed fault => some fault.message
  | panicked => some (State.abortedText key)
  | _ => none

variable {World Runtime Resource Reply : Type} {builder : Builder World Runtime Resource}
variable {state : State World Runtime Resource Reply}

namespace State

/-! ## Builds in progress -/

/-- The builds of a key that are in progress. -/
def buildsOf (state : State World Runtime Resource Reply) (key : String) : List BuildId :=
  (state.tasks.filterMap Task.building?).filter (·.key = key)

theorem count_buildsOf (key : String) (id : BuildId) :
    (state.buildsOf key).count id = if id.key = key then state.inProgress id else 0 := by
  unfold buildsOf
  split
  · rename_i same
    rw [List.count_filter (p := fun other : BuildId => decide (other.key = key)) (a := id)
      (decide_eq_true same), List.count_eq_countP, List.countP_filterMap]
    apply List.countP_congr
    intro task _
    cases task <;> simp [Task.building?, Task.name]
  · rename_i different
    apply List.count_eq_zero.mpr
    intro member
    exact different (of_decide_eq_true (List.mem_filter.mp member).2)

end State

/-- The builds of a key that are in progress are the one that its entry is marked with, if any. -/
theorem Ledger.buildsOf_eq (ledger : Ledger state) (key : String) :
    state.buildsOf key = (state.entry key).building.toList := by
  have same : (state.buildsOf key).Perm (state.entry key).building.toList := by
    apply List.perm_iff_count.mpr
    intro id
    rw [State.count_buildsOf, ledger.marked]
    by_cases sameKey : id.key = key
    · subst sameKey
      cases mark : (state.entry id.key).building <;> simp [List.count_singleton]
    · rw [if_neg sameKey]
      cases mark : (state.entry key).building with
      | none => rfl
      | some build =>
          have different : build ≠ id :=
            fun same => sameKey (same ▸ ledger.keyed key build mark)
          simp [different]
  cases mark : (state.entry key).building with
  | none =>
      rw [mark] at same
      exact List.perm_nil.mp same
  | some build =>
      rw [mark] at same
      exact List.perm_singleton.mp same

/-- An entry is marked with a build just if it was started and has not ended. -/
theorem Ledger.building_iff (ledger : Ledger state) (id : BuildId) :
    (state.entry id.key).building = some id ↔
      (∃ epoch, .started id epoch ∈ state.journal) ∧ .installed id ∉ state.journal ∧
        .failed id ∉ state.journal := by
  rw [← starts_pos_iff, ← installations_pos_iff, ← failures_pos_iff]
  have marked := ledger.marked id
  have balance := ledger.balanced id
  have atMostOnce := ledger.starts_le_one id
  constructor
  · intro mark
    rw [if_pos mark] at marked
    omega
  · rintro ⟨begun, notInstalled, notFailed⟩
    apply Decidable.byContradiction
    intro unmarked
    rw [if_neg unmarked] at marked
    omega

/-- A build that is waited for is in progress or has left its outcome. -/
theorem Ledger.outcome_of_awaited (ledger : Ledger state)
    {task : Task World Runtime Resource Reply} (member : task ∈ state.tasks) {build : BuildId}
    (awaits : task.awaited? = some build) :
    (state.entry build.key).building = some build ∨
      (.installed build ∈ state.journal ∧ state.outcomes.lookup build = some (.ok ())) ∨
        (.failed build ∈ state.journal ∧
          ∃ text, state.outcomes.lookup build = some (.error text)) := by
  have begun := starts_pos_iff.mp (ledger.awaited task member build awaits)
  by_cases installed : .installed build ∈ state.journal
  · have delivered := (ledger.delivered build).mp (installations_pos_iff.mpr installed)
    exact Or.inr (Or.inl ⟨installed, delivered⟩)
  · by_cases failed : .failed build ∈ state.journal
    · have reported := (ledger.reported build).mp (failures_pos_iff.mpr failed)
      exact Or.inr (Or.inr ⟨failed, reported⟩)
    · exact Or.inl ((ledger.building_iff build).mpr ⟨begun, installed, failed⟩)

namespace State

/-! ## Failures -/

/-- The step in which a build ends. -/
theorem step_resume_of_done (builder : Builder World Runtime Resource) {id : BuildId}
    {startEpoch : Nat}
    {rest : Activity World (Outcome Runtime Resource)} {outcome : Outcome Runtime Resource}
    (found : state.task? (.building id) = some (.building id startEpoch rest))
    (ready : rest.isReady state.now state.world)
    (ends : (rest.resume state.now state.world).1 = .done outcome) :
    step builder state (.resume (.building id)) =
      (finishBuild builder
        ({ state with world := (rest.resume state.now state.world).2 }.dismiss (.building id))
        id startEpoch outcome).releaseDropped := by
  have resumed : state.resume rest =
      (.done outcome, { state with world := (rest.resume state.now state.world).2 }) := by
    unfold resume
    rw [← ends]
  rw [step_resume found ready]
  unfold proceed
  dsimp only
  rw [resumed]
  rfl

/-- The step in which a build ends without a graph. -/
theorem step_resume_of_failure (builder : Builder World Runtime Resource) {id : BuildId}
    {startEpoch : Nat}
    {rest : Activity World (Outcome Runtime Resource)} {outcome : Outcome Runtime Resource}
    {text : String} (found : state.task? (.building id) = some (.building id startEpoch rest))
    (ready : rest.isReady state.now state.world)
    (ends : (rest.resume state.now state.world).1 = .done outcome)
    (failure : outcome.failure? id.key = some text) :
    ∃ world, step builder state (.resume (.building id)) =
      (({ state with world := world }.dismiss (.building id)).abandon id text).releaseDropped := by
  refine ⟨(rest.resume state.now state.world).2, ?_⟩
  rw [step_resume_of_done builder found ready ends]
  cases outcome <;> cases failure <;> rfl

/-- A key without a build in progress can be built anew. -/
theorem started_of_rebuild (builder : Builder World Runtime Resource) {key : String}
    (idle : (state.entry key).building = none) (call : CallId) :
    .started (state.nextBuild key) state.epoch ∈
      (step builder state (.rebuild call key)).journal := by
  change _ ∈ (startOrJoin builder (state.note (.asked call .rebuild key)) key).2.journal
  rw [startOrJoin_start builder (state.note (.asked call .rebuild key)) idle]
  exact List.mem_append_right _ List.mem_cons_self

theorem started_of_get (builder : Builder World Runtime Resource) {key : String}
    (idle : (state.entry key).building = none) (stale : state.entryState key ≠ .clean)
    (call : CallId) :
    .started (state.nextBuild key) state.epoch ∈ (step builder state (.get call key)).journal := by
  change _ ∈ (beginGet builder (state.note (.asked call .get key)) call key).journal
  unfold beginGet
  rcases lookUp_cases builder (state.note (.asked call .get key)) key with
    ⟨pending, marked, _⟩ | ⟨_, clean, _, _⟩ | ⟨_, _, looked⟩
  · have unmarked := marked.symm.trans idle
    cases unmarked
  · exact absurd clean stale
  · rw [looked, startOrJoin_start builder (state.note (.asked call .get key)) idle]
    exact List.mem_append_right _ List.mem_cons_self

end State

/-- What can be relied on about the builds of every key. -/
structure Orderly (builder : Builder World Runtime Resource)
    (state : State World Runtime Resource Reply) : Prop where
  /-- At most one build of a key is in progress, and the entry of the key is marked with it. -/
  single : ∀ key, state.buildsOf key = (state.entry key).building.toList
  /-- The entry of a key with a build in progress is there. -/
  kept : ∀ key, ∀ id ∈ state.buildsOf key, ∃ entry, state.entries.find? key = some entry ∧
    entry.building = some id
  /-- To be in progress is to have been started, and neither installed nor failed. -/
  marked : ∀ id, (state.entry id.key).building = some id ↔
    (∃ epoch, .started id epoch ∈ state.journal) ∧ .installed id ∉ state.journal ∧
      .failed id ∉ state.journal
  /-- Whoever waits for a build waits for one in progress, or the outcome is there. -/
  awaited : ∀ task ∈ state.tasks, ∀ build, task.awaited? = some build →
    (state.entry build.key).building = some build ∨
      (.installed build ∈ state.journal ∧ state.outcomes.lookup build = some (.ok ())) ∨
        (.failed build ∈ state.journal ∧
          ∃ text, state.outcomes.lookup build = some (.error text))
  /-- From a moment on at which a key has no clean graph, and for as long as it is calm, at most
  one build begins and all who ask get the same graph. -/
  shared : ∀ key actions segment, state.entryState key ≠ .clean →
    (State.run builder state actions).journal = state.journal ++ segment → Calm key segment →
      segment.countP (·.begins key) ≤ 1 ∧
        ∃ id, ∀ call result, .answered call .get key result ∈ segment →
          result = .ok id ∨ Stale state call
  /-- A caller whose build has left a graph gets one, or waits for the build now in progress. -/
  woken : ∀ call build purpose,
    state.task? (.waiting call) = some (.waiting call build purpose) →
      state.outcomes.lookup build = some (.ok ()) →
        (∃ id, (State.step builder state (.resume (.waiting call))).answers =
          state.answers ++ [(call, .runtime (.ok id))]) ∨
        ∃ pending, .waiting call pending purpose ∈
            (State.step builder state (.resume (.waiting call))).tasks ∧
          ((State.step builder state (.resume (.waiting call))).entry build.key).building =
            some pending
  /-- A caller whose build has failed has been refused after any run, or waits still and is
  refused when its turn comes. -/
  refused : ∀ call build purpose actions,
    state.task? (.waiting call) = some (.waiting call build purpose) →
      .failed build ∈ state.journal →
        ∃ text more, state.outcomes.lookup build = some (.error text) ∧
          (State.run builder state actions).answers = state.answers ++ more ∧
            ((call, .runtime (.error (.build text))) ∈ more ∨
              (State.step builder (State.run builder state actions)
                (.resume (.waiting call))).answers =
                state.answers ++ more ++ [(call, .runtime (.error (.build text)))])
  /-- A build that fails or panics leaves its text to those who wait, and its key free. -/
  freed : ∀ id startEpoch rest outcome text,
    state.task? (.building id) = some (.building id startEpoch rest) →
      rest.isReady state.now state.world →
        (rest.resume state.now state.world).1 = .done outcome →
          outcome.failure? id.key = some text →
            let next := State.step builder state (.resume (.building id))
            (next.entry id.key).building = none ∧ .failed id ∈ next.journal ∧
              next.outcomes.lookup id = some (.error text) ∧
              (∀ call purpose, state.task? (.waiting call) = some (.waiting call id purpose) →
                next.task? (.waiting call) = some (.waiting call id purpose)) ∧
              ∀ call, .started (next.nextBuild id.key) next.epoch ∈
                  (State.step builder next (.rebuild call id.key)).journal ∧
                (next.entryState id.key ≠ .clean →
                  .started (next.nextBuild id.key) next.epoch ∈
                    (State.step builder next (.get call id.key)).journal)

namespace State

theorem entry_of_building {key : String} {id : BuildId}
    (marked : (state.entry key).building = some id) :
    ∃ entry, state.entries.find? key = some entry ∧ entry.building = some id := by
  rcases Option.isSome_iff_exists.mp (isSome_find?_of_building marked) with ⟨entry, found⟩
  refine ⟨entry, found, ?_⟩
  unfold State.entry at marked
  rw [found] at marked
  exact marked

/-- A window begins at any moment at which a key has no clean graph. -/
theorem Reachable.window {world : World} (reachable : Reachable builder { world := world } state)
    {key : String} (stale : state.entryState key ≠ .clean)
    (actions : List (Action World Runtime Resource Reply)) :
    Watched state key (run builder state actions) := by
  have begins : Window state key [] state :=
    ⟨Nat.zero_le _, fun _ member _ _ _ => member, Or.inl ⟨stale, Or.inl rfl, by simp⟩⟩
  have watched : Watched state key state := ⟨[], (List.append_nil _).symm, fun _ => begins⟩
  have moves : Moves builder ⟨[], state⟩ ⟨[], run builder state actions⟩ :=
    run_moves reachable.ascending actions
  exact ((watched_kept state key).moves moves ⟨reachable.dated, watched⟩).2

theorem Reachable.orderly {world : World}
    (reachable : Reachable builder { world := world } state) : Orderly builder state where
  single := reachable.dated.1.buildsOf_eq
  kept := by
    intro key id member
    rw [reachable.dated.1.buildsOf_eq, Option.mem_toList] at member
    exact entry_of_building member
  marked := reachable.dated.1.building_iff
  awaited := fun _ member _ awaits => reachable.dated.1.outcome_of_awaited member awaits
  shared := by
    intro key actions segment stale split calm
    rcases reachable.window stale actions with ⟨other, same, window⟩
    rcases List.append_cancel_left (split.symm.trans same) with rfl
    refine ⟨(window calm).once, ?_⟩
    rcases (window calm).phase with unsettled | ⟨installed, settled⟩
    · exact ⟨⟨key, 0⟩, fun call result member => Or.inr (unsettled.answers call result member)⟩
    · exact ⟨installed.id, settled.answers⟩
  woken := fun _ _ _ found delivered => step_resume_of_delivered builder found delivered
  refused := by
    intro call build purpose actions found failed
    rcases (reachable.dated.1.reported build).mp (failures_pos_iff.mpr failed) with ⟨text, reported⟩
    have begins : Refusing state call build purpose text state :=
      ⟨reported, [], (List.append_nil _).symm, Or.inr found⟩
    have moves : Moves builder ⟨[], state⟩ ⟨[], run builder state actions⟩ :=
      run_moves reachable.ascending actions
    have refusing := (refusing_kept state call build purpose text).moves moves begins
    rcases refusing.waits with ⟨more, answers, refused | waiting⟩
    · exact ⟨text, more, reported, answers, Or.inl refused⟩
    · refine ⟨text, more, reported, answers, Or.inr ?_⟩
      rw [← answers]
      exact step_resume_of_failed builder waiting refusing.failed
  freed := by
    intro id startEpoch rest outcome text found ready ends failure
    rcases step_resume_of_failure builder found ready ends failure with ⟨after, stepped⟩
    rcases reachable.dated.1.outcome_of_inProgress (inProgress_pos found) with
      ⟨_, _, _, _, _, noOutcome⟩
    intro next
    have idle : (next.entry id.key).building = none := by
      change ((step builder state (.resume (.building id))).entry id.key).building = none
      rw [stepped]
      apply (congrArg Entry.building (entry_abandon id text id.key)).trans
      exact if_pos rfl
    refine ⟨idle, ?_, ?_, ?_, ?_⟩
    · change _ ∈ (step builder state (.resume (.building id))).journal
      rw [stepped]
      exact List.mem_append_right _ List.mem_cons_self
    · change (step builder state (.resume (.building id))).outcomes.lookup id = _
      rw [stepped]
      have found : (state.outcomes ++ [(id, (.error text : Except String Unit))]).lookup id =
          some (.error text) := by
        rw [List.lookup_append, noOutcome]
        simp
      exact found
    · intro call purpose waiting
      change (step builder state (.resume (.building id))).task? _ = _
      rw [stepped]
      refine task?_append ?_ _
      exact (task?_dismiss_of_ne TaskName.noConfusion).trans waiting
    · intro call
      exact ⟨started_of_rebuild builder idle call,
        fun stale => started_of_get builder idle stale call⟩

/-- Two callers that ask together share one build. -/
theorem Reachable.orderly_together :
    let start : State Unit Unit Unit Unit := { world := () }
    let later := run Builder.instant start
      [.get 0 "a", .get 1 "a", .resume (.building ⟨"a", 0⟩), .resume (.waiting 1),
        .resume (.waiting 0)]
    later.journal.countP (·.begins "a") ≤ 1 ∧
      ∃ id, ∀ call result, .answered call .get "a" result ∈ later.journal →
        result = .ok id ∨ Stale start call := by
  intro start later
  have reachable : Reachable Builder.instant { world := () } start := ⟨[], rfl⟩
  have calm : Calm "a" later.journal := by
    unfold Calm
    decide +kernel
  exact reachable.orderly.shared "a" _ later.journal (by decide) (List.nil_append _).symm calm

end State

end RuntimeCache

end AssistantEngine
