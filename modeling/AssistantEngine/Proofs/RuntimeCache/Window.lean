import AssistantEngine.Proofs.RuntimeCache.Freshness

/-!
Windows: parts of a run in which a key is neither invalidated nor emptied, none of its builds fails
and nobody insists on a new one. From a moment on at which the key has no clean graph, such a
window sees at most one new build, and all callers that it serves get the same graph.
-/

namespace AssistantEngine

namespace RuntimeCache

open History

namespace Occurrence

/-- Whether a build of a key begins. -/
def begins (key : String) : Occurrence → Bool
  | started id _ => id.key = key
  | _ => false

/-- Whether something happens to a key that a caller who asks for a clean graph of it cannot
ignore. -/
def disturbs (key : String) : Occurrence → Bool
  | asked _ purpose other => purpose = .rebuild ∧ other = key
  | failed id => id.key = key
  | invalidated other => other = key
  | invalidatedAll => true
  | emptied other => other = key
  | _ => false

theorem disturbs_of_invalidates {occurrence : Occurrence} {key : String}
    (invalidates : occurrence.invalidates key = true) : occurrence.disturbs key = true := by
  cases occurrence with
  | invalidated other => exact invalidates
  | invalidatedAll => rfl
  | _ => cases invalidates

end Occurrence

def Calm (key : String) (segment : List Occurrence) : Prop :=
  ∀ occurrence ∈ segment, occurrence.disturbs key = false

variable {World Runtime Resource Reply : Type} {builder : Builder World Runtime Resource}

/-- A caller that was waiting at the beginning already, for a build that had failed. -/
def Stale (origin : State World Runtime Resource Reply) (call : CallId) : Prop :=
  ∃ build, .waiting call build .get ∈ origin.tasks ∧ .failed build ∈ origin.journal

/-- There is no clean graph yet. If a build was started within the window it is in progress and
up to date. -/
structure Unsettled (origin : State World Runtime Resource Reply) (key : String)
    (segment : List Occurrence) (state : State World Runtime Resource Reply) : Prop where
  unclean : state.entryState key ≠ .clean
  current : segment.countP (·.begins key) = 0 ∨
    ∃ build, (state.entry key).building = some build ∧ ¬ Invalidated state.journal build
  answers : ∀ call result, .answered call .get key result ∈ segment → Stale origin call

/-- There is a clean graph, and it is the one that all callers got. -/
structure Settled (origin : State World Runtime Resource Reply) (key : String)
    (segment : List Occurrence) (state : State World Runtime Resource Reply)
    (installed : Installed Runtime Resource) : Prop where
  clean : state.entryState key = .clean
  present : (state.entry key).installed = some installed
  answers : ∀ call result, .answered call .get key result ∈ segment →
    result = .ok installed.id ∨ Stale origin call

structure Window (origin : State World Runtime Resource Reply) (key : String)
    (segment : List Occurrence) (state : State World Runtime Resource Reply) : Prop where
  once : segment.countP (·.begins key) ≤ 1
  waiting : ∀ task ∈ state.tasks, ∀ build, task.awaited? = some build →
    .failed build ∈ origin.journal → task ∈ origin.tasks
  phase : Unsettled origin key segment state ∨
    ∃ installed, Settled origin key segment state installed

variable {origin state next : State World Runtime Resource Reply} {key : String}
variable {segment more : List Occurrence}

theorem countP_begins_of_unbegun (unbegun : ∀ occurrence ∈ more, occurrence.begins key = false) :
    (segment ++ more).countP (·.begins key) = segment.countP (·.begins key) := by
  rw [List.countP_append]
  have none : more.countP (·.begins key) = 0 := by
    apply List.countP_eq_zero.mpr
    intro occurrence member begins
    rw [unbegun occurrence member] at begins
    cases begins
  omega

/-- While a key is calm and none of its builds begins, its builds stay as current as they are. -/
theorem invalidated_of_calm {journal : List Occurrence} {build : BuildId}
    (calm : Calm build.key more)
    (unbegun : ∀ occurrence ∈ more, occurrence.begins build.key = false) :
    Invalidated (journal ++ more) build ↔ Invalidated journal build := by
  rw [invalidated_append]
  constructor
  · rintro (earlier | ⟨_, occurrence, member, invalidates⟩ | ⟨before, epoch, after, split, _⟩)
    · exact earlier
    · have disturbs := Occurrence.disturbs_of_invalidates invalidates
      rw [calm occurrence member] at disturbs
      cases disturbs
    · have member : Occurrence.started build epoch ∈ more := by
        rw [split]
        exact List.mem_append_right _ List.mem_cons_self
      have begins := unbegun _ member
      simp [Occurrence.begins] at begins
  · exact Or.inl

namespace Window

/-- What leaves the entry of the key leaves the window as it is. -/
theorem frame (window : Window origin key segment state) (ledger : Ledger state)
    (calm : Calm key more) (unbegun : ∀ occurrence ∈ more, occurrence.begins key = false)
    (journal : next.journal = state.journal ++ more)
    (entry : next.entry key = state.entry key)
    (tasks : ∀ task ∈ next.tasks, ∀ build, task.awaited? = some build →
      task ∈ state.tasks ∨ .failed build ∉ origin.journal)
    (answers : ∀ call result, .answered call .get key result ∈ more → Stale origin call) :
    Window origin key (segment ++ more) next := by
  have entryState : next.entryState key = state.entryState key := by
    unfold State.entryState
    rw [entry]
  constructor
  case once =>
    rw [countP_begins_of_unbegun unbegun]
    exact window.once
  case waiting =>
    intro task member build awaits failed
    rcases tasks task member build awaits with present | notFailed
    · exact window.waiting task present build awaits failed
    · exact absurd failed notFailed
  case phase =>
    rcases window.phase with unsettled | ⟨installed, settled⟩
    · refine Or.inl ⟨entryState ▸ unsettled.unclean, ?_, ?_⟩
      · rw [countP_begins_of_unbegun unbegun, entry, journal]
        rcases unsettled.current with none | ⟨build, marked, current⟩
        · exact Or.inl none
        · have sameKey := ledger.keyed key build marked
          subst sameKey
          exact Or.inr ⟨build, marked, fun outdated =>
            current ((invalidated_of_calm calm unbegun).mp outdated)⟩
      · intro call result member
        rcases List.mem_append.mp member with earlier | later
        · exact unsettled.answers call result earlier
        · exact answers call result later
    · refine Or.inr ⟨installed, entryState ▸ settled.clean, entry ▸ settled.present, ?_⟩
      intro call result member
      rcases List.mem_append.mp member with earlier | later
      · exact settled.answers call result earlier
      · exact Or.inr (answers call result later)

/-- The one new build begins. -/
theorem begin (window : Window origin key segment state) (ledger : Ledger state)
    (idle : (state.entry key).building = none) (stale : state.entryState key ≠ .clean) :
    Window origin key (segment ++ [.started (state.nextBuild key) state.epoch])
      (State.startOrJoin builder state key).2 := by
  have entries := State.entry_startOrJoin builder idle
  have parts := State.startOrJoin_start builder state idle
  rcases window.phase with unsettled | ⟨installed, settled⟩
  · have none : segment.countP (·.begins key) = 0 := by
      rcases unsettled.current with none | ⟨build, marked, _⟩
      · exact none
      · rw [idle] at marked
        cases marked
    have mark : ((State.startOrJoin builder state key).2.entry key).building =
        some (state.nextBuild key) := by
      rw [entries, if_pos rfl]
    constructor
    case once =>
      rw [List.countP_append, none, Nat.zero_add]
      exact List.countP_le_length
    case waiting =>
      intro task member build awaits failed
      rw [parts] at member
      rcases List.mem_append.mp member with present | new
      · exact window.waiting task present build awaits failed
      · rw [List.mem_singleton.mp new] at awaits
        cases awaits
    case phase =>
      refine Or.inl ⟨?_, Or.inr ⟨_, mark, ?_⟩, ?_⟩
      · intro clean
        have unmarked := (State.entryState_eq_clean_iff.mp clean).1
        rw [mark] at unmarked
        cases unmarked
      · rw [parts]
        apply (invalidated_snoc _).not.mpr
        rintro (outdated | ⟨_, invalidates⟩)
        · have begun := starts_pos_of_invalidated outdated
          rw [ledger.starts_nextBuild] at begun
          exact Nat.lt_irrefl 0 begun
        · cases invalidates
      · intro call result member
        rcases List.mem_append.mp member with earlier | later
        · exact unsettled.answers call result earlier
        · cases List.mem_singleton.mp later
  · exact absurd settled.clean stale

/-- A build that ends well leaves a clean graph, unless it was outdated before the window. -/
theorem install (window : Window origin key segment state) (dated : Dated next)
    {id : BuildId} (sameKey : id.key = key) (marked : (state.entry key).building = some id)
    (graph : Graph Runtime Resource) (calm : Calm key more)
    (unbegun : ∀ occurrence ∈ more, occurrence.begins key = false)
    (unanswered : ∀ call result, .answered call .get key result ∉ more)
    (journal : next.journal = state.journal ++ more)
    (unmarked : (next.entry key).building = none)
    (present : (next.entry key).installed = some ⟨id, graph⟩)
    (tasks : ∀ task ∈ next.tasks, task.awaited?.isSome → task ∈ state.tasks) :
    Window origin key (segment ++ more) next := by
  rcases window.phase with unsettled | ⟨installed, settled⟩
  · have answers (call : CallId) (result : Except Fault BuildId)
        (member : .answered call .get key result ∈ segment ++ more) : Stale origin call := by
      rcases List.mem_append.mp member with earlier | later
      · exact unsettled.answers call result earlier
      · exact absurd later (unanswered call result)
    have dirty := dated.dirty key _ present
    constructor
    case once =>
      rw [countP_begins_of_unbegun unbegun]
      exact window.once
    case waiting =>
      intro task member build awaits failed
      exact window.waiting task (tasks task member (awaits ▸ rfl)) build awaits failed
    case phase =>
      cases outdated : (next.entry key).dirty with
      | false =>
          refine Or.inr ⟨⟨id, graph⟩, ?_, present, fun call result member =>
            Or.inr (answers call result member)⟩
          exact State.entryState_eq_clean_iff.mpr ⟨unmarked, ⟨_, present⟩, outdated⟩
      | true =>
          refine Or.inl ⟨?_, Or.inl ?_, answers⟩
          · intro clean
            rw [(State.entryState_eq_clean_iff.mp clean).2.2] at outdated
            cases outdated
          · rw [countP_begins_of_unbegun unbegun]
            -- A build of this window would not have been invalidated since.
            rcases unsettled.current with none | ⟨build, mark, current⟩
            · exact none
            · rw [marked] at mark
              cases mark
              subst sameKey
              have invalidated := dirty.mp outdated
              rw [journal] at invalidated
              exact absurd ((invalidated_of_calm calm unbegun).mp invalidated) current
  · have idle := (State.entryState_eq_clean_iff.mp settled.clean).1
    rw [marked] at idle
    cases idle

/-- A caller gets the clean graph. -/
theorem serve (window : Window origin key segment state) {installed : Installed Runtime Resource}
    (clean : state.entryState key = .clean)
    (present : (state.entry key).installed = some installed)
    (entries : next.entries = state.entries) (tasks : next.tasks = state.tasks) (call : CallId) :
    Window origin key (segment ++ [.answered call .get key (.ok installed.id)]) next := by
  have sameEntry : next.entry key = state.entry key := by
    unfold State.entry
    rw [entries]
  rcases window.phase with unsettled | ⟨other, settled⟩
  · exact absurd clean unsettled.unclean
  · have same : other = installed := Option.some.inj (settled.present.symm.trans present)
    subst same
    constructor
    case once =>
      rw [List.countP_append]
      exact window.once
    case waiting =>
      rw [tasks]
      exact window.waiting
    case phase =>
      refine Or.inr ⟨other, ?_, sameEntry ▸ present, ?_⟩
      · unfold State.entryState at clean ⊢
        rw [sameEntry]
        exact clean
      · intro caller result member
        rcases List.mem_append.mp member with earlier | later
        · exact settled.answers caller result earlier
        · cases List.mem_singleton.mp later
          exact Or.inl rfl

end Window

/-- Since a certain moment, the key has had a window for as long as it has been calm. -/
def Watched (origin : State World Runtime Resource Reply) (key : String)
    (state : State World Runtime Resource Reply) : Prop :=
  ∃ segment, state.journal = origin.journal ++ segment ∧
    (Calm key segment → Window origin key segment state)

namespace Watched

theorem step (watched : Watched origin key state) (more : List Occurrence)
    (journal : next.journal = state.journal ++ more)
    (keeps : ∀ segment, state.journal = origin.journal ++ segment → Calm key segment →
      Calm key more → Window origin key segment state →
        Window origin key (segment ++ more) next) : Watched origin key next := by
  rcases watched with ⟨segment, split, window⟩
  refine ⟨segment ++ more, ?_, ?_⟩
  · rw [journal, split, List.append_assoc]
  · intro calm
    have earlier : Calm key segment :=
      fun occurrence member => calm occurrence (List.mem_append_left _ member)
    have later : Calm key more :=
      fun occurrence member => calm occurrence (List.mem_append_right _ member)
    exact keeps segment split earlier later (window earlier)

/-- A change of another entry, or of the tasks. -/
theorem shift (watched : Watched origin key state) (ledger : Ledger state)
    (entry : next.entry key = state.entry key)
    (tasks : ∀ task ∈ next.tasks, ∀ build, task.awaited? = some build →
      task ∈ state.tasks ∨ .failed build ∉ state.journal)
    (more : List Occurrence) (journal : next.journal = state.journal ++ more)
    (unbegun : ∀ occurrence ∈ more, occurrence.begins key = false)
    (unanswered : ∀ call result, .answered call .get key result ∉ more) :
    Watched origin key next := by
  apply watched.step more journal
  intro segment split _ calm window
  apply window.frame ledger calm unbegun journal entry
  · intro task member build awaits
    rcases tasks task member build awaits with present | notFailed
    · exact Or.inl present
    · refine Or.inr fun failed => notFailed ?_
      rw [split]
      exact List.mem_append_left _ failed
  · intro call result member
    exact absurd member (unanswered call result)

/-- A change that leaves entries and tasks. -/
theorem quiet (watched : Watched origin key state) (ledger : Ledger state)
    (entries : next.entries = state.entries) (tasks : next.tasks = state.tasks)
    (more : List Occurrence) (journal : next.journal = state.journal ++ more)
    (unbegun : ∀ occurrence ∈ more, occurrence.begins key = false)
    (unanswered : ∀ call result, .answered call .get key result ∉ more) :
    Watched origin key next := by
  refine watched.shift ledger ?_ ?_ more journal unbegun unanswered
  · unfold State.entry
    rw [entries]
  · intro task member _ _
    exact Or.inl (tasks ▸ member)

/-- A change that leaves entries and tasks, and of which the journal has one thing to tell. -/
theorem note (watched : Watched origin key state) (ledger : Ledger state)
    (entries : next.entries = state.entries) (tasks : next.tasks = state.tasks)
    (occurrence : Occurrence) (journal : next.journal = state.journal ++ [occurrence])
    (unbegun : occurrence.begins key = false)
    (unanswered : ∀ call result, occurrence ≠ .answered call .get key result) :
    Watched origin key next := by
  apply watched.quiet ledger entries tasks [occurrence] journal
  · intro other member
    rw [List.mem_singleton.mp member]
    exact unbegun
  · intro call result member
    exact unanswered call result (List.mem_singleton.mp member).symm

/-- What disturbs the key ends the window. -/
theorem disturb (watched : Watched origin key state) (more : List Occurrence)
    (journal : next.journal = state.journal ++ more) (occurrence : Occurrence)
    (member : occurrence ∈ more) (disturbs : occurrence.disturbs key = true) :
    Watched origin key next := by
  apply watched.step more journal
  intro segment split _ calm window
  rw [calm occurrence member] at disturbs
  cases disturbs

theorem dismiss (watched : Watched origin key state) (ledger : Ledger state) (name : TaskName) :
    Watched origin key (state.dismiss name) := by
  refine watched.shift ledger rfl ?_ [] (List.append_nil _).symm (by simp) (by simp)
  intro task member _ _
  exact Or.inl (State.mem_of_mem_dismiss member)

theorem spawn (watched : Watched origin key state) (ledger : Ledger state)
    (task : Task World Runtime Resource Reply)
    (pending : ∀ build, task.awaited? = some build → .failed build ∉ state.journal) :
    Watched origin key (state.spawn task) := by
  refine watched.shift ledger rfl ?_ [] (List.append_nil _).symm (by simp) (by simp)
  intro other member build awaits
  rcases List.mem_append.mp member with present | new
  · exact Or.inl present
  · rw [List.mem_singleton.mp new] at awaits
    exact Or.inr (pending build awaits)

/-- A build of another key begins. -/
theorem begin_of_ne (watched : Watched origin key state) (ledger : Ledger state) {other : String}
    (idle : (state.entry other).building = none) (different : other ≠ key) :
    Watched origin key (State.startOrJoin builder state other).2 := by
  have parts := State.startOrJoin_start builder state idle
  refine watched.shift ledger ?_ ?_ [.started (state.nextBuild other) state.epoch] ?_ ?_ (by simp)
  · rw [State.entry_startOrJoin builder idle, if_neg different]
  · intro task member build awaits
    rw [parts] at member
    rcases List.mem_append.mp member with present | new
    · exact Or.inl present
    · rw [List.mem_singleton.mp new] at awaits
      cases awaits
  · rw [parts]
  · intro occurrence member
    rw [List.mem_singleton.mp member]
    exact decide_eq_false different

/-- A build ends with a graph. -/
theorem install (watched : Watched origin key state) (ledger : Ledger state) {id : BuildId}
    {startEpoch : Nat} {rest : Activity World (Outcome Runtime Resource)}
    {graph : Graph Runtime Resource} {reason : Option String}
    (dated : Dated ((((state.dismiss (.building id)).install id startEpoch graph
      reason).setOutcome id (.ok ())).notifyAll id))
    (found : state.task? (.building id) = some (.building id startEpoch rest)) :
    Watched origin key ((((state.dismiss (.building id)).install id startEpoch graph
      reason).setOutcome id (.ok ())).notifyAll id) := by
  rcases State.notifyAll_eq
      (((state.dismiss (.building id)).install id startEpoch graph reason).setOutcome id
        (.ok ())) id with ⟨world, holders, _, parts⟩
  have entries := State.entry_install (state.dismiss (.building id)) id startEpoch graph reason key
  rw [parts] at dated ⊢
  have journal := List.append_assoc state.journal [.installed id]
    ((List.range state.subscribers.length).map (.notified · id))
  by_cases same : id.key = key
  · rw [if_pos same] at entries
    rcases ledger.outcome_of_inProgress (State.inProgress_pos found) with ⟨_, marked, _⟩
    apply watched.step _ journal
    intro segment _ _ calm window
    refine window.install dated same (same ▸ marked) graph calm (by simp [Occurrence.begins])
      (by simp) journal ?_ ?_ ?_
    · exact congrArg Entry.building entries
    · exact congrArg Entry.installed entries
    · intro task member _
      exact State.mem_of_mem_dismiss member
  · rw [if_neg same] at entries
    refine watched.shift ledger entries ?_ _ journal (by simp [Occurrence.begins]) (by simp)
    intro task member _ _
    exact Or.inl (State.mem_of_mem_dismiss member)

/-- A caller learns that its build failed. In a calm window it had failed before, and so the
caller had been waiting from the beginning. -/
theorem refuse (watched : Watched origin key state) (ledger : Ledger state) {call : CallId}
    {build : BuildId} {purpose : Purpose} {text : String}
    (found : state.task? (.waiting call) = some (.waiting call build purpose))
    (failed : state.outcomes.lookup build = some (.error text)) :
    Watched origin key
      ((state.dismiss (.waiting call)).refuse call purpose build.key text) := by
  apply watched.step [.answered call purpose build.key (.error (.build text))] rfl
  intro segment split calm calmMore window
  refine window.frame ledger calmMore (by simp [Occurrence.begins]) rfl rfl ?_ ?_
  · intro task member _ _
    exact Or.inl (State.mem_of_mem_dismiss member)
  · intro caller result member
    have told : Occurrence.failed build ∈ state.journal :=
      failures_pos_iff.mp ((ledger.reported build).mpr ⟨text, failed⟩)
    cases List.mem_singleton.mp member
    rw [split] at told
    rcases List.mem_append.mp told with before | within
    · exact ⟨build, window.waiting _ (State.mem_of_task? found) build rfl before, before⟩
    · have disturbs := calm _ within
      simp [Occurrence.disturbs] at disturbs

end Watched

/-- Every move keeps the window of a calm key. -/
theorem watched_kept (origin : State World Runtime Resource Reply) (key : String) :
    Kept builder fun situation : Situation World Runtime Resource Reply =>
      (Ledger situation.state ∧ Dated situation.state) ∧ Watched origin key situation.state := by
  rintro before after move ⟨⟨ledger, dated⟩, watched⟩
  have kept := dated_kept before after move ⟨ledger, dated⟩
  refine ⟨kept, ?_⟩
  cases move with
  | world | elapse | subscribe | answer | share | drop | forget =>
      exact watched.quiet ledger rfl rfl [] (List.append_nil _).symm (by simp) (by simp)
  | ask | closed | closedAll | fire | refreshed =>
      exact watched.note ledger rfl rfl _ rfl rfl (by simp)
  | request other delay =>
      rcases State.requestRebuild_eq _ other delay with same | same <;> rw [same] <;>
        exact watched.note ledger rfl rfl _ rfl rfl (by simp)
  | cancel other =>
      rcases State.cancelTimer_eq _ other with same | same <;> rw [same]
      · exact watched
      · exact watched.note ledger rfl rfl _ rfl rfl (by simp)
  | invalidate other =>
      by_cases same : other = key
      · exact watched.disturb [.invalidated other] rfl _ List.mem_cons_self (decide_eq_true same)
      · refine watched.shift ledger ?_ (fun _ member _ _ => Or.inl member) [.invalidated other] rfl
          (by simp [Occurrence.begins]) (by simp)
        exact (State.entry_invalidate other key).trans (if_neg fun both => same both.1)
  | invalidateAll => exact watched.disturb [.invalidatedAll] rfl _ List.mem_cons_self rfl
  | @evict loose state other =>
      rcases State.evict_eq state other with ⟨entries, parts⟩
      have journal : (state.evict other).2.journal = state.journal ++ [.emptied other] := by
        rw [parts]
      by_cases same : other = key
      · exact watched.disturb [.emptied other] journal _ List.mem_cons_self (decide_eq_true same)
      · refine watched.shift ledger (State.entry_evict_of_ne same) ?_ [.emptied other] journal
          (by simp [Occurrence.begins]) (by simp)
        intro task member _ _
        rw [parts] at member
        exact Or.inl member
  | @start loose state other idle stale =>
      by_cases same : other = key
      · subst same
        apply watched.step [.started (state.nextBuild other) state.epoch]
        · exact congrArg State.journal
            (congrArg Prod.snd (State.startOrJoin_start builder state idle))
        · intro segment _ _ _ window
          exact window.begin ledger idle stale
      · exact watched.begin_of_ne ledger idle same
  | @restart loose state call other idle =>
      by_cases same : other = key
      · have parts := State.startOrJoin_start builder (state.note (.asked call .rebuild other)) idle
        have journal := congrArg State.journal (congrArg Prod.snd parts)
        refine watched.disturb _ (journal.trans (List.append_assoc _ _ _))
          (.asked call .rebuild other)
          List.mem_cons_self ?_
        simp [Occurrence.disturbs, same]
      · have noted : Watched origin key (state.note (.asked call .rebuild other)) :=
          watched.note ledger rfl rfl _ rfl rfl (by simp)
        exact noted.begin_of_ne (ledger.note _ rfl) idle same
  | @serve loose state call other installed clean present =>
      rcases State.deliver_eq state call .get installed.id with ⟨holders, _, parts⟩
      rw [parts]
      have sameKey := (dated.present other installed present).1
      by_cases same : other = key
      · subst same
        apply watched.step [.answered call .get other (.ok installed.id)]
        · rw [sameKey]
        · intro segment _ _ _ window
          refine window.serve clean present ?_ ?_ call <;> rfl
      · refine watched.note ledger rfl rfl _ rfl rfl ?_
        intro caller result equal
        cases equal
        exact same sameKey.symm
  | await call purpose other build pending =>
      apply watched.spawn ledger _
      intro awaited awaits
      cases awaits
      exact ledger.not_failed_of_marked pending
  | awaitRefresh other build pending =>
      apply watched.spawn ledger _
      intro awaited awaits
      cases awaits
      exact ledger.not_failed_of_marked pending
  | work | finish | park | releasing =>
      apply watched.spawn ledger _
      intro awaited awaits
      cases awaits
  | wake | wakeRefresh | worked | finished | unpark | released => exact watched.dismiss ledger _
  | @deliver loose state call build found delivered =>
      rcases State.deliver_eq (state.dismiss (.waiting call)) call .rebuild
          build with ⟨holders, _, parts⟩
      rw [parts]
      exact (watched.dismiss ledger (.waiting call)).note
        (ledger.dismiss _ fun _ => TaskName.noConfusion) rfl rfl _ rfl rfl (by simp)
  | @refuse loose state call build purpose text found failed =>
      exact watched.refuse ledger found failed
  | failRefresh | release =>
      exact (watched.dismiss ledger _).note (ledger.dismiss _ fun _ => TaskName.noConfusion) rfl rfl
        _ rfl rfl (by simp)
  | @install loose state id startEpoch rest graph reason found =>
      exact watched.install ledger kept.2 found
  | @abandon loose state id startEpoch rest text found =>
      by_cases same : id.key = key
      · exact watched.disturb [.failed id] rfl _ List.mem_cons_self (decide_eq_true same)
      · refine watched.shift ledger ?_ ?_ [.failed id] rfl (by simp [Occurrence.begins]) (by simp)
        · apply (State.entry_abandon id text key).trans
          rw [if_neg same]
          rfl
        · intro task member _ _
          exact Or.inl (State.mem_of_mem_dismiss member)
  | proceed before after member continues =>
      refine watched.shift ledger rfl ?_ [] (List.append_nil _).symm (by simp) (by simp)
      intro task present build awaits
      rcases State.mem_replace present with new | old
      · subst new
        cases continues <;> cases awaits
      · exact Or.inl old
  | retire installed =>
      unfold State.retire
      split
      · exact watched.quiet ledger rfl rfl [] (List.append_nil _).symm (by simp) (by simp)
      · exact watched.note ledger rfl rfl _ rfl rfl (by simp)
  | setFree =>
      refine watched.shift ledger rfl ?_ [] (List.append_nil _).symm (by simp) (by simp)
      intro task present build awaits
      rcases List.mem_append.mp present with old | new
      · exact Or.inl old
      · rcases List.mem_map.mp new with ⟨deferred, _, rfl⟩
        cases awaits

end RuntimeCache

end AssistantEngine
