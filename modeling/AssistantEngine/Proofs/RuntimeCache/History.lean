import AssistantEngine.RuntimeCache.State

/-!
Reading the journal of the runtime cache: how often a build was started, ended or released, and
whether its key was invalidated since.
-/

namespace AssistantEngine

namespace RuntimeCache

namespace Occurrence

def isStart (id : BuildId) : Occurrence → Bool
  | started other _ => other = id
  | _ => false

def isInstallation (id : BuildId) : Occurrence → Bool
  | installed other => other = id
  | _ => false

def isFailure (id : BuildId) : Occurrence → Bool
  | failed other => other = id
  | _ => false

def isRelease (id : BuildId) : Occurrence → Bool
  | released other => other = id
  | _ => false

/-- The end of a build, by what it delivers to those who wait. -/
def ending (id : BuildId) : Except String Unit → Occurrence
  | .ok _ => installed id
  | .error _ => failed id

/-- Whether a build begins or ends. -/
@[simp] def concernsBuilds : Occurrence → Bool
  | started _ _ => true
  | installed _ => true
  | failed _ => true
  | _ => false

/-- Whether a graph is installed or released. -/
@[simp] def concernsGraphs : Occurrence → Bool
  | installed _ => true
  | released _ => true
  | _ => false

/-- Whether a key loses its claim to be up to date. -/
def invalidates (key : String) : Occurrence → Bool
  | invalidated other => other = key
  | invalidatedAll => true
  | _ => false

/-- Whether a caller that wants a clean graph, or a requested rebuild, gets the one of a build. -/
def serves (key : String) (id : BuildId) : Occurrence → Prop
  | answered _ purpose other result => purpose = .get ∧ other = key ∧ result = .ok id
  | refreshed other result => other = key ∧ result = .ok id
  | _ => False

/-- Whether an occurrence has to do with how fresh a graph is. -/
@[simp] def concernsFreshness : Occurrence → Bool
  | started _ _ => true
  | invalidated _ => true
  | invalidatedAll => true
  | answered _ .get _ (.ok _) => true
  | refreshed _ (.ok _) => true
  | _ => false

theorem not_serves_of_unconcerned {occurrence : Occurrence}
    (unconcerned : occurrence.concernsFreshness = false) (key : String) (id : BuildId) :
    ¬ occurrence.serves key id := by
  intro serves
  cases occurrence with
  | answered call purpose other result =>
      rcases serves with ⟨rfl, _, rfl⟩
      cases unconcerned
  | refreshed other result =>
      rcases serves with ⟨_, rfl⟩
      cases unconcerned
  | _ => cases serves

end Occurrence

namespace History

variable {journal more : List Occurrence} {id : BuildId}

def starts (journal : List Occurrence) (id : BuildId) : Nat := journal.countP (·.isStart id)

def installations (journal : List Occurrence) (id : BuildId) : Nat :=
  journal.countP (·.isInstallation id)

def failures (journal : List Occurrence) (id : BuildId) : Nat := journal.countP (·.isFailure id)

def releases (journal : List Occurrence) (id : BuildId) : Nat := journal.countP (·.isRelease id)

/-- The key of a build was invalidated after the build had been started. -/
def Invalidated (journal : List Occurrence) (id : BuildId) : Prop :=
  ∃ before epoch after, journal = before ++ .started id epoch :: after ∧
    ∃ occurrence ∈ after, occurrence.invalidates id.key

@[simp] theorem starts_append :
    starts (journal ++ more) id = starts journal id + starts more id := List.countP_append

@[simp] theorem installations_append :
    installations (journal ++ more) id = installations journal id + installations more id :=
  List.countP_append

@[simp] theorem failures_append :
    failures (journal ++ more) id = failures journal id + failures more id := List.countP_append

@[simp] theorem releases_append :
    releases (journal ++ more) id = releases journal id + releases more id := List.countP_append

/-- What has nothing to do with builds counts for none. -/
theorem counts_of_unconcerned
    (unconcerned : ∀ occurrence ∈ more, occurrence.concernsBuilds = false) :
    starts more id = 0 ∧ installations more id = 0 ∧ failures more id = 0 := by
  refine ⟨List.countP_eq_zero.mpr ?_, List.countP_eq_zero.mpr ?_, List.countP_eq_zero.mpr ?_⟩
  all_goals
    intro occurrence member accepted
    have refused := unconcerned occurrence member
    cases occurrence <;> simp_all [Occurrence.isStart, Occurrence.isInstallation,
      Occurrence.isFailure, Occurrence.concernsBuilds]

theorem counts_of_ungraphed
    (ungraphed : ∀ occurrence ∈ more, occurrence.concernsGraphs = false) :
    installations more id = 0 ∧ releases more id = 0 := by
  refine ⟨List.countP_eq_zero.mpr ?_, List.countP_eq_zero.mpr ?_⟩
  all_goals
    intro occurrence member accepted
    have refused := ungraphed occurrence member
    cases occurrence <;> simp_all [Occurrence.isInstallation, Occurrence.isRelease,
      Occurrence.concernsGraphs]

theorem starts_pos_iff : 0 < starts journal id ↔ ∃ epoch, .started id epoch ∈ journal := by
  unfold starts
  rw [List.countP_pos_iff]
  constructor
  · rintro ⟨occurrence, member, start⟩
    cases occurrence with
    | started other epoch =>
        have same : other = id := of_decide_eq_true start
        exact ⟨epoch, same ▸ member⟩
    | _ => cases start
  · rintro ⟨epoch, member⟩
    exact ⟨_, member, decide_eq_true rfl⟩

/-- Counting the occurrences equal to a given one. -/
theorem countP_pos_iff_mem {accepts : Occurrence → Bool} {occurrence : Occurrence}
    (characteristic : ∀ other, accepts other = true ↔ other = occurrence) :
    0 < journal.countP accepts ↔ occurrence ∈ journal := by
  rw [List.countP_pos_iff]
  constructor
  · rintro ⟨other, member, accepted⟩
    exact (characteristic other).mp accepted ▸ member
  · intro member
    exact ⟨occurrence, member, (characteristic occurrence).mpr rfl⟩

theorem installations_pos_iff : 0 < installations journal id ↔ .installed id ∈ journal :=
  countP_pos_iff_mem fun other => by cases other <;> simp [Occurrence.isInstallation]

theorem failures_pos_iff : 0 < failures journal id ↔ .failed id ∈ journal :=
  countP_pos_iff_mem fun other => by cases other <;> simp [Occurrence.isFailure]

theorem releases_pos_iff : 0 < releases journal id ↔ .released id ∈ journal :=
  countP_pos_iff_mem fun other => by cases other <;> simp [Occurrence.isRelease]

/-- A key is invalidated after a start in the first part of a journal or in the second, or else
the start is in the first part and the invalidation in the second. -/
theorem invalidated_append :
    Invalidated (journal ++ more) id ↔
      Invalidated journal id ∨
        (0 < starts journal id ∧ ∃ occurrence ∈ more, occurrence.invalidates id.key) ∨
          Invalidated more id := by
  constructor
  · rintro ⟨before, epoch, after, split, occurrence, member, invalidates⟩
    rcases List.append_eq_append_iff.mp split with
      ⟨front, beforeEq, moreEq⟩ | ⟨rest, journalEq, restEq⟩
    · exact Or.inr (Or.inr ⟨front, epoch, after, moreEq, occurrence, member, invalidates⟩)
    · cases rest with
      | nil =>
          exact Or.inr (Or.inr ⟨[], epoch, after, restEq.symm, occurrence, member, invalidates⟩)
      | cons head tail =>
          rcases List.cons.inj restEq with ⟨headEq, afterEq⟩
          subst headEq
          subst afterEq
          rcases List.mem_append.mp member with inside | outside
          · exact Or.inl ⟨before, epoch, tail, journalEq, occurrence, inside, invalidates⟩
          · refine Or.inr (Or.inl ⟨starts_pos_iff.mpr ⟨epoch, ?_⟩, occurrence, outside,
              invalidates⟩)
            rw [journalEq]
            exact List.mem_append_right _ List.mem_cons_self
  · rintro (⟨before, epoch, after, split, occurrence, member, invalidates⟩ |
      ⟨started, occurrence, member, invalidates⟩ |
      ⟨before, epoch, after, split, occurrence, member, invalidates⟩)
    · refine ⟨before, epoch, after ++ more, ?_, occurrence, List.mem_append_left _ member,
        invalidates⟩
      rw [split, List.append_assoc, List.cons_append]
    · rcases starts_pos_iff.mp started with ⟨epoch, present⟩
      rcases List.append_of_mem present with ⟨before, after, split⟩
      refine ⟨before, epoch, after ++ more, ?_, occurrence, List.mem_append_right _ member,
        invalidates⟩
      rw [split, List.append_assoc, List.cons_append]
    · refine ⟨journal ++ before, epoch, after, ?_, occurrence, member, invalidates⟩
      rw [split, List.append_assoc]

theorem not_invalidated_singleton (occurrence : Occurrence) :
    ¬ Invalidated [occurrence] id := by
  rintro ⟨before, epoch, after, split, other, member, _⟩
  have lengths := congrArg List.length split
  simp only [List.length_append, List.length_cons, List.length_nil] at lengths
  have empty : after = [] := List.eq_nil_of_length_eq_zero (by omega)
  rw [empty] at member
  cases member

/-- One more occurrence invalidates a key if it does so after the start. -/
theorem invalidated_snoc (occurrence : Occurrence) :
    Invalidated (journal ++ [occurrence]) id ↔
      Invalidated journal id ∨ (0 < starts journal id ∧ occurrence.invalidates id.key) := by
  rw [invalidated_append]
  simp [not_invalidated_singleton]

theorem invalidated_of_unconcerned
    (unconcerned : ∀ occurrence ∈ more, occurrence.concernsFreshness = false) :
    Invalidated (journal ++ more) id ↔ Invalidated journal id := by
  rw [invalidated_append]
  constructor
  · rintro (earlier | ⟨_, occurrence, member, invalidates⟩ | ⟨before, epoch, after, split, _⟩)
    · exact earlier
    · have refused := unconcerned occurrence member
      cases occurrence with
      | invalidated key => cases refused
      | invalidatedAll => cases refused
      | _ => cases invalidates
    · have member : Occurrence.started id epoch ∈ more := by
        rw [split]
        exact List.mem_append_right _ List.mem_cons_self
      cases unconcerned _ member
  · exact Or.inl

theorem starts_pos_of_invalidated (invalidated : Invalidated journal id) :
    0 < starts journal id := by
  rcases invalidated with ⟨before, epoch, after, split, _⟩
  refine starts_pos_iff.mpr ⟨epoch, ?_⟩
  rw [split]
  exact List.mem_append_right _ List.mem_cons_self

theorem starts_cons_started (epoch : Nat) :
    starts (.started id epoch :: journal) id = starts journal id + 1 :=
  List.countP_cons_of_pos (decide_eq_true rfl)

/-- A build that was started at most once has no other start. -/
theorem not_mem_of_starts_le_one {before after : List Occurrence} {epoch : Nat}
    (atMostOnce : starts (before ++ .started id epoch :: after) id ≤ 1) :
    starts before id = 0 ∧ starts after id = 0 := by
  rw [starts_append, starts_cons_started] at atMostOnce
  omega

/-- A build that was started once is outdated if its key was invalidated after that start. -/
theorem invalidated_iff_of_split {before after : List Occurrence} {epoch : Nat}
    (atMostOnce : starts (before ++ .started id epoch :: after) id ≤ 1) :
    Invalidated (before ++ .started id epoch :: after) id ↔
      ∃ occurrence ∈ after, occurrence.invalidates id.key := by
  rcases not_mem_of_starts_le_one atMostOnce with ⟨noneBefore, noneAfter⟩
  constructor
  · intro invalidated
    rw [invalidated_append, ← List.singleton_append, invalidated_append] at invalidated
    rcases invalidated with earlier | ⟨begun, _⟩ | single | ⟨_, outdated⟩ | later
    · have := starts_pos_of_invalidated earlier
      omega
    · omega
    · exact absurd single (not_invalidated_singleton _)
    · exact outdated
    · have := starts_pos_of_invalidated later
      omega
  · rintro ⟨occurrence, member, invalidates⟩
    exact ⟨before, epoch, after, rfl, occurrence, member, invalidates⟩

/-- A build that was started and is not outdated was started after every invalidation. -/
theorem current_of_not_invalidated (begun : 0 < starts journal id)
    (current : ¬ Invalidated journal id) :
    ∃ before epoch after, journal = before ++ .started id epoch :: after ∧
      ∀ occurrence ∈ after, occurrence.invalidates id.key = false := by
  rcases starts_pos_iff.mp begun with ⟨epoch, member⟩
  rcases List.append_of_mem member with ⟨before, after, split⟩
  refine ⟨before, epoch, after, split, ?_⟩
  intro occurrence present
  apply Bool.eq_false_iff.mpr
  intro invalidates
  exact current ⟨before, epoch, after, split, occurrence, present, invalidates⟩

end History

end RuntimeCache

end AssistantEngine
