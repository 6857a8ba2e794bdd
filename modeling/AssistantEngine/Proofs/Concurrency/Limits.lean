import AssistantEngine.Proofs.Concurrency.Runs

/-!
Activities under a time limit. A sequence under a limit runs its first part under the limit and, if
that comes to its end, goes on under the same limit. Only what sleeps can be given up.
-/

namespace AssistantEngine

namespace Activity

variable {World Result Other : Type}

/-! ## Sequences -/

/-- What follows on a part that comes to its end under a limit. -/
def andThen (limit : Time) (next : Result → Activity World Other) :
    Option Result → Activity World (Option Other)
  | some result => (next result).limitAt limit
  | none => done none

theorem limitAt_bind (limit : Time) (activity : Activity World Result)
    (next : Result → Activity World Other) :
    (activity.bind next).limitAt limit = (activity.limitAt limit).bind (andThen limit next) := by
  induction activity with
  | done result => rfl
  | look piece induction =>
      simp only [bind, limitAt, look.injEq]
      funext time world
      exact induction time world
  | put changed rest induction => simp only [bind, limitAt, induction]
  | pause deadline ready rest induction =>
      simp only [bind, limitAt, induction, pause.injEq, look.injEq, true_and]
      funext time world
      split <;> rfl

/-! ## Runs -/

namespace Runs

variable {others : World → World → Prop} {limit : Time} {world final : World}
  {deeds : List (Deed World)}

/-- A sequence is given up in its first part, or the first part ends and the second one runs. -/
theorem of_limitAt_bind {activity : Activity World Result} {next : Result → Activity World Other}
    {outcome : Option Other}
    (runs : Runs others ((activity.bind next).limitAt limit) world deeds outcome final) :
    (outcome = none ∧ Runs others (activity.limitAt limit) world deeds none final) ∨
      ∃ front back result between, deeds = front ++ back ∧
        Runs others (activity.limitAt limit) world front (some result) between ∧
        Runs others ((next result).limitAt limit) between back outcome final := by
  rw [limitAt_bind] at runs
  obtain ⟨front, back, middle, between, split, first, second⟩ := runs.of_bind
  cases middle with
  | some result => exact .inr ⟨front, back, result, between, split, first, second⟩
  | none =>
      obtain ⟨empty, given, same⟩ := second.of_done
      subst empty given same
      rw [List.append_nil] at split
      exact .inl ⟨rfl, split ▸ first⟩

/-! Only a pause can be given up, and none that others need not end. -/

theorem of_limitAt_modify {change : World → World} {next : Unit → Activity World Other}
    {outcome : Option Other}
    (runs : Runs others (((modify change).bind next).limitAt limit) world deeds outcome final) :
    ∃ back, deeds = ⟨world, world⟩ :: ⟨world, change world⟩ :: back ∧
      Runs others ((next ()).limitAt limit) (change world) back outcome final := by
  cases runs with
  | look time rest =>
      cases rest with
      | put rest => exact ⟨_, rfl, rest⟩

theorem of_limitAt_inspect {view : World → Result} {next : Result → Activity World Other}
    {outcome : Option Other}
    (runs : Runs others (((inspect view).bind next).limitAt limit) world deeds outcome final) :
    ∃ back, deeds = ⟨world, world⟩ :: back ∧
      Runs others ((next (view world)).limitAt limit) world back outcome final := by
  cases runs with
  | look time rest => exact ⟨_, rfl, rest⟩

theorem of_limitAt_giveWay {next : Unit → Activity World Other} {outcome : Option Other}
    (runs : Runs others ((giveWay.bind next).limitAt limit) world deeds outcome final) :
    ∃ back later, deeds = ⟨later, later⟩ :: back ∧ others world later ∧
      Runs others ((next ()).limitAt limit) later back outcome final := by
  cases runs with
  | pause meanwhile rest =>
      cases rest with
      | look time rest => exact ⟨_, _, rfl, meanwhile, rest⟩

theorem of_limitAt_sleep {duration : Time} {outcome : Option Unit}
    (runs : Runs others ((sleep duration).limitAt limit) world deeds outcome final) :
    (∀ deed ∈ deeds, deed.after = deed.before) ∧ (final = world ∨ others world final) := by
  unfold sleep at runs
  split at runs
  · obtain ⟨empty, -, same⟩ := runs.of_done
    simp [empty, same]
  · cases runs with
    | look time rest =>
        cases rest with
        | pause meanwhile rest =>
            cases rest with
            | look time rest =>
                -- Awake or given up, it is done.
                dsimp only at rest
                split at rest
                all_goals
                  obtain ⟨empty, -, same⟩ := rest.of_done
                  subst empty same
                  exact ⟨by simp, .inr meanwhile⟩

end Runs

/-! ## Completion -/

theorem complete_limitAt_bind (limit : Time) (activity : Activity World Result)
    (next : Result → Activity World Other) (time : Time) (world : World) :
    ((activity.bind next).limitAt limit).complete time world =
      ((activity.limitAt limit).complete time world).bind fun (outcome, time, world) =>
        (andThen limit next outcome).complete time world := by
  rw [limitAt_bind, complete_bind]

theorem complete_limitAt_modify (limit : Time) (change : World → World)
    (next : Unit → Activity World Other) (time : Time) (world : World) :
    (((modify change).bind next).limitAt limit).complete time world =
      ((next ()).limitAt limit).complete time (change world) := rfl

theorem complete_limitAt_inspect (limit : Time) (view : World → Result)
    (next : Result → Activity World Other) (time : Time) (world : World) :
    (((inspect view).bind next).limitAt limit).complete time world =
      ((next (view world)).limitAt limit).complete time world := rfl

theorem complete_limitAt_giveWay (limit : Time) (next : Unit → Activity World Other) (time : Time)
    (world : World) :
    ((giveWay.bind next).limitAt limit).complete time world =
      ((next ()).limitAt limit).complete time world := rfl

/-- Who sleeps alone under a limit wakes if the time is up by then, and is given up at the limit
otherwise. -/
theorem complete_limitAt_sleep (limit duration time : Nat) (world : World) :
    ((sleep duration).limitAt limit).complete time world =
      if duration = 0 ∨ time + duration ≤ limit then some (some (), time + duration, world)
      else some (none, max time limit, world) := by
  unfold sleep
  by_cases instant : duration = 0
  · subst instant
    rfl
  · rw [if_neg instant]
    by_cases within : time + duration ≤ limit
    · simp [limitAt, complete, earlier, within]
    · have late : max time (min (time + duration) limit) = max time limit := by omega
      have asleep : ¬time + duration ≤ max time limit := by omega
      simp [limitAt, complete, earlier, instant, within, late, asleep]

end Activity

end AssistantEngine
