import AssistantEngine.Concurrency.Activity

/-!
Activities that spare a part of the world. What they do between two pauses leaves that part as
it is; during a pause others may change it.
-/

namespace AssistantEngine

namespace Activity

variable {World Result Other View : Type}

/-- Whatever an activity sees when a pause ends, it leaves as it is until the next one, and all
its results have a property. -/
def Spares (view : World → View) (holds : Result → Prop) :
    View → Activity World Result → Prop
  | _, done result => holds result
  | seen, look next => ∀ time world, view world = seen → Spares view holds seen (next time world)
  | seen, put world next => view world = seen ∧ Spares view holds seen next
  | _, pause _ _ next => ∀ seen, Spares view holds seen next

namespace Spares

variable {view : World → View} {holds : Result → Prop} {seen : View}
  {activity : Activity World Result}

theorem mono {wider : Result → Prop} (spares : Spares view holds seen activity)
    (implies : ∀ result, holds result → wider result) : Spares view wider seen activity := by
  induction activity generalizing seen with
  | done result => exact implies result spares
  | look piece induction =>
      intro time world same
      exact induction time world (spares time world same)
  | put world rest induction => exact ⟨spares.1, induction spares.2⟩
  | pause deadline ready rest induction =>
      intro later
      exact induction (spares later)

theorem bind {next : Result → Activity World Other} {last : Other → Prop}
    (first : Spares view holds seen activity)
    (second : ∀ later result, holds result → Spares view last later (next result)) :
    Spares view last seen (activity.bind next) := by
  induction activity generalizing seen with
  | done result => exact second seen result first
  | look piece induction =>
      intro time world same
      exact induction time world (first time world same)
  | put world rest induction => exact ⟨first.1, induction first.2⟩
  | pause deadline ready rest induction =>
      intro later
      exact induction (first later)

theorem giveWay : Spares view (fun _ => True) seen (giveWay : Activity World Unit) :=
  fun _ => trivial

theorem sleep (duration : Time) :
    Spares view (fun _ => True) seen (sleep duration : Activity World Unit) := by
  unfold Activity.sleep
  split
  · trivial
  · intro time world same later
    trivial

theorem now : Spares view (fun _ => True) seen (now : Activity World Time) :=
  fun _ _ _ => trivial

theorem inspect {glance : World → Result}
    (every : ∀ world, view world = seen → holds (glance world)) :
    Spares view holds seen (inspect glance) :=
  fun _ world same => every world same

theorem transact {change : World → Result × World}
    (kept : ∀ world, view (change world).2 = view world) :
    Spares view (fun _ => True) seen (transact change) :=
  fun _ world same => ⟨(kept world).trans same, trivial⟩

theorem modify {change : World → World} (kept : ∀ world, view (change world) = view world) :
    Spares view (fun _ => True) seen (modify change) :=
  fun _ world same => ⟨(kept world).trans same, trivial⟩

/-! ## Scheduling -/

/-- Up to its next pause an activity changes nothing of what it spares, and afterwards it
spares whatever it then sees. -/
theorem advance {world : World} (spares : Spares view holds (view world) activity) (time : Time) :
    view (activity.advance time world).2 = view world ∧
      ∀ later, Spares view holds later (activity.advance time world).1 := by
  induction activity generalizing world with
  | done result => exact ⟨rfl, fun _ => spares⟩
  | look piece induction => exact induction time world (spares time world rfl)
  | put changed rest induction =>
      have same : view changed = view world := spares.1
      have tail := induction (same ▸ spares.2)
      exact ⟨tail.1.trans same, tail.2⟩
  | pause deadline ready rest _ => exact ⟨rfl, fun _ => spares⟩

/-- What spares a part of the world whatever it sees does so when it goes on. -/
theorem resume (spares : ∀ seen, Spares view holds seen activity) (time : Time) (world : World) :
    view (activity.resume time world).2 = view world ∧
      ∀ later, Spares view holds later (activity.resume time world).1 := by
  cases activity with
  | pause deadline ready rest => exact (spares (view world) (view world)).advance time
  | done result => exact (spares (view world)).advance time
  | look piece => exact (spares (view world)).advance time
  | put changed rest => exact (spares (view world)).advance time

end Spares

/-- An activity has run when it is done or pauses. -/
theorem advance_ends (activity : Activity World Result) (time : Time) (world : World) :
    (∃ result, (activity.advance time world).1 = done result) ∨
      ∃ deadline ready rest, (activity.advance time world).1 = pause deadline ready rest := by
  induction activity generalizing world with
  | done result => exact .inl ⟨result, rfl⟩
  | look piece induction => exact induction time world world
  | put changed rest induction => exact induction changed
  | pause deadline ready rest _ => exact .inr ⟨deadline, ready, rest, rfl⟩

/-- A sequence runs up to the first pause of its first part, or on into its second part. -/
theorem advance_bind (activity : Activity World Result) (next : Result → Activity World Other)
    (time : Time) (world : World) :
    (activity.bind next).advance time world =
      match activity.advance time world with
      | (done result, world) => (next result).advance time world
      | (rest, world) => (rest.bind next, world) := by
  induction activity generalizing world with
  | done result => rfl
  | look piece induction => exact induction time world world
  | put changed rest induction => exact induction changed
  | pause deadline ready rest _ => rfl

end Activity

end AssistantEngine
