import AssistantEngine.Concurrency.Activity

/-!
Activities that take the same course. Two activities are parallel if they pause at the same
places, can go on at the same times and end with the same result, whatever worlds they meet on
the way. An activity that is parallel to itself does not listen to the world.
-/

namespace AssistantEngine

namespace Activity

variable {World Result : Type}

inductive Parallel : Activity World Result → Activity World Result → Prop where
  | done (result : Result) : Parallel (.done result) (.done result)
  | look {first second : Time → World → Activity World Result}
      (same : ∀ time world other, Parallel (first time world) (second time other)) :
      Parallel (.look first) (.look second)
  | put (world other : World) {first second : Activity World Result}
      (rest : Parallel first second) : Parallel (.put world first) (.put other second)
  | pause (deadline : Option Time) {ready ready' : World → Bool}
      {first second : Activity World Result} (same : ∀ world other, ready world = ready' other)
      (rest : Parallel first second) :
      Parallel (.pause deadline ready first) (.pause deadline ready' second)

namespace Parallel

variable {first second : Activity World Result}

theorem isReady_eq (parallel : Parallel first second) (time : Time) (world other : World) :
    first.isReady time world = second.isReady time other := by
  cases parallel with
  | pause deadline same rest => simp only [isReady, same world other]
  | _ => rfl

theorem advance (parallel : Parallel first second) (time : Time) (world other : World) :
    Parallel (first.advance time world).1 (second.advance time other).1 := by
  induction parallel generalizing world other with
  | done result => exact .done result
  | look same induction => exact induction time world other world other
  | put changed changed' rest induction => exact induction changed changed'
  | pause deadline same rest induction => exact .pause deadline same rest

theorem resume (parallel : Parallel first second) (time : Time) (world other : World) :
    Parallel (first.resume time world).1 (second.resume time other).1 := by
  cases parallel with
  | pause deadline same rest => exact rest.advance time world other
  | done result => exact .done result
  | look same => exact (look same).advance time world other
  | put changed changed' rest => exact rest.advance time changed changed'

end Parallel

end Activity

end AssistantEngine
