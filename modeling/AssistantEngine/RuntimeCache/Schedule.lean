import AssistantEngine.RuntimeCache.Run

/-!
One way to order a run: a task goes on for as long as it can, then the first other one that
can, and when none can time passes until the next one can. The functions here take as fuel
the greatest number of actions they may cause.
-/

namespace AssistantEngine

namespace RuntimeCache

namespace State

variable {World Runtime Resource Reply : Type}

/-- When the pause of a task ends by itself. -/
def deadline? : Task World Runtime Resource Reply → Option Time
  | .building _ _ rest => rest.deadline?
  | .finishing _ rest => rest.deadline?
  | .releasing _ rest => rest.deadline?
  | .closing _ _ current _ _ => current.deadline?
  | .working _ _ rest => rest.deadline?
  | _ => none

/-- The names under which a task may be going on. -/
def continuations : TaskName → List TaskName
  | .waiting call => [.waiting call, .working call]
  | .building id => [.building id, .finishing id]
  | .orphaned id => [.releasing id]
  | name => [name]

/-- The ready task to go on with, after the one that went on last. -/
def nextTask? (state : State World Runtime Resource Reply) (last : Option TaskName) :
    Option TaskName :=
  let ready := (state.tasks.filter state.isReady).map (·.name)
  match ready.find? fun name => last.any fun last => (continuations last).contains name with
  | some name => some name
  | none => ready.head?

/-- The next action that needs no time to pass. -/
def nextAction? (state : State World Runtime Resource Reply) (last : Option TaskName) :
    Option (Action World Runtime Resource Reply) :=
  match state.nextTask? last with
  | some name => some (.resume name)
  | none =>
    (List.find? (fun timer => timer.2 ≤ state.now) state.timers).map fun timer => .fire timer.1

/-- The task that an action is about. -/
def taskOf : Action World Runtime Resource Reply → Option TaskName
  | .resume name => some name
  | _ => none

/-- The next moment at which something happens by itself. -/
def nextMoment? (state : State World Runtime Resource Reply) : Option Time :=
  (state.timers.values ++ state.tasks.filterMap deadline?).min?

/-- Goes on until a moment, or until a condition holds. -/
def runUntil (builder : Builder World Runtime Resource) (limit : Option Time)
    (finished : State World Runtime Resource Reply → Bool) :
    Nat → Option TaskName → State World Runtime Resource Reply → State World Runtime Resource Reply
  | 0, _, state => state
  | fuel + 1, last, state =>
    if finished state then state
    else
      match state.nextAction? last with
      | some action =>
        runUntil builder limit finished fuel (taskOf action) (step builder state action)
      | none =>
        match state.nextMoment?.filter fun moment => limit.all (moment ≤ ·) with
        | some moment =>
          runUntil builder limit finished fuel none
            (step builder state (.elapse (moment - state.now)))
        | none =>
          match limit with
          | some limit => step builder state (.elapse (limit - state.now))
          | none => state

/-- Lets everything happen that happens within a length of time. -/
def pass (builder : Builder World Runtime Resource) (fuel : Nat) (duration : Time)
    (state : State World Runtime Resource Reply) : State World Runtime Resource Reply :=
  runUntil builder (some (state.now + duration)) (fun _ => false) fuel none state

/-- Goes on, letting time pass where needed, until a call is answered. -/
def await (builder : Builder World Runtime Resource) (fuel : Nat) (call : CallId)
    (state : State World Runtime Resource Reply) : State World Runtime Resource Reply :=
  runUntil builder none (fun state => (state.answer? call).isSome) fuel none state

end State

end RuntimeCache

end AssistantEngine
