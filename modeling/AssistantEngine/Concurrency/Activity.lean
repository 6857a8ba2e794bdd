/-!
Activities: computations that change a world and may pause on the way. An activity is cut into
the pieces that run between two pauses; whoever schedules activities may let others run at
every pause, and nowhere else. A pause ends when its condition holds in the world or when
its time has come.
-/

namespace AssistantEngine

/-- Time is counted in milliseconds. -/
abbrev Time := Nat

inductive Activity (World Result : Type) where
  | done (result : Result)
  | look (next : Time → World → Activity World Result)
  | put (world : World) (next : Activity World Result)
  | pause (deadline : Option Time) (ready : World → Bool) (next : Activity World Result)

namespace Activity

variable {World Result Other : Type}

def bind : Activity World Result → (Result → Activity World Other) → Activity World Other
  | done result, next => next result
  | look piece, next => look fun now world => bind (piece now world) next
  | put world rest, next => put world (bind rest next)
  | pause deadline ready rest, next => pause deadline ready (bind rest next)

instance : Monad (Activity World) where
  pure := done
  bind := bind

/-! ## Elementary activities -/

def now : Activity World Time := look fun time _ => done time

def world : Activity World World := look fun _ world => done world

/-- Reads something off the world. -/
def inspect (view : World → Result) : Activity World Result := look fun _ world => done (view world)

/-- Changes the world and answers at once, without a pause. -/
def transact (change : World → Result × World) : Activity World Result :=
  look fun _ world => put (change world).2 (done (change world).1)

def modify (change : World → World) : Activity World Unit :=
  look fun _ world => put (change world) (done ())

/-- A pause that may end at any time. -/
def giveWay : Activity World Unit := pause none (fun _ => true) (done ())

def waitUntil (ready : World → Bool) : Activity World Unit := pause none ready (done ())

/-- Pauses for a length of time; for none at all it does not pause. -/
def sleep (duration : Time) : Activity World Unit :=
  if duration = 0 then done ()
  else look fun time _ => pause (some (time + duration)) (fun _ => false) (done ())

/-- An activity on a part of the world. -/
def within {Part : Type} (view : World → Part) (update : Part → World → World) :
    Activity Part Result → Activity World Result
  | done result => done result
  | look next => look fun time world => within view update (next time (view world))
  | put part rest => look fun _ world => put (update part world) (within view update rest)
  | pause deadline ready rest =>
    pause deadline (fun world => ready (view world)) (within view update rest)

/-! ## Scheduling -/

/-- Whether an activity can go on. -/
def isReady (time : Time) (world : World) : Activity World Result → Bool
  | pause deadline ready _ => ready world || deadline.any (· ≤ time)
  | _ => true

/-- Runs up to the next pause or to the end. -/
def advance (time : Time) : Activity World Result → World → Activity World Result × World
  | done result, world => (done result, world)
  | look next, world => advance time (next time world) world
  | put world next, _ => advance time next world
  | pause deadline ready next, world => (pause deadline ready next, world)

/-- Ends the present pause and runs up to the next one. -/
def resume (time : Time) (activity : Activity World Result) (world : World) :
    Activity World Result × World :=
  match activity with
  | pause _ _ next => advance time next world
  | other => advance time other world

/-- When the present pause ends by itself, if it does. -/
def deadline? : Activity World Result → Option Time
  | pause deadline _ _ => deadline
  | _ => none

def result? : Activity World Result → Option Result
  | done result => some result
  | _ => none

/-- Runs an activity with no other beside it, letting time pass where it waits for time; `none`
if it waits for something that never comes. -/
def complete : Activity World Result → Time → World → Option (Result × Time × World)
  | done result, time, world => some (result, time, world)
  | look next, time, world => complete (next time world) time world
  | put world next, time, _ => complete next time world
  | pause deadline ready next, time, world =>
    if ready world then complete next time world
    else
      match deadline with
      | some deadline => complete next (max time deadline) world
      | none => none

/-! ## Time limits -/

/-- The earlier of two deadlines. -/
def earlier (first : Option Time) (second : Time) : Option Time :=
  match first with
  | some first => some (min first second)
  | none => some second

/-- Runs an activity until a deadline. If the activity can go on when the deadline comes, it
does; otherwise it is given up where it stands. -/
def limitAt (limit : Time) : Activity World Result → Activity World (Option Result)
  | done result => done (some result)
  | look next => look fun time world => limitAt limit (next time world)
  | put world next => put world (limitAt limit next)
  | pause deadline ready next =>
    pause (earlier deadline limit) ready
      (look fun time world =>
        if ready world || deadline.any (· ≤ time) then limitAt limit next else done none)

/-- Runs an activity for at most a length of time. -/
def limit (duration : Time) (activity : Activity World Result) : Activity World (Option Result) :=
  look fun time _ => limitAt (time + duration) activity

/-! ## Laws -/

@[simp] theorem bind_done (result : Result) (next : Result → Activity World Other) :
    bind (done result) next = next result := rfl

theorem bind_assoc {Third : Type} (activity : Activity World Result)
    (next : Result → Activity World Other) (last : Other → Activity World Third) :
    bind (bind activity next) last = bind activity fun result => bind (next result) last := by
  induction activity with
  | done result => rfl
  | look piece induction =>
      simp only [bind, look.injEq]
      funext time world
      exact induction time world
  | put world rest induction => simp only [bind, induction]
  | pause deadline ready rest induction => simp only [bind, induction]

theorem bind_pure (activity : Activity World Result) : bind activity done = activity := by
  induction activity with
  | done result => rfl
  | look piece induction =>
      simp only [bind, look.injEq]
      funext time world
      exact induction time world
  | put world rest induction => simp only [bind, induction]
  | pause deadline ready rest induction => simp only [bind, induction]

theorem within_bind {Part : Type} (view : World → Part) (update : Part → World → World)
    (activity : Activity Part Result) (next : Result → Activity Part Other) :
    within view update (bind activity next) =
      bind (within view update activity) fun result => within view update (next result) := by
  induction activity with
  | done result => rfl
  | look piece induction =>
      simp only [bind, within, look.injEq]
      funext time world
      exact induction time (view world)
  | put part rest induction => simp only [bind, within, induction]
  | pause deadline ready rest induction => simp only [bind, within, induction]

/-- A sequence of two activities runs one after the other. -/
theorem complete_bind (activity : Activity World Result) (next : Result → Activity World Other)
    (time : Time) (world : World) :
    complete (bind activity next) time world =
      (complete activity time world).bind fun (result, time, world) =>
        complete (next result) time world := by
  induction activity generalizing time world with
  | done result => rfl
  | look piece induction => exact induction time world time world
  | put changed rest induction => exact induction time changed
  | pause deadline ready rest induction =>
      simp only [bind, complete]
      split
      · exact induction time world
      · cases deadline with
        | none => rfl
        | some deadline => exact induction (max time deadline) world

end Activity

end AssistantEngine
