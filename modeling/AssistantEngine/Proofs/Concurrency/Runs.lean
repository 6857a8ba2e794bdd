import AssistantEngine.Proofs.Concurrency.Spares

/-!
Whole runs of an activity. At every pause the others may change the world as far as they
are allowed to; what the activity itself sees and does in between is told by its deeds, one
after the other.
-/

namespace AssistantEngine

namespace Activity

/-- A look at the world, which leaves it as it is, or a change of it. -/
structure Deed (World : Type) where
  before : World
  after : World

variable {World Result Other View : Type}

/-- A look that changes nothing. -/
def glance (world : World) : Deed World := ⟨world, world⟩

/-- An activity that begins in a world ends with a result in another one, after some deeds. How
long its pauses last, what time it sees, and what the others do meanwhile is left open. -/
inductive Runs (others : World → World → Prop) :
    Activity World Result → World → List (Deed World) → Result → World → Prop where
  | done (result : Result) (world : World) : Runs others (.done result) world [] result world
  | look (time : Time) {next : Time → World → Activity World Result} {world final : World}
      {deeds : List (Deed World)} {result : Result}
      (rest : Runs others (next time world) world deeds result final) :
      Runs others (.look next) world (⟨world, world⟩ :: deeds) result final
  | put {next : Activity World Result} {world changed final : World} {deeds : List (Deed World)}
      {result : Result} (rest : Runs others next changed deeds result final) :
      Runs others (.put changed next) world (⟨world, changed⟩ :: deeds) result final
  | pause {deadline : Option Time} {ready : World → Bool} {next : Activity World Result}
      {world later final : World} {deeds : List (Deed World)} {result : Result}
      (meanwhile : others world later) (rest : Runs others next later deeds result final) :
      Runs others (.pause deadline ready next) world deeds result final

namespace Runs

variable {others : World → World → Prop} {activity : Activity World Result}
  {world final : World} {deeds : List (Deed World)} {result : Result}

/-! ## Elementary activities -/

theorem of_done {given : Result}
    (runs : Runs others (.done given) world deeds result final) :
    deeds = [] ∧ result = given ∧ final = world := by
  cases runs
  exact ⟨rfl, rfl, rfl⟩

theorem of_now {time : Time} (runs : Runs others now world deeds time final) :
    deeds = [⟨world, world⟩] ∧ final = world := by
  cases runs with
  | look time rest =>
      cases rest
      exact ⟨rfl, rfl⟩

theorem of_inspect {view : World → Result}
    (runs : Runs others (inspect view) world deeds result final) :
    deeds = [⟨world, world⟩] ∧ result = view world ∧ final = world := by
  cases runs with
  | look time rest =>
      cases rest
      exact ⟨rfl, rfl, rfl⟩

theorem of_transact {change : World → Result × World}
    (runs : Runs others (transact change) world deeds result final) :
    deeds = [⟨world, world⟩, ⟨world, (change world).2⟩] ∧ result = (change world).1 ∧
      final = (change world).2 := by
  cases runs with
  | look time rest =>
      cases rest with
      | put rest =>
          cases rest
          exact ⟨rfl, rfl, rfl⟩

theorem of_modify {change : World → World} {result : Unit}
    (runs : Runs others (modify change) world deeds result final) :
    deeds = [⟨world, world⟩, ⟨world, change world⟩] ∧ final = change world := by
  cases runs with
  | look time rest =>
      cases rest with
      | put rest =>
          cases rest
          exact ⟨rfl, rfl⟩

theorem of_giveWay {result : Unit}
    (runs : Runs others giveWay world deeds result final) :
    deeds = [] ∧ others world final := by
  cases runs with
  | pause meanwhile rest =>
      cases rest
      exact ⟨rfl, meanwhile⟩

/-! ## Sequences -/

/-- A sequence runs part by part. -/
theorem of_bind {next : Result → Activity World Other} {last : Other}
    (runs : Runs others (activity.bind next) world deeds last final) :
    ∃ front back middle between, deeds = front ++ back ∧
      Runs others activity world front middle between ∧
      Runs others (next middle) between back last final := by
  induction activity generalizing world deeds with
  | done result => exact ⟨[], deeds, result, world, rfl, .done result world, runs⟩
  | look piece induction =>
      cases runs with
      | look time rest =>
          rcases induction time world rest with ⟨front, back, middle, between, split, first, second⟩
          exact ⟨_ :: front, back, middle, between, congrArg (List.cons _) split, .look time first,
            second⟩
  | put changed rest induction =>
      cases runs with
      | put rest =>
          rcases induction rest with ⟨front, back, middle, between, split, first, second⟩
          exact ⟨_ :: front, back, middle, between, congrArg (List.cons _) split, .put first,
            second⟩
  | pause deadline ready rest induction =>
      cases runs with
      | pause meanwhile rest =>
          rcases induction rest with ⟨front, back, middle, between, split, first, second⟩
          exact ⟨front, back, middle, between, split, .pause meanwhile first, second⟩

/-- The runs of the parts make one of the sequence. -/
theorem bind {next : Result → Activity World Other} {last : Other} {between : World}
    {front back : List (Deed World)} {middle : Result}
    (first : Runs others activity world front middle between)
    (second : Runs others (next middle) between back last final) :
    Runs others (activity.bind next) world (front ++ back) last final := by
  induction first with
  | done result world => exact second
  | look time rest induction => exact .look time (induction second)
  | put rest induction => exact .put (induction second)
  | pause meanwhile rest induction => exact .pause meanwhile (induction second)

/-! ## What is spared -/

/-- No deed of an activity changes what the activity spares. -/
theorem spares {view : World → View} {holds : Result → Prop}
    (runs : Runs others activity world deeds result final)
    (spares : Spares view holds (view world) activity) :
    (∀ deed ∈ deeds, view deed.after = view deed.before) ∧ holds result := by
  induction runs with
  | done result world => exact ⟨fun _ member => absurd member List.not_mem_nil, spares⟩
  | look time rest induction =>
      rcases induction (spares time _ rfl) with ⟨kept, ended⟩
      refine ⟨fun deed member => ?_, ended⟩
      rcases List.mem_cons.mp member with first | later
      · rw [first]
      · exact kept deed later
  | put rest induction =>
      have same := spares.1
      rcases induction (same ▸ spares.2) with ⟨kept, ended⟩
      refine ⟨fun deed member => ?_, ended⟩
      rcases List.mem_cons.mp member with first | later
      · rw [first]
        exact same
      · exact kept deed later
  | pause meanwhile rest induction => exact induction (spares _)

/-- Where the deeds and the others lead from world to world in one way, the whole run does. -/
theorem leads (relation : World → World → Prop)
    (runs : Runs others activity world deeds result final) (refl : ∀ world, relation world world)
    (trans : ∀ {first second third}, relation first second → relation second third →
      relation first third)
    (meanwhile : ∀ before after, others before after → relation before after)
    (kept : ∀ deed ∈ deeds, relation deed.before deed.after) : relation world final := by
  induction runs with
  | done result world => exact refl world
  | look time rest induction =>
      exact induction fun deed member => kept deed (List.mem_cons_of_mem _ member)
  | put rest induction =>
      have first := kept _ List.mem_cons_self
      exact trans first (induction fun deed member => kept deed (List.mem_cons_of_mem _ member))
  | pause idle rest induction => exact trans (meanwhile _ _ idle) (induction kept)

/-- What neither the deeds nor the others change is the same in the end. -/
theorem view_final {view : World → View}
    (runs : Runs others activity world deeds result final)
    (quiet : ∀ before after, others before after → view after = view before)
    (kept : ∀ deed ∈ deeds, view deed.after = view deed.before) : view final = view world :=
  runs.leads (fun before after => view after = view before) (fun _ => rfl)
    (fun early late => late.trans early) quiet kept

/-! ## Scheduling -/

/-- An activity that completes alone has run. -/
theorem of_complete {activity : Activity World Result} {time later : Time}
    (idle : ∀ world, others world world)
    (completed : activity.complete time world = some (result, later, final)) :
    ∃ deeds, Runs others activity world deeds result final := by
  induction activity generalizing time world with
  | done given =>
      cases completed
      exact ⟨[], .done _ _⟩
  | look piece induction =>
      rcases induction time world completed with ⟨deeds, whole⟩
      exact ⟨_ :: deeds, .look time whole⟩
  | put changed rest induction =>
      rcases induction completed with ⟨deeds, whole⟩
      exact ⟨_ :: deeds, .put whole⟩
  | pause deadline ready rest induction =>
      unfold complete at completed
      split at completed
      · rcases induction completed with ⟨deeds, whole⟩
        exact ⟨deeds, .pause (idle world) whole⟩
      · split at completed
        · rcases induction completed with ⟨deeds, whole⟩
          exact ⟨deeds, .pause (idle world) whole⟩
        · cases completed

end Runs

/-! ## What every deed does -/

/-- Whatever the others do, every deed of an activity leads from a world to a related one. -/
def Performs (relation : World → World → Prop) (activity : Activity World Result) : Prop :=
  ∀ others world deeds result final, Runs others activity world deeds result final →
    ∀ deed ∈ deeds, relation deed.before deed.after

namespace Performs

variable {relation : World → World → Prop} {activity : Activity World Result}

theorem done (result : Result) : Performs relation (.done result) := by
  intro others world deeds ended final runs
  rcases runs.of_done with ⟨rfl, -, -⟩
  exact fun _ member => absurd member List.not_mem_nil

theorem bind {next : Result → Activity World Other} (first : Performs relation activity)
    (second : ∀ result, Performs relation (next result)) :
    Performs relation (activity.bind next) := by
  intro others world deeds last final runs deed member
  rcases runs.of_bind with ⟨front, back, middle, between, rfl, early, late⟩
  rcases List.mem_append.mp member with before | after
  · exact first _ _ _ _ _ early deed before
  · exact second middle _ _ _ _ _ late deed after

theorem giveWay : Performs relation giveWay := by
  intro others world deeds result final runs
  rcases runs.of_giveWay with ⟨rfl, -⟩
  exact fun _ member => absurd member List.not_mem_nil

variable (same : ∀ world, relation world world)

include same

theorem now : Performs relation (now : Activity World Time) := by
  intro others world deeds time final runs deed member
  rcases runs.of_now with ⟨rfl, -⟩
  rw [List.mem_singleton.mp member]
  exact same world

theorem inspect (view : World → Result) : Performs relation (inspect view) := by
  intro others world deeds result final runs deed member
  rcases runs.of_inspect with ⟨rfl, -, -⟩
  rw [List.mem_singleton.mp member]
  exact same world

theorem transact {change : World → Result × World}
    (changed : ∀ world, relation world (change world).2) :
    Performs relation (transact change) := by
  intro others world deeds result final runs deed member
  rcases runs.of_transact with ⟨rfl, -, -⟩
  rcases List.mem_cons.mp member with rfl | later
  · exact same world
  · rw [List.mem_singleton.mp later]
    exact changed world

end Performs

/-! ## Completion -/

/-- From every world with a property an activity that runs alone comes to an end, and then
result and world have another. -/
def Completes (begins : World → Prop) (activity : Activity World Result)
    (ends : Result → World → Prop) : Prop :=
  ∀ time world, begins world →
    ∃ result later final, activity.complete time world = some (result, later, final) ∧
      ends result final

namespace Completes

variable {begins : World → Prop} {activity : Activity World Result}
  {ends : Result → World → Prop}

theorem done {result : Result} (implies : ∀ world, begins world → ends result world) :
    Completes begins (.done result) ends :=
  fun time world holds => ⟨result, time, world, rfl, implies world holds⟩

theorem bind {next : Result → Activity World Other} {last : Other → World → Prop}
    (first : Completes begins activity ends)
    (second : ∀ result, Completes (ends result) (next result) last) :
    Completes begins (activity.bind next) last := by
  intro time world holds
  rcases first time world holds with ⟨middle, between, reached, completed, ended⟩
  rcases second middle between reached ended with ⟨result, later, final, finished, last⟩
  refine ⟨result, later, final, ?_, last⟩
  rw [complete_bind, completed]
  exact finished

theorem inspect {view : World → Result}
    (implies : ∀ world, begins world → ends (view world) world) :
    Completes begins (inspect view) ends :=
  fun time world holds => ⟨view world, time, world, rfl, implies world holds⟩

theorem transact {change : World → Result × World}
    (implies : ∀ world, begins world → ends (change world).1 (change world).2) :
    Completes begins (transact change) ends :=
  fun time world holds => ⟨(change world).1, time, (change world).2, rfl, implies world holds⟩

theorem modify {change : World → World} {ends : World → Prop}
    (implies : ∀ world, begins world → ends (change world)) :
    Completes begins (modify change) fun _ => ends :=
  fun time world holds => ⟨(), time, change world, rfl, implies world holds⟩

theorem giveWay : Completes begins giveWay fun _ => begins :=
  fun time world holds => ⟨(), time, world, rfl, holds⟩

theorem waitUntil {ready : World → Bool} (comes : ∀ world, begins world → ready world = true) :
    Completes begins (waitUntil ready) fun _ => begins := by
  intro time world holds
  refine ⟨(), time, world, ?_, holds⟩
  unfold Activity.waitUntil complete
  rw [if_pos (comes world holds)]
  rfl

end Completes

/-- Under a time limit every activity comes to an end. -/
theorem complete_limitAt (limit : Time) (activity : Activity World Result) (time : Time)
    (world : World) :
    ∃ result later final,
      (activity.limitAt limit).complete time world = some (result, later, final) := by
  induction activity generalizing time world with
  | done result => exact ⟨some result, time, world, rfl⟩
  | look piece induction => exact induction time world time world
  | put changed rest induction => exact induction time changed
  | pause deadline ready rest induction =>
      -- The pause ends at once or when its time has come; then the activity goes on or is given up.
      have continued (moment : Time) : ∃ result later final,
          complete (look fun time world =>
            if ready world || deadline.any (· ≤ time) then limitAt limit rest
            else Activity.done none) moment world = some (result, later, final) := by
        unfold complete
        dsimp only
        split
        · exact induction moment world
        · exact ⟨none, moment, world, rfl⟩
      unfold limitAt complete
      split
      · exact continued time
      · cases deadline with
        | none => exact continued (max time limit)
        | some deadline => exact continued (max time (min deadline limit))

namespace Spares

variable {view : World → View} {holds : Result → Prop} {seen : View}
  {activity : Activity World Result}

/-- An activity that may be given up spares what it spares otherwise. -/
theorem limitAt (spares : Spares view holds seen activity) (limit : Time) :
    Spares view (fun _ => True) seen (activity.limitAt limit) := by
  induction activity generalizing seen with
  | done result => trivial
  | look piece induction =>
      intro time world same
      exact induction time world (spares time world same)
  | put changed rest induction => exact ⟨spares.1, induction spares.2⟩
  | pause deadline ready rest induction =>
      intro later time world same
      dsimp only
      split
      · exact induction (spares later)
      · trivial

theorem limit (spares : ∀ seen, Spares view holds seen activity) (duration : Time) :
    Spares view (fun _ => True) seen (activity.limit duration) :=
  fun time _ _ => (spares seen).limitAt (time + duration)

end Spares

/-- A part of an activity with a time limit comes to an end, and leaves what it spares. -/
theorem Completes.limit {view : World → View} {holds : Result → Prop}
    {activity : Activity World Result} (spares : ∀ seen, Spares view holds seen activity)
    (duration : Time) (seen : View) :
    Completes (fun world => view world = seen) (activity.limit duration)
      fun _ world => view world = seen := by
  intro time world same
  rcases complete_limitAt (time + duration) activity time world with
    ⟨result, later, final, completed⟩
  have whole : (activity.limit duration).complete time world = some (result, later, final) :=
    completed
  refine ⟨result, later, final, whole, ?_⟩
  have ran : ∃ deeds, Runs Eq (activity.limit duration) world deeds result final :=
    Runs.of_complete (fun _ => rfl) whole
  rcases ran with ⟨deeds, runs⟩
  have kept := (runs.spares (Spares.limit spares duration)).1
  exact (runs.view_final (fun _ _ equal => congrArg view equal.symm) kept).trans same

end Activity

end AssistantEngine
