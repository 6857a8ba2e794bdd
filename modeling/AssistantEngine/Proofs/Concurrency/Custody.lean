import Mathlib.Algebra.Group.Basic
import Mathlib.Tactic.Abel
import AssistantEngine.Proofs.Concurrency.Spares

/-!
Custody of what a world has to be held to account for. Everybody who works in the world owns an
estate, and the world is in order if the estates of all together are what they should be. With
every change of the world an activity may trade its own estate for another, in such a way that
all is in order afterwards whatever the others own. At a pause it knows of the world that comes
back to it only that its own estate is still there.
-/

namespace AssistantEngine

namespace Activity

variable {World Result Other View Estate : Type} [AddCommMonoid Estate]

/-- Whoever changes the world and trades an estate for another does so in order. -/
def Trades (sound : Estate → World → Prop) (mine : Estate) (world : World) (later : Estate)
    (changed : World) : Prop :=
  ∀ others, sound (mine + others) world → sound (later + others) changed

/-- An estate that one may own in a world. -/
def Tenable (sound : Estate → World → Prop) (mine : Estate) (world : World) : Prop :=
  ∃ others, sound (mine + others) world

/-- From a world on, an activity that owns an estate does everything in order. What it owns
during a pause is restricted, and so is what it owns in the end. -/
def KeepsFrom (sound : Estate → World → Prop) (may : Estate → Prop)
    (ends : Result → Estate → Prop) : Estate → World → Activity World Result → Prop
  | mine, world, done result => ∃ last, Trades sound mine world last world ∧ ends result last
  | mine, world, look next => ∀ time, KeepsFrom sound may ends mine world (next time world)
  | mine, world, put changed rest =>
    ∃ later, Trades sound mine world later changed ∧ KeepsFrom sound may ends later changed rest
  | mine, world, pause deadline ready rest =>
    ∃ kept, Trades sound mine world kept world ∧ may kept ∧
      ∀ later, Tenable sound kept later → (ready later = true ∨ deadline.isSome) →
        KeepsFrom sound may ends kept later rest

/-- An activity that owns an estate does everything in order, in whatever world it begins. -/
def Keeps (sound : Estate → World → Prop) (may : Estate → Prop) (ends : Result → Estate → Prop)
    (mine : Estate) (activity : Activity World Result) : Prop :=
  ∀ world, Tenable sound mine world → KeepsFrom sound may ends mine world activity

variable {sound : Estate → World → Prop} {may : Estate → Prop} {ends : Result → Estate → Prop}
  {mine later last aside : Estate} {world changed final : World}
  {activity : Activity World Result}

/-! ## Trades -/

namespace Trades

theorem refl (sound : Estate → World → Prop) (mine : Estate) (world : World) :
    Trades sound mine world mine world :=
  fun _ => id

theorem trans (first : Trades sound mine world later changed)
    (second : Trades sound later changed last final) : Trades sound mine world last final :=
  fun others before => second others (first others before)

/-- What is set aside takes no part in a trade. -/
theorem frame (trades : Trades sound mine world later changed) (aside : Estate) :
    Trades sound (mine + aside) world (later + aside) changed := by
  intro others before
  rw [add_assoc] at before ⊢
  exact trades (aside + others) before

theorem tenable (trades : Trades sound mine world later changed)
    (before : Tenable sound mine world) : Tenable sound later changed := by
  rcases before with ⟨others, before⟩
  exact ⟨others, trades others before⟩

end Trades

theorem Tenable.part (tenable : Tenable sound (mine + aside) world) : Tenable sound mine world := by
  rcases tenable with ⟨others, inOrder⟩
  exact ⟨aside + others, add_assoc mine aside others ▸ inOrder⟩

/-! ## Sequences -/

namespace KeepsFrom

/-- A trade without a change of the world may be made at any time. -/
theorem trade (trades : Trades sound mine world later world)
    (keeps : KeepsFrom sound may ends later world activity) :
    KeepsFrom sound may ends mine world activity := by
  induction activity with
  | done result =>
      rcases keeps with ⟨last, onward, ended⟩
      exact ⟨last, trades.trans onward, ended⟩
  | look piece induction => exact fun time => induction time world (keeps time)
  | put changed rest _ =>
      rcases keeps with ⟨next, onward, rest⟩
      exact ⟨next, trades.trans onward, rest⟩
  | pause deadline ready rest _ =>
      rcases keeps with ⟨kept, onward, rest⟩
      exact ⟨kept, trades.trans onward, rest⟩

theorem mono {wider : Result → Estate → Prop}
    (keeps : KeepsFrom sound may ends mine world activity)
    (implies : ∀ result last, ends result last → wider result last) :
    KeepsFrom sound may wider mine world activity := by
  induction activity generalizing mine world with
  | done result =>
      rcases keeps with ⟨last, onward, ended⟩
      exact ⟨last, onward, implies result last ended⟩
  | look piece induction => exact fun time => induction time world (keeps time)
  | put changed rest induction =>
      rcases keeps with ⟨next, onward, rest⟩
      exact ⟨next, onward, induction rest⟩
  | pause deadline ready rest induction =>
      rcases keeps with ⟨kept, onward, allowed, rest⟩
      exact ⟨kept, onward, allowed, fun later tenable ends => induction (rest later tenable ends)⟩

/-- The restriction for pauses may be lifted. -/
theorem unrestricted (keeps : KeepsFrom sound may ends mine world activity) :
    KeepsFrom sound (fun _ => True) ends mine world activity := by
  induction activity generalizing mine world with
  | done result => exact keeps
  | look piece induction => exact fun time => induction time world (keeps time)
  | put changed rest induction =>
      rcases keeps with ⟨next, onward, rest⟩
      exact ⟨next, onward, induction rest⟩
  | pause deadline ready rest induction =>
      rcases keeps with ⟨kept, onward, _, rest⟩
      exact ⟨kept, onward, trivial, fun later tenable ends => induction (rest later tenable ends)⟩

theorem bind {next : Result → Activity World Other} {final : Other → Estate → Prop}
    (first : KeepsFrom sound may ends mine world activity) (tenable : Tenable sound mine world)
    (second : ∀ result last, ends result last → Keeps sound may final last (next result)) :
    KeepsFrom sound may final mine world (activity.bind next) := by
  induction activity generalizing mine world with
  | done result =>
      rcases first with ⟨last, onward, ended⟩
      exact (second result last ended world (onward.tenable tenable)).trade onward
  | look piece induction => exact fun time => induction time world (first time) tenable
  | put changed rest induction =>
      rcases first with ⟨next, onward, rest⟩
      exact ⟨next, onward, induction rest (onward.tenable tenable)⟩
  | pause deadline ready rest induction =>
      rcases first with ⟨kept, onward, allowed, rest⟩
      exact ⟨kept, onward, allowed, fun later tenable ends =>
        induction (rest later tenable ends) tenable⟩

/-- What is set aside is still there in the end. -/
theorem frame (keeps : KeepsFrom sound (fun _ => True) ends mine world activity)
    (aside : Estate) :
    KeepsFrom sound (fun _ => True) (fun result last => ∃ own, ends result own ∧ last = own + aside)
      (mine + aside) world activity := by
  induction activity generalizing mine world with
  | done result =>
      rcases keeps with ⟨last, onward, ended⟩
      exact ⟨last + aside, onward.frame aside, last, ended, rfl⟩
  | look piece induction => exact fun time => induction time world (keeps time)
  | put changed rest induction =>
      rcases keeps with ⟨next, onward, rest⟩
      exact ⟨next + aside, onward.frame aside, induction rest⟩
  | pause deadline ready rest induction =>
      rcases keeps with ⟨kept, onward, allowed, rest⟩
      exact ⟨kept + aside, onward.frame aside, trivial, fun later tenable ends =>
        induction (rest later tenable.part ends)⟩

/-! ## Elementary activities -/

theorem of_result {result : Result} (ended : ends result mine) :
    KeepsFrom sound may ends mine world (.done result) :=
  ⟨mine, .refl sound mine world, ended⟩

variable {next : Result → Activity World Other} {final : Other → Estate → Prop}

theorem of_inspect {view : World → Result}
    (rest : KeepsFrom sound may final mine world (next (view world))) :
    KeepsFrom sound may final mine world ((inspect view).bind next) :=
  fun _ => rest

theorem of_transact {change : World → Result × World}
    (trades : Trades sound mine world later (change world).2)
    (rest : KeepsFrom sound may final later (change world).2 (next (change world).1)) :
    KeepsFrom sound may final mine world ((transact change).bind next) :=
  fun _ => ⟨later, trades, rest⟩

theorem of_modify {change : World → World} {next : Unit → Activity World Other}
    (trades : Trades sound mine world later (change world))
    (rest : KeepsFrom sound may final later (change world) (next ())) :
    KeepsFrom sound may final mine world ((modify change).bind next) :=
  fun _ => ⟨later, trades, rest⟩

theorem of_giveWay {next : Unit → Activity World Other} (allowed : may mine)
    (rest : Keeps sound may final mine (next ())) :
    KeepsFrom sound may final mine world (giveWay.bind next) :=
  ⟨mine, .refl sound mine world, allowed, fun later tenable _ => rest later tenable⟩

theorem of_waitUntil {ready : World → Bool} {next : Unit → Activity World Other}
    (allowed : may mine)
    (rest : ∀ world, Tenable sound mine world → ready world = true →
      KeepsFrom sound may final mine world (next ())) :
    KeepsFrom sound may final mine world ((waitUntil ready).bind next) := by
  refine ⟨mine, .refl sound mine world, allowed, fun later tenable ended => ?_⟩
  rcases ended with holds | timed
  · exact rest later tenable holds
  · cases timed

theorem of_sleep {duration : Time} {next : Unit → Activity World Other} (allowed : may mine)
    (tenable : Tenable sound mine world) (rest : Keeps sound may final mine (next ())) :
    KeepsFrom sound may final mine world ((sleep duration).bind next) := by
  unfold sleep
  split
  · exact rest world tenable
  · intro time
    exact ⟨mine, .refl sound mine world, allowed, fun later tenable _ => rest later tenable⟩

end KeepsFrom

namespace Keeps

theorem done {result : Result} (ended : ends result mine) :
    Keeps sound may ends mine (.done result) :=
  fun _ _ => .of_result ended

theorem mono {wider : Result → Estate → Prop} (keeps : Keeps sound may ends mine activity)
    (implies : ∀ result last, ends result last → wider result last) :
    Keeps sound may wider mine activity :=
  fun world tenable => (keeps world tenable).mono implies

theorem bind {next : Result → Activity World Other} {final : Other → Estate → Prop}
    (first : Keeps sound may ends mine activity)
    (second : ∀ result last, ends result last → Keeps sound may final last (next result)) :
    Keeps sound may final mine (activity.bind next) :=
  fun world tenable => (first world tenable).bind tenable second

theorem frame (keeps : Keeps sound (fun _ => True) ends mine activity) (aside : Estate) :
    Keeps sound (fun _ => True) (fun result last => ∃ own, ends result own ∧ last = own + aside)
      (mine + aside) activity :=
  fun world tenable => (keeps world tenable.part).frame aside

theorem giveWay (allowed : may mine) :
    Keeps sound may (fun _ last => last = mine) mine (giveWay : Activity World Unit) :=
  fun world _ => ⟨mine, .refl sound mine world, allowed,
    fun later _ _ => ⟨mine, .refl sound mine later, rfl⟩⟩

end Keeps

/-- A sound world that is seen in the same way is still sound. -/
def SeenBy (sound : Estate → World → Prop) (view : World → View) : Prop :=
  ∀ estate before after, view after = view before → sound estate before → sound estate after

/-- What spares all that is accounted for keeps every estate. -/
theorem Spares.keepsFrom {view : World → View} {holds : Result → Prop}
    (spares : Spares view holds (view world) activity) (seen : SeenBy sound view)
    (allowed : may mine) :
    KeepsFrom sound may (fun result last => holds result ∧ last = mine) mine world activity := by
  induction activity generalizing world with
  | done result => exact ⟨mine, .refl sound mine world, spares, rfl⟩
  | look piece induction => exact fun time => induction time world (spares time world rfl)
  | put changed rest induction =>
      have same : view changed = view world := spares.1
      refine ⟨mine, fun others before => seen _ world changed same before, ?_⟩
      exact induction (same ▸ spares.2)
  | pause deadline ready rest induction =>
      exact ⟨mine, .refl sound mine world, allowed, fun later _ _ => induction (spares _)⟩

theorem Spares.keeps {view : World → View} {holds : Result → Prop}
    (spares : ∀ seen, Spares view holds seen activity) (seen : SeenBy sound view)
    (allowed : may mine) :
    Keeps sound may (fun result last => holds result ∧ last = mine) mine activity :=
  fun world _ => (spares (view world)).keepsFrom seen allowed

/-! ## Time limits -/

/-- An estate that may be given up at any time. -/
def Disposable (sound : Estate → World → Prop) (mine : Estate) : Prop :=
  ∀ world, Trades sound mine world 0 world

/-- What an activity ends with that may have been given up: nothing then. -/
def givenUpOr (ends : Result → Estate → Prop) : Option Result → Estate → Prop
  | some result, last => ends result last
  | none, last => last = 0

/-- An activity may be given up if all it owns meanwhile is disposable. -/
theorem KeepsFrom.limitAt (keeps : KeepsFrom sound (Disposable sound) ends mine world activity)
    (limit : Time) :
    KeepsFrom sound (fun _ => True) (givenUpOr ends) mine world (activity.limitAt limit) := by
  induction activity generalizing mine world with
  | done result => exact keeps
  | look piece induction => exact fun time => induction time world (keeps time)
  | put changed rest induction =>
      rcases keeps with ⟨later, onward, rest⟩
      exact ⟨later, onward, induction rest⟩
  | pause deadline ready rest induction =>
      rcases keeps with ⟨kept, onward, disposable, rest⟩
      refine ⟨kept, onward, trivial, fun later tenable _ time => ?_⟩
      dsimp only
      split
      · rename_i goesOn
        refine induction (rest later tenable ?_)
        rcases Bool.or_eq_true_iff.mp goesOn with holds | due
        · exact .inl holds
        · refine .inr ?_
          cases deadline with
          | none => cases due
          | some _ => rfl
      · exact ⟨0, disposable later, rfl⟩

theorem Keeps.limit (keeps : Keeps sound (Disposable sound) ends mine activity)
    (duration : Time) :
    Keeps sound (fun _ => True) (givenUpOr ends) mine (activity.limit duration) :=
  fun world tenable time => (keeps world tenable).limitAt (time + duration)

/-! ## Scheduling -/

/-- Up to its next pause an activity trades in order, and it goes on doing so afterwards. -/
theorem KeepsFrom.advance (keeps : KeepsFrom sound may ends mine world activity) (time : Time) :
    ∃ last, Trades sound mine world last (activity.advance time world).2 ∧
      Keeps sound may ends last (activity.advance time world).1 := by
  induction activity generalizing mine world with
  | done result =>
      rcases keeps with ⟨last, onward, ended⟩
      exact ⟨last, onward, .done ended⟩
  | look piece induction => exact induction time world (keeps time)
  | put changed rest induction =>
      rcases keeps with ⟨later, onward, rest⟩
      rcases induction rest with ⟨last, further, keeps⟩
      exact ⟨last, onward.trans further, keeps⟩
  | pause deadline ready rest _ =>
      rcases keeps with ⟨kept, onward, allowed, rest⟩
      exact ⟨kept, onward, fun world _ => ⟨kept, .refl sound kept world, allowed, rest⟩⟩

/-- An activity that can go on does so in order. -/
theorem Keeps.resume (keeps : Keeps sound may ends mine activity) {time : Time}
    (tenable : Tenable sound mine world) (ready : activity.isReady time world = true) :
    ∃ last, Trades sound mine world last (activity.resume time world).2 ∧
      Keeps sound may ends last (activity.resume time world).1 := by
  cases activity with
  | pause deadline holds rest =>
      rcases keeps world tenable with ⟨kept, onward, allowed, rest⟩
      have ended : holds world = true ∨ deadline.isSome := by
        rcases Bool.or_eq_true_iff.mp ready with now | due
        · exact .inl now
        · refine .inr ?_
          cases deadline with
          | none => cases due
          | some _ => rfl
      rcases (rest world (onward.tenable tenable) ended).advance time with ⟨last, further, keeps⟩
      exact ⟨last, onward.trans further, keeps⟩
  | done result => exact (keeps world tenable).advance time
  | look piece => exact (keeps world tenable).advance time
  | put changed rest => exact (keeps world tenable).advance time

/-- What an activity owns when it is done. -/
theorem Keeps.of_done {result : Result} (keeps : Keeps sound may ends mine (.done result))
    (tenable : Tenable sound mine world) :
    ∃ last, Trades sound mine world last world ∧ ends result last :=
  keeps world tenable

end Activity

end AssistantEngine
