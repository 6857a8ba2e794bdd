import Mathlib.Order.Basic
import AssistantEngine.Proofs.Concurrency.Spares

/-!
The conduct of activities that work in one world. A scene is a world together with what is to be
remembered of its past, and a scene may turn into later ones only. An activity abides by that order if
it changes the world only into that of a later scene of the same era, whatever later scene, of this era
or of another, it finds after a pause.
-/

namespace AssistantEngine

namespace Activity

variable {World Scene Era Result Other View : Type} [Preorder Scene]

/-- A later scene of the same era. -/
structure Follows (era : Scene → Era) (scene next : Scene) : Prop where
  le : scene ≤ next
  same : era next = era scene

/-- From a scene on, an activity leads to scenes that follow, and in the end its result has a
property. -/
def AbidesFrom (world : Scene → World) (era : Scene → Era) (ends : Result → Scene → Prop) :
    Scene → Activity World Result → Prop
  | scene, done result => ends result scene
  | scene, look next => ∀ time, AbidesFrom world era ends scene (next time (world scene))
  | scene, put changed rest =>
    ∃ next, Follows era scene next ∧ world next = changed ∧ AbidesFrom world era ends next rest
  | scene, pause _ _ rest => ∀ later, scene ≤ later → AbidesFrom world era ends later rest

/-- An activity abides in whatever later scene it goes on. -/
def Abides (world : Scene → World) (era : Scene → Era) (ends : Result → Scene → Prop) (scene : Scene)
    (activity : Activity World Result) : Prop :=
  ∀ later, scene ≤ later → AbidesFrom world era ends later activity

/-- A property that a result keeps. -/
def Lasting (ends : Result → Scene → Prop) : Prop :=
  ∀ result scene later, scene ≤ later → ends result scene → ends result later

variable {world : Scene → World} {era : Scene → Era} {ends : Result → Scene → Prop}
  {scene next last : Scene} {activity : Activity World Result}

namespace Follows

theorem refl (era : Scene → Era) (scene : Scene) : Follows era scene scene := ⟨le_rfl, rfl⟩

theorem trans (first : Follows era scene next) (second : Follows era next last) :
    Follows era scene last :=
  ⟨first.le.trans second.le, second.same.trans first.same⟩

end Follows

namespace AbidesFrom

theorem mono {wider : Result → Scene → Prop} (abides : AbidesFrom world era ends scene activity)
    (implies : ∀ result later, scene ≤ later → ends result later → wider result later) :
    AbidesFrom world era wider scene activity := by
  induction activity generalizing scene with
  | done result => exact implies result scene le_rfl abides
  | look piece induction => exact fun time => induction time (world scene) (abides time) implies
  | put changed rest induction =>
      rcases abides with ⟨next, follows, same, abides⟩
      exact ⟨next, follows, same, induction abides fun result later onward =>
        implies result later (follows.le.trans onward)⟩
  | pause deadline ready rest induction =>
      intro later onward
      exact induction (abides later onward) fun result last after =>
        implies result last (onward.trans after)

theorem bind {further : Result → Activity World Other} {final : Other → Scene → Prop}
    (first : AbidesFrom world era ends scene activity)
    (second : ∀ result later, scene ≤ later → ends result later →
      AbidesFrom world era final later (further result)) :
    AbidesFrom world era final scene (activity.bind further) := by
  induction activity generalizing scene with
  | done result => exact second result scene le_rfl first
  | look piece induction => exact fun time => induction time (world scene) (first time) second
  | put changed rest induction =>
      rcases first with ⟨between, follows, same, first⟩
      exact ⟨between, follows, same, induction first fun result later onward =>
        second result later (follows.le.trans onward)⟩
  | pause deadline ready rest induction =>
      intro later onward
      exact induction (first later onward) fun result last after =>
        second result last (onward.trans after)

/-! ## Elementary activities -/

theorem giveWay : AbidesFrom world era (fun _ _ => True) scene (giveWay : Activity World Unit) :=
  fun _ _ => trivial

theorem waitUntil (ready : World → Bool) :
    AbidesFrom world era (fun _ _ => True) scene (waitUntil ready : Activity World Unit) :=
  fun _ _ => trivial

theorem sleep (duration : Time) :
    AbidesFrom world era (fun _ _ => True) scene (sleep duration : Activity World Unit) := by
  unfold Activity.sleep
  split
  · trivial
  · intro time later onward
    trivial

theorem inspect {glance : World → Result} (seen : ends (glance (world scene)) scene) :
    AbidesFrom world era ends scene (inspect glance) :=
  fun _ => seen

theorem transact {change : World → Result × World} (follows : Follows era scene next)
    (changed : world next = (change (world scene)).2)
    (ended : ends (change (world scene)).1 next) :
    AbidesFrom world era ends scene (transact change) :=
  fun _ => ⟨next, follows, changed, ended⟩

theorem modify {change : World → World} {ends : Unit → Scene → Prop}
    (follows : Follows era scene next) (changed : world next = change (world scene))
    (ended : ends () next) : AbidesFrom world era ends scene (modify change) :=
  fun _ => ⟨next, follows, changed, ended⟩

/-- An activity abides until its time is up, if it would for longer. -/
theorem limitAt (abides : AbidesFrom world era ends scene activity) (limit : Time) :
    AbidesFrom world era (fun given later => ∀ result, given = some result → ends result later) scene
      (activity.limitAt limit) := by
  induction activity generalizing scene with
  | done result =>
      intro given same
      exact Option.some.inj same ▸ abides
  | look piece induction => exact fun time => induction time (world scene) (abides time)
  | put changed rest induction =>
      rcases abides with ⟨next, follows, same, abides⟩
      exact ⟨next, follows, same, induction abides⟩
  | pause deadline ready rest induction =>
      intro later onward time
      dsimp only
      split
      · exact induction (abides later onward)
      · intro result given
        cases given

end AbidesFrom

/-- What spares a part of the world abides, if whatever leaves that part as it is leads to a scene
that follows. -/
theorem Spares.abides {view : World → View} {holds : Result → Prop}
    (leads : ∀ scene changed, view changed = view (world scene) →
      ∃ next, Follows era scene next ∧ world next = changed)
    (spares : Spares view holds (view (world scene)) activity) :
    AbidesFrom world era (fun result _ => holds result) scene activity := by
  induction activity generalizing scene with
  | done result => exact spares
  | look piece induction =>
      exact fun time => induction time (world scene) (spares time (world scene) rfl)
  | put changed rest induction =>
      rcases leads scene changed spares.1 with ⟨next, follows, same⟩
      have seen : view (world scene) = view (world next) := same ▸ spares.1.symm
      exact ⟨next, follows, same, induction (seen ▸ spares.2)⟩
  | pause deadline ready rest induction => exact fun later _ => induction (spares _)

/-! ## Scheduling -/

/-- Up to its next pause an activity leads to a scene that follows, and abides from there on. -/
theorem AbidesFrom.advance (lasting : Lasting ends)
    (abides : AbidesFrom world era ends scene activity) (time : Time) :
    ∃ next, Follows era scene next ∧ world next = (activity.advance time (world scene)).2 ∧
      Abides world era ends next (activity.advance time (world scene)).1 := by
  induction activity generalizing scene with
  | done result =>
      exact ⟨scene, .refl era scene, rfl, fun later onward =>
        lasting result scene later onward abides⟩
  | look piece induction => exact induction time (world scene) (abides time)
  | put changed rest induction =>
      rcases abides with ⟨next, follows, rfl, abides⟩
      rcases induction abides with ⟨last, further, same, abiding⟩
      exact ⟨last, follows.trans further, same, abiding⟩
  | pause deadline ready rest _ =>
      refine ⟨scene, .refl era scene, rfl, fun later onward last after => ?_⟩
      exact abides last (onward.trans after)

namespace Abides

theorem shift (abides : Abides world era ends scene activity) {later : Scene}
    (onward : scene ≤ later) : Abides world era ends later activity :=
  fun last after => abides last (onward.trans after)

theorem mono {wider : Result → Scene → Prop} (abides : Abides world era ends scene activity)
    (implies : ∀ result later, scene ≤ later → ends result later → wider result later) :
    Abides world era wider scene activity :=
  fun later onward => (abides later onward).mono fun result last after =>
    implies result last (onward.trans after)

/-- An activity that goes on leads to a scene that follows, and abides from there on. -/
theorem resume (lasting : Lasting ends) (abides : Abides world era ends scene activity)
    (time : Time) :
    ∃ next, Follows era scene next ∧ world next = (activity.resume time (world scene)).2 ∧
      Abides world era ends next (activity.resume time (world scene)).1 := by
  have present := abides scene le_rfl
  cases activity with
  | pause deadline ready rest =>
      have goesOn : AbidesFrom world era ends scene rest := present scene le_rfl
      exact goesOn.advance lasting time
  | done result => exact present.advance lasting time
  | look piece => exact present.advance lasting time
  | put changed rest => exact present.advance lasting time

end Abides

end Activity

end AssistantEngine
