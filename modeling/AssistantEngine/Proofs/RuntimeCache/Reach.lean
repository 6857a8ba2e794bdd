import AssistantEngine.Proofs.RuntimeCache.Step

/-!
What every move keeps holds in every state that can be reached.
-/

namespace AssistantEngine

namespace RuntimeCache

variable {World Runtime Resource Reply : Type} {builder : Builder World Runtime Resource}

/-- A builder that needs no time, and whose graphs have nothing to release. -/
def Builder.instant : Builder Unit Unit Unit where
  build id := .done (.workflow ⟨(), { owner := id.key }⟩)
  release _ := .done ()

/-- A property that no move ends. -/
def Kept (builder : Builder World Runtime Resource)
    (property : Situation World Runtime Resource Reply → Prop) : Prop :=
  ∀ before after, Move builder before after → property before → property after

theorem Kept.moves {property : Situation World Runtime Resource Reply → Prop}
    (kept : Kept builder property) {before after : Situation World Runtime Resource Reply}
    (moves : Moves builder before after) (holds : property before) : property after := by
  induction moves with
  | refl => exact holds
  | tail _ move induction => exact kept _ _ move induction

theorem ascending_kept :
    Kept builder fun situation : Situation World Runtime Resource Reply =>
      situation.state.entries.Ascending := by
  intro before after move ascending
  cases move with
  | request key delay => exact (State.entries_requestRebuild key delay).symm ▸ ascending
  | cancel key => exact (State.entries_cancelTimer key).symm ▸ ascending
  | @invalidate loose state key =>
      change (State.invalidate state key).entries.Ascending
      unfold State.invalidate State.note
      dsimp only
      split
      · exact ascending.insert _ _
      · exact ascending
  | @invalidateAll loose state =>
      change (State.invalidateAll state).entries.Ascending
      exact ascending.mapValues (Entry.invalidate · (state.epoch + 1))
  | @evict loose state key =>
      change (State.evict state key).2.entries.Ascending
      unfold State.evict
      split
      · exact ascending
      · dsimp only
        split
        · exact ascending.insert _ _
        · exact ascending.erase _
  | start key idle =>
      rw [State.startOrJoin_start builder _ idle]
      exact ascending.insert _ _
  | @restart loose state call key idle =>
      rw [State.startOrJoin_start builder (state.note (.asked call .rebuild key)) idle]
      exact ascending.insert _ _
  | serve => exact (State.entries_deliver _ _ _).symm ▸ ascending
  | deliver => exact (State.entries_deliver _ _ _).symm ▸ ascending
  | install =>
      refine (State.entries_notifyAll _ _).symm ▸ ?_
      exact ascending.insert _ _
  | abandon => exact ascending.insert _ _
  | retire installed => exact (State.entries_retire installed).symm ▸ ascending
  | _ => exact ascending

namespace State

variable {state : State World Runtime Resource Reply}

theorem step_resume {name : TaskName} {task : Task World Runtime Resource Reply}
    (found : state.task? name = some task) (ready : state.isReady task) :
    step builder state (.resume name) = (proceed builder state task).releaseDropped := by
  unfold step perform
  dsimp only
  rw [found]
  dsimp only
  rw [if_pos ready]

theorem run_concat (builder : Builder World Runtime Resource)
    (state : State World Runtime Resource Reply)
    (earlier : List (Action World Runtime Resource Reply))
    (action : Action World Runtime Resource Reply) :
    run builder state (earlier ++ [action]) = step builder (run builder state earlier) action :=
  List.foldl_append

theorem run_moves (ascending : state.entries.Ascending)
    (actions : List (Action World Runtime Resource Reply)) :
    Moves builder ⟨[], state⟩ ⟨[], run builder state actions⟩ := by
  induction actions generalizing state with
  | nil => exact .refl
  | cons action actions induction =>
      have first : Moves builder ⟨[], state⟩ ⟨[], step builder state action⟩ :=
        step_moves ascending action
      exact first.trans (induction (ascending_kept.moves first ascending))

theorem Reachable.extend {world : World} (reachable : Reachable builder { world := world } state)
    (actions : List (Action World Runtime Resource Reply)) :
    Reachable builder { world := world } (State.run builder state actions) := by
  rcases reachable with ⟨earlier, rfl⟩
  exact ⟨earlier ++ actions, List.foldl_append⟩

theorem Reachable.moves {world : World}
    (reachable : Reachable builder { world := world } state) :
    Moves builder ⟨[], { world := world }⟩ ⟨[], state⟩ := by
  rcases reachable with ⟨actions, rfl⟩
  exact run_moves Catalog.ascending_nil actions

theorem Reachable.ascending {world : World}
    (reachable : Reachable builder { world := world } state) : state.entries.Ascending :=
  ascending_kept.moves reachable.moves Catalog.ascending_nil

end State

/-- What holds at the beginning and is kept by every move holds in every reachable state. -/
theorem Kept.reachable {property : Situation World Runtime Resource Reply → Prop}
    (kept : Kept builder property) {world : World}
    (begins : property ⟨[], { world := world }⟩) {state : State World Runtime Resource Reply}
    (reachable : State.Reachable builder { world := world } state) : property ⟨[], state⟩ :=
  kept.moves reachable.moves begins

end RuntimeCache

end AssistantEngine
