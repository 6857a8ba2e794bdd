import AssistantEngine.Proofs.Concurrency.Runs
import AssistantEngine.Proofs.Engine.Turn

/-!
How an invocation runs, part by part: the load of its thread, its turn, and the save.
-/

namespace AssistantEngine

open Activity (Deed Runs glance)

variable {others : World → World → Prop} {world final : World} {deeds : List (Deed World)}

namespace CheckpointStore

/-- How a save goes: something may happen before, then the database decides. -/
inductive Saving (others : World → World → Prop) (scope thread : String) (state : ThreadState)
    (world : World) : List (Deed World) → Except Fault Int → World → Prop where
  | refused {here : World} {fault : Fault} (meanwhile : others world here)
      (refused : here.database.save scope thread state = .error fault) :
      Saving others scope thread state world [glance here, glance here] (.error fault) here
  | saved {here : World} {sequence : Int} {database : Database} (meanwhile : others world here)
      (saved : here.database.save scope thread state = .ok (sequence, database)) :
      Saving others scope thread state world
        [glance here, ⟨here, { here with database := database }⟩] (.ok sequence)
        { here with database := database }

theorem save_runs {store : CheckpointStore} {thread : String} {state : ThreadState}
    {result : Except Fault Int}
    (runs : Runs others (store.save thread state) world deeds result final) :
    Saving others store.scope thread state world deeds result final := by
  unfold save at runs
  rcases runs.of_bind with ⟨_, _, _, here, rfl, waited, saving⟩
  rcases waited.of_giveWay with ⟨rfl, meanwhile⟩
  rcases saving.of_transact with ⟨rfl, rfl, rfl⟩
  cases saved : here.database.save store.scope thread state with
  | error fault => exact .refused meanwhile saved
  | ok done => exact .saved meanwhile saved

end CheckpointStore

namespace CompiledRuntime

/-- How an invocation goes. -/
inductive Invocation (others : World → World → Prop) (runtime : CompiledRuntime)
    (thread text : String) (world : World) :
    List (Deed World) → Except Fault RunOutput → World → Prop where
  | unloaded {here : World} {fault : Fault} (meanwhile : others world here)
      (refused : here.database.load runtime.checkpoints.scope thread = .error fault) :
      Invocation others runtime thread text world [glance here] (.error fault) here
  | failed {here final : World} {fault : Fault} {found : Option ThreadState}
      {front : List (Deed World)} (meanwhile : others world here)
      (loaded : here.database.load runtime.checkpoints.scope thread = .ok found)
      (turn : Runs others (runtime.takeTurn ((found.getD {}).ask text)) here front (.error fault)
        final) :
      Invocation others runtime thread text world (glance here :: front) (.error fault) final
  | unsaved {here between final : World} {fault : Fault} {found : Option ThreadState}
      {reached : ThreadState} {artifacts : List Envelope} {front back : List (Deed World)}
      (meanwhile : others world here)
      (loaded : here.database.load runtime.checkpoints.scope thread = .ok found)
      (turn : Runs others (runtime.takeTurn ((found.getD {}).ask text)) here front
        (.ok (reached, artifacts)) between)
      (saving : CheckpointStore.Saving others runtime.checkpoints.scope thread reached between back
        (.error fault) final) :
      Invocation others runtime thread text world (glance here :: (front ++ back)) (.error fault)
        final
  | ended {here between final : World} {sequence : Int} {found : Option ThreadState}
      {reached : ThreadState} {artifacts : List Envelope} {front back : List (Deed World)}
      (meanwhile : others world here)
      (loaded : here.database.load runtime.checkpoints.scope thread = .ok found)
      (turn : Runs others (runtime.takeTurn ((found.getD {}).ask text)) here front
        (.ok (reached, artifacts)) between)
      (saving : CheckpointStore.Saving others runtime.checkpoints.scope thread reached between back
        (.ok sequence) final) :
      Invocation others runtime thread text world (glance here :: (front ++ back))
        (.ok {
          messages := reached.messages.drop (found.getD {}).messages.length
          activeAssistant := reached.activeAssistant
          artifacts := artifacts }) final

theorem conclude_runs {runtime : CompiledRuntime} {thread : String} {base reached : ThreadState}
    {artifacts : List Envelope} {result : Except Fault RunOutput}
    (runs : Runs others (runtime.conclude thread base (.ok (reached, artifacts))) world deeds result
      final) :
    (∃ fault, result = .error fault ∧ CheckpointStore.Saving others runtime.checkpoints.scope thread
        reached world deeds (.error fault) final) ∨
      ∃ sequence, CheckpointStore.Saving others runtime.checkpoints.scope thread reached world deeds
          (.ok sequence) final ∧
        result = .ok {
          messages := reached.messages.drop base.messages.length
          activeAssistant := reached.activeAssistant
          artifacts := artifacts } := by
  unfold conclude at runs
  rcases runs.of_bind with ⟨_, _, saved, _, rfl, saving, rest⟩
  have saving := CheckpointStore.save_runs saving
  cases saved with
  | error fault =>
      rcases rest.of_done with ⟨rfl, rfl, rfl⟩
      exact .inl ⟨fault, rfl, (List.append_nil _).symm ▸ saving⟩
  | ok sequence =>
      rcases rest.of_done with ⟨rfl, rfl, rfl⟩
      exact .inr ⟨sequence, (List.append_nil _).symm ▸ saving, rfl⟩

theorem invoke_runs {runtime : CompiledRuntime} {thread text : String}
    {result : Except Fault RunOutput}
    (runs : Runs others (runtime.invoke thread text) world deeds result final) :
    Invocation others runtime thread text world deeds result final := by
  rw [invoke_eq] at runs
  cases runs with
  | @pause _ _ _ _ here _ _ _ meanwhile rest =>
      cases rest with
      | look time rest =>
          dsimp only at rest
          cases loaded : here.database.load runtime.checkpoints.scope thread with
          | error fault =>
              rw [loaded] at rest
              rcases rest.of_done with ⟨rfl, rfl, rfl⟩
              exact .unloaded meanwhile loaded
          | ok found =>
              rw [loaded] at rest
              rcases rest.of_bind with ⟨front, back, turn, between, rfl, taking, concluding⟩
              rcases turn with fault | ⟨reached, artifacts⟩
              · rcases concluding.of_done with ⟨rfl, rfl, rfl⟩
                rw [List.append_nil]
                exact .failed meanwhile loaded taking
              · rcases conclude_runs concluding with ⟨fault, rfl, saving⟩ | ⟨sequence, saving, rfl⟩
                · exact .unsaved meanwhile loaded taking saving
                · exact .ended meanwhile loaded taking saving

end CompiledRuntime

end AssistantEngine
