import AssistantEngine.Proofs.Concurrency.Runs

/-!
Two activities that run alone, each in a world of its own. If the worlds belong together when the
activities begin, they do when the activities have come to their ends, and so do the results;
how much time passes on either side does not matter.
-/

namespace AssistantEngine

namespace Activity

variable {World Result Result' Other Other' : Type}

/-- From worlds that belong together, either both activities come to an end, with results and
worlds that belong together, or neither does. -/
def Together (related : World → World → Prop) (holds : Result → Result' → Prop)
    (first : Activity World Result) (second : Activity World Result') : Prop :=
  ∀ time time' world world', related world world' →
    Option.Rel (fun run run' => holds run.1 run'.1 ∧ related run.2.2 run'.2.2)
      (first.complete time world) (second.complete time' world')

namespace Together

variable {related : World → World → Prop} {holds : Result → Result' → Prop}

theorem done {result : Result} {result' : Result'} (same : holds result result') :
    Together related holds (.done result) (.done result') :=
  fun _ _ _ _ alike => .some ⟨same, alike⟩

theorem bind {first : Activity World Result} {second : Activity World Result'}
    {next : Result → Activity World Other} {next' : Result' → Activity World Other'}
    {last : Other → Other' → Prop} (before : Together related holds first second)
    (after : ∀ result result', holds result result' →
      Together related last (next result) (next' result')) :
    Together related last (first.bind next) (second.bind next') := by
  intro time time' world world' alike
  have both := before time time' world world' alike
  rw [complete_bind, complete_bind]
  generalize first.complete time world = run at both ⊢
  generalize second.complete time' world' = run' at both ⊢
  cases both with
  | none => exact .none
  | some both => exact after _ _ both.1 _ _ _ _ both.2

theorem mono {wider : Result → Result' → Prop} {first : Activity World Result}
    {second : Activity World Result'} (together : Together related holds first second)
    (implies : ∀ result result', holds result result' → wider result result') :
    Together related wider first second := by
  intro time time' world world' alike
  have both := together time time' world world' alike
  generalize first.complete time world = run at both ⊢
  generalize second.complete time' world' = run' at both ⊢
  cases both with
  | none => exact .none
  | some both => exact .some ⟨implies _ _ both.1, both.2⟩

theorem giveWay : Together related (fun _ _ => True) giveWay giveWay :=
  fun _ _ _ _ alike => .some ⟨trivial, alike⟩

theorem inspect {view : World → Result} {view' : World → Result'}
    (same : ∀ world world', related world world' → holds (view world) (view' world')) :
    Together related holds (inspect view) (inspect view') :=
  fun _ _ world world' alike => .some ⟨same world world' alike, alike⟩

theorem transact {change : World → Result × World} {change' : World → Result' × World}
    (same : ∀ world world', related world world' →
      holds (change world).1 (change' world').1 ∧ related (change world).2 (change' world').2) :
    Together related holds (transact change) (transact change') :=
  fun _ _ world world' alike => .some (same world world' alike)

theorem modify {change change' : World → World}
    (same : ∀ world world', related world world' → related (change world) (change' world')) :
    Together related (fun _ _ => True) (modify change) (modify change') :=
  fun _ _ world world' alike => .some ⟨trivial, same world world' alike⟩

theorem waitUntil {ready ready' : World → Bool}
    (same : ∀ world world', related world world' → ready world = ready' world') :
    Together related (fun _ _ => True) (waitUntil ready) (waitUntil ready') := by
  intro time time' world world' alike
  unfold Activity.waitUntil complete
  rw [same world world' alike]
  split
  · exact .some ⟨trivial, alike⟩
  · exact .none

end Together

end Activity

end AssistantEngine
