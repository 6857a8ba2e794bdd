import Mathlib.Data.List.Perm.Basic
import AssistantEngine.Scope

/-!
What becomes of the resources that are pushed into a scope. A scope is closed for good: its first
close releases what it holds, the last resource first, and whatever is pushed behind it stays in
the scope for ever.
-/

namespace AssistantEngine

namespace Scope

variable {Resource : Type} {scope : Scope Resource}

/-- What is done with a scope. -/
inductive Use (Resource : Type) where
  | push (resource : Resource)
  | close
deriving DecidableEq

namespace Use

def isPush : Use Resource → Bool
  | push _ => true
  | close => false

def resource? : Use Resource → Option Resource
  | push resource => some resource
  | close => none

end Use

/-- The resources that are pushed, in that order. -/
def pushed (uses : List (Use Resource)) : List Resource := uses.filterMap Use.resource?

/-- What a use releases, in that order, and the scope after it. -/
def use (scope : Scope Resource) : Use Resource → List Resource × Scope Resource
  | .push resource => ([], scope.push resource)
  | .close => scope.close

def useAll (scope : Scope Resource) : List (Use Resource) → List Resource × Scope Resource
  | [] => ([], scope)
  | use :: uses =>
    let (released, scope) := scope.use use
    let (more, scope) := scope.useAll uses
    (released ++ more, scope)

/-- What is to be released: at every close whatever was pushed since the one before, the last
resource first. `pending` is what was pushed since, newest first. -/
def due : List Resource → List (Use Resource) → List Resource
  | _, [] => []
  | pending, .push resource :: uses => due (resource :: pending) uses
  | pending, .close :: uses => pending ++ due [] uses

/-! ## Pushes and closes -/

@[simp] theorem pushed_nil : pushed ([] : List (Use Resource)) = [] := rfl

@[simp] theorem pushed_push (resource : Resource) (uses : List (Use Resource)) :
    pushed (.push resource :: uses) = resource :: pushed uses := rfl

@[simp] theorem pushed_close (uses : List (Use Resource)) :
    pushed (.close :: uses) = pushed uses := rfl

theorem pushed_append (front back : List (Use Resource)) :
    pushed (front ++ back) = pushed front ++ pushed back :=
  List.filterMap_append

/-- A row of uses that ends with a close owes every resource that is pushed, each time it is. -/
theorem due_perm (pending : List Resource) (uses : List (Use Resource)) :
    (due pending (uses ++ [.close])).Perm (pending ++ pushed uses) := by
  induction uses generalizing pending with
  | nil => exact .of_eq rfl
  | cons use uses induction =>
      cases use with
      | push resource => exact (induction (resource :: pending)).trans List.perm_middle.symm
      | close => exact (induction []).append_left pending

theorem due_of_pushed_nil {uses : List (Use Resource)} (nothing : pushed uses = []) :
    due [] (uses ++ [.close]) = [] := by
  induction uses with
  | nil => rfl
  | cons use uses induction =>
      cases use with
      | push resource => cases nothing
      | close => exact induction nothing

/-- Where nothing is pushed behind the first close, all is owed there. -/
theorem due_of_early {pending : List Resource} {uses : List (Use Resource)}
    (nothing : pushed (uses.dropWhile Use.isPush) = []) :
    due pending (uses ++ [.close]) = (pushed (uses.takeWhile Use.isPush)).reverse ++ pending := by
  induction uses generalizing pending with
  | nil => exact List.append_nil pending
  | cons use uses induction =>
      cases use with
      | push resource =>
          rw [List.takeWhile_cons_of_pos rfl, pushed_push, List.reverse_cons, List.append_assoc]
          exact induction nothing
      | close =>
          have owed : due pending (.close :: uses ++ [.close]) =
              pending ++ due [] (uses ++ [.close]) := rfl
          have quiet : pushed uses = [] := nothing
          rw [owed, due_of_pushed_nil quiet, List.append_nil]
          rfl

/-! ## Scopes in use -/

@[simp] theorem useAll_push (resource : Resource) (uses : List (Use Resource)) :
    scope.useAll (.push resource :: uses) = (scope.push resource).useAll uses := rfl

theorem useAll_close (uses : List (Use Resource)) :
    scope.useAll (.close :: uses) =
      (scope.close.1 ++ (scope.close.2.useAll uses).1, (scope.close.2.useAll uses).2) := rfl

/-- A closed scope releases nothing, and keeps what is pushed. -/
theorem useAll_of_closed (closed : scope.closed = true) (uses : List (Use Resource)) :
    scope.useAll uses = ([], { scope with resources := scope.resources ++ pushed uses }) := by
  induction uses generalizing scope with
  | nil => simp [useAll]
  | cons use uses induction =>
      cases use with
      | push resource =>
          have after : (scope.push resource).closed = true := closed
          rw [useAll_push, induction after]
          simp [push]
      | close =>
          have same : scope.close = ([], scope) := if_pos closed
          rw [useAll_close, same, induction closed]
          rfl

/-- An open scope releases what it holds at the first close, the last resource first, and keeps what
is pushed behind that. -/
theorem useAll_of_open (opened : scope.closed = false) (uses : List (Use Resource)) :
    scope.useAll (uses ++ [.close]) =
      ((scope.resources ++ pushed (uses.takeWhile Use.isPush)).reverse,
        { scope with
          resources := pushed (uses.dropWhile Use.isPush)
          closed := true }) := by
  induction uses generalizing scope with
  | nil => simp [useAll_close, useAll, close, opened]
  | cons use uses induction =>
      cases use with
      | push resource =>
          have after : (scope.push resource).closed = false := opened
          rw [List.cons_append, useAll_push, induction after, List.takeWhile_cons_of_pos rfl,
            List.dropWhile_cons_of_pos rfl]
          simp [push]
      | close =>
          have first : scope.close =
              (scope.resources.reverse, { scope with resources := [], closed := true }) := by
            rw [close, opened]
            rfl
          rw [List.cons_append, useAll_close, first, useAll_of_closed rfl,
            List.takeWhile_cons_of_neg (by simp [Use.isPush]),
            List.dropWhile_cons_of_neg (by simp [Use.isPush])]
          simp [pushed_append]

/-- A scope that is closed in the end has released what was pushed in front of its first close, the
last resource first, and holds what was pushed behind that. So it has released everything that was
pushed, once for every push and the last resource first between any two closes, and is empty, exactly
if nothing is pushed once it has been closed. -/
theorem released_in_full_iff (owner : String) (uses : List (Use Resource)) :
    let session := uses ++ [.close]
    let result := ({ owner := owner } : Scope Resource).useAll session
    let late := pushed (uses.dropWhile Use.isPush)
    (result.1 = (pushed (uses.takeWhile Use.isPush)).reverse ∧
      result.2 = { owner := owner, resources := late, closed := true }) ∧
    (due [] session).Perm (pushed session) ∧
    (result.1 = due [] session ∧ result.2.resources = [] ↔ late = []) := by
  intro session result late
  have same : result = ((pushed (uses.takeWhile Use.isPush)).reverse,
      { owner := owner, resources := late, closed := true }) :=
    useAll_of_open rfl uses
  have every : pushed session = pushed uses := by simp [session, pushed_append]
  refine ⟨⟨congrArg Prod.fst same, congrArg Prod.snd same⟩, every ▸ due_perm [] uses, ?_⟩
  rw [same]
  constructor
  · rintro ⟨-, empty⟩
    exact empty
  · intro nothing
    have owed : due [] session = (pushed (uses.takeWhile Use.isPush)).reverse ++ [] :=
      due_of_early nothing
    exact ⟨(owed.trans (List.append_nil _)).symm, nothing⟩

/-- What is pushed into a scope that was closed before is not released by the next close, and the
scope is not empty after it. -/
theorem pushed_late_kept :
    let session : List (Use String) := [.push "plugin-a", .close, .push "plugin-b", .close]
    let result := ({ owner := "wf" } : Scope String).useAll session
    result.1 = ["plugin-a"] ∧ due [] session = ["plugin-a", "plugin-b"] ∧
      result.2.resources = ["plugin-b"] :=
  ⟨rfl, rfl, rfl⟩

end Scope

end AssistantEngine
