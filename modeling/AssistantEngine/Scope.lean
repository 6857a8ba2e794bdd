/-!
Scopes: the resources that were opened while something was built, to be released together.
Closing a scope hands its resources out, last opened first, and is done only once.
-/

namespace AssistantEngine

structure Scope (Resource : Type) where
  owner : String
  resources : List Resource := []
  closed : Bool := false

namespace Scope

variable {Resource : Type}

def push (scope : Scope Resource) (resource : Resource) : Scope Resource :=
  { scope with resources := scope.resources ++ [resource] }

def size (scope : Scope Resource) : Nat := scope.resources.length

/-- The resources to release, in that order, and the scope without them. A scope that was
closed before hands out nothing and keeps what was pushed since. -/
def close (scope : Scope Resource) : List Resource × Scope Resource :=
  if scope.closed then ([], scope)
  else (scope.resources.reverse, { scope with resources := [], closed := true })

end Scope

end AssistantEngine
