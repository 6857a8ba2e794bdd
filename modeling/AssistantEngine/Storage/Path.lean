/-!
Paths as texts: names separated by slashes. Joining is textual; the last name is found
past trailing slashes and past names that are a single dot.
-/

namespace AssistantEngine

namespace Path

def isAbsolute (path : String) : Bool := path.toList.head? == some '/'

/-- The second path seen from the first one. An absolute second path stands for itself. -/
def join (base path : String) : String :=
  if isAbsolute path || base.isEmpty then path
  else if base.toList.getLast? == some '/' then base ++ path
  else base ++ "/" ++ path

/-- The names between the slashes, in order. -/
def split (path : List Char) : List (List Char) :=
  path.foldr (fun character names =>
    if character = '/' then [] :: names
    else
      match names with
      | name :: rest => (character :: name) :: rest
      | [] => [[character]]) [[]]

/-- The names of a path without the empty ones and those that are a single dot. -/
def names (path : String) : List String :=
  ((split path.toList).filter fun name => !(name == [] || name == ['.'])).map String.ofList

/-- Whether nothing, or a single dot, follows the last slash. -/
def endsInDirectory (path : String) : Bool :=
  match (split path.toList).getLast? with
  | some last => last == [] || last == ['.']
  | none => false

/-- The last name, unless the path ends by stepping up. -/
def fileName? (path : String) : Option String :=
  (names path).getLast?.filter (· ≠ "..")

/-- What follows the last dot of the file name, if anything stands before that dot. -/
def suffix? (path : String) : Option String := do
  let name ← fileName? path
  let reversed := name.toList.reverse
  let after := reversed.takeWhile (· ≠ '.')
  let before := (reversed.dropWhile (· ≠ '.')).drop 1
  if before.isEmpty then none else some (String.ofList after.reverse)

/-- Drops slashes and single dots from the end of a reversed path. A path that is nothing
but a dot stays. -/
def trimReversed : List Char → List Char
  | '/' :: rest => trimReversed rest
  | '.' :: '/' :: rest => trimReversed rest
  | other => other

/-- The path without its last name; `none` if there is no last name. -/
def parent? (path : String) : Option String :=
  let trimmed := trimReversed path.toList.reverse
  if trimmed.isEmpty then none
  else
    let before := trimmed.dropWhile (· ≠ '/')
    let kept := trimReversed before
    if kept.isEmpty && !before.isEmpty then some "/" else some (String.ofList kept.reverse)

end Path

end AssistantEngine
