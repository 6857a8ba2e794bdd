import AssistantEngine.Catalog
import AssistantEngine.Text.Search

/-!
Environment variables, and references to them inside texts. The environment is a row of
texts `NAME=value`, and whatever of such a text ends in front of a `=` finds what stands
behind. A reference is written
`${NAME}` or `${NAME:-default}`; a text is gone through once from left to right, and what
a reference expands to is not looked at again.
-/

namespace AssistantEngine

/-- The variables that are set, by name. -/
abbrev Environment := Catalog String

namespace Environment

/-- The value of the variable of a name: the rest of the first text that the name and a `=`
begin. Nothing has the empty name. -/
def value? (environment : Environment) (name : String) : Option String :=
  if name.isEmpty then none
  else
    environment.findSome? fun entry => Text.without? (name ++ "=") (entry.1 ++ "=" ++ entry.2)

/-- What stands before the first `:-` and what stands after it. -/
def splitDefault : List Char → List Char × Option (List Char)
  | ':' :: '-' :: rest => ([], some rest)
  | character :: rest =>
    let (name, otherwise) := splitDefault rest
    (character :: name, otherwise)
  | [] => ([], none)

def reference (expression : List Char) : List Char := '$' :: '\x7b' :: (expression ++ ['\x7d'])

/-- The value of a reference: that of the variable if it is set, else the default, else the
reference as it is written. A reference to nothing stands for itself. -/
def expansion (environment : Environment) (expression : List Char) : List Char :=
  if expression.isEmpty then reference expression
  else
    match splitDefault expression with
    | (name, some otherwise) =>
      match environment.value? (String.ofList name) with
      | some value => value.toList
      | none => otherwise
    | (name, none) =>
      match environment.value? (String.ofList name) with
      | some value => value.toList
      | none => reference expression

/-- Goes through a text; `inside` holds what was read of a reference, newest first. A
reference that is not closed is no reference. -/
def substituteChars (environment : Environment) : Option (List Char) → List Char → List Char
  | none, [] => []
  | some read, [] => '$' :: '\x7b' :: read.reverse
  | none, '$' :: '\x7b' :: rest => substituteChars environment (some []) rest
  | none, character :: rest => character :: substituteChars environment none rest
  | some read, '\x7d' :: rest =>
    expansion environment read.reverse ++ substituteChars environment none rest
  | some read, character :: rest => substituteChars environment (some (character :: read)) rest

/-- The text with every reference replaced. -/
def substitute (environment : Environment) (text : String) : String :=
  String.ofList (substituteChars environment none text.toList)

/-- The names of all variables that the references in a text can mean. -/
def mentioned (text : String) : List String :=
  ((text.splitOn "$\x7b").drop 1).map fun piece =>
    String.ofList (splitDefault (piece.toList.takeWhile (· ≠ '\x7d'))).1

end Environment

end AssistantEngine
