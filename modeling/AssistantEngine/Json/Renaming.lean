import AssistantEngine.Json.Basic

/-!
Renaming identifiers. In a value whose identifiers are arbitrary, each text under a certain
key is replaced by a word with a number, in the order in which the identifiers appear.
-/

namespace AssistantEngine

namespace Json

/-- The number of a name, counted from one, and the names known afterwards. -/
def numberOf (known : List String) (name : String) : Nat × List String :=
  if known.contains name then (known.findIdx (· == name) + 1, known)
  else (known.length + 1, known ++ [name])

mutual
/-- Renames the texts under `key`; answers the names known afterwards. -/
def renumber (key word : String) (known : List String) : Json → Json × List String
  | .arr items =>
    let (items, known) := renumberItems key word known items
    (.arr items, known)
  | .obj members =>
    let (members, known) := renumberMembers key word known members
    (.obj members, known)
  | other => (other, known)

def renumberItems (key word : String) (known : List String) :
    List Json → List Json × List String
  | [] => ([], known)
  | item :: rest =>
    let (item, known) := renumber key word known item
    let (rest, known) := renumberItems key word known rest
    (item :: rest, known)

def renumberMembers (key word : String) (known : List String) :
    List (String × Json) → List (String × Json) × List String
  | [] => ([], known)
  | (name, value) :: rest =>
    let (value, known) :=
      match if name = key then asText? value else none with
      | some text =>
        let (number, known) := numberOf known text
        (.str s!"{word}-{number}", known)
      | none => renumber key word known value
    let (rest, known) := renumberMembers key word known rest
    ((name, value) :: rest, known)
end

end Json

end AssistantEngine
