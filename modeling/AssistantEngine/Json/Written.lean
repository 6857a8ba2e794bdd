import AssistantEngine.Json.Basic

/-!
Values as a JSON text writes them. The members of an object keep their order and may repeat
a key. A part that is well formed but denotes nothing, such as a numeral beyond the range of
numbers, stays in its place, so that a reader who does not ask for it can pass it over.
-/

namespace AssistantEngine

namespace Json

inductive Written where
  | scalar (value : Json)
  | array (items : List Written)
  | object (members : List (Option String × Written))
  | meaningless
deriving Inhabited

namespace Written

mutual
/-- The value denoted, if all parts denote one. -/
def value? : Written → Option Json
  | .scalar value => some value
  | .array items => (valuesOfItems? items).map .arr
  | .object members => (valuesOfMembers? members).map Json.object
  | .meaningless => none

def valuesOfItems? : List Written → Option (List Json)
  | [] => some []
  | item :: rest =>
    match value? item, valuesOfItems? rest with
    | some item, some rest => some (item :: rest)
    | _, _ => none

def valuesOfMembers? : List (Option String × Written) → Option (List (String × Json))
  | [] => some []
  | (key, value) :: rest =>
    match key, value? value, valuesOfMembers? rest with
    | some key, some value, some rest => some ((key, value) :: rest)
    | _, _, _ => none
end

def ofOption : Option Json → Written
  | some value => .scalar value
  | none => .meaningless

end Written

end Json

end AssistantEngine
