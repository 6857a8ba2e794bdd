import AssistantEngine.Number.Binary64
import AssistantEngine.Catalog

/-!
JSON values. An object holds its members in ascending key order, one per key; a number
is an integer within the 64-bit ranges, signed or unsigned, or a binary floating-point
number.
-/

namespace AssistantEngine

inductive Json where
  | null
  | bool (value : Bool)
  | int (value : Int)
  | real (value : Binary64)
  | str (value : String)
  | arr (items : List Json)
  | obj (members : List (String × Json))
deriving Repr, Inhabited

namespace Json

/-! Equality of values is decidable, member by member. -/

mutual
def same : Json → Json → Bool
  | .null, .null => true
  | .bool first, .bool second => first == second
  | .int first, .int second => first == second
  | .real first, .real second => decide (first = second)
  | .str first, .str second => first == second
  | .arr first, .arr second => sameItems first second
  | .obj first, .obj second => sameMembers first second
  | _, _ => false

def sameItems : List Json → List Json → Bool
  | [], [] => true
  | first :: firsts, second :: seconds => same first second && sameItems firsts seconds
  | _, _ => false

def sameMembers : List (String × Json) → List (String × Json) → Bool
  | [], [] => true
  | (key, first) :: firsts, (other, second) :: seconds =>
    key == other && same first second && sameMembers firsts seconds
  | _, _ => false
end

mutual
theorem same_iff : (first second : Json) → (same first second = true ↔ first = second)
  | .null, second => by cases second <;> simp [same]
  | .bool _, second => by cases second <;> simp [same]
  | .int _, second => by cases second <;> simp [same]
  | .real _, second => by cases second <;> simp [same]
  | .str _, second => by cases second <;> simp [same]
  | .arr firsts, second => by
    cases second <;> simp [same]
    exact sameItems_iff firsts _
  | .obj firsts, second => by
    cases second <;> simp [same]
    exact sameMembers_iff firsts _

theorem sameItems_iff : (firsts seconds : List Json) →
    (sameItems firsts seconds = true ↔ firsts = seconds)
  | [], seconds => by cases seconds <;> simp [sameItems]
  | first :: firsts, seconds => by
    cases seconds <;> simp [sameItems]
    rename_i second seconds
    rw [same_iff first second, sameItems_iff firsts seconds]

theorem sameMembers_iff : (firsts seconds : List (String × Json)) →
    (sameMembers firsts seconds = true ↔ firsts = seconds)
  | [], seconds => by cases seconds <;> simp [sameMembers]
  | (key, first) :: firsts, seconds => by
    cases seconds with
    | nil => simp [sameMembers]
    | cons head seconds =>
      obtain ⟨other, second⟩ := head
      simp [sameMembers]
      rw [same_iff first second, sameMembers_iff firsts seconds]
end

instance : DecidableEq Json := fun first second =>
  decidable_of_iff (same first second = true) (same_iff first second)

/-- The object with these members; of two with one key the later stays. -/
def object (members : List (String × Json)) : Json := .obj (Catalog.ofList members)

def text (value : String) : Json := .str value

def natural (value : Nat) : Json := .int value

def texts (values : List String) : Json := .arr (values.map .str)

def ofOption {α : Type} (encode : α → Json) : Option α → Json
  | some value => encode value
  | none => .null

def ofCatalog {α : Type} (encode : α → Json) (catalog : Catalog α) : Json :=
  .obj (catalog.mapValues encode)

/-- A floating-point value; JSON has no numeral for the ones that are not finite. -/
def ofReal (value : Binary64) : Json := if value.isFinite then .real value else .null

def isObject : Json → Bool
  | .obj _ => true
  | _ => false

def isArray : Json → Bool
  | .arr _ => true
  | _ => false

def isNull : Json → Bool
  | .null => true
  | _ => false

def member? : Json → String → Option Json
  | .obj members, key => Catalog.find? members key
  | _, _ => none

def asText? : Json → Option String
  | .str value => some value
  | _ => none

def asArray? : Json → Option (List Json)
  | .arr items => some items
  | _ => none

/-! How many arrays and objects enclose the innermost value. -/

mutual
def depth : Json → Nat
  | .arr items => depthItems items + 1
  | .obj members => depthMembers members + 1
  | _ => 0

def depthItems : List Json → Nat
  | [] => 0
  | item :: rest => max (depth item) (depthItems rest)

def depthMembers : List (String × Json) → Nat
  | [] => 0
  | (_, value) :: rest => max (depth value) (depthMembers rest)
end

end Json

end AssistantEngine
