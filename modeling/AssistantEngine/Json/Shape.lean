import AssistantEngine.Json.Member

/-!
Shapes of values. A shape brings a value into its full form: a record that lists its members
without their names becomes an object, a word that is written as the one key of an object
becomes a text. What a record's shape does not name may be anything and is left out.
-/

namespace AssistantEngine

namespace Json

/-- The full form of the values of one shape, and `none` for all others. -/
abbrev Shape := Json → Option Json

namespace Shape

def anything : Shape := some

def such (test : Json → Bool) : Shape := fun value => if test value then some value else none

def text : Shape := such fun value => value.asText?.isSome

def truth : Shape := such fun
  | .bool _ => true
  | _ => false

def number : Shape := such fun
  | .int _ | .real _ => true
  | _ => false

/-- A natural number that four bytes can hold. -/
def word : Shape := such fun
  | .int value => 0 ≤ value && value < 4294967296
  | _ => false

def object : Shape := such Json.isObject

def list (item : Shape) : Shape := fun value => do
  return .arr (← (← value.asArray?).mapM item)

/-- An object from any names to values of one shape. -/
def catalog (item : Shape) : Shape
  | .obj members =>
    (members.mapM fun (member : String × Json) => (item member.2).map (member.1, ·)).map Json.obj
  | _ => none

/-- One of several words, perhaps as a key in front of nothing. -/
def oneOf (words : List String) : Shape := fun value =>
  let word :=
    match value with
    | .str word | .obj [(word, .null)] | .obj [(word, .obj [])] => some word
    | _ => none
  (word.filter words.contains).map .str

def either (first second : Shape) : Shape := fun value => (first value).or (second value)

/-! ## Records -/

/-- A member of a record. An optional one may be missing or null. -/
structure Part where
  name : String
  shape : Shape
  optional : Bool

def needed (name : String) (shape : Shape) : Part := ⟨name, shape, false⟩

def allowed (name : String) (shape : Shape) : Part := ⟨name, shape, true⟩

def Part.read (part : Part) : Option Json → Option (String × Json)
  | none => if part.optional then some (part.name, .null) else none
  | some value =>
    if part.optional && value.isNull then some (part.name, .null)
    else (part.shape value).map (part.name, ·)

/-- An object with these members. -/
def members (parts : List Part) : Shape := fun value =>
  if value.isObject then
    (parts.mapM fun (part : Part) => part.read (value.member? part.name)).map Json.object
  else none

/-- An object with these members, or a list of them all in this order. -/
def record (parts : List Part) : Shape
  | .arr items =>
    if items.length = parts.length then
      ((parts.zip items).mapM fun (listed : Part × Json) =>
        listed.1.read (some listed.2)).map Json.object
    else none
  | value => members parts value

/-- A record of one of several kinds. Its `type`, which comes first in a list, names the kind
or counts it. -/
def tagged (kinds : List (String × Shape)) : Shape := fun value => do
  let (tag, content) ←
    match value with
    | .arr (tag :: rest) => some (tag, .arr rest)
    | value => (value.member? "type").map (·, value)
  let (name, shape) ←
    match tag with
    | .str name => kinds.find? (·.1 = name)
    | .int position => if 0 ≤ position then kinds[position.toNat]? else none
    | _ => none
  match ← shape content with
  | .obj members => return .obj (Catalog.insert members "type" (.str name))
  | other => return other

end Shape

end Json

end AssistantEngine
