import AssistantEngine.Json.Basic

/-!
Members of objects read leniently: what is missing or of another kind counts as empty.
-/

namespace AssistantEngine

namespace Json

def valueAt (value : Json) (name : String) : Json := (value.member? name).getD .null

def textAt? (value : Json) (name : String) : Option String :=
  (value.member? name).bind asText?

def textAt (value : Json) (name : String) : String := (value.textAt? name).getD ""

def boolAt (value : Json) (name : String) : Bool :=
  match value.member? name with
  | some (.bool truth) => truth
  | _ => false

def naturalAt? (value : Json) (name : String) : Option Nat :=
  match value.member? name with
  | some (.int number) => if 0 ≤ number then some number.toNat else none
  | _ => none

def naturalAt (value : Json) (name : String) : Nat := (value.naturalAt? name).getD 0

def listAt (value : Json) (name : String) : List Json :=
  ((value.member? name).bind asArray?).getD []

def textsAt (value : Json) (name : String) : List String :=
  (value.listAt name).filterMap asText?

def catalogAt (value : Json) (name : String) : Catalog Json :=
  match value.member? name with
  | some (.obj members) => members
  | _ => []

/-- The entries that are texts. -/
def textCatalogAt (value : Json) (name : String) : Catalog String :=
  (value.catalogAt name).filterMap fun entry =>
    entry.2.asText?.map fun text => (entry.1, text)

end Json

end AssistantEngine
