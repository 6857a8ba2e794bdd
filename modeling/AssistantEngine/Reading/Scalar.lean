import AssistantEngine.Reading.Datum
import AssistantEngine.Yaml.Resolution

/-!
Nodes of YAML documents made loose: every scalar gets its kind, by its tag or else by how
it is written, and aliases are replaced by what they stand for. A local tag announces one of
several alternatives, so a node that has one is no plain value.
-/

namespace AssistantEngine

namespace Datum

def hasLocalName (tag : Option Yaml.Tag) : Bool := (tag.bind Yaml.Tag.localName?).isSome

def ofResolved (written : String) : Option Datum :=
  match Yaml.resolve written with
  | .null => some .null
  | .bool value => some (.bool value)
  | .int value => some (.int value)
  | .tooWide => none
  | .real value => some (.real value)
  | .text => some (.text written)

/-- The loose datum of a scalar, decided by its tag and its writing. -/
def ofScalar (written : String) (style : Yaml.ScalarStyle) (tag : Option Yaml.Tag) :
    Option Datum :=
  let untagged := if style = .plain then ofResolved written else some (.text written)
  match tag with
  | none => untagged
  | some tag =>
    if tag.localName?.isSome then none
    else if tag = .standard "bool" then (Yaml.bool? written).map .bool
    else if tag = .standard "int" then ((Yaml.integer? written).filter Yaml.fitsWord).map .int
    else if tag = .standard "float" then (Yaml.real? written).map .real
    else if tag = .standard "null" then (if Yaml.isNull written then some .null else none)
    else if tag.isLocal then untagged
    else some (.text written)

/-- Whether a typed reader may look for a number or truth value in a scalar. -/
def mayDenote (kind : String) (style : Yaml.ScalarStyle) (tag : Option Yaml.Tag) : Bool :=
  match style with
  | .plain => true
  | .literal => tag = some (.standard kind)
  | .quoted => false

/-- An empty place in a document, which counts as an empty list or table. -/
def isVacant : Yaml.Node → Bool
  | .absent => true
  | .scalar written style _ => written.isEmpty && style == .plain
  | _ => false

end Datum

namespace Reading

/-- The text of a key, whatever it looks like. -/
def keyText (node : Yaml.Node) : Reading Datum := do
  match ← follow node with
  | .scalar written _ _ => return .text written
  | _ => failure

/-- One step of making a node loose; `within?` does it for the nodes inside, if the document
may be read deeper. -/
def loosenWith (textKeys : Bool) (within? : Option (Yaml.Node → Reading Datum))
    (node : Yaml.Node) : Reading Datum := do
  match ← follow node with
  | .absent => return .null
  | .scalar written style tag => ofOption (Datum.ofScalar written style tag)
  | .sequence tag items =>
    if Datum.hasLocalName tag then failure
    else return .list (← items.mapM (← ofOption within?))
  | .mapping tag entries =>
    if Datum.hasLocalName tag then failure
    else
      let within ← ofOption within?
      return .table (← entries.mapM fun (key, value) => do
        return (← if textKeys then keyText key else within key, ← within value))
  | .alias _ => failure

def loosenDown (textKeys : Bool) : Nat → Yaml.Node → Reading Datum
  | 0 => loosenWith textKeys none
  | room + 1 => loosenWith textKeys (some (loosenDown textKeys room))

/-- The loose form of a node. With `textKeys` the keys of tables are texts, also those that
look like numbers. -/
def loosen (textKeys : Bool) (node : Yaml.Node) : Reading Datum := do
  loosenDown textKeys (← read).room node

end Reading

end AssistantEngine
