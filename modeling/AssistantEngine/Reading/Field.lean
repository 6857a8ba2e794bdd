import AssistantEngine.Reading.Scalar

/-!
Readers for texts, numbers, alternatives, lists, tables and structures. A structure has
fields with one or more accepted names, in a fixed order; entries with other names are
passed over.
-/

namespace AssistantEngine

namespace Reading

/-- The datum itself, or what it is an alias of. -/
def opened (datum : Datum) : Reading Datum :=
  match datum with
  | .node node => do return .node (← follow node)
  | datum => return datum

def asText (datum : Datum) : Reading String := do
  match ← opened datum with
  | .text value => return value
  | .node (.scalar written _ _) => return written
  | _ => failure

def asBool (datum : Datum) : Reading Bool := do
  match ← opened datum with
  | .bool value => return value
  | .node (.scalar written style tag) =>
    if Datum.mayDenote "bool" style tag then ofOption (Yaml.bool? written) else failure
  | _ => failure

def asReal (datum : Datum) : Reading Binary64 := do
  match ← opened datum with
  | .real value => return value
  | .int value => return Binary64.ofInt value
  | .node (.scalar written style tag) =>
    if Datum.mayDenote "float" style tag then ofOption (Yaml.real? written) else failure
  | _ => failure

/-- A natural up to `greatest`. -/
def asNatural (greatest : Nat) (datum : Datum) : Reading Nat := do
  let found ←
    match ← opened datum with
    | .int value => if 0 ≤ value then pure value.toNat else failure
    | .node (.scalar written style tag) =>
      if Datum.mayDenote "int" style tag then ofOption (Yaml.natural? written) else failure
    | _ => failure
  if found ≤ greatest then return found else failure

/-- Whether a datum stands for the missing value of an optional field. -/
def isNone? : Datum → Option Bool
  | .null => some true
  | .node .absent => some true
  | .node (.scalar written style tag) =>
    if style ≠ .plain then some false
    else if tag = some (.standard "null") then (if Yaml.isNull written then some true else none)
    else if tag.isSome then some false
    else some (written.isEmpty || Yaml.isNull written)
  | _ => some false

def asOption {α : Type} (read : Datum → Reading α) (datum : Datum) : Reading (Option α) := do
  let datum ← opened datum
  if ← ofOption (isNone? datum) then return none else return some (← read datum)

def asList {α : Type} (read : Datum → Reading α) (datum : Datum) : Reading (List α) := do
  match ← opened datum with
  | .list items => items.mapM read
  | .node node =>
    if Datum.isVacant node then return []
    else
      match node with
      | .sequence _ items => inside (items.mapM fun item => read (.node item))
      | _ => failure
  | _ => failure

/-- The entries of a table. -/
def withEntries {α : Type} (datum : Datum) (use : List (Datum × Datum) → Reading α) :
    Reading α := do
  match ← opened datum with
  | .table entries => use entries
  | .node node =>
    if Datum.isVacant node then use []
    else
      match node with
      | .mapping _ entries =>
        inside (use (entries.map fun (key, value) => (.node key, .node value)))
      | _ => failure
  | _ => failure

/-- A table from names; of two entries with one name the later stays. -/
def asCatalog {α : Type} (read : Datum → Reading α) (datum : Datum) : Reading (Catalog α) :=
  withEntries datum fun entries => do
    let entries ← entries.mapM fun (key, value) => do return (← asText key, ← read value)
    return Catalog.ofList entries

/-- Any value. The keys of its tables are texts, also those that look like numbers. -/
def asJson (datum : Datum) : Reading Json := do
  match datum with
  | .node node => ofOption (← loosen true node).toJson?
  | datum => ofOption datum.toJson?

/-- The alternative that a key names, or counts. -/
def chosen {α : Type} (choices : List (String × α)) : Datum → Reading α
  | .int position => ofOption (if 0 ≤ position then choices[position.toNat]?.map (·.2) else none)
  | key => do ofOption (choices.lookup (← asText key))

/-- One of several named alternatives. A local tag may name it in front of nothing, and in
loose data a key. -/
def asChoice {α : Type} (choices : List (String × α)) (datum : Datum) : Reading α := do
  match ← opened datum with
  | .text name => ofOption (choices.lookup name)
  | .node (.scalar written style tag) =>
    match tag.bind Yaml.Tag.localName? with
    | some name =>
      if style = .plain && (written.isEmpty || Yaml.isNull written) then
        ofOption (choices.lookup name)
      else failure
    | none => ofOption (choices.lookup written)
  | .table [(key, .null)] => chosen choices key
  | .table [(key, .table [])] =>
    if (← read).emptyIsNothing then chosen choices key else failure
  | _ => failure

/-! ## Structures -/

def fieldPosition? (names : List (List String)) (key : String) : Option Nat :=
  names.findIdx? (·.contains key)

/-- Puts an entry into the row of fields; a field that is given twice is refused, and an
unknown name is skipped. -/
def placeField (row : List (Option Datum)) (position : Option Nat) (value : Datum) :
    Option (List (Option Datum)) :=
  match position with
  | none => some row
  | some position =>
    match row[position]? with
    | some none => some (row.set position (some value))
    | some (some _) => none
    | none => some row

def placeEntry (names : List (List String)) (row : List (Option Datum)) (entry : Datum × Datum) :
    Reading (List (Option Datum)) :=
  match entry.1 with
  | .int position =>
    if 0 ≤ position then ofOption (placeField row (some position.toNat) entry.2) else failure
  | key => do ofOption (placeField row (fieldPosition? names (← asText key)) entry.2)

/-- A structure made of its fields, in the order of their names. Loose data may also list
them in that order, without names. -/
def fields {α : Type} (names : List (List String)) (datum : Datum)
    (use : List (Option Datum) → Reading α) : Reading α := do
  match ← opened datum with
  | .list items =>
    if items.length ≤ names.length then
      use (items.map some ++ List.replicate (names.length - items.length) none)
    else failure
  | datum =>
    withEntries datum fun entries => do
      use (← entries.foldlM (placeEntry names) (List.replicate names.length none))

/-- A field that has to be there. -/
def required {α : Type} (read : Datum → Reading α) (field : Option Datum) : Reading α :=
  match field with
  | some datum => read datum
  | none => failure

/-- A field with a value for when it is missing. -/
def defaulted {α : Type} (otherwise : α) (read : Datum → Reading α) (field : Option Datum) :
    Reading α :=
  match field with
  | some datum => read datum
  | none => return otherwise

/-- A field that may be missing or null. -/
def nullable {α : Type} (read : Datum → Reading α) (field : Option Datum) : Reading (Option α) :=
  defaulted none (asOption read) field

end Reading

end AssistantEngine
