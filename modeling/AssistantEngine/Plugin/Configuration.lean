import AssistantEngine.Json.Printer
import AssistantEngine.Number.Numeral
import AssistantEngine.Plugin.Manifest
import AssistantEngine.Text.Blank

/-!
Validation of a link's configuration against the fields that the plugin's manifest
declares, and the two ways the outcome leaves the engine: as environment variables of a
subprocess, and rendered with secrets masked.
-/

namespace AssistantEngine

/-- Why a field was refused. -/
inductive FieldDefect where
  | missing
  | mismatch (expected : FieldType) (found : Json)
deriving DecidableEq

structure FieldError where
  field : String
  defect : FieldDefect
deriving DecidableEq

def FieldDefect.message : FieldDefect → String
  | .missing => "required field is missing"
  | .mismatch expected found => s!"expected {expected.name}, got {found.compact}"

def FieldError.message (error : FieldError) : String := error.defect.message

/-- The field and the message, as they are logged. -/
def FieldError.display (error : FieldError) : String := s!"{error.field}: {error.message}"

/-- Configuration values, and the names whose values must not be shown. -/
structure Configuration where
  values : Catalog Json := []
  secrets : List String := []
deriving DecidableEq

namespace Configuration

def truthWords : List (String × Bool) :=
  [("true", true), ("1", true), ("yes", true), ("false", false), ("0", false), ("no", false)]

/-- A value as one of the declared type, if it can stand for one. -/
def coerce (type : FieldType) (value : Json) : Option Json :=
  match type, value with
  | .string, .str text => some (.str text)
  | .string, .int number => some (.str (Json.compact (.int number)))
  | .string, .real number => some (.str (Json.compact (.real number)))
  | .string, .bool truth => some (.str (Json.compact (.bool truth)))
  | .integer, .int number => if number ≤ Numeral.greatestSigned then some (.int number) else none
  | .integer, .str text => (Numeral.signed? 10 (Text.trim text).toList).map .int
  | .float, .int number => some (.real (Binary64.ofInt number))
  | .float, .real number => some (.real number)
  | .float, .str text => (Numeral.real? (Text.trim text).toList).map Json.ofReal
  | .bool, .bool truth => some (.bool truth)
  | .bool, .str text => (truthWords.lookup (Text.asciiLower (Text.trim text))).map .bool
  | _, _ => none

/-- The supplied value unless it is null, else the default. -/
def effective? (input : Catalog Json) (field : ConfigField) : Option Json :=
  match (input.find? field.name).filter fun value => !value.isNull with
  | some value => some value
  | none => field.default

/-- What a field contributes: nothing, a value, or an error. -/
def checkField (input : Catalog Json) (field : ConfigField) : Except FieldError (Option Json) :=
  match effective? input field with
  | some value =>
    match coerce field.type value with
    | some coerced => .ok (some coerced)
    | none => .error ⟨field.name, .mismatch field.type value⟩
  | none => if field.required then .error ⟨field.name, .missing⟩ else .ok none

def fieldErrors (schema : List ConfigField) (input : Catalog Json) : List FieldError :=
  schema.filterMap fun field =>
    match checkField input field with
    | .error error => some error
    | .ok _ => none

def secretNames (schema : List ConfigField) : List String :=
  (schema.filter (·.secret)).map (·.name)

def fieldValues (schema : List ConfigField) (input : Catalog Json) : Catalog Json :=
  schema.foldl (fun values field =>
    match checkField input field with
    | .ok (some value) => values.insert field.name value
    | _ => values) []

/-- Entries of the input that no field declares. -/
def undeclared (schema : List ConfigField) (input : Catalog Json) : Catalog Json :=
  input.filter fun entry => !(schema.any (·.name = entry.1))

/-- All field errors in schema order, or else the configuration. Undeclared entries pass
through as they are. -/
def validate (schema : List ConfigField) (input : Catalog Json) :
    Except (List FieldError) Configuration :=
  match fieldErrors schema input with
  | [] =>
    .ok {
      values := (undeclared schema input).foldl (fun values entry => values.insert entry.1 entry.2)
        (fieldValues schema input)
      secrets := secretNames schema }
  | errors => .error errors

/-- The input as given, for when it does not validate. -/
def raw (schema : List ConfigField) (input : Catalog Json) : Configuration :=
  { values := input, secrets := secretNames schema }

def mask : String := "********"

/-- The values as an object in which secrets are masked. -/
def redacted (config : Configuration) : Json :=
  .obj (config.values.map fun entry =>
    (entry.1, if config.secrets.contains entry.1 then .str mask else entry.2))

/-- The environment variable of a field: ASCII letters in upper case, digits, and an
underscore for everything else. -/
def variableName (field : String) : String :=
  String.ofList (field.toList.map fun character =>
    if character.isAlphanum then character.toUpper else '_')

/-- Texts stand for themselves, null is empty, and other values are written as JSON. -/
def variableValue : Json → String
  | .str text => text
  | .null => ""
  | other => other.compact

/-- The environment variables, in the order of the field names. -/
def environment (config : Configuration) : List (String × String) :=
  config.values.map fun entry => (variableName entry.1, variableValue entry.2)

/-- The values, the environment variables, and the text in which secrets are masked. -/
def toJson (config : Configuration) : Json :=
  Json.object [("values", .obj config.values),
    ("env", .arr (config.environment.map fun entry => Json.texts [entry.1, entry.2])),
    ("redacted", .str config.redacted.compact)]

end Configuration

end AssistantEngine
