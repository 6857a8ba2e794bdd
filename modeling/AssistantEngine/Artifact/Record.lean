import AssistantEngine.Json.Parser
import AssistantEngine.Json.Printer
import AssistantEngine.Text.Blank

/-!
Records of tool results. A record keeps the whole result for display, and a text of at
most 2000 characters for the model; the model and the thread see only an envelope that
names the record and carries that text.
-/

namespace AssistantEngine

/-- What a server answers to a call. -/
structure RawOutput where
  text : List String := []
  structured : Option Json := none
  isError : Bool := false
deriving DecidableEq

inductive Display where
  | table (columns : List String) (rows : List Json)
  | markdown (text : String)
  | json (value : Json)
deriving DecidableEq

structure Record where
  modelText : String
  display : List Display := []
  data : Option Json := none
  metadata : Catalog Json := []
deriving DecidableEq

structure Envelope where
  artifactId : String
  modelText : String
  version : String := "1"
deriving DecidableEq, Repr

namespace Record

def longestModelText : Nat := 2000

def previewRows : Nat := 5

/-- At most 2000 characters; a longer text ends in three dots instead. -/
def shorten (text : String) : String :=
  let characters := text.toList
  if characters.length ≤ longestModelText then text
  else String.ofList (characters.take (longestModelText - 3) ++ ['.', '.', '.'])

def ofText (text : String) : Record :=
  { modelText := shorten text, display := [.markdown text] }

def ofValue (value : Json) : Record :=
  { modelText := shorten value.compact, display := [.json value], data := some value }

def keysOf : Json → List String
  | .obj members => Catalog.keys members
  | _ => []

def addColumns (columns : List String) (row : Json) : List String :=
  (keysOf row).foldl (fun columns key => if columns.contains key then columns else columns ++ [key])
    columns

/-- The keys of all rows, each where it first appears. -/
def columnsOf (rows : List Json) : List String := rows.foldl addColumns []

/-- The number of rows, the columns, the first rows, and how many follow. -/
def summary (rows : List Json) : String :=
  let columns := Text.join ", " (columnsOf rows)
  let heading := s!"{rows.length} rows (columns: {columns})"
  let shown := (rows.take previewRows).map fun row => "\n" ++ row.compact
  let further :=
    if rows.length > previewRows then s!"\n... {rows.length - previewRows} more rows" else ""
  heading ++ String.join shown ++ further

def ofRows (rows : List Json) : Record :=
  { modelText := shorten (summary rows)
    display := [.table (columnsOf rows) rows]
    data := some (.arr rows)
    metadata := [("row_count", .int rows.length)] }

/-- Structured content if there is any, else the text if it reads as an object or array. -/
def dataOf (raw : RawOutput) : Option Json :=
  match raw.structured with
  | some value => some value
  | none =>
    (Json.parse (Text.trim (Text.join "\n" raw.text))).filter fun value =>
      value.isObject || value.isArray

def ofData : Json → Record
  | .arr rows =>
    if !rows.isEmpty && rows.all Json.isObject then ofRows rows else ofValue (.arr rows)
  | value => ofValue value

def markError (record : Record) : Record :=
  { record with
    modelText := shorten ("Tool error: " ++ record.modelText)
    metadata := record.metadata.insert "is_error" (.bool true) }

def ofRaw (raw : RawOutput) : Record :=
  let record :=
    match dataOf raw with
    | some value => ofData value
    | none => ofText (Text.join "\n" raw.text)
  if raw.isError then markError record else record

def withMetadata (record : Record) (key : String) (value : Json) : Record :=
  { record with metadata := record.metadata.insert key value }

end Record

def Display.toJson : Display → Json
  | .table columns rows =>
    Json.object [("type", .str "table"), ("columns", Json.texts columns), ("rows", .arr rows)]
  | .markdown text => Json.object [("type", .str "markdown"), ("text", .str text)]
  | .json value => Json.object [("type", .str "json"), ("value", value)]

def Record.toJson (record : Record) : Json :=
  Json.object [("model_text", .str record.modelText),
    ("display", .arr (record.display.map Display.toJson)), ("data", record.data.getD .null),
    ("metadata", .obj record.metadata)]

def Envelope.toJson (envelope : Envelope) : Json :=
  Json.object [("artifact_id", .str envelope.artifactId), ("model_text", .str envelope.modelText),
    ("version", .str envelope.version)]

end AssistantEngine
