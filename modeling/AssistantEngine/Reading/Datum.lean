import AssistantEngine.Json.Parser
import AssistantEngine.Yaml.Node

/-!
What the readers of specifications read from. A datum is either loose, as in JSON, where
every scalar already has its kind, or it is a node of a YAML document, where the kind of a
plain scalar is settled by what the reader asks for.
-/

namespace AssistantEngine

inductive Datum where
  | null
  | bool (value : Bool)
  | int (value : Int)
  | real (value : Binary64)
  | text (value : String)
  | list (items : List Datum)
  | table (entries : List (Datum × Datum))
  | node (node : Yaml.Node)
  | meaningless
deriving Inhabited

namespace Datum

mutual
def ofJson : Json → Datum
  | .null => .null
  | .bool value => .bool value
  | .int value => .int value
  | .real value => .real value
  | .str value => .text value
  | .arr items => .list (ofJsonItems items)
  | .obj members => .table (ofJsonMembers members)

def ofJsonItems : List Json → List Datum
  | [] => []
  | item :: rest => ofJson item :: ofJsonItems rest

def ofJsonMembers : List (String × Json) → List (Datum × Datum)
  | [] => []
  | (key, value) :: rest => (.text key, ofJson value) :: ofJsonMembers rest
end

def ofKey : Option String → Datum
  | some key => .text key
  | none => .meaningless

mutual
/-- The datum of a JSON text, with members that repeat a key. -/
def ofWritten : Json.Written → Datum
  | .scalar value => ofJson value
  | .array items => .list (ofWrittenItems items)
  | .object members => .table (ofWrittenMembers members)
  | .meaningless => .meaningless

def ofWrittenItems : List Json.Written → List Datum
  | [] => []
  | item :: rest => ofWritten item :: ofWrittenItems rest

def ofWrittenMembers : List (Option String × Json.Written) → List (Datum × Datum)
  | [] => []
  | (key, value) :: rest => (ofKey key, ofWritten value) :: ofWrittenMembers rest
end

mutual
/-- The value that a loose datum stands for. All keys have to be texts, and of two members
with one key the later stays. -/
def toJson? : Datum → Option Json
  | .null => some .null
  | .bool value => some (.bool value)
  | .int value => some (.int value)
  | .real value => some (Json.ofReal value)
  | .text value => some (.str value)
  | .list items => (toJsonItems? items).map .arr
  | .table entries => (toJsonMembers? entries).map Json.object
  | .node _ => none
  | .meaningless => none

def toJsonItems? : List Datum → Option (List Json)
  | [] => some []
  | item :: rest =>
    match toJson? item, toJsonItems? rest with
    | some item, some rest => some (item :: rest)
    | _, _ => none

def toJsonMembers? : List (Datum × Datum) → Option (List (String × Json))
  | [] => some []
  | (key, value) :: rest =>
    match key, toJson? value, toJsonMembers? rest with
    | .text key, some value, some rest => some ((key, value) :: rest)
    | _, _, _ => none
end

end Datum

/-! ## Readers -/

/-- What a document lends its readers: what its aliases stand for, how many more collections
they may go into, and whether an empty table in it may stand for nothing at all. -/
structure Surroundings where
  anchors : Yaml.Anchors := {}
  room : Nat := 0
  emptyIsNothing : Bool := false

/-- Readers use up aliases, of which a document allows only so many to be followed. -/
abbrev Reading := ReaderT Surroundings (StateT Nat Option)

namespace Reading

/-- Documents are read at most this many collections deep. -/
def deepestDocument : Nat := 128

/-- For each mark of a document this many aliases may be followed. -/
def aliasesPerMark : Nat := 100

/-- What a reader makes of a JSON value. -/
def ofJson? {α : Type} (read : Datum → Reading α) (value : Json) : Option α :=
  ((read (.ofJson value)).run {}).run' 0

/-- What a reader makes of a JSON text. Parts that it does not ask for need not have a
meaning. -/
def ofJsonText? {α : Type} (read : Datum → Reading α) (text : String) : Option α :=
  (Json.Written.ofText? text).bind fun written => ((read (.ofWritten written)).run {}).run' 0

/-- What a reader makes of a YAML text. -/
def ofYaml? {α : Type} (read : Datum → Reading α) (text : String) : Option α :=
  (Yaml.Document.ofChars? text.toList).bind fun document =>
    let surroundings : Surroundings :=
      { anchors := document.anchors, room := deepestDocument, emptyIsNothing := true }
    ((read (.node document.root)).run surroundings).run' (aliasesPerMark * document.root.size)

/-- The node itself, or the one that it is an alias of. -/
def follow (node : Yaml.Node) : Reading Yaml.Node :=
  match node with
  | .alias number => do
    match ← get with
    | 0 => failure
    | left + 1 => do
      set left
      match (← read).anchors.node? number with
      | some node => return node
      | none => failure
  | node => return node

/-- Reads what is inside one more collection. -/
def inside {α : Type} (reading : Reading α) : Reading α := do
  match (← read).room with
  | 0 => failure
  | room + 1 => withReader (fun surroundings => { surroundings with room }) reading

def ofOption {α : Type} : Option α → Reading α
  | some value => return value
  | none => failure

end Reading

end AssistantEngine
