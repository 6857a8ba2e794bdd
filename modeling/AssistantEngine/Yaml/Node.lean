import AssistantEngine.Catalog
import AssistantEngine.Yaml.Token

/-!
The node graph of a YAML text, read off its tokens. A text holds at most one document. An
alias is kept as the number of its anchor, so that a node may hold an alias to itself; the
document says which node each number stands for.
-/

namespace AssistantEngine

namespace Yaml

/-- The tag of a node. Of a tag whose bytes do not encode a text it matters only whether it
is a local one, which an exclamation mark begins. -/
inductive Tag where
  | named (name : String)
  | garbled (isLocal : Bool)
deriving DecidableEq, Repr

namespace Tag

def standardStart : String := "tag:yaml.org,2002:"

def ofBytes (bytes : List UInt8) : Tag :=
  match String.fromUTF8? ⟨bytes.toArray⟩ with
  | some name => .named name
  | none => .garbled (bytes.head? == bareMark.head?)

/-- One of the tags that have a meaning in every text. -/
def standard (kind : String) : Tag := .named (standardStart ++ kind)

/-- The name of a local tag without its mark; the mark alone is its own name. -/
def localName? : Tag → Option String
  | .named name =>
    match name.toList with
    | '!' :: rest => some (if rest.isEmpty then name else String.ofList rest)
    | _ => none
  | .garbled _ => none

def isLocal : Tag → Bool
  | .named name => name.toList.head? == some '!'
  | .garbled isLocal => isLocal

end Tag

inductive Node where
  | absent
  | scalar (text : String) (style : ScalarStyle) (tag : Option Tag)
  | sequence (tag : Option Tag) (items : List Node)
  | mapping (tag : Option Tag) (entries : List (Node × Node))
  | alias (anchor : Nat)
deriving Inhabited

namespace Node

def empty : Node := .scalar "" .plain none

mutual
/-- How many marks a node is written with: one for a scalar or an alias, and two around the
marks of a collection. -/
def size : Node → Nat
  | .sequence _ items => 2 + sizeOfItems items
  | .mapping _ entries => 2 + sizeOfEntries entries
  | _ => 1

def sizeOfItems : List Node → Nat
  | [] => 0
  | item :: rest => size item + sizeOfItems rest

def sizeOfEntries : List (Node × Node) → Nat
  | [] => 0
  | (key, value) :: rest => size key + size value + sizeOfEntries rest
end

end Node

/-- The anchors met so far. An anchor gets a number when its node begins: the count of the
names known by then. A name that is used again does not raise the count, so two anchors may
get one number; then the number stands for the node that began last. -/
structure Anchors where
  numbers : Catalog Nat := []
  /-- For each anchor, newest first, its number and the place where its node began. -/
  begun : List (Nat × Nat) := []
  /-- The nodes read in full, by the place where they began. -/
  nodes : List (Nat × Node) := []

namespace Anchors

/-- Notes that a node with this anchor begins, and gives the place to note it under. -/
def start (anchors : Anchors) (name : String) : Nat × Anchors :=
  let number := anchors.numbers.length
  let place := anchors.begun.length
  (place, { anchors with
    numbers := anchors.numbers.insert name number
    begun := (number, place) :: anchors.begun })

def finish (anchors : Anchors) (place : Nat) (node : Node) : Anchors :=
  { anchors with nodes := (place, node) :: anchors.nodes }

/-- The node that a number stands for. -/
def node? (anchors : Anchors) (number : Nat) : Option Node :=
  (anchors.begun.lookup number).bind fun place => anchors.nodes.lookup place

end Anchors

/-- A document: its outermost node, and what its aliases stand for. -/
structure Document where
  root : Node
  anchors : Anchors := {}

namespace Node

/-- What a node is read with: the rest of the tokens, the tag handles and the anchors. -/
structure Source where
  tokens : List Token
  handles : List (String × List UInt8)
  anchors : Anchors := {}

namespace Source

def next? (source : Source) : Option Token := source.tokens.head?

def skip (source : Source) : Source := { source with tokens := source.tokens.drop 1 }

def sees (source : Source) (token : Token) : Bool := source.next? == some token

def seesAny (source : Source) (tokens : List Token) : Bool :=
  source.next?.any fun token => tokens.contains token

end Source

def defaultHandles : List (String × List UInt8) :=
  [("!", bareMark), ("!!", encoded Tag.standardStart.toList)]

/-- The tag that a handle and a suffix stand for. -/
def resolveTag? (handles : List (String × List UInt8)) (handle : String) (suffix : List UInt8) :
    Option Tag :=
  if handle.isEmpty then some (Tag.ofBytes suffix)
  else (handles.lookup handle).map fun start => Tag.ofBytes (start ++ suffix)

/-- The anchor and the tag in front of a node, in either order, each at most once. -/
def readProperties (source : Source) : Option (Option String × Option Tag × Source) :=
  match source.tokens with
  | .anchor name :: .tag handle suffix :: _ =>
    (resolveTag? source.handles handle suffix).map fun tag =>
      (some name, some tag, source.skip.skip)
  | .tag handle suffix :: .anchor name :: _ =>
    (resolveTag? source.handles handle suffix).map fun tag =>
      (some name, some tag, source.skip.skip)
  | .anchor name :: _ => some (some name, none, source.skip)
  | .tag handle suffix :: _ =>
    (resolveTag? source.handles handle suffix).map fun tag => (none, some tag, source.skip)
  | _ => some (none, none, source)

mutual
/-- One node. Block collections may begin only in block context, and a sequence without
indentation only as a value or key of a block mapping. -/
def read (block unindented : Bool) : Nat → Source → Option (Node × Source)
  | 0, _ => none
  | fuel + 1, source =>
    match source.next? with
    | some (.alias name) =>
      (source.anchors.numbers.find? name).map fun number => (.alias number, source.skip)
    | _ =>
      match readProperties source with
      | none => none
      | some (some name, tag, source) =>
        let (place, anchors) := source.anchors.start name
        match readContent block unindented true tag fuel { source with anchors := anchors } with
        | some (node, source) =>
          some (node, { source with anchors := source.anchors.finish place node })
        | none => none
      | some (none, tag, source) => readContent block unindented false tag fuel source

def readContent (block unindented anchored : Bool) (tag : Option Tag) :
    Nat → Source → Option (Node × Source)
  | 0, _ => none
  | fuel + 1, source =>
    match source.next? with
    | some (.scalar text style) => some (.scalar text style tag, source.skip)
    | some .flowSequenceStart => readFlowItems tag true [] fuel source.skip
    | some .flowMappingStart => readFlowEntries tag true [] fuel source.skip
    | some .blockEntry =>
      if unindented then readUnindentedItems tag [] fuel source
      else readBare anchored tag source
    | some .blockSequenceStart =>
      if block then readBlockItems tag [] fuel source.skip else readBare anchored tag source
    | some .blockMappingStart =>
      if block then readBlockEntries tag [] fuel source.skip else readBare anchored tag source
    | _ => readBare anchored tag source

/-- A node of nothing but properties is an empty scalar. -/
def readBare (anchored : Bool) (tag : Option Tag) (source : Source) : Option (Node × Source) :=
  if anchored || tag.isSome then some (.scalar "" .plain tag, source) else none

def readBlockItems (tag : Option Tag) (items : List Node) :
    Nat → Source → Option (Node × Source)
  | 0, _ => none
  | fuel + 1, source =>
    if source.sees .blockEntry then
      let source := source.skip
      if source.seesAny [.blockEntry, .blockEnd] then
        readBlockItems tag (empty :: items) fuel source
      else
        match read true false fuel source with
        | some (item, source) => readBlockItems tag (item :: items) fuel source
        | none => none
    else if source.sees .blockEnd then some (.sequence tag items.reverse, source.skip)
    else none

def readUnindentedItems (tag : Option Tag) (items : List Node) :
    Nat → Source → Option (Node × Source)
  | 0, _ => none
  | fuel + 1, source =>
    if source.sees .blockEntry then
      let source := source.skip
      if source.seesAny [.blockEntry, .key, .value, .blockEnd] then
        readUnindentedItems tag (empty :: items) fuel source
      else
        match read true false fuel source with
        | some (item, source) => readUnindentedItems tag (item :: items) fuel source
        | none => none
    else some (.sequence tag items.reverse, source)

def readBlockEntries (tag : Option Tag) (entries : List (Node × Node)) :
    Nat → Source → Option (Node × Source)
  | 0, _ => none
  | fuel + 1, source =>
    if source.sees .key then
      match readBlockPart fuel source.skip with
      | none => none
      | some (key, source) =>
        if source.sees .value then
          match readBlockPart fuel source.skip with
          | some (value, source) => readBlockEntries tag ((key, value) :: entries) fuel source
          | none => none
        else readBlockEntries tag ((key, empty) :: entries) fuel source
    else if source.sees .blockEnd then some (.mapping tag entries.reverse, source.skip)
    else none

/-- The key or the value of a block mapping's entry; it may be empty. -/
def readBlockPart : Nat → Source → Option (Node × Source)
  | 0, _ => none
  | fuel + 1, source =>
    if source.seesAny [.key, .value, .blockEnd] then some (empty, source)
    else read true true fuel source

def readFlowItems (tag : Option Tag) (first : Bool) (items : List Node) :
    Nat → Source → Option (Node × Source)
  | 0, _ => none
  | fuel + 1, source =>
    if source.sees .flowSequenceEnd then some (.sequence tag items.reverse, source.skip)
    else if !first && !source.sees .flowEntry then none
    else
      let source := if first then source else source.skip
      if source.sees .flowSequenceEnd then some (.sequence tag items.reverse, source.skip)
      else if source.sees .key then
        match readFlowPair fuel source.skip with
        | some (pair, source) => readFlowItems tag false (pair :: items) fuel source
        | none => none
      else
        match read false false fuel source with
        | some (item, source) => readFlowItems tag false (item :: items) fuel source
        | none => none

/-- A single entry inside a flow sequence is a mapping of its own. -/
def readFlowPair : Nat → Source → Option (Node × Source)
  | 0, _ => none
  | fuel + 1, source =>
    let key :=
      if source.seesAny [.value, .flowEntry, .flowSequenceEnd] then some (empty, source.skip)
      else read false false fuel source
    match key with
    | none => none
    | some (key, source) =>
      match readFlowValue .flowSequenceEnd fuel source with
      | some (value, source) => some (.mapping none [(key, value)], source)
      | none => none

/-- The value after a key in a flow collection that ends with `closing`. -/
def readFlowValue (closing : Token) : Nat → Source → Option (Node × Source)
  | 0, _ => none
  | fuel + 1, source =>
    if source.sees .value then
      let source := source.skip
      if source.seesAny [.flowEntry, closing] then some (empty, source)
      else read false false fuel source
    else some (empty, source)

def readFlowEntries (tag : Option Tag) (first : Bool) (entries : List (Node × Node)) :
    Nat → Source → Option (Node × Source)
  | 0, _ => none
  | fuel + 1, source =>
    if source.sees .flowMappingEnd then some (.mapping tag entries.reverse, source.skip)
    else if !first && !source.sees .flowEntry then none
    else
      let source := if first then source else source.skip
      if source.sees .flowMappingEnd then some (.mapping tag entries.reverse, source.skip)
      else if source.sees .key then
        let source := source.skip
        let key :=
          if source.seesAny [.value, .flowEntry, .flowMappingEnd] then some (empty, source)
          else read false false fuel source
        match key with
        | none => none
        | some (key, source) =>
          match readFlowValue .flowMappingEnd fuel source with
          | some (value, source) => readFlowEntries tag false ((key, value) :: entries) fuel source
          | none => none
      else
        match read false false fuel source with
        | some (key, source) => readFlowEntries tag false ((key, empty) :: entries) fuel source
        | none => none
end

/-- The directives in front of a document: at most one version, and one meaning per tag
handle. -/
def readDirectives : Bool → List (String × List UInt8) → List Token →
    Option (List (String × List UInt8) × List Token)
  | versioned, handles, .versionDirective major minor :: rest =>
    if versioned || major ≠ 1 || !(minor == 1 || minor == 2) then none
    else readDirectives true handles rest
  | versioned, handles, .tagDirective handle start :: rest =>
    if (handles.lookup handle).isSome then none
    else readDirectives versioned ((handle, start) :: handles) rest
  | _, handles, rest => some (handles, rest)

def startsDocumentPart : Token → Bool
  | .versionDirective .. | .tagDirective .. | .documentStart | .documentEnd => true
  | _ => false

/-- One document and what follows it. -/
def readDocument (handles : List (String × List UInt8)) (tokens : List Token) :
    Option (Document × List Token) :=
  match tokens with
  | [] => some ({ root := empty }, [])
  | first :: _ =>
    if startsDocumentPart first then some ({ root := empty }, tokens)
    else
      let source : Source := { tokens, handles := handles ++ defaultHandles }
      (read true false (4 * tokens.length + 4) source).map fun (root, source) =>
        ({ root, anchors := source.anchors }, source.tokens)

end Node

namespace Document

/-- Whether nothing but document ends follows. -/
def onlyEnds (tokens : List Token) : Bool := tokens.all (· == .documentEnd)

/-- The only document among the tokens. Without a marker a document may begin only at the
start of the text. -/
def ofTokens? (tokens : List Token) : Option Document :=
  match tokens with
  | [] => some { root := .absent }
  | first :: _ =>
    if Node.startsDocumentPart first then do
      let (handles, rest) ← Node.readDirectives false [] tokens
      match rest with
      | .documentStart :: rest =>
        let (document, rest) ← Node.readDocument handles rest
        if onlyEnds rest then some document else none
      | [] => none
      | _ => none
    else do
      let (document, rest) ← Node.readDocument [] tokens
      if onlyEnds rest then some document else none

def ofChars? (characters : List Char) : Option Document :=
  (Token.ofChars? characters).bind ofTokens?

end Document

end Yaml

end AssistantEngine
