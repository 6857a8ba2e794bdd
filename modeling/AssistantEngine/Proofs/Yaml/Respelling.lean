import AssistantEngine.Yaml.Node

/-!
What stands between quotes plays no part in how nodes are read off the tokens: where the quoted
scalars are spelled in another way, the same nodes are read, with the quoted scalars spelled in that
way.
-/

namespace AssistantEngine

namespace Yaml

variable {respell : String → String}

/-- A scalar's text, spelled in another way if it stands between quotes. -/
def respelled (respell : String → String) (style : ScalarStyle) (text : String) : String :=
  if style = .quoted then respell text else text

def Token.respelled (respell : String → String) : Token → Token
  | .scalar text style => .scalar (Yaml.respelled respell style text) style
  | token => token

namespace Node

mutual
def respelled (respell : String → String) : Node → Node
  | .absent => .absent
  | .scalar text style tag => .scalar (Yaml.respelled respell style text) style tag
  | .sequence tag items => .sequence tag (respelledItems respell items)
  | .mapping tag entries => .mapping tag (respelledEntries respell entries)
  | .alias anchor => .alias anchor

def respelledItems (respell : String → String) : List Node → List Node
  | [] => []
  | item :: rest => respelled respell item :: respelledItems respell rest

def respelledEntries (respell : String → String) : List (Node × Node) → List (Node × Node)
  | [] => []
  | (key, value) :: rest =>
    (respelled respell key, respelled respell value) :: respelledEntries respell rest
end

theorem respelledItems_eq (items : List Node) :
    respelledItems respell items = items.map (respelled respell) := by
  induction items with
  | nil => rfl
  | cons item items induction => rw [respelledItems, induction, List.map_cons]

theorem respelledEntries_eq (entries : List (Node × Node)) :
    respelledEntries respell entries =
      entries.map (Prod.map (respelled respell) (respelled respell)) := by
  induction entries with
  | nil => rfl
  | cons entry entries induction => rw [respelledEntries, induction, List.map_cons]; rfl

mutual
theorem size_respelled : (node : Node) → (node.respelled respell).size = node.size
  | .absent => rfl
  | .scalar _ _ _ => rfl
  | .sequence _ items => congrArg (2 + ·) (sizeOfItems_respelled items)
  | .mapping _ entries => congrArg (2 + ·) (sizeOfEntries_respelled entries)
  | .alias _ => rfl

theorem sizeOfItems_respelled : (items : List Node) →
    sizeOfItems (respelledItems respell items) = sizeOfItems items
  | [] => rfl
  | item :: rest => by
      rw [respelledItems, sizeOfItems, sizeOfItems, size_respelled item, sizeOfItems_respelled rest]

theorem sizeOfEntries_respelled : (entries : List (Node × Node)) →
    sizeOfEntries (respelledEntries respell entries) = sizeOfEntries entries
  | [] => rfl
  | (key, value) :: rest => by
      rw [respelledEntries, sizeOfEntries, sizeOfEntries, size_respelled key, size_respelled value,
        sizeOfEntries_respelled rest]
end

end Node

def Anchors.respelled (respell : String → String) (anchors : Anchors) : Anchors :=
  { anchors with nodes := anchors.nodes.map (Prod.map id (Node.respelled respell)) }

theorem Anchors.node?_respelled (anchors : Anchors) (number : Nat) :
    (anchors.respelled respell).node? number =
      (anchors.node? number).map (Node.respelled respell) := by
  have looked (nodes : List (Nat × Node)) (place : Nat) :
      (nodes.map (Prod.map id (Node.respelled respell))).lookup place =
        (nodes.lookup place).map (Node.respelled respell) := by
    induction nodes with
    | nil => rfl
    | cons entry nodes induction =>
        rcases entry with ⟨start, node⟩
        rw [List.map_cons, Prod.map_apply, List.lookup_cons, List.lookup_cons, induction, id]
        cases place == start <;> rfl
  unfold node? respelled
  cases anchors.begun.lookup number with
  | none => rfl
  | some place => exact looked anchors.nodes place

/-- A token that is no scalar is spelled in one way only. -/
def Token.isMark : Token → Bool
  | .scalar .. => false
  | _ => true

theorem Token.respelled_eq_iff {token other : Token} (mark : other.isMark) :
    token.respelled respell = other ↔ token = other := by
  cases token with
  | scalar text style =>
      constructor
      · rintro rfl
        cases mark
      · rintro rfl
        cases mark
  | _ => rfl

def Document.respelled (respell : String → String) (document : Document) : Document :=
  { root := document.root.respelled respell, anchors := document.anchors.respelled respell }

namespace Node

namespace Source

variable (source : Source)

def respelled (respell : String → String) : Source :=
  { source with
    tokens := source.tokens.map (Token.respelled respell)
    anchors := source.anchors.respelled respell }

theorem next?_respelled :
    (source.respelled respell).next? = source.next?.map (Token.respelled respell) :=
  List.head?_map

theorem skip_respelled :
    (source.respelled respell).skip = source.skip.respelled respell := by
  simp [respelled, skip]

theorem sees_respelled {token : Token} (mark : token.isMark) :
    (source.respelled respell).sees token = source.sees token := by
  unfold sees
  rw [next?_respelled]
  cases source.next? with
  | none => rfl
  | some next =>
      rw [Bool.eq_iff_iff, Option.map_some, beq_iff_eq, beq_iff_eq, Option.some.injEq,
        Option.some.injEq, Token.respelled_eq_iff mark]

theorem seesAny_respelled {tokens : List Token} (marks : tokens.all Token.isMark) :
    (source.respelled respell).seesAny tokens = source.seesAny tokens := by
  unfold seesAny
  rw [next?_respelled]
  cases source.next? with
  | none => rfl
  | some next =>
      rw [Bool.eq_iff_iff, Option.map_some, Option.any_some, Option.any_some, List.contains_iff_mem,
        List.contains_iff_mem]
      have same (mark : Token) (member : mark ∈ tokens) :
          next.respelled respell = mark ↔ next = mark :=
        Token.respelled_eq_iff (List.all_eq_true.mp marks mark member)
      constructor
      · intro member
        rwa [(same _ member).mp rfl]
      · intro member
        rwa [(same next member).mpr rfl]

end Source

theorem readProperties_respelled (source : Source) :
    readProperties (source.respelled respell) =
      (readProperties source).map fun read => (read.1, read.2.1, read.2.2.respelled respell) := by
  rcases source with ⟨_ | ⟨first, _ | ⟨second, rest⟩⟩, handles, anchors⟩
  · rfl
  · cases first <;> first
      | rfl
      | simp [readProperties, Source.respelled, Token.respelled, Source.skip, Function.comp_def]
  · cases first <;> cases second <;> first
      | rfl
      | simp [readProperties, Source.respelled, Token.respelled, Source.skip, Function.comp_def]

/-- What was read, with quoted scalars spelled in another way. -/
def both (respell : String → String) (read : Node × Source) : Node × Source :=
  (read.1.respelled respell, read.2.respelled respell)

theorem readBare_respelled (anchored : Bool) (tag : Option Tag) (source : Source) :
    readBare anchored tag (source.respelled respell) =
      (readBare anchored tag source).map (both respell) := by
  unfold readBare
  split <;> rfl

/-- A node after its properties. -/
def readOwned (block unindented : Bool) (fuel : Nat) :
    Option String × Option Tag × Source → Option (Node × Source)
  | (some name, tag, source) =>
    let (place, anchors) := source.anchors.start name
    (readContent block unindented true tag fuel { source with anchors := anchors }).map
      fun (node, source) => (node, { source with anchors := source.anchors.finish place node })
  | (none, tag, source) => readContent block unindented false tag fuel source

theorem read_succ (block unindented : Bool) (fuel : Nat) (source : Source) :
    Node.read block unindented (fuel + 1) source =
      match source.next? with
      | some (.alias name) =>
        (source.anchors.numbers.find? name).map fun number => (.alias number, source.skip)
      | _ => (readProperties source).bind (readOwned block unindented fuel) := by
  rw [Node.read]
  rcases readProperties source with _ | ⟨_ | name, tag, later⟩
  · rfl
  · rfl
  · unfold readOwned
    dsimp only [Option.bind_some]
    cases readContent block unindented true tag fuel _ <;> rfl

/-- With this much fuel every part of a document is read alike. -/
structure ReadsAlike (respell : String → String) (fuel : Nat) : Prop where
  node : ∀ block unindented source,
    Node.read block unindented fuel (source.respelled respell) =
      (Node.read block unindented fuel source).map (both respell)
  content : ∀ block unindented anchored tag source,
    readContent block unindented anchored tag fuel (source.respelled respell) =
      (readContent block unindented anchored tag fuel source).map (both respell)
  blockItems : ∀ tag items source,
    readBlockItems tag (respelledItems respell items) fuel (source.respelled respell) =
      (readBlockItems tag items fuel source).map (both respell)
  unindentedItems : ∀ tag items source,
    readUnindentedItems tag (respelledItems respell items) fuel (source.respelled respell) =
      (readUnindentedItems tag items fuel source).map (both respell)
  blockEntries : ∀ tag entries source,
    readBlockEntries tag (respelledEntries respell entries) fuel (source.respelled respell) =
      (readBlockEntries tag entries fuel source).map (both respell)
  blockPart : ∀ source,
    readBlockPart fuel (source.respelled respell) =
      (readBlockPart fuel source).map (both respell)
  flowItems : ∀ tag first items source,
    readFlowItems tag first (respelledItems respell items) fuel (source.respelled respell) =
      (readFlowItems tag first items fuel source).map (both respell)
  flowPair : ∀ source,
    readFlowPair fuel (source.respelled respell) = (readFlowPair fuel source).map (both respell)
  flowValue : ∀ closing source, Token.isMark closing →
    readFlowValue closing fuel (source.respelled respell) =
      (readFlowValue closing fuel source).map (both respell)
  flowEntries : ∀ tag first entries source,
    readFlowEntries tag first (respelledEntries respell entries) fuel (source.respelled respell) =
      (readFlowEntries tag first entries fuel source).map (both respell)

theorem readsAlike_zero : ReadsAlike respell 0 :=
  ⟨fun _ _ _ => rfl, fun _ _ _ _ _ => rfl, fun _ _ _ => rfl, fun _ _ _ => rfl, fun _ _ _ => rfl,
    fun _ => rfl, fun _ _ _ _ => rfl, fun _ => rfl, fun _ _ _ => rfl, fun _ _ _ _ => rfl⟩

variable {fuel : Nat} (alike : ReadsAlike respell fuel)
include alike

theorem ReadsAlike.owned (block unindented : Bool)
    (properties : Option String × Option Tag × Source) :
    readOwned block unindented fuel
        (properties.1, properties.2.1, properties.2.2.respelled respell) =
      (readOwned block unindented fuel properties).map (both respell) := by
  rcases properties with ⟨_ | name, tag, source⟩
  · exact alike.content block unindented false tag source
  · unfold readOwned
    have content := alike.content block unindented true tag
      { source with anchors := (source.anchors.start name).2 }
    refine (congrArg (Option.map _) content).trans ?_
    rw [Option.map_map, Option.map_map]
    rfl

theorem ReadsAlike.node_succ (block unindented : Bool) (source : Source) :
    Node.read block unindented (fuel + 1) (source.respelled respell) =
      (Node.read block unindented (fuel + 1) source).map (both respell) := by
  have own : (readProperties (source.respelled respell)).bind (readOwned block unindented fuel) =
      ((readProperties source).bind (readOwned block unindented fuel)).map (both respell) := by
    rw [readProperties_respelled]
    cases readProperties source with
    | none => rfl
    | some properties => exact alike.owned block unindented properties
  rw [read_succ, read_succ, Source.next?_respelled]
  cases source.next? with
  | none => exact own
  | some token =>
      cases token with
      | «alias» name =>
          change (source.anchors.numbers.find? name).map _ =
            ((source.anchors.numbers.find? name).map _).map _
          rw [Option.map_map, Source.skip_respelled]
          rfl
      | _ => exact own

theorem ReadsAlike.content_succ (block unindented anchored : Bool) (tag : Option Tag)
    (source : Source) :
    readContent block unindented anchored tag (fuel + 1) (source.respelled respell) =
      (readContent block unindented anchored tag (fuel + 1) source).map (both respell) := by
  rw [readContent, readContent, Source.next?_respelled, Source.skip_respelled]
  have bare : readBare anchored tag (source.respelled respell) = _ :=
    readBare_respelled anchored tag source
  cases source.next? with
  | none => exact bare
  | some token =>
      cases token with
      | scalar text style => rfl
      | flowSequenceStart => exact alike.flowItems tag true [] source.skip
      | flowMappingStart => exact alike.flowEntries tag true [] source.skip
      | blockEntry =>
          cases unindented with
          | true => exact alike.unindentedItems tag [] source
          | false => exact bare
      | blockSequenceStart =>
          cases block with
          | true => exact alike.blockItems tag [] source.skip
          | false => exact bare
      | blockMappingStart =>
          cases block with
          | true => exact alike.blockEntries tag [] source.skip
          | false => exact bare
      | _ => exact bare

theorem ReadsAlike.blockItems_succ (tag : Option Tag) (items : List Node) (source : Source) :
    readBlockItems tag (respelledItems respell items) (fuel + 1) (source.respelled respell) =
      (readBlockItems tag items (fuel + 1) source).map (both respell) := by
  rw [readBlockItems, readBlockItems]
  simp (disch := decide) only [Source.sees_respelled, Source.skip_respelled,
    Source.seesAny_respelled, alike.node]
  split
  · split
    · exact alike.blockItems tag (empty :: items) source.skip
    · cases Node.read true false fuel source.skip with
      | none => rfl
      | some read => exact alike.blockItems tag (read.1 :: items) read.2
  · split
    · simp [both, respelled, respelledItems_eq]
    · rfl

theorem ReadsAlike.unindentedItems_succ (tag : Option Tag) (items : List Node)
    (source : Source) :
    readUnindentedItems tag (respelledItems respell items) (fuel + 1) (source.respelled respell) =
      (readUnindentedItems tag items (fuel + 1) source).map (both respell) := by
  rw [readUnindentedItems, readUnindentedItems]
  simp (disch := decide) only [Source.sees_respelled, Source.skip_respelled,
    Source.seesAny_respelled, alike.node]
  split
  · split
    · exact alike.unindentedItems tag (empty :: items) source.skip
    · cases Node.read true false fuel source.skip with
      | none => rfl
      | some read => exact alike.unindentedItems tag (read.1 :: items) read.2
  · simp [both, respelled, respelledItems_eq]

theorem ReadsAlike.blockEntries_succ (tag : Option Tag) (entries : List (Node × Node))
    (source : Source) :
    readBlockEntries tag (respelledEntries respell entries) (fuel + 1) (source.respelled respell) =
      (readBlockEntries tag entries (fuel + 1) source).map (both respell) := by
  rw [readBlockEntries, readBlockEntries]
  simp (disch := decide) only [Source.sees_respelled, Source.skip_respelled, alike.blockPart]
  split
  · cases readBlockPart fuel source.skip with
    | none => rfl
    | some key =>
        simp (disch := decide) only [Option.map_some, both, Source.sees_respelled,
          Source.skip_respelled, alike.blockPart]
        split
        · cases readBlockPart fuel key.2.skip with
          | none => rfl
          | some value => exact alike.blockEntries tag ((key.1, value.1) :: entries) value.2
        · exact alike.blockEntries tag ((key.1, empty) :: entries) key.2
  · split
    · simp [both, respelled, respelledEntries_eq]
    · rfl

theorem ReadsAlike.blockPart_succ (source : Source) :
    readBlockPart (fuel + 1) (source.respelled respell) =
      (readBlockPart (fuel + 1) source).map (both respell) := by
  rw [readBlockPart, readBlockPart]
  simp (disch := decide) only [Source.seesAny_respelled, alike.node]
  split <;> rfl

theorem ReadsAlike.flowPair_succ (source : Source) :
    readFlowPair (fuel + 1) (source.respelled respell) =
      (readFlowPair (fuel + 1) source).map (both respell) := by
  have key : (if source.seesAny [.value, .flowEntry, .flowSequenceEnd] then
        some (empty, source.skip.respelled respell)
      else (Node.read false false fuel source).map (both respell)) =
      (if source.seesAny [.value, .flowEntry, .flowSequenceEnd] then some (empty, source.skip)
        else Node.read false false fuel source).map (both respell) := by
    split <;> rfl
  rw [readFlowPair, readFlowPair]
  simp (disch := decide) only [Source.seesAny_respelled, Source.skip_respelled, alike.node, key]
  cases (if source.seesAny [.value, .flowEntry, .flowSequenceEnd] then some (empty, source.skip)
      else Node.read false false fuel source) with
  | none => rfl
  | some key =>
      simp only [Option.map_some, both, alike.flowValue .flowSequenceEnd key.2 rfl]
      cases readFlowValue .flowSequenceEnd fuel key.2 <;> rfl

theorem ReadsAlike.flowValue_succ (closing : Token) (source : Source) (mark : closing.isMark) :
    readFlowValue closing (fuel + 1) (source.respelled respell) =
      (readFlowValue closing (fuel + 1) source).map (both respell) := by
  have marks : [Token.flowEntry, closing].all Token.isMark := by
    rw [List.all_cons, List.all_cons, mark]
    rfl
  rw [readFlowValue, readFlowValue]
  simp (disch := decide) only [Source.sees_respelled, Source.skip_respelled,
    Source.seesAny_respelled _ marks, alike.node]
  split
  · split <;> rfl
  · rfl

theorem ReadsAlike.flowItems_succ (tag : Option Tag) (first : Bool) (items : List Node)
    (source : Source) :
    readFlowItems tag first (respelledItems respell items) (fuel + 1) (source.respelled respell) =
      (readFlowItems tag first items (fuel + 1) source).map (both respell) := by
  have ended (source : Source) :
      some (sequence tag (respelledItems respell items).reverse, source.skip.respelled respell) =
        (some (sequence tag items.reverse, source.skip)).map (both respell) := by
    simp [both, respelled, respelledItems_eq]
  have here : (if first then source.respelled respell else (source.skip).respelled respell) =
      (if first then source else source.skip).respelled respell := by
    split <;> rfl
  rw [readFlowItems, readFlowItems]
  simp (disch := decide) only [Source.sees_respelled, Source.skip_respelled, here, alike.node,
    alike.flowPair]
  split
  · exact ended source
  · split
    · rfl
    · generalize (if first = true then source else source.skip) = later
      split
      · exact ended later
      · split
        · cases readFlowPair fuel later.skip with
          | none => rfl
          | some pair => exact alike.flowItems tag false (pair.1 :: items) pair.2
        · cases Node.read false false fuel later with
          | none => rfl
          | some item => exact alike.flowItems tag false (item.1 :: items) item.2

theorem ReadsAlike.flowEntries_succ (tag : Option Tag) (first : Bool)
    (entries : List (Node × Node)) (source : Source) :
    readFlowEntries tag first (respelledEntries respell entries) (fuel + 1)
        (source.respelled respell) =
      (readFlowEntries tag first entries (fuel + 1) source).map (both respell) := by
  have ended (source : Source) :
      some (mapping tag (respelledEntries respell entries).reverse,
          source.skip.respelled respell) =
        (some (mapping tag entries.reverse, source.skip)).map (both respell) := by
    simp [both, respelled, respelledEntries_eq]
  have here : (if first then source.respelled respell else (source.skip).respelled respell) =
      (if first then source else source.skip).respelled respell := by
    split <;> rfl
  rw [readFlowEntries, readFlowEntries]
  simp (disch := decide) only [Source.sees_respelled, Source.skip_respelled,
    Source.seesAny_respelled, here, alike.node]
  split
  · exact ended source
  · split
    · rfl
    · generalize (if first = true then source else source.skip) = later
      split
      · exact ended later
      · split
        · have part : (if later.skip.seesAny [.value, .flowEntry, .flowMappingEnd] then
              some (empty, later.skip.respelled respell)
            else (Node.read false false fuel later.skip).map (both respell)) =
              (if later.skip.seesAny [.value, .flowEntry, .flowMappingEnd] then
                some (empty, later.skip)
              else Node.read false false fuel later.skip).map (both respell) := by
            split <;> rfl
          rw [part]
          cases (if later.skip.seesAny [.value, .flowEntry, .flowMappingEnd] then
              some (empty, later.skip)
            else Node.read false false fuel later.skip) with
          | none => rfl
          | some key =>
              simp only [Option.map_some, both, alike.flowValue .flowMappingEnd key.2 rfl]
              cases readFlowValue .flowMappingEnd fuel key.2 with
              | none => rfl
              | some value =>
                  exact alike.flowEntries tag false ((key.1, value.1) :: entries) value.2
        · cases Node.read false false fuel later with
          | none => rfl
          | some key => exact alike.flowEntries tag false ((key.1, empty) :: entries) key.2

omit alike in
theorem readsAlike (fuel : Nat) : ReadsAlike respell fuel := by
  induction fuel with
  | zero => exact readsAlike_zero
  | succ fuel alike =>
      exact {
        node := alike.node_succ
        content := alike.content_succ
        blockItems := alike.blockItems_succ
        unindentedItems := alike.unindentedItems_succ
        blockEntries := alike.blockEntries_succ
        blockPart := alike.blockPart_succ
        flowItems := alike.flowItems_succ
        flowPair := alike.flowPair_succ
        flowValue := alike.flowValue_succ
        flowEntries := alike.flowEntries_succ }

/-! ## Documents -/

omit alike in
theorem readDirectives_respelled (versioned : Bool) (handles : List (String × List UInt8))
    (tokens : List Token) :
    readDirectives versioned handles (tokens.map (Token.respelled respell)) =
      (readDirectives versioned handles tokens).map
        (Prod.map id (List.map (Token.respelled respell))) := by
  induction tokens generalizing versioned handles with
  | nil => rfl
  | cons token tokens induction =>
      cases token with
      | versionDirective major minor =>
          simp only [List.map_cons, Token.respelled, readDirectives]
          split
          · rfl
          · exact induction true handles
      | tagDirective handle start =>
          simp only [List.map_cons, Token.respelled, readDirectives]
          split
          · rfl
          · exact induction versioned ((handle, start) :: handles)
      | _ => rfl

omit alike in
theorem startsDocumentPart_respelled (token : Token) :
    startsDocumentPart (token.respelled respell) = startsDocumentPart token := by
  cases token <;> rfl

omit alike in
theorem readDocument_respelled (handles : List (String × List UInt8)) (tokens : List Token) :
    readDocument handles (tokens.map (Token.respelled respell)) =
      (readDocument handles tokens).map (Prod.map (Document.respelled respell)
        (List.map (Token.respelled respell))) := by
  cases tokens with
  | nil => rfl
  | cons first rest =>
      simp only [readDocument, List.map_cons, startsDocumentPart_respelled]
      split
      · rfl
      · have alike : ReadsAlike respell (4 * (first :: rest).length + 4) := readsAlike _
        have read := alike.node true false
          { tokens := first :: rest, handles := handles ++ defaultHandles }
        rw [List.length_cons, List.length_map]
        refine (congrArg _ read).trans ?_
        rw [Option.map_map, Option.map_map]
        rfl

end Node

theorem Document.onlyEnds_respelled (tokens : List Token) :
    onlyEnds (tokens.map (Token.respelled respell)) = onlyEnds tokens := by
  unfold onlyEnds
  rw [List.all_map]
  congr 1
  funext token
  cases token <;> rfl

/-- A document, if nothing but ends follow. -/
def Document.ended (read : Document × List Token) : Option Document :=
  if onlyEnds read.2 then some read.1 else none

theorem Document.ended_respelled (found : Option (Document × List Token)) :
    (found.map (Prod.map (respelled respell) (List.map (Token.respelled respell)))).bind ended =
      (found.bind ended).map (respelled respell) := by
  cases found with
  | none => rfl
  | some read =>
      simp only [Option.map_some, Option.bind_some, ended, Prod.map, onlyEnds_respelled]
      split <;> rfl

/-- Where quoted scalars are spelled in another way, the same document is read, with its quoted
scalars spelled in that way. -/
theorem Document.ofTokens?_respelled (tokens : List Token) :
    ofTokens? (tokens.map (Token.respelled respell)) =
      (ofTokens? tokens).map (Document.respelled respell) := by
  cases tokens with
  | nil => rfl
  | cons first rest =>
      rw [ofTokens?, List.map_cons, ofTokens?, ← List.map_cons]
      dsimp only
      rw [Node.startsDocumentPart_respelled]
      split
      · rw [Node.readDirectives_respelled]
        cases Node.readDirectives false [] (first :: rest) with
        | none => rfl
        | some directives =>
            rcases directives with ⟨handles, _ | ⟨token, later⟩⟩
            · rfl
            · cases token with
              | documentStart =>
                  refine Eq.trans ?_ (ended_respelled (Node.readDocument handles later))
                  rw [← Node.readDocument_respelled]
                  rfl
              | _ => rfl
      · refine Eq.trans ?_ (ended_respelled (Node.readDocument [] (first :: rest)))
        rw [← Node.readDocument_respelled]
        rfl

end Yaml

end AssistantEngine
