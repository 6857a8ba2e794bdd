import AssistantEngine.Yaml.Scalar

/-!
Tokens of a YAML text. Indentation is turned into opening and closing tokens here. What
stands before a colon is known to be a key only when the colon is met, so every place
where a key may begin is remembered, one per level of flow collections, and the tokens
that announce a key are put in afterwards.
-/

namespace AssistantEngine

namespace Yaml

inductive Token where
  | versionDirective (major minor : Nat)
  | tagDirective (handle : String) (start : List UInt8)
  | documentStart
  | documentEnd
  | blockSequenceStart
  | blockMappingStart
  | blockEnd
  | flowSequenceStart
  | flowSequenceEnd
  | flowMappingStart
  | flowMappingEnd
  | blockEntry
  | flowEntry
  | key
  | value
  | alias (name : String)
  | anchor (name : String)
  | tag (handle : String) (suffix : List UInt8)
  | scalar (text : String) (style : ScalarStyle)
deriving DecidableEq, Repr

/-- The bytes of ASCII characters. -/
def encoded (characters : List Char) : List UInt8 := characters.map (·.toUInt8)

/-- The mark that stands alone is a tag of its own. -/
def bareMark : List UInt8 := encoded ['!']

/-- A place where a key may have begun. In block context a key that begins at the current
indentation has to turn out to be one. -/
structure PossibleKey where
  required : Bool
  tokenNumber : Nat
  offset : Nat
  line : Nat
  column : Nat

/-- The tokens read so far, newest first, and what decides about the next one. There is
one place in `keys` for the block context and one for each open flow collection. -/
structure Scan where
  cursor : Cursor
  tokens : List Token := []
  count : Nat := 0
  indent : Int := -1
  outerIndents : List Int := []
  keyAllowed : Bool := true
  enclosingKeys : List (Option PossibleKey) := []
  currentKey : Option PossibleKey := none

namespace Scan

def ofChars (characters : List Char) : Scan := { cursor := Cursor.ofChars characters }

def inFlow (scan : Scan) : Bool := !scan.enclosingKeys.isEmpty

def push (scan : Scan) (token : Token) : Scan :=
  { scan with tokens := token :: scan.tokens, count := scan.count + 1 }

/-- Puts a token in before the token that has this number. -/
def insertAt (scan : Scan) (number : Nat) (token : Token) : Scan :=
  let later := scan.count - number
  { scan with
    tokens := scan.tokens.take later ++ token :: scan.tokens.drop later
    count := scan.count + 1 }

def moveTo (scan : Scan) (cursor : Cursor) : Scan := { scan with cursor := cursor }

/-- Opens a block collection if the column is deeper than the current indentation. -/
def indentTo (scan : Scan) (column : Nat) (number : Option Nat) (token : Token) : Scan :=
  if scan.inFlow || scan.indent ≥ column then scan
  else
    let scan :=
      { scan with outerIndents := scan.indent :: scan.outerIndents, indent := column }
    match number with
    | some number => scan.insertAt number token
    | none => scan.push token

def closeBlocks (column : Int) : Nat → Scan → Scan
  | 0, scan => scan
  | fuel + 1, scan =>
    if scan.indent > column then
      let scan := scan.push .blockEnd
      match scan.outerIndents with
      | outer :: others =>
        closeBlocks column fuel { scan with indent := outer, outerIndents := others }
      | [] => scan
    else scan

/-- Closes the block collections that are deeper than the column. -/
def dedentTo (scan : Scan) (column : Int) : Scan :=
  if scan.inFlow then scan else closeBlocks column (scan.outerIndents.length + 1) scan

/-- No key can begin at the remembered place any more. -/
def dropKey (scan : Scan) : Option Scan :=
  match scan.currentKey with
  | some possible => if possible.required then none else some { scan with currentKey := none }
  | none => some scan

def saveKey (scan : Scan) : Option Scan :=
  if scan.keyAllowed then do
    let scan ← scan.dropKey
    some { scan with
      currentKey := some
        { required := !scan.inFlow && scan.indent == scan.cursor.column
          tokenNumber := scan.count
          offset := scan.cursor.offset
          line := scan.cursor.line
          column := scan.cursor.column } }
  else some scan

def longestKey : Nat := 1024

/-- A key stands on one line and is at most 1024 bytes long. -/
def freshKey (cursor : Cursor) : Option PossibleKey → Option (Option PossibleKey)
  | some possible =>
    if possible.line < cursor.line || possible.offset + longestKey < cursor.offset then
      if possible.required then none else some none
    else some (some possible)
  | none => some none

def refreshKeys (scan : Scan) : Option Scan := do
  let current ← freshKey scan.cursor scan.currentKey
  let enclosing ← scan.enclosingKeys.mapM (freshKey scan.cursor)
  some { scan with currentKey := current, enclosingKeys := enclosing }

def byteOrderMark : Char := '\ufeff'

/-- Skips blanks, comments and line ends. A tab counts as a blank only where no key may
begin, or inside a flow collection. A line may begin with a byte order mark, which takes
up a column. -/
def toNextToken : Nat → Scan → Scan
  | 0, scan => scan
  | fuel + 1, scan =>
    let cursor := scan.cursor
    let cursor :=
      if cursor.column == 0 && cursor.sees byteOrderMark then cursor.skip else cursor
    let cursor := cursor.skipWhile fun character =>
      character == ' ' || ((scan.inFlow || !scan.keyAllowed) && character == '\t')
    let cursor :=
      if cursor.sees '#' then cursor.skipWhile fun character => !isBreakChar character else cursor
    if isBreak cursor.peek? then
      toNextToken fuel
        { scan with
          cursor := cursor.skipBreak
          keyAllowed := if scan.inFlow then scan.keyAllowed else true }
    else scan.moveTo cursor

/-! Directives, anchors and tags. -/

def readNumber (cursor : Cursor) : Option (Nat × Cursor) :=
  let digits := cursor.rest.takeWhile fun character => '0' ≤ character && character ≤ '9'
  if digits.isEmpty || digits.length > 9 then none
  else
    some (digits.foldl (fun value digit => value * 10 + (digit.toNat - 48)) 0,
      cursor.skipMany digits.length)

/-- Characters of tags; `verbatim` ones may hold brackets and commas too. -/
def isTagChar (verbatim : Bool) (character : Char) : Bool :=
  isWordChar character || ";/?:@&=+$.!~*'()".toList.contains character ||
    (verbatim && ",[]".toList.contains character)

/-- How many bytes a character takes up whose first byte is this one. -/
def encodedLength? (first : Nat) : Option Nat :=
  if first < 0x80 then some 1
  else if first < 0xC0 then none
  else if first < 0xE0 then some 2
  else if first < 0xF0 then some 3
  else if first < 0xF8 then some 4
  else none

/-- A byte written as `%XX`. -/
def readEscapedByte (cursor : Cursor) : Option (Nat × Cursor) :=
  if cursor.sees '%' then do
    let first ← cursor.at? 1
    let second ← cursor.at? 2
    let value ← Text.hexValue? [first, second]
    some (value, cursor.skipMany 3)
  else none

/-- The further bytes of a character, newest first. -/
def readEscapedTail : Nat → List UInt8 → Cursor → Option (List UInt8 × Cursor)
  | 0, read, cursor => some (read, cursor)
  | count + 1, read, cursor =>
    match readEscapedByte cursor with
    | some (value, cursor) =>
      if 0x80 ≤ value && value < 0xC0 then readEscapedTail count (value.toUInt8 :: read) cursor
      else none
    | none => none

/-- The bytes of one character, all of them escaped. They have the shape of an encoded
character, though there may be none that they encode. -/
def readEscaped (read : List UInt8) (cursor : Cursor) : Option (List UInt8 × Cursor) := do
  let (first, cursor) ← readEscapedByte cursor
  let length ← encodedLength? first
  readEscapedTail (length - 1) (first.toUInt8 :: read) cursor

def readTagBytes (verbatim : Bool) : Nat → List UInt8 → Cursor → Option (List UInt8 × Cursor)
  | 0, _, _ => none
  | fuel + 1, read, cursor =>
    match cursor.peek? with
    | some character =>
      if character == '%' then
        match readEscaped read cursor with
        | some (read, cursor) => readTagBytes verbatim fuel read cursor
        | none => none
      else if isTagChar verbatim character then
        readTagBytes verbatim fuel (character.toUInt8 :: read) cursor.skip
      else some (read.reverse, cursor)
    | none => some (read.reverse, cursor)

def tagBytes (verbatim : Bool) (cursor : Cursor) : Option (List UInt8 × Cursor) :=
  readTagBytes verbatim (cursor.rest.length + 1) [] cursor

/-- A byte of value zero ends a tag, whatever is written behind it. -/
def upToZero (bytes : List UInt8) : List UInt8 := bytes.takeWhile (· != 0)

/-- A handle: an exclamation mark, word characters, and perhaps a second mark. -/
def readHandle (cursor : Cursor) : Option (List Char × Cursor) :=
  if cursor.sees '!' then
    let word := cursor.skip.rest.takeWhile isWordChar
    let cursor := cursor.skipMany (1 + word.length)
    if cursor.sees '!' then some ('!' :: (word ++ ['!']), cursor.skip)
    else some ('!' :: word, cursor)
  else none

def endsWithMark (handle : List Char) : Bool := handle.length ≥ 2 && handle.getLast? == some '!'

/-- A tag is given in full between angle brackets, or as a handle and what follows it. -/
def readTag (inFlow : Bool) (cursor : Cursor) : Option (Token × Cursor) := do
  let (handle, suffix, cursor) ←
    if cursor.seesAt 1 '<' then do
      let (suffix, cursor) ← tagBytes true (cursor.skipMany 2)
      if suffix.isEmpty || !cursor.sees '>' then none else some ([], upToZero suffix, cursor.skip)
    else do
      let (handle, cursor) ← readHandle cursor
      let (suffix, cursor) ← tagBytes false cursor
      if endsWithMark handle then
        if suffix.isEmpty then none else some (handle, upToZero suffix, cursor)
      else
        let suffix := upToZero (encoded (handle.drop 1) ++ suffix)
        if suffix.isEmpty then some ([], bareMark, cursor) else some (['!'], suffix, cursor)
  if isBlankOrEnd cursor.peek? || (inFlow && cursor.sees ',') then
    some (.tag (String.ofList handle) suffix, cursor)
  else none

def readAnchor (cursor : Cursor) : Option (String × Cursor) :=
  let name := cursor.skip.rest.takeWhile isWordChar
  let cursor := cursor.skipMany (1 + name.length)
  let ends := isBlankOrEnd cursor.peek? ||
    cursor.peek?.any fun character =>
      "?:,]\x7d%@".toList.contains character || character.toNat == 96
  if name.isEmpty || !ends then none else some (String.ofList name, cursor)

/-- A directive line. Only the version and the tag directive are known. -/
def readDirective (cursor : Cursor) : Option (Token × Cursor) := do
  let name := cursor.skip.rest.takeWhile isWordChar
  let cursor := cursor.skipMany (1 + name.length)
  if name.isEmpty || !isBlankOrEnd cursor.peek? then none
  else
    let (token, cursor) ←
      if name == ['Y', 'A', 'M', 'L'] then do
        let (major, cursor) ← readNumber (cursor.skipWhile isBlankChar)
        if !cursor.sees '.' then none
        else
          let (minor, cursor) ← readNumber cursor.skip
          some (Token.versionDirective major minor, cursor)
      else if name == ['T', 'A', 'G'] then do
        let (handle, cursor) ← readHandle (cursor.skipWhile isBlankChar)
        if !(handle == ['!'] || endsWithMark handle) || !isBlank cursor.peek? then none
        else
          let (start, cursor) ← tagBytes true (cursor.skipWhile isBlankChar)
          if start.isEmpty || !isBlankOrEnd cursor.peek? then none
          else some (Token.tagDirective (String.ofList handle) (upToZero start), cursor)
      else none
    let cursor ← finishLine cursor
    some (token, cursor)

/-! The tokens, one function per kind. -/

def takeDirective (scan : Scan) : Option Scan := do
  let scan ← (scan.dedentTo (-1)).dropKey
  let (token, cursor) ← readDirective scan.cursor
  some ({ scan with keyAllowed := false, cursor := cursor }.push token)

def takeDocumentMarker (scan : Scan) (token : Token) : Option Scan := do
  let scan ← (scan.dedentTo (-1)).dropKey
  some ({ scan with keyAllowed := false, cursor := scan.cursor.skipMany 3 }.push token)

def takeFlowStart (scan : Scan) (token : Token) : Option Scan := do
  let scan ← scan.saveKey
  some ({ scan with
    enclosingKeys := scan.currentKey :: scan.enclosingKeys
    currentKey := none
    keyAllowed := true
    cursor := scan.cursor.skip }.push token)

def takeFlowEnd (scan : Scan) (token : Token) : Option Scan := do
  let scan ← scan.dropKey
  let scan :=
    match scan.enclosingKeys with
    | outer :: others => { scan with currentKey := outer, enclosingKeys := others }
    | [] => scan
  some ({ scan with keyAllowed := false, cursor := scan.cursor.skip }.push token)

def takeFlowEntry (scan : Scan) : Option Scan := do
  let scan ← scan.dropKey
  some ({ scan with keyAllowed := true, cursor := scan.cursor.skip }.push .flowEntry)

def takeBlockEntry (scan : Scan) : Option Scan := do
  if !scan.inFlow && !scan.keyAllowed then none
  else
    let scan ← (scan.indentTo scan.cursor.column none .blockSequenceStart).dropKey
    some ({ scan with keyAllowed := true, cursor := scan.cursor.skip }.push .blockEntry)

def takeKey (scan : Scan) : Option Scan := do
  if !scan.inFlow && !scan.keyAllowed then none
  else
    let scan ← (scan.indentTo scan.cursor.column none .blockMappingStart).dropKey
    some ({ scan with keyAllowed := !scan.inFlow, cursor := scan.cursor.skip }.push .key)

/-- A colon. If a key may have begun before it on this line, that was one. -/
def takeValue (scan : Scan) : Option Scan :=
  match scan.currentKey with
  | some possible =>
    let scan := scan.insertAt possible.tokenNumber .key
    let scan := scan.indentTo possible.column (some possible.tokenNumber) .blockMappingStart
    some ({ scan with
      currentKey := none
      keyAllowed := false
      cursor := scan.cursor.skip }.push .value)
  | none =>
    if !scan.inFlow && !scan.keyAllowed then none
    else
      let scan := scan.indentTo scan.cursor.column none .blockMappingStart
      some ({ scan with keyAllowed := !scan.inFlow, cursor := scan.cursor.skip }.push .value)

def takeAnchor (scan : Scan) (token : String → Token) : Option Scan := do
  let scan ← scan.saveKey
  let (name, cursor) ← readAnchor scan.cursor
  some ({ scan with keyAllowed := false, cursor := cursor }.push (token name))

def takeTag (scan : Scan) : Option Scan := do
  let scan ← scan.saveKey
  let (token, cursor) ← readTag scan.inFlow scan.cursor
  some ({ scan with keyAllowed := false, cursor := cursor }.push token)

def takeBlockScalar (fuel : Nat) (scan : Scan) (folded : Bool) : Option Scan := do
  let scan ← scan.dropKey
  let (text, cursor) ← readBlock folded scan.indent fuel scan.cursor.skip
  some ({ scan with keyAllowed := true, cursor := cursor }.push
    (.scalar (String.ofList text.reverse) (if folded then .quoted else .literal)))

def takeQuoted (fuel : Nat) (scan : Scan) (double : Bool) : Option Scan := do
  let scan ← scan.saveKey
  let (text, cursor) ← readQuoted double fuel [] scan.cursor.skip
  some ({ scan with keyAllowed := false, cursor := cursor }.push
    (.scalar (String.ofList text.reverse) .quoted))

def takePlain (fuel : Nat) (scan : Scan) : Option Scan := do
  let scan ← scan.saveKey
  let (text, onNewLine, cursor) ←
    readPlain scan.inFlow (scan.indent + 1).toNat fuel {} [] scan.cursor
  some ({ scan with keyAllowed := onNewLine, cursor := cursor }.push
    (.scalar (String.ofList text.reverse) .plain))

/-- Characters that cannot begin a plain scalar, except that a dash, a question mark or a
colon may if no blank follows. -/
def isIndicator (character : Char) : Bool :=
  "-?:,[]\x7b\x7d#&*!|>'\"%@".toList.contains character || character.toNat == 96

def beginsPlain (scan : Scan) : Bool :=
  let cursor := scan.cursor
  let next := cursor.at? 1
  match cursor.peek? with
  | none => false
  | some character =>
    !(isBlankChar character || isBreakChar character || isIndicator character) ||
      (character == '-' && !isBlank next) ||
      (!scan.inFlow && (character == '?' || character == ':') && !isBlankOrEnd next)

/-- The token that begins here, with this character. -/
def takeNext (fuel : Nat) (scan : Scan) (first : Char) : Option Scan :=
  let blankFollows := isBlankOrEnd (scan.cursor.at? 1)
  if scan.cursor.column == 0 && first == '%' then scan.takeDirective
  else if scan.cursor.atDocumentMarker '-' then scan.takeDocumentMarker .documentStart
  else if scan.cursor.atDocumentMarker '.' then scan.takeDocumentMarker .documentEnd
  else if first == '[' then scan.takeFlowStart .flowSequenceStart
  else if first == '\x7b' then scan.takeFlowStart .flowMappingStart
  else if first == ']' then scan.takeFlowEnd .flowSequenceEnd
  else if first == '\x7d' then scan.takeFlowEnd .flowMappingEnd
  else if first == ',' then scan.takeFlowEntry
  else if first == '-' && blankFollows then scan.takeBlockEntry
  else if first == '?' && (scan.inFlow || blankFollows) then scan.takeKey
  else if first == ':' && (scan.inFlow || blankFollows) then scan.takeValue
  else if first == '*' then scan.takeAnchor .alias
  else if first == '&' then scan.takeAnchor .anchor
  else if first == '!' then scan.takeTag
  else if first == '|' && !scan.inFlow then scan.takeBlockScalar fuel false
  else if first == '>' && !scan.inFlow then scan.takeBlockScalar fuel true
  else if first == '\'' then scan.takeQuoted fuel false
  else if first == '"' then scan.takeQuoted fuel true
  else if scan.beginsPlain then scan.takePlain fuel
  else none

/-- Reads to the end of the text; every round consumes a character, so that what is left of
the fuel is always more than the rest is long. -/
def run : Nat → Scan → Option (List Token)
  | 0, _ => none
  | fuel + 1, scan => do
    let scan ← (toNextToken (fuel + 1) scan).refreshKeys
    let scan := scan.dedentTo scan.cursor.column
    match scan.cursor.peek? with
    | some first =>
      let scan ← scan.takeNext (fuel + 1) first
      run fuel scan
    | none =>
      let scan ← (scan.dedentTo (-1)).dropKey
      some scan.tokens.reverse

end Scan

/-- Control characters, surrogates and the two last code points of the first plane have
no place in a text. -/
def isAllowedChar (character : Char) : Bool :=
  let code := character.toNat
  code == 0x09 || code == 0x0A || code == 0x0D || (0x20 ≤ code && code ≤ 0x7E) || code == 0x85 ||
    (0xA0 ≤ code && code ≤ 0xD7FF) || (0xE000 ≤ code && code ≤ 0xFFFD) || 0x10000 ≤ code

def Token.ofChars? (characters : List Char) : Option (List Token) :=
  if characters.all isAllowedChar then
    Scan.run (characters.length + 2) (Scan.ofChars characters)
  else none

end Yaml

end AssistantEngine
