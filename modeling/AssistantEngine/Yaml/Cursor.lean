/-!
A place in a YAML text: what is still to be read, and where that is. The offset counts
bytes of the encoded text, the column counts characters. A line ends with a line feed, a
carriage return, both together, or one of the three separators of Unicode.
-/

namespace AssistantEngine

namespace Yaml

structure Cursor where
  rest : List Char
  offset : Nat
  line : Nat
  column : Nat

namespace Cursor

def ofChars (characters : List Char) : Cursor := ⟨characters, 0, 0, 0⟩

def peek? (cursor : Cursor) : Option Char := cursor.rest.head?

def at? (cursor : Cursor) (offset : Nat) : Option Char := cursor.rest[offset]?

def sees (cursor : Cursor) (character : Char) : Bool := cursor.peek? = some character

def seesAt (cursor : Cursor) (offset : Nat) (character : Char) : Bool :=
  cursor.at? offset = some character

def atEnd (cursor : Cursor) : Bool := cursor.rest.isEmpty

end Cursor

def isBreakChar (character : Char) : Bool :=
  character = '\n' || character = '\r' || character.toNat = 0x85 || character.toNat = 0x2028 ||
    character.toNat = 0x2029

def isBlankChar (character : Char) : Bool := character = ' ' || character = '\t'

def isBreak (found : Option Char) : Bool := found.any isBreakChar

def isBreakOrEnd (found : Option Char) : Bool := found.isNone || isBreak found

def isBlank (found : Option Char) : Bool := found.any isBlankChar

def isBlankOrEnd (found : Option Char) : Bool := isBlank found || isBreakOrEnd found

/-- The characters of anchors and tag handles. -/
def isWordChar (character : Char) : Bool :=
  ('0' ≤ character && character ≤ '9') || ('A' ≤ character && character ≤ 'Z') ||
    ('a' ≤ character && character ≤ 'z') || character = '_' || character = '-'

namespace Cursor

/-- One character further on the same line. -/
def skip (cursor : Cursor) : Cursor :=
  match cursor.rest with
  | character :: rest =>
    ⟨rest, cursor.offset + character.utf8Size, cursor.line, cursor.column + 1⟩
  | [] => cursor

def skipMany (cursor : Cursor) : Nat → Cursor
  | 0 => cursor
  | count + 1 => skipMany cursor.skip count

/-- Past a line's end, with the character that stands for it in a scalar. -/
def readBreak (cursor : Cursor) : List Char × Cursor :=
  match cursor.rest with
  | '\r' :: '\n' :: rest => (['\n'], ⟨rest, cursor.offset + 2, cursor.line + 1, 0⟩)
  | character :: rest =>
    let next : Cursor := ⟨rest, cursor.offset + character.utf8Size, cursor.line + 1, 0⟩
    if character = '\n' || character = '\r' || character.toNat = 0x85 then (['\n'], next)
    else if isBreakChar character then ([character], next)
    else ([], cursor)
  | [] => ([], cursor)

def skipBreak (cursor : Cursor) : Cursor := cursor.readBreak.2

/-- Skips the characters that satisfy the test; none of them ends a line. -/
def skipWhile (cursor : Cursor) (test : Char → Bool) : Cursor :=
  cursor.skipMany (cursor.rest.takeWhile test).length

/-- Whether a document marker, three equal characters and then a blank, starts the line. -/
def atDocumentMarker (cursor : Cursor) (character : Char) : Bool :=
  cursor.column == 0 && cursor.seesAt 0 character && cursor.seesAt 1 character &&
    cursor.seesAt 2 character && isBlankOrEnd (cursor.at? 3)

def atAnyDocumentMarker (cursor : Cursor) : Bool :=
  cursor.atDocumentMarker '-' || cursor.atDocumentMarker '.'

end Cursor

end Yaml

end AssistantEngine
