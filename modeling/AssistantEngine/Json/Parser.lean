import AssistantEngine.Json.Numeral
import AssistantEngine.Json.Written
import AssistantEngine.Text.Hexadecimal

/-!
Reading JSON texts. Arrays and objects that are nested more than 127 deep denote nothing,
and neither do texts with half of a surrogate pair. Every reading function takes fuel. Twice
the length of the text is enough of it, since of two calls that pass fuel on one at least has
consumed a character; so what is left of it is always more than the rest of the text is long.
-/

namespace AssistantEngine

namespace Json

def isSpace (character : Char) : Bool :=
  character = ' ' || character = '\n' || character = '\t' || character = '\r'

def skipSpaces (characters : List Char) : List Char := characters.dropWhile isSpace

def readHexWord (characters : List Char) : Option (Nat × List Char) :=
  match characters with
  | first :: second :: third :: fourth :: rest =>
    (Text.hexValue? [first, second, third, fourth]).map fun word => (word, rest)
  | _ => none

def isHighSurrogate (word : Nat) : Bool := 0xD800 ≤ word && word < 0xDC00

def isLowSurrogate (word : Nat) : Bool := 0xDC00 ≤ word && word < 0xE000

/-- The character of one escaped word, or of a pair of surrogates; a lone surrogate is
no character. -/
def readEscapedWord (characters : List Char) : Option (Option Char × List Char) := do
  let (word, rest) ← readHexWord characters
  if isHighSurrogate word then
    match rest with
    | '\\' :: 'u' :: later =>
      let (low, later) ← readHexWord later
      if isLowSurrogate low then
        some (some (Char.ofNat (0x10000 + (word - 0xD800) * 1024 + (low - 0xDC00))), later)
      else some (none, rest)
    | _ => some (none, rest)
  else if isLowSurrogate word then some (none, rest)
  else some (some (Char.ofNat word), rest)

def readEscape (characters : List Char) : Option (Option Char × List Char) :=
  match characters with
  | '"' :: rest => some (some '"', rest)
  | '\\' :: rest => some (some '\\', rest)
  | '/' :: rest => some (some '/', rest)
  | 'b' :: rest => some (some (Char.ofNat 8), rest)
  | 'f' :: rest => some (some (Char.ofNat 12), rest)
  | 'n' :: rest => some (some '\n', rest)
  | 'r' :: rest => some (some '\r', rest)
  | 't' :: rest => some (some '\t', rest)
  | 'u' :: rest => readEscapedWord rest
  | _ => none

/-- A string after its opening quote, with its characters newest first in `read`; there is no
text once one of them was no character. -/
def readQuoted : Nat → Option (List Char) → List Char → Option (Option String × List Char)
  | 0, _, _ => none
  | _ + 1, _, [] => none
  | fuel + 1, read, character :: rest =>
    if character = '"' then some (read.map fun read => String.ofList read.reverse, rest)
    else if character = '\\' then
      match readEscape rest with
      | some (some character, rest) => readQuoted fuel (read.map (character :: ·)) rest
      | some (none, rest) => readQuoted fuel none rest
      | none => none
    else if character.toNat < 32 then none
    else readQuoted fuel (read.map (character :: ·)) rest

def readWord (word : List Char) (value : Json) (characters : List Char) :
    Option (Written × List Char) :=
  if word.isPrefixOf characters then some (.scalar value, characters.drop word.length) else none

/-- A collection where no more may be opened denotes nothing. -/
def enclosed (room : Nat) (read : Written × List Char) : Written × List Char :=
  (if room = 0 then .meaningless else read.1, read.2)

mutual
/-- One value. `room` is how many more arrays or objects may be opened. -/
def readValue : Nat → Nat → List Char → Option (Written × List Char)
  | 0, _, _ => none
  | fuel + 1, room, characters =>
    match skipSpaces characters with
    | [] => none
    | '"' :: rest =>
      (readQuoted fuel (some []) rest).map fun read => (.ofOption (read.1.map .str), read.2)
    | '[' :: rest =>
      match skipSpaces rest with
      | ']' :: rest => some (enclosed room (.array [], rest))
      | rest => (readItems fuel (room - 1) [] rest).map (enclosed room)
    | '\x7b' :: rest =>
      match skipSpaces rest with
      | '\x7d' :: rest => some (enclosed room (.object [], rest))
      | rest => (readMembers fuel (room - 1) [] rest).map (enclosed room)
    | 'n' :: rest => readWord ['u', 'l', 'l'] .null rest
    | 't' :: rest => readWord ['r', 'u', 'e'] (.bool true) rest
    | 'f' :: rest => readWord ['a', 'l', 's', 'e'] (.bool false) rest
    | rest => (readNumeral rest).map fun read => (.ofOption read.1, read.2)

/-- The items of an array that has at least one more. -/
def readItems : Nat → Nat → List Written → List Char → Option (Written × List Char)
  | 0, _, _, _ => none
  | fuel + 1, room, read, characters =>
    match readValue fuel room characters with
    | none => none
    | some (item, rest) =>
      match skipSpaces rest with
      | ',' :: rest => readItems fuel room (item :: read) rest
      | ']' :: rest => some (.array (item :: read).reverse, rest)
      | _ => none

/-- The members of an object that has at least one more. -/
def readMembers : Nat → Nat → List (Option String × Written) → List Char →
    Option (Written × List Char)
  | 0, _, _, _ => none
  | fuel + 1, room, read, characters =>
    match skipSpaces characters with
    | '"' :: rest =>
      match readQuoted fuel (some []) rest with
      | none => none
      | some (key, rest) =>
        match skipSpaces rest with
        | ':' :: rest =>
          match readValue fuel room rest with
          | none => none
          | some (value, rest) =>
            match skipSpaces rest with
            | ',' :: rest => readMembers fuel room ((key, value) :: read) rest
            | '\x7d' :: rest => some (.object ((key, value) :: read).reverse, rest)
            | _ => none
        | _ => none
    | _ => none
end

def deepest : Nat := 127

def Written.ofChars? (characters : List Char) : Option Written :=
  match readValue (2 * characters.length + 2) deepest characters with
  | some (written, rest) => if (skipSpaces rest).isEmpty then some written else none
  | none => none

/-- A text as it is written, if it is one value with blanks around it. -/
def Written.ofText? (text : String) : Option Written := Written.ofChars? text.toList

/-- The value a text denotes. -/
def parse (text : String) : Option Json := (Written.ofText? text).bind Written.value?

end Json

end AssistantEngine
