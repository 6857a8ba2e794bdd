import AssistantEngine.Number.Numeral
import AssistantEngine.Text.Blank
import AssistantEngine.Text.Hexadecimal
import AssistantEngine.Text.LowerCase
import AssistantEngine.Text.Printable
import AssistantEngine.Text.Punycode
import AssistantEngine.Text.Search

/-!
Hosts of servers in their plain form: names in lower case and in ASCII, and the numbers of
hosts as four bytes or as eight groups.
-/

namespace AssistantEngine

namespace Host

def splitOnChar (separator : Char) (characters : List Char) : List (List Char) :=
  characters.foldr (fun character parts =>
    match parts with
    | part :: parts =>
      if character == separator then [] :: part :: parts else (character :: part) :: parts
    | [] => [[character]]) [[]]

def isDigit (character : Char) : Bool := '0' ≤ character && character ≤ '9'

/-! ## Four bytes -/

/-- A number of a host that is written as four bytes or fewer numbers, in base 8, 10 or
16. -/
def number? (text : List Char) : Option Nat :=
  let (base, digits) :=
    match text with
    | '0' :: 'x' :: digits => (16, digits)
    | '0' :: digit :: digits => (8, digit :: digits)
    | digits => (10, digits)
  if digits.isEmpty then some 0 else Numeral.natural? base digits

/-- The four bytes of a number, with points between them. -/
def dotted (value : Nat) : String :=
  let bytes := [value / 16777216, value / 65536 % 256, value / 256 % 256, value % 256]
  Text.join "." (bytes.map toString)

/-- The value of a host of numbers: each but the last is one byte, and the last fills the
rest. -/
def value? (numbers : List Nat) : Option Nat :=
  match numbers.reverse with
  | [] => none
  | last :: earlier =>
    let width := 4 - earlier.length
    let room := [1, 256, 65536, 16777216, 4294967296].getD width 1
    if 4 < numbers.length || room ≤ last || earlier.any (255 < ·) then none
    else
      some (earlier.reverse.zipIdx.foldl
        (fun value part => value + part.1 * [16777216, 65536, 256].getD part.2 1) last)

/-- A name that ends in a number is a number in full. -/
def ofAscii? (name : List Char) : Option String :=
  let parts := splitOnChar '.' name
  let parts := if parts.getLast? == some [] && 1 < parts.length then parts.dropLast else parts
  match parts.getLast? with
  | none => none
  | some last =>
    let isHexadecimal := (number? last).isSome && last.contains 'x'
    if !last.isEmpty && (last.all isDigit || isHexadecimal) then
      if parts.any List.isEmpty then none else ((parts.mapM number?).bind value?).map dotted
    else some (String.ofList name)

/-! ## Eight groups -/

/-- One byte in base 10, without a zero in front. -/
def byte? (digits : List Char) : Option Nat :=
  if digits.all isDigit && (digits.length = 1 || digits.head? ≠ some '0') then
    (Numeral.natural? 10 digits).filter (· < 256)
  else none

/-- The last two groups, written as four bytes. -/
def lastGroups? (text : List Char) : Option (List Nat) := do
  match ← (splitOnChar '.' text).mapM byte? with
  | [first, second, third, fourth] => some [first * 256 + second, third * 256 + fourth]
  | _ => none

/-- Groups with colons between them; at the end of a host the last two may be bytes. -/
def groups? (isEnd : Bool) (text : List Char) : Option (List Nat) :=
  if text.isEmpty then some []
  else do
    let parts := splitOnChar ':' text
    let group? (part : List Char) : Option (List Nat) :=
      if part.length ≤ 4 then (Numeral.natural? 16 part).map fun value => [value] else none
    let last ← parts.getLast?
    let ending ← if isEnd && last.contains '.' then lastGroups? last else group? last
    return (← parts.dropLast.mapM group?).flatten ++ ending

/-- All eight groups. Two colons stand for as many zeros as are missing, at least one. -/
def allGroups? (text : String) : Option (List Nat) := do
  match Text.before? "::" text, Text.after? "::" text with
  | some before, some after =>
    let first ← groups? false before.toList
    let last ← groups? true after.toList
    if first.length + last.length < 8 then
      some (first ++ List.replicate (8 - first.length - last.length) 0 ++ last)
    else none
  | _, _ => (groups? true text.toList).filter (·.length = 8)

/-- How many zeros there are in front. -/
def zeros (groups : List Nat) : Nat := (groups.takeWhile (· = 0)).length

/-- Where the longest row of at least two zeros begins, the first one of those. -/
def longestGap? (groups : List Nat) : Option (Nat × Nat) :=
  (List.range groups.length).foldl (fun found position =>
    let count := zeros (groups.drop position)
    if 1 < count && found.all (fun gap => gap.2 < count) then some (position, count) else found)
    none

def shownGroups (groups : List Nat) : String :=
  Text.join ":" (groups.map fun group => String.ofList (Text.hexDigits group))

/-- Groups in base 16, with two colons in place of the longest row of zeros. -/
def grouped (groups : List Nat) : String :=
  match longestGap? groups with
  | some (position, count) =>
    shownGroups (groups.take position) ++ "::" ++ shownGroups (groups.drop (position + count))
  | none => shownGroups groups

/-- A host of groups; it stands in brackets. -/
def ofGroups? (characters : List Char) : Option String := do
  let ']' ← characters.getLast? | none
  return "[" ++ grouped (← allGroups? (String.ofList characters.dropLast)) ++ "]"

/-! ## Names -/

/-- The bytes of a name, where a percent sign and two digits stand for one. -/
def bytes : List Char → List UInt8
  | '%' :: first :: second :: rest =>
    match Text.hexValue? [first, second] with
    | some value => value.toUInt8 :: bytes rest
    | none => '%'.toUInt8 :: bytes (first :: second :: rest)
  | character :: rest => character.toString.toUTF8.toList ++ bytes rest
  | [] => []

/-- Characters that only say how others are shown. -/
def isUnseen (character : Char) : Bool :=
  let code := character.toNat
  [0xAD, 0x34F, 0x200B, 0x2060, 0xFEFF].contains code || (0x180B ≤ code && code ≤ 0x180D) ||
    (0xFE00 ≤ code && code ≤ 0xFE0F)

/-- What a character of a name counts as. -/
def plainChar (character : Char) : List Char :=
  if isUnseen character then []
  else if ['。', '．', '｡'].contains character then ['.']
  else if 0xFF01 ≤ character.toNat && character.toNat ≤ 0xFF5E then
    [(Char.ofNat (character.toNat - 0xFEE0)).toLower]
  else [Text.lowerChar character]

/-- Characters that no name has. -/
def isForbidden (character : Char) : Bool :=
  character.toNat ≤ 32 || character.toNat = 127 || "#/:<>?@[\\]^|".toList.contains character

def isAscii (character : Char) : Bool := character.toNat < 128

/-- What begins a part of a name that has been brought into ASCII. -/
def asciiMark : List Char := "xn--".toList

/-- Whether a character outside ASCII may stand in a name. -/
def mayStand (character : Char) : Bool :=
  isAscii character || (Text.isPrintable character && plainChar character == [character])

/-- The part of a name between two points, in ASCII. One that is in ASCII already must come
from somewhere. -/
def label? (characters : List Char) : Option (List Char) :=
  if !characters.all isAscii then
    if characters.all mayStand then some (asciiMark ++ Text.Punycode.encode characters) else none
  else if asciiMark.isPrefixOf characters then
    let written := characters.drop asciiMark.length
    match Text.Punycode.decode? written with
    | some name =>
      if !name.all isAscii && name.all mayStand && Text.Punycode.encode name = written then
        some characters
      else none
    | none => none
  else some characters

/-- The plain form of a host of the web. -/
def ofText? : List Char → Option String
  | '[' :: rest => ofGroups? rest
  | characters => do
    let name ← String.fromUTF8? ⟨(bytes characters).toArray⟩
    let name := name.toList.flatMap plainChar
    if name.isEmpty || name.any fun character => isForbidden character || character = '%' then none
    else ofAscii? (List.intercalate ['.'] (← (splitOnChar '.' name).mapM label?))

/-- Whether messages can be addressed to a host: quotes and braces are in the way. -/
def isAddressable (host : String) : Bool :=
  !host.toList.any ['"', Char.ofNat 96, '\x7b', '\x7d'].contains

end Host

end AssistantEngine
