import AssistantEngine.Json.Basic
import AssistantEngine.Number.Shortest

/-!
The two written forms of a JSON value: the compact one without blanks, and the indented
one with two blanks per level. Each printer puts its text in front of what follows.
-/

namespace AssistantEngine

namespace Json

def hexDigit (value : Nat) : Char :=
  if value < 10 then Char.ofNat (48 + value) else Char.ofNat (87 + value)

/-- Quotes, backslashes and control characters are escaped, nothing else. -/
def escapeChar (character : Char) (rest : List Char) : List Char :=
  if character = '"' then '\\' :: '"' :: rest
  else if character = '\\' then '\\' :: '\\' :: rest
  else if character.toNat = 8 then '\\' :: 'b' :: rest
  else if character.toNat = 9 then '\\' :: 't' :: rest
  else if character.toNat = 10 then '\\' :: 'n' :: rest
  else if character.toNat = 12 then '\\' :: 'f' :: rest
  else if character.toNat = 13 then '\\' :: 'r' :: rest
  else if character.toNat < 32 then
    '\\' :: 'u' :: '0' :: '0' :: hexDigit (character.toNat / 16) ::
      hexDigit (character.toNat % 16) :: rest
  else character :: rest

def quoted (value : String) (rest : List Char) : List Char :=
  '"' :: value.toList.foldr escapeChar ('"' :: rest)

def decimalDigits (value : Nat) : List Char := Nat.toDigits 10 value

def writtenInt (value : Int) : List Char :=
  if value < 0 then '-' :: decimalDigits value.natAbs else decimalDigits value.natAbs

/-- Decimal exponents from `-5` to `15` are written positionally. -/
def positionalLow : Int := -5

def positionalHigh : Int := 15

/-- Shortest digits that read back; always with a point or an exponent. -/
def writtenFinite (negative : Bool) (significand : Nat) (exponent : Int) : List Char :=
  let short := ShortDecimal.of significand exponent
  let digits := decimalDigits short.digits
  let order : Int := short.exponent + digits.length - 1
  let unsigned :=
    if short.digits = 0 then ['0', '.', '0']
    else if order < positionalLow || order > positionalHigh then
      let fraction := digits.drop 1
      let mantissa := digits.take 1 ++ (if fraction.isEmpty then [] else '.' :: fraction)
      mantissa ++ 'e' :: (if order < 0 then '-' else '+') :: decimalDigits order.natAbs
    else if order < 0 then
      '0' :: '.' :: (List.replicate (order.natAbs - 1) '0' ++ digits)
    else
      let whole := order.toNat + 1
      let fraction := digits.drop whole
      digits.take whole ++ List.replicate (whole - digits.length) '0' ++
        '.' :: (if fraction.isEmpty then ['0'] else fraction)
  if negative then '-' :: unsigned else unsigned

def writtenReal : Binary64 → List Char
  | .finite negative significand exponent => writtenFinite negative significand exponent
  | _ => ['n', 'u', 'l', 'l']

mutual
def compactInto : Json → List Char → List Char
  | .null, rest => 'n' :: 'u' :: 'l' :: 'l' :: rest
  | .bool true, rest => 't' :: 'r' :: 'u' :: 'e' :: rest
  | .bool false, rest => 'f' :: 'a' :: 'l' :: 's' :: 'e' :: rest
  | .int value, rest => writtenInt value ++ rest
  | .real value, rest => writtenReal value ++ rest
  | .str value, rest => quoted value rest
  | .arr items, rest => '[' :: compactItems items true (']' :: rest)
  | .obj members, rest => '\x7b' :: compactMembers members true ('\x7d' :: rest)

def compactItems : List Json → Bool → List Char → List Char
  | [], _, rest => rest
  | item :: items, first, rest =>
    let written := compactInto item (compactItems items false rest)
    if first then written else ',' :: written

def compactMembers : List (String × Json) → Bool → List Char → List Char
  | [], _, rest => rest
  | (key, value) :: members, first, rest =>
    let written := quoted key (':' :: compactInto value (compactMembers members false rest))
    if first then written else ',' :: written
end

/-- The text without blanks. -/
def compact (value : Json) : String := String.ofList (compactInto value [])

def newLine (level : Nat) (rest : List Char) : List Char :=
  '\n' :: (List.replicate (2 * level) ' ' ++ rest)

mutual
def indentedInto : Json → Nat → List Char → List Char
  | .arr (item :: items), level, rest =>
    '[' :: newLine (level + 1) (indentedInto item (level + 1)
      (indentedItems items (level + 1) (newLine level (']' :: rest))))
  | .obj ((key, value) :: members), level, rest =>
    '\x7b' :: newLine (level + 1) (quoted key (':' :: ' ' :: indentedInto value (level + 1)
      (indentedMembers members (level + 1) (newLine level ('\x7d' :: rest)))))
  | .arr [], _, rest => '[' :: ']' :: rest
  | .obj [], _, rest => '\x7b' :: '\x7d' :: rest
  | .null, _, rest => compactInto .null rest
  | .bool value, _, rest => compactInto (.bool value) rest
  | .int value, _, rest => compactInto (.int value) rest
  | .real value, _, rest => compactInto (.real value) rest
  | .str value, _, rest => quoted value rest

def indentedItems : List Json → Nat → List Char → List Char
  | [], _, rest => rest
  | item :: items, level, rest =>
    ',' :: newLine level (indentedInto item level (indentedItems items level rest))

def indentedMembers : List (String × Json) → Nat → List Char → List Char
  | [], _, rest => rest
  | (key, value) :: members, level, rest =>
    ',' :: newLine level (quoted key (':' :: ' ' :: indentedInto value level
      (indentedMembers members level rest)))
end

/-- The text with one value or member per line. -/
def indented (value : Json) : String := String.ofList (indentedInto value 0 [])

end Json

end AssistantEngine
