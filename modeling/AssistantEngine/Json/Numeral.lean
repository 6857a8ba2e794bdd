import AssistantEngine.Json.Basic
import AssistantEngine.Number.Power

/-!
Numerals of JSON texts. An integer within the 64-bit ranges stays an integer. Any other
numeral is read as a significand of at most 64 bits, further digits only moving the
decimal exponent, and is then scaled by one power of ten with one rounding; a numeral
beyond the range of binary numbers is well formed but denotes nothing.
-/

namespace AssistantEngine

namespace Json

def isDigit (character : Char) : Bool := '0' ≤ character && character ≤ '9'

def digitValue (character : Char) : Nat := character.toNat - 48

def wordLimit : Nat := twoTo 64

/-- A significand together with the power of ten still to be applied. -/
structure Scaled where
  significand : Nat
  exponent : Int

/-- Takes digits while the significand stays below `2 ^ 64`. -/
def takeWord : Nat → Nat → List Char → Nat × Nat × List Char
  | significand, taken, [] => (significand, taken, [])
  | significand, taken, character :: rest =>
    if isDigit character && significand * 10 + digitValue character < wordLimit then
      takeWord (significand * 10 + digitValue character) (taken + 1) rest
    else (significand, taken, character :: rest)

def countDigits (characters : List Char) : Nat × List Char :=
  ((characters.takeWhile isDigit).length, characters.dropWhile isDigit)

def powerLimit : Int := 308

/-- The significand times a power of ten, rounded once; exponents below the least power
are reached by dividing by the greatest one first. -/
def scale (negative : Bool) : Nat → Binary64 → Int → Option Binary64
  | 0, _, _ => none
  | fuel + 1, value, exponent =>
    let finish (result : Binary64) : Option Binary64 :=
      if result.isFinite then some (if negative then result.negate else result) else none
    if exponent.natAbs ≤ powerLimit.natAbs then
      if 0 ≤ exponent then finish (value.timesRounded (tenTo exponent.natAbs))
      else finish (value.overRounded (tenTo exponent.natAbs))
    else if value = Binary64.zero false then finish value
    else if 0 ≤ exponent then none
    else scale negative fuel (value.overRounded (tenTo powerLimit.natAbs)) (exponent + powerLimit)

/-- Five divisions by the greatest power bring any significand to zero. -/
def real? (negative : Bool) (scaled : Scaled) : Option Json :=
  (scale negative 8 (Binary64.ofNat scaled.significand) scaled.exponent).map .real

def exponentLimit : Nat := twoTo 31

/-- The part after the letter that announces an exponent. -/
def readExponent (negative : Bool) (scaled : Scaled) (characters : List Char) :
    Option (Option Json × List Char) :=
  let (raises, characters) :=
    match characters with
    | '+' :: rest => (true, rest)
    | '-' :: rest => (false, rest)
    | other => (true, other)
  let digits := characters.takeWhile isDigit
  let rest := characters.dropWhile isDigit
  if digits.isEmpty then none
  else
    let power := digits.foldl (fun value digit => value * 10 + digitValue digit) 0
    if power < exponentLimit then
      let exponent := if raises then scaled.exponent + power else scaled.exponent - power
      some (real? negative { scaled with exponent := exponent }, rest)
    else if scaled.significand ≠ 0 && raises then some (none, rest)
    else some (some (.real (Binary64.zero negative)), rest)

def readExponentOrEnd (negative : Bool) (scaled : Scaled) (characters : List Char) :
    Option (Option Json × List Char) :=
  match characters with
  | 'e' :: rest => readExponent negative scaled rest
  | 'E' :: rest => readExponent negative scaled rest
  | rest => some (real? negative scaled, rest)

/-- The part after the point; at least one digit has to follow. -/
def readFraction (negative : Bool) (scaled : Scaled) (characters : List Char) :
    Option (Option Json × List Char) :=
  let (significand, taken, rest) := takeWord scaled.significand 0 characters
  let (ignored, rest) := countDigits rest
  if taken + ignored = 0 then none
  else if taken = 0 && ignored > 0 then
    readExponentOrEnd negative ⟨significand, scaled.exponent⟩ rest
  else readExponentOrEnd negative ⟨significand, scaled.exponent - taken⟩ rest

def integer (negative : Bool) (value : Nat) : Json :=
  if negative then
    if value = 0 then .real (Binary64.zero true)
    else if value ≤ twoTo 63 then .int (-value)
    else .real (Binary64.roundRatio true value 1)
  else .int value

/-- A numeral without its sign. -/
def readUnsigned (negative : Bool) (characters : List Char) :
    Option (Option Json × List Char) :=
  let continueWith (value : Nat) (rest : List Char) : Option (Option Json × List Char) :=
    match rest with
    | '.' :: rest => readFraction negative ⟨value, 0⟩ rest
    | 'e' :: rest => readExponent negative ⟨value, 0⟩ rest
    | 'E' :: rest => readExponent negative ⟨value, 0⟩ rest
    | rest => some (some (integer negative value), rest)
  match characters with
  | '0' :: rest =>
    match rest with
    | next :: _ => if isDigit next then none else continueWith 0 rest
    | [] => continueWith 0 rest
  | first :: rest =>
    if isDigit first then
      let (value, _, rest) := takeWord (digitValue first) 1 rest
      let (excess, rest) := countDigits rest
      if excess = 0 then continueWith value rest
      else
        match rest with
        | '.' :: rest => readFraction negative ⟨value, excess⟩ rest
        | 'e' :: rest => readExponent negative ⟨value, excess⟩ rest
        | 'E' :: rest => readExponent negative ⟨value, excess⟩ rest
        | rest => some (real? negative ⟨value, excess⟩, rest)
    else none
  | [] => none

/-- The number that a numeral denotes, if it denotes one, and what follows the numeral. -/
def readNumeral (characters : List Char) :
    Option (Option Json × List Char) :=
  match characters with
  | '-' :: rest => readUnsigned true rest
  | rest => readUnsigned false rest

end Json

end AssistantEngine
