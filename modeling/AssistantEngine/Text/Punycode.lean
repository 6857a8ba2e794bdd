/-!
Names in ASCII. A name with other characters is written as its ASCII characters, and after
them where the others belong: their code points in ascending order, each as a number of steps
from the place before it. A number has digits in base 36, the lowest first; how great a digit
may be before another one follows depends on the numbers written earlier.
-/

namespace AssistantEngine

namespace Text

namespace Punycode

def digit (value : Nat) : Char :=
  Char.ofNat (if value < 26 then 97 + value else 22 + value)

/-- From this value on a digit is followed by another one. -/
def threshold (bias position : Nat) : Nat := max 1 (min 26 (position - bias))

/-- The digits of a number, from a position on. Positions go in steps of 36. -/
def digits (bias position number : Nat) : List Char :=
  let bound := threshold bias position
  if number < bound then [digit number]
  else
    digit (bound + (number - bound) % (36 - bound)) ::
      digits bias (position + 36) ((number - bound) / (36 - bound))
termination_by number
decreasing_by
  have : 1 ≤ threshold bias position := Nat.le_max_left ..
  exact Nat.lt_of_le_of_lt (Nat.div_le_self ..) (by omega)

/-- How often a number is to be divided until it is small, in steps of 36, and what is left. -/
def shrink (number : Nat) : Nat × Nat :=
  if 455 < number then
    let (steps, rest) := shrink (number / 35)
    (steps + 36, rest)
  else (0, number)
termination_by number
decreasing_by omega

/-- The bias after a number has been written, where so many characters are placed now. -/
def adapted (number placed : Nat) (isFirst : Bool) : Nat :=
  let number := if isFirst then number / 700 else number / 2
  let (steps, rest) := shrink (number + number / placed)
  steps + 36 * rest / (rest + 38)

/-- What has been written so far. -/
structure Progress where
  written : List Char
  placed : Nat
  bias : Nat := 72
  isFirst : Bool := true
  /-- The steps since the last place. -/
  steps : Nat := 0

/-- Goes past one character of the name while the characters of one code point are placed. -/
def Progress.pass (code : Nat) (progress : Progress) (character : Char) : Progress :=
  if character.toNat < code then { progress with steps := progress.steps + 1 }
  else if character.toNat = code then
    { written := progress.written ++ digits progress.bias 36 progress.steps
      placed := progress.placed + 1
      bias := adapted progress.steps (progress.placed + 1) progress.isFirst
      isFirst := false
      steps := 0 }
  else progress

/-- Places the characters of the code points that are left, after those below `code`. -/
def place (name : List Char) : Nat → Progress → List Nat → Progress
  | _, progress, [] => progress
  | code, progress, next :: rest =>
    let skipped := (next - code) * (progress.placed + 1)
    let progress :=
      name.foldl (Progress.pass next) { progress with steps := progress.steps + skipped }
    place name (next + 1) { progress with steps := progress.steps + 1 } rest

/-- The written form of a name. -/
def encode (name : List Char) : List Char :=
  let ascii := name.filter (·.toNat < 128)
  let codes := ((name.map Char.toNat).filter (128 ≤ ·)).eraseDups.mergeSort
  let start := if ascii.isEmpty then [] else ascii ++ ['-']
  (place name 128 { written := start, placed := ascii.length } codes).written

/-! ## Reading -/

def digitValue? (character : Char) : Option Nat :=
  if 'a' ≤ character && character ≤ 'z' then some (character.toNat - 97)
  else if '0' ≤ character && character ≤ '9' then some (character.toNat - 22)
  else none

/-- The number at the beginning of a text, from a position on where a digit counts `weight`
times. -/
def number? (bias position weight : Nat) : List Char → Option (Nat × List Char)
  | [] => none
  | character :: rest => do
    let value ← digitValue? character
    let bound := threshold bias position
    if value < bound then some (value * weight, rest)
    else
      let (number, rest) ← number? bias (position + 36) (weight * (36 - bound)) rest
      some (value * weight + number, rest)

/-- Puts the characters that a text describes among those that are placed already. The fuel is
the greatest number of them. -/
def insertAll? : Nat → List Char → List Char → (code steps bias : Nat) → Option (List Char)
  | _, [], placed, _, _, _ => some placed
  | 0, _ :: _, _, _, _, _ => none
  | fuel + 1, text, placed, code, steps, bias => do
    let (number, rest) ← number? bias 36 1 text
    let count := placed.length + 1
    let steps := steps + number
    let code := code + steps / count
    let place := steps % count
    if !code.isValidChar then none
    else
      insertAll? fuel rest (placed.take place ++ Char.ofNat code :: placed.drop place) code
        (place + 1) (adapted number count (count = 1 + (placed.filter (·.toNat < 128)).length))

/-- The name that has a written form. -/
def decode? (written : List Char) : Option (List Char) :=
  let described := (written.reverse.takeWhile (· ≠ '-')).reverse
  let ascii := (written.take (written.length - described.length)).dropLast
  insertAll? written.length described ascii 128 0 72

end Punycode

end Text

end AssistantEngine
