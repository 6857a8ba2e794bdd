/-!
Numbers in base 16. Digits are read in either case.
-/

namespace AssistantEngine

namespace Text

def hexDigitValue? (character : Char) : Option Nat :=
  if '0' ≤ character && character ≤ '9' then some (character.toNat - 48)
  else if 'a' ≤ character && character ≤ 'f' then some (character.toNat - 87)
  else if 'A' ≤ character && character ≤ 'F' then some (character.toNat - 55)
  else none

/-- The value of a row of digits, if they are digits. -/
def hexValue? (digits : List Char) : Option Nat :=
  digits.foldl (fun value? digit => do
    let value ← value?
    let next ← hexDigitValue? digit
    some (value * 16 + next)) (some 0)

/-- The digits of a number, in lower case. -/
def hexDigits (value : Nat) : List Char := Nat.toDigits 16 value

end Text

end AssistantEngine
