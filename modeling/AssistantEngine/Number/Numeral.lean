import AssistantEngine.Number.Binary64
import AssistantEngine.Number.Power

/-!
Numerals inside configuration texts: integers in a given base within the 64-bit ranges,
and decimal fractions with an optional exponent.
-/

namespace AssistantEngine

namespace Numeral

def digitIn? (base : Nat) (character : Char) : Option Nat :=
  let value :=
    if '0' ≤ character && character ≤ '9' then some (character.toNat - 48)
    else if 'a' ≤ character && character ≤ 'z' then some (character.toNat - 87)
    else if 'A' ≤ character && character ≤ 'Z' then some (character.toNat - 55)
    else none
  value.filter (· < base)

/-- The natural that a non-empty row of digits denotes. -/
def natural? (base : Nat) (digits : List Char) : Option Nat :=
  if digits.isEmpty then none
  else
    digits.foldl (fun value? digit => do
      let value ← value?
      let next ← digitIn? base digit
      some (value * base + next)) (some 0)

def greatestUnsigned : Nat := twoTo 64 - 1

def greatestSigned : Nat := twoTo 63 - 1

/-- An optional sign and digits, within the signed 64-bit range. -/
def signed? (base : Nat) (characters : List Char) : Option Int :=
  match characters with
  | '-' :: digits => (natural? base digits).bind fun value =>
    if value ≤ greatestSigned + 1 then some (-(value : Int)) else none
  | '+' :: digits => (natural? base digits).bind fun value =>
    if value ≤ greatestSigned then some (value : Int) else none
  | digits => (natural? base digits).bind fun value =>
    if value ≤ greatestSigned then some (value : Int) else none

def lowered (characters : List Char) : String := String.ofList (characters.map Char.toLower)

/-- Digits with at most one point, and an exponent. -/
def unsignedReal? (negative : Bool) (characters : List Char) : Option Binary64 :=
  let isDigit (character : Char) : Bool := '0' ≤ character && character ≤ '9'
  let whole := characters.takeWhile isDigit
  let rest := characters.dropWhile isDigit
  let (fraction, rest) :=
    match rest with
    | '.' :: rest => (rest.takeWhile isDigit, rest.dropWhile isDigit)
    | rest => ([], rest)
  if whole.isEmpty && fraction.isEmpty then none
  else do
    let digits ← natural? 10 (whole ++ fraction)
    let exponent : Int ←
      match rest with
      | [] => some 0
      | letter :: rest =>
        if letter = 'e' || letter = 'E' then
          match rest with
          | '-' :: rest => (natural? 10 rest).map fun value => -(value : Int)
          | '+' :: rest => (natural? 10 rest).map fun value => (value : Int)
          | rest => (natural? 10 rest).map fun value => (value : Int)
        else none
    some (Binary64.ofDecimal negative digits (exponent - fraction.length))

/-- A decimal numeral, or the word for infinity or for no number, in any letter case. -/
def real? (characters : List Char) : Option Binary64 :=
  let (negative, unsigned) :=
    match characters with
    | '-' :: rest => (true, rest)
    | '+' :: rest => (false, rest)
    | rest => (false, rest)
  let word := lowered unsigned
  if word = "inf" || word = "infinity" then some (.infinite negative)
  else if word = "nan" then some .notANumber
  else unsignedReal? negative unsigned

end Numeral

end AssistantEngine
