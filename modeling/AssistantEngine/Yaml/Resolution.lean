import AssistantEngine.Number.Numeral
import AssistantEngine.Number.Power

/-!
What a plain scalar of YAML denotes: nothing, a truth value, an integer in base 2, 8, 10
or 16, a floating-point number, or else its own text.
-/

namespace AssistantEngine

namespace Yaml

def isNull (text : String) : Bool :=
  text = "null" || text = "Null" || text = "NULL" || text = "~"

def bool? (text : String) : Option Bool :=
  if text = "true" || text = "True" || text = "TRUE" then some true
  else if text = "false" || text = "False" || text = "FALSE" then some false
  else none

/-- A leading zero before further digits makes a text, not a number. -/
def isZeroPadded (characters : List Char) : Bool :=
  let unsigned :=
    match characters with
    | '-' :: rest => rest
    | '+' :: rest => rest
    | rest => rest
  match unsigned with
  | '0' :: next :: rest => (next :: rest).all fun digit => '0' ≤ digit && digit ≤ '9'
  | _ => false

def startsWithSign (characters : List Char) : Bool :=
  match characters with
  | '+' :: _ => true
  | '-' :: _ => true
  | _ => false

/-- The base that the two characters after an optional sign announce, and the digits. -/
def basedDigits (characters : List Char) : Nat × List Char :=
  match characters with
  | '0' :: 'x' :: digits => (16, digits)
  | '0' :: 'o' :: digits => (8, digits)
  | '0' :: 'b' :: digits => (2, digits)
  | digits => (10, digits)

/-- A natural of any size, with an optional plus sign. -/
def natural? (text : String) : Option Nat :=
  let characters := text.toList
  let unsigned :=
    match characters with
    | '+' :: rest => rest
    | rest => rest
  let (base, digits) := basedDigits unsigned
  if base = 10 && isZeroPadded characters then none else Numeral.natural? base digits

/-- A negated natural of any size. -/
def negated? (text : String) : Option Nat :=
  match text.toList with
  | '-' :: unsigned =>
    let (base, digits) := basedDigits unsigned
    if base = 10 && isZeroPadded unsigned then none else Numeral.natural? base digits
  | _ => none

/-- An integer of any size. -/
def integer? (text : String) : Option Int :=
  match natural? text with
  | some value => some (value : Int)
  | none => (negated? text).map fun value => -(value : Int)

/-- A floating-point number; a decimal numeral beyond the finite range is none. -/
def real? (text : String) : Option Binary64 :=
  let characters := text.toList
  let unsigned? :=
    match characters with
    | '+' :: rest => if startsWithSign rest then none else some rest
    | rest => some rest
  match unsigned? with
  | none => none
  | some unsigned =>
    let word := String.ofList unsigned
    if word = ".inf" || word = ".Inf" || word = ".INF" then some (.infinite false)
    else if text = "-.inf" || text = "-.Inf" || text = "-.INF" then some (.infinite true)
    else if text = ".nan" || text = ".NaN" || text = ".NAN" then some .notANumber
    else (Numeral.real? unsigned).filter Binary64.isFinite

/-- What a plain scalar denotes. Integers beyond 64 bits denote no value at all. -/
inductive Resolved where
  | null
  | bool (value : Bool)
  | int (value : Int)
  | tooWide
  | real (value : Binary64)
  | text

def fitsWord (value : Int) : Bool :=
  -(twoTo 63 : Int) ≤ value && value ≤ Numeral.greatestUnsigned

def greatestWide : Nat := twoTo 128 - 1

/-- Integers beyond 128 bits are read as floating-point numbers. -/
def resolveInteger? (text : String) : Option Resolved :=
  match integer? text with
  | some value =>
    if fitsWord value then some (.int value)
    else if -(twoTo 127 : Int) ≤ value && value ≤ greatestWide then some .tooWide
    else none
  | none => none

def resolve (text : String) : Resolved :=
  if text.isEmpty || isNull text then .null
  else
    match bool? text with
    | some value => .bool value
    | none =>
      match resolveInteger? text with
      | some resolved => resolved
      | none =>
        if isZeroPadded text.toList then .text
        else
          match real? text with
          | some value => .real value
          | none => .text

end Yaml

end AssistantEngine
