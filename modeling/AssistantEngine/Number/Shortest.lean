import AssistantEngine.Number.Binary64
import AssistantEngine.Number.Power

/-!
The shortest decimal that reads back as a given binary number. The reals that round to
the number form an interval; of the decimal grids `10 ^ p`, coarsest first, the first
one with a point in that interval gives the digits, and of two such points the nearer
one is taken, ties to the even digit.
-/

namespace AssistantEngine

/-- `digits * 10 ^ exponent`, where `digits` has no trailing zero unless it is zero. -/
structure ShortDecimal where
  digits : Nat
  exponent : Int
deriving DecidableEq, Repr

namespace ShortDecimal

/-- The reals that round to a number, as quarters of its last place: the interval from
`lower` to `upper` around `4 * significand`, in units of `2 ^ (exponent - 2)`. -/
structure Neighbourhood where
  lower : Nat
  centre : Nat
  upper : Nat
  endsIncluded : Bool

def Neighbourhood.of (significand : Nat) (exponent : Int) : Neighbourhood :=
  let belowGap := if significand = twoTo 52 ∧ exponent > Binary64.leastExponent then 1 else 2
  { lower := 4 * significand - belowGap
    centre := 4 * significand
    upper := 4 * significand + 2
    endsIncluded := significand % 2 == 0 }

/-- Whether `point * 10 ^ power` lies in the neighbourhood; `scale` and `unit` carry the
powers of ten and of two to the sides where they are whole. -/
def Neighbourhood.holds (hood : Neighbourhood) (point scale unit : Nat) : Bool :=
  let position := point * unit
  if hood.endsIncluded then
    hood.lower * scale ≤ position && position ≤ hood.upper * scale
  else hood.lower * scale < position && position < hood.upper * scale

/-- The hit on the grid `10 ^ power`, if there is one. -/
def gridPoint? (hood : Neighbourhood) (exponent power : Int) : Option Nat :=
  let twos := exponent - 2
  let scale := twoTo twos.toNat * tenTo (-power).toNat
  let unit := twoTo (-twos).toNat * tenTo power.toNat
  let centre := hood.centre * scale
  let down := centre / unit
  let remainder := centre % unit
  let up := down + 1
  match hood.holds down scale unit, hood.holds up scale unit with
  | true, true =>
    if 2 * remainder < unit || (2 * remainder == unit && down % 2 == 0) then some down
    else some up
  | true, false => some down
  | false, true => some up
  | false, false => none

def stripZeros : Nat → Nat → Int → ShortDecimal
  | 0, digits, exponent => ⟨digits, exponent⟩
  | fuel + 1, digits, exponent =>
    if digits % 10 = 0 then stripZeros fuel (digits / 10) (exponent + 1) else ⟨digits, exponent⟩

/-- Tries ever finer grids; seventeen digits always suffice. -/
def search (hood : Neighbourhood) (exponent : Int) : Nat → Int → ShortDecimal
  | 0, _ => ⟨0, 0⟩
  | fuel + 1, power =>
    match gridPoint? hood exponent power with
    | some digits => stripZeros 20 digits power
    | none => search hood exponent fuel (power - 1)

/-- The shortest decimal for `significand * 2 ^ exponent`. The first grid tried is at
least as coarse as the number itself. -/
def of (significand : Nat) (exponent : Int) : ShortDecimal :=
  if significand = 0 then ⟨0, 0⟩
  else
    let binaryOrder : Int := significand.log2 + exponent
    let decimalOrder : Int := binaryOrder * 30103 / 100000 + 2
    search (Neighbourhood.of significand exponent) exponent 32 decimalOrder

end ShortDecimal

end AssistantEngine
