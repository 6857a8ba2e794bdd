/-!
Durations in milliseconds, written with the largest unit that fits: seconds with a
fraction where needed, else milliseconds, and zero in nanoseconds.
-/

namespace AssistantEngine

namespace Text

/-- Thousandths as a decimal fraction without trailing zeros. -/
def thousandths (value : Nat) : String :=
  if value = 0 then ""
  else
    let digits := [value / 100, value / 10 % 10, value % 10]
    let kept := (digits.reverse.dropWhile (· = 0)).reverse
    "." ++ String.join (kept.map toString)

def duration (milliseconds : Nat) : String :=
  if milliseconds ≥ 1000 then
    toString (milliseconds / 1000) ++ thousandths (milliseconds % 1000) ++ "s"
  else if milliseconds > 0 then toString milliseconds ++ "ms"
  else "0ns"

end Text

end AssistantEngine
