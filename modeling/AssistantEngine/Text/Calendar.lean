/-!
Moments as texts: the date and the time of day at Greenwich, for seconds counted from the
beginning of 1970. Years are counted from March on, so that a leap day is the last of its year.
-/

namespace AssistantEngine

namespace Text

/-- A number with at least so many digits. -/
def padded (width value : Nat) : String :=
  let digits := Nat.toDigits 10 value
  String.ofList (List.replicate (width - digits.length) '0' ++ digits)

/-- The day after so many days since the beginning of March in the year 0. -/
def dateOfDays (days : Nat) : String :=
  let era := days / 146097
  let dayOfEra := days % 146097
  let yearOfEra := (dayOfEra - dayOfEra / 1460 + dayOfEra / 36524 - dayOfEra / 146096) / 365
  let dayOfYear := dayOfEra - (365 * yearOfEra + yearOfEra / 4 - yearOfEra / 100)
  let month := (5 * dayOfYear + 2) / 153
  let day := dayOfYear - (153 * month + 2) / 5 + 1
  let year := yearOfEra + era * 400 + month / 10
  padded 4 year ++ "-" ++ padded 2 (if month < 10 then month + 3 else month - 9) ++ "-" ++
    padded 2 day

/-- The days from the beginning of March in the year 0 to the beginning of 1970. -/
def daysBefore1970 : Nat := 719468

def moment (seconds : Nat) : String :=
  let time := seconds % 86400
  dateOfDays (seconds / 86400 + daysBefore1970) ++ "T" ++ padded 2 (time / 3600) ++ ":" ++
    padded 2 (time / 60 % 60) ++ ":" ++ padded 2 (time % 60) ++ "+00:00"

end Text

end AssistantEngine
