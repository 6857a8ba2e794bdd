import AssistantEngine.Number.Numeral
import AssistantEngine.Text.Blank

/-!
Which texts tell a moment: a date, the time of day, and how far that place is ahead of
Greenwich. Blanks may stand between the parts of the date and of the time.
-/

namespace AssistantEngine

namespace Text

namespace Moment

def isLeap (year : Int) : Bool := year % 4 = 0 && (year % 100 ≠ 0 || year % 400 = 0)

def daysIn (year : Int) (month : Nat) : Nat :=
  if month = 2 then (if isLeap year then 29 else 28)
  else if [4, 6, 9, 11].contains month then 30
  else 31

/-- Years that are further away have no calendar. -/
def isYear (year : Int) : Bool := -262143 ≤ year && year ≤ 262142

/-- A character after blanks; answers what follows. -/
def expect? (character : Char) (characters : List Char) : Option (List Char) :=
  match trimStartChars characters with
  | first :: rest => if first = character then some rest else none
  | [] => none

/-- The number of the digits in front, of which at most `most` count. -/
def digits? (most : Nat) (characters : List Char) : Option (Nat × List Char) :=
  let digits := (characters.take most).takeWhile Char.isDigit
  (Numeral.natural? 10 digits).map (·, characters.drop digits.length)

def number? (most : Nat) (characters : List Char) : Option (Nat × List Char) :=
  digits? most (trimStartChars characters)

/-- Four digits, or as many as there are after a sign. -/
def year? (characters : List Char) : Option (Int × List Char) :=
  match trimStartChars characters with
  | '-' :: rest => (digits? rest.length rest).map fun (year, rest) => (-(year : Int), rest)
  | '+' :: rest => (digits? rest.length rest).map fun (year, rest) => ((year : Int), rest)
  | rest => (digits? 4 rest).map fun (year, rest) => ((year : Int), rest)

/-- Reads a date. -/
def date? (characters : List Char) : Option (List Char) := do
  let (year, rest) ← year? characters
  let (month, rest) ← number? 2 (← expect? '-' rest)
  let (day, rest) ← number? 2 (← expect? '-' rest)
  if isYear year && 1 ≤ month && month ≤ 12 && 1 ≤ day && day ≤ daysIn year month then some rest
  else none

/-- Reads a fraction of a second, if there is one. -/
def fraction? : List Char → Option (List Char)
  | '.' :: rest => if (rest.takeWhile Char.isDigit).isEmpty then none
    else some (rest.dropWhile Char.isDigit)
  | rest => some rest

/-- Reads a time of day. A minute may have a leap second. -/
def time? (characters : List Char) : Option (List Char) := do
  let (hour, rest) ← number? 2 characters
  let (minute, rest) ← number? 2 (← expect? ':' rest)
  let (second, rest) ← number? 2 (← expect? ':' rest)
  if hour < 24 && minute < 60 && second ≤ 60 then fraction? rest else none

/-- Reads two digits. -/
def pair? : List Char → Option (Nat × List Char)
  | tens :: ones :: rest => (Numeral.natural? 10 [tens, ones]).map (·, rest)
  | _ => none

/-- Reads a difference of less than a day from the time at Greenwich. -/
def offset? : List Char → Option (List Char)
  | 'Z' :: rest | 'z' :: rest => some rest
  | sign :: rest => do
    if !(['+', '-', '−'].contains sign) then none
    let (hours, rest) ← pair? rest
    let (minutes, rest) ← pair? (rest.dropWhile fun character =>
      character = ':' || isBlank character)
    if hours < 24 && minutes < 60 then some rest else none
  | [] => none

/-- Reads where the time is taken. -/
def place? (characters : List Char) : Option (List Char) :=
  let characters := trimStartChars characters
  if (characters.take 3).map Char.toUpper = ['U', 'T', 'C'] then some (characters.drop 3)
  else offset? characters

end Moment

def isMoment (text : String) : Bool :=
  let rest? := do
    match ← Moment.date? text.toList with
    | separator :: rest =>
      if ['T', 't', ' '].contains separator then Moment.place? (← Moment.time? rest) else none
    | [] => none
  rest?.any fun rest => rest.all isBlank

end Text

end AssistantEngine
