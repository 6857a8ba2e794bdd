/-!
Finding phrases in texts.
-/

namespace AssistantEngine

namespace Text

/-- What stands before the first occurrence of a phrase. -/
def beforeChars? (phrase : List Char) : List Char → Option (List Char)
  | [] => if phrase.isEmpty then some [] else none
  | character :: rest =>
    if phrase.isPrefixOf (character :: rest) then some []
    else (beforeChars? phrase rest).map (character :: ·)

def before? (phrase text : String) : Option String :=
  (beforeChars? phrase.toList text.toList).map String.ofList

/-- What stands after the first occurrence of a phrase. -/
def afterChars? (phrase : List Char) : List Char → Option (List Char)
  | [] => if phrase.isEmpty then some [] else none
  | character :: rest =>
    if phrase.isPrefixOf (character :: rest) then some ((character :: rest).drop phrase.length)
    else afterChars? phrase rest

def after? (phrase text : String) : Option String :=
  (afterChars? phrase.toList text.toList).map String.ofList

/-- A text without the phrase that it begins with. -/
def without? (phrase text : String) : Option String :=
  if phrase.toList.isPrefixOf text.toList then
    some (String.ofList (text.toList.drop phrase.length))
  else none

/-- The lines of a text; an empty one after the last line break does not count. -/
def lines (text : String) : List String :=
  let pieces := text.splitOn "\n"
  if pieces.getLast? = some "" then pieces.dropLast else pieces

end Text

end AssistantEngine
