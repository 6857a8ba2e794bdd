import AssistantEngine.Json.Printer
import AssistantEngine.Text.Blank
import AssistantEngine.Text.Hexadecimal

/-!
Handoff tools: for each assistant that control may pass to, a tool that passes it. Names
of tools are ASCII and at most 64 characters long, and those of one assistant are distinct.
-/

namespace AssistantEngine

structure HandoffTool where
  name : String
  destination : String
deriving DecidableEq, Repr

namespace HandoffTool

def nameStart : List Char := "transfer_to_".toList

def longestName : Nat := 64

/-- ASCII letters and digits in lower case, an underscore for other ASCII characters, and
the code point in hexadecimal for all others. -/
def slugChar (character : Char) : List Char :=
  if character.isAlphanum then [character.toLower]
  else if character.toNat < 128 then ['_']
  else 'u' :: Text.hexDigits character.toNat

def slug (destination : String) : List Char :=
  let characters := (Text.trim destination).toList.flatMap slugChar
  if characters.isEmpty then "assistant".toList else characters

def baseChars (destination : String) : List Char :=
  (nameStart ++ slug destination).take longestName

/-- The name for a destination as long as no other tool has it. -/
def baseName (destination : String) : String := String.ofList (baseChars destination)

/-- The base with a number, shortened where the number needs the room. -/
def numberedName (base : List Char) (number : Nat) : String :=
  let ending := '_' :: Json.decimalDigits number
  String.ofList (base.take (longestName - ending.length) ++ ending)

/-- The first number from `number` on whose name is free. Among one more numbers than there
are used names one is free. -/
def freeNumbered (used : List String) (base : List Char) : Nat → Nat → String
  | 0, number => numberedName base number
  | fuel + 1, number =>
    let name := numberedName base number
    if used.contains name then freeNumbered used base fuel (number + 1) else name

def freeName (used : List String) (destination : String) : String :=
  let base := baseChars destination
  if used.contains (String.ofList base) then freeNumbered used base used.length 2
  else String.ofList base

/-- One tool per destination, in order, none under a name that is used. -/
def forDestinations (used : List String) : List String → List HandoffTool
  | [] => []
  | destination :: rest =>
    let name := freeName used destination
    ⟨name, destination⟩ :: forDestinations (name :: used) rest

def ofDestination (destination : String) : HandoffTool := ⟨baseName destination, destination⟩

def description (tool : HandoffTool) : String :=
  s!"Transfer the conversation to {tool.destination}."

/-- The answer to a call that passes control. -/
def acknowledgement (tool : HandoffTool) : String :=
  s!"Successfully transferred to {tool.destination}"

end HandoffTool

end AssistantEngine
