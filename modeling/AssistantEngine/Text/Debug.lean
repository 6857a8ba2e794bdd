import AssistantEngine.Json.Printer
import AssistantEngine.Text.Extending
import AssistantEngine.Text.Hexadecimal
import AssistantEngine.Text.Printable

/-!
Texts of records for logs: the name of the record with its fields in braces, texts in
quotes, lists in brackets.
-/

namespace AssistantEngine

namespace Debug

/-- Whether a character stands for itself between quotes. Below 128 only controls do not. -/
def standsAlone (character : Char) : Bool :=
  if character.toNat < 128 then 32 ≤ character.toNat && character.toNat ≠ 127
  else Text.isPrintable character && !Text.isExtending character

/-- Quotes, backslashes and the characters that cannot be told apart by sight are escaped. -/
def escapeChar (character : Char) : List Char :=
  if character = '"' then ['\\', '"']
  else if character = '\\' then ['\\', '\\']
  else if character = '\n' then ['\\', 'n']
  else if character = '\r' then ['\\', 'r']
  else if character = '\t' then ['\\', 't']
  else if character.toNat = 0 then ['\\', '0']
  else if standsAlone character then [character]
  else ['\\', 'u', '\x7b'] ++ Text.hexDigits character.toNat ++ ['\x7d']

def quoted (text : String) : String :=
  "\"" ++ String.ofList (text.toList.flatMap escapeChar) ++ "\""

def bool (value : Bool) : String := if value then "true" else "false"

def listed (texts : List String) : String := "[" ++ String.intercalate ", " texts ++ "]"

def option {α : Type} (display : α → String) : Option α → String
  | some value => "Some(" ++ display value ++ ")"
  | none => "None"

/-- A record with named fields. -/
def record (name : String) (fields : List (String × String)) : String :=
  let written := fields.map fun field => field.1 ++ ": " ++ field.2
  name ++ " \x7b " ++ String.intercalate ", " written ++
    " \x7d"

end Debug

end AssistantEngine
