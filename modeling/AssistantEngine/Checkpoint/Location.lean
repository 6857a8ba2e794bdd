import AssistantEngine.Number.Numeral
import AssistantEngine.Text.Blank
import AssistantEngine.Text.Hexadecimal

/-!
Where a database lies. It is named by the path of a file, or by an address with the scheme
`file`, whose options say how the file may be used. Some names stand for a database that
nobody keeps.
-/

namespace AssistantEngine

/-- What may be done with the file of a database. -/
inductive FileAccess where
  | readOnly
  | readWrite
  | create
  | memory
deriving DecidableEq, Repr

namespace FileAccess

def names : List (String × FileAccess) :=
  [("ro", .readOnly), ("rw", .readWrite), ("rwc", .create), ("memory", .memory)]

/-- What an access takes for granted, in ascending order. -/
def need : FileAccess → Nat
  | .memory => 0
  | .readOnly => 1
  | .readWrite => 2
  | .create => 6

/-- What an access, once chosen, leaves for a later choice. -/
def leave : FileAccess → Nat
  | .memory => 128
  | access => access.need

end FileAccess

/-- How the file of a database is to be used. -/
structure FileUse where
  access : FileAccess := .create
  /-- Whether the file is taken for one that never changes. -/
  frozen : Bool := false
  /-- A file, which has to be there, whose permissions a new one takes over. -/
  model : Option String := none
deriving DecidableEq, Repr

inductive DatabaseLocation where
  | unkept
  /-- A new database that nothing can be written to, not even its table. -/
  | unwritable
  | file (path : String) (use : FileUse)
deriving DecidableEq, Repr

namespace DatabaseLocation

def startsFileAddress : List Char → Option (List Char)
  | 'f' :: 'i' :: 'l' :: 'e' :: ':' :: rest => some rest
  | _ => none

/-- The bytes of a part of an address; a byte of value zero ends it. -/
def decodeBytes : List Char → List UInt8
  | '%' :: first :: second :: rest =>
    match Text.hexValue? [first, second] with
    | some value => if value = 0 then [] else value.toUInt8 :: decodeBytes rest
    | none => '%'.toUInt8 :: decodeBytes (first :: second :: rest)
  | character :: rest => character.toString.toUTF8.toList ++ decodeBytes rest
  | [] => []

def decode (part : List Char) : String :=
  (String.fromUTF8? ⟨(decodeBytes part).toArray⟩).getD (String.ofList part)

def splitOptions (characters : List Char) : List (List Char) :=
  characters.foldr (fun character parts =>
    match parts with
    | part :: parts =>
      if character == '&' then [] :: part :: parts else (character :: part) :: parts
    | [] => [[character]]) [[]]

/-- An option is a name and a value, which may be empty; one without a name is passed over. -/
def option? (part : List Char) : Option (String × String) :=
  let name := part.takeWhile (· ≠ '=')
  if name.isEmpty then none else some (decode name, decode ((part.dropWhile (· ≠ '=')).drop 1))

/-- What the options of an address ask for. -/
structure Request where
  access : FileAccess := .create
  storage : String := "unix"

/-- The storages there are; that of the name `memdb` keeps nothing. -/
def storages : List String :=
  ["unix", "unix-dotfile", "unix-excl", "unix-none", "memdb"]

/-- How one option changes what those before it ask for. Of several storages the last is
meant. -/
def applyOption (request : Request) (name value : String) : Option Request :=
  if name = "vfs" then some { request with storage := value }
  else if name = "cache" then
    if ["shared", "private"].contains value then some request else none
  else if name = "mode" then
    match FileAccess.names.lookup value with
    | some chosen =>
      if chosen.need ≤ request.access.leave then some { request with access := chosen } else none
    | none => none
  else some request

/-- Whether digits stand for a number of at most 31 bits of which one of the last eight is set. -/
def isSet (digits : List Char) (base : Nat) : Bool :=
  (Numeral.natural? base digits).any fun value => value < twoTo 31 && value % 256 ≠ 0

/-- Whether the value of an option says yes: a word, or a number other than zero, of which
what does not belong to it is passed over. -/
def saysYes (value : String) : Bool :=
  match value.toList with
  | '0' :: 'x' :: rest | '0' :: 'X' :: rest =>
    isSet (rest.takeWhile fun character => (Text.hexDigitValue? character).isSome) 16
  | first :: rest =>
    if first.isDigit then isSet ((first :: rest).takeWhile Char.isDigit) 10
    else ["on", "yes", "true"].contains (Text.asciiLower value)
  | [] => false

/-- The path of an address, without the name of a host; there is only one host. The name ends
at a slash only. -/
def withoutHost? (characters : List Char) : Option (List Char) :=
  match characters with
  | '/' :: '/' :: rest =>
    let host := rest.takeWhile (· ≠ '/')
    if host.isEmpty || host == "localhost".toList then some (rest.dropWhile (· ≠ '/')) else none
  | path => some path

/-- A database without a file, which is new. -/
def fresh (writable : Bool) : DatabaseLocation := if writable then .unkept else .unwritable

def ofPath (path storage : String) (use : FileUse) : DatabaseLocation :=
  if use.access = .memory then .unkept
  else if path.isEmpty || path = ":memory:" then fresh (use.access ≠ .readOnly)
  else if storage = "memdb" then fresh (use.access ≠ .readOnly && !use.frozen)
  else .file path use

/-- What a name of a database means, if it means anything. -/
def ofName? (name : String) : Option DatabaseLocation :=
  if name.toList.contains (Char.ofNat 0) then none
  else
    match startsFileAddress name.toList with
    | none => some (ofPath name "unix" {})
    | some address => do
      let address := (← withoutHost? address).takeWhile (· ≠ '#')
      let options := (splitOptions ((address.dropWhile (· ≠ '?')).drop 1)).filterMap option?
      let request ← options.foldlM (fun request (name, value) => applyOption request name value) {}
      let use : FileUse :=
        { access := request.access
          frozen := (options.lookup "immutable").any saysYes
          model := options.lookup "modeof" }
      if !storages.contains request.storage then none
      else some (ofPath (decode (address.takeWhile (· ≠ '?'))) request.storage use)

end DatabaseLocation

end AssistantEngine
