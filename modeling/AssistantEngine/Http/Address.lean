import AssistantEngine.Http.Host

/-!
Addresses of the web in their plain form: the scheme and the host in lower case, no port
where it goes without saying, no steps to the same or the outer directory, and every
character that does not stand for itself written as its bytes.
-/

namespace AssistantEngine

/-- An address of a server with what lies there, or of something that has no server. -/
inductive Address where
  | hosted (scheme host : String) (port : Option Nat) (path : String)
  | unhosted (scheme path : String)
deriving DecidableEq, Repr

namespace Address

/-! ## Characters -/

/-- A byte as a percent sign and two digits in upper case. -/
def encodeByte (byte : UInt8) : List Char :=
  let digits := (Text.hexDigits byte.toNat).map Char.toUpper
  '%' :: (List.replicate (2 - digits.length) '0' ++ digits)

def encodeChar (character : Char) : List Char :=
  character.toString.toUTF8.toList.flatMap encodeByte

/-- Controls and what is not ASCII never stand for themselves, and neither do the reserved
characters. -/
def encode (reserved : List Char) (characters : List Char) : String :=
  String.ofList <| characters.flatMap fun character =>
    if character.toNat < 32 || 126 < character.toNat || reserved.contains character then
      encodeChar character
    else [character]

def isControl (character : Char) : Bool := character.toNat < 32 || character.toNat = 127

def fragmentReserved : List Char := [' ', '"', '<', '>', Char.ofNat 96]

def pathReserved : List Char := fragmentReserved ++ ['#', '?', '\x7b', '\x7d']

def queryReserved : List Char := [' ', '"', '#', '<', '>']

/-- In the addresses of the web a query has no single quotes either. -/
def webQueryReserved : List Char := '\'' :: queryReserved

/-! ## Parts -/

/-- The default port of each scheme whose addresses name a server. -/
def defaultPorts : List (String × Nat) :=
  [("http", 80), ("https", 443), ("ws", 80), ("wss", 443), ("ftp", 21)]

def isLetter (character : Char) : Bool :=
  ('a' ≤ character && character ≤ 'z') || ('A' ≤ character && character ≤ 'Z')

/-- The scheme, in lower case, and what follows its colon. -/
def splitScheme? (characters : List Char) : Option (String × List Char) :=
  let belongs (character : Char) : Bool :=
    isLetter character || Host.isDigit character || ['+', '-', '.'].contains character
  let scheme := characters.takeWhile belongs
  match characters.dropWhile belongs with
  | ':' :: rest =>
    if scheme.head?.any isLetter then some (Text.asciiLower (String.ofList scheme), rest) else none
  | _ => none

/-- A port after its colon. None is given if the default one is meant. -/
def port? (scheme : String) (digits : List Char) : Option (Option Nat) :=
  if digits.isEmpty then some none
  else if !digits.all Host.isDigit then none
  else
    let port := digits.foldl (fun value digit => value * 10 + (digit.toNat - 48)) 0
    if 65535 < port then none
    else if defaultPorts.lookup scheme = some port then some none
    else some (some port)

def isSeparator (character : Char) : Bool := character = '/' || character = '\\'

def endsServer (character : Char) : Bool :=
  isSeparator character || character = '?' || character = '#'

/-- A step to the directory itself; a point may be written as its byte. -/
def isSameStep (segment : List Char) : Bool :=
  [".", "%2e"].contains (Text.asciiLower (String.ofList segment))

def isOuterStep (segment : List Char) : Bool :=
  ["..", ".%2e", "%2e.", "%2e%2e"].contains (Text.asciiLower (String.ofList segment))

/-- The segments of a path without steps, given those before it, last first. A step at the
end leaves an empty segment. -/
def walk (taken : List (List Char)) : List (List Char) → List (List Char)
  | [] => taken.reverse
  | [last] =>
    if isOuterStep last then ([] :: taken.drop 1).reverse
    else if isSameStep last then ([] :: taken).reverse
    else (last :: taken).reverse
  | segment :: rest =>
    if isOuterStep segment then walk (taken.drop 1) rest
    else if isSameStep segment then walk taken rest
    else walk (segment :: taken) rest

/-- The query and the fragment, with their marks. -/
def tail (reserved characters : List Char) : String :=
  let query := characters.takeWhile (· ≠ '#')
  let fragment := characters.dropWhile (· ≠ '#')
  let shownQuery :=
    match query with
    | '?' :: query => "?" ++ encode reserved query
    | _ => ""
  let shownFragment :=
    match fragment with
    | '#' :: fragment => "#" ++ encode fragmentReserved fragment
    | _ => ""
  shownQuery ++ shownFragment

def endsPath (character : Char) : Bool := character = '?' || character = '#'

/-- What stands in front of the query and the fragment, and these. -/
def splitPath (characters : List Char) : List Char × List Char :=
  (characters.takeWhile fun character => !endsPath character,
    characters.dropWhile fun character => !endsPath character)

/-- The segments of a path without steps, and the query and fragment. -/
def stepped (reserved characters : List Char) : String :=
  let (path, rest) := splitPath characters
  let segments := (walk [] (Host.splitOnChar '/' path)).map (encode pathReserved)
  "/" ++ Text.join "/" segments ++ tail reserved rest

/-- A path in which both slashes mean the same. -/
def slashed (characters : List Char) : List Char :=
  let (path, rest) := splitPath characters
  path.map (fun character => if character = '\\' then '/' else character) ++ rest

/-- The host and the port of a server. What stands before a last `@` is the name of a user. -/
def server? (scheme : String) (host? : List Char → Option String) (characters : List Char) :
    Option (String × Option Nat) := do
  let server :=
    if characters.contains '@' then (characters.reverse.takeWhile (· ≠ '@')).reverse
    else characters
  let inBrackets := server.head? == some '['
  let name :=
    if inBrackets then server.takeWhile (· ≠ ']') ++ (server.dropWhile (· ≠ ']')).take 1
    else server.takeWhile (· ≠ ':')
  let host ← host? name
  match server.drop name.length with
  | [] => some (host, none)
  | ':' :: digits => (port? scheme digits).map (host, ·)
  | _ => none

/-- Server, path and what follows, after the scheme. -/
def ofServer? (scheme : String) (characters : List Char) : Option Address := do
  let characters := characters.dropWhile isSeparator
  let (host, port) ←
    server? scheme Host.ofText? (characters.takeWhile fun character => !endsServer character)
  let rest := characters.dropWhile fun character => !endsServer character
  let path := if rest.head?.any isSeparator then rest.drop 1 else rest
  some (.hosted scheme host port (stepped webQueryReserved (slashed path)))

/-! ## Other schemes -/

/-- A host of which nothing is known but its characters. -/
def otherHost? : List Char → Option String
  | '[' :: rest => Host.ofGroups? rest
  | name =>
    if name.any fun character => Host.isForbidden character && !isControl character then none
    else some (encode [] name)

/-- An address of a scheme of its own, after the scheme. -/
def ofOther? (scheme : String) (characters : List Char) : Option Address :=
  let ends (character : Char) : Bool := character = '/' || endsPath character
  match characters with
  | '/' :: '/' :: rest => do
    let written := rest.takeWhile fun character => !ends character
    let (host, port) ← server? scheme otherHost? written
    if host.isEmpty && !written.isEmpty then none
    else
      some (.hosted scheme host port
        (match rest.dropWhile fun character => !ends character with
          | '/' :: path => stepped queryReserved path
          | rest => tail queryReserved rest))
  | '/' :: path =>
    let shown := stepped queryReserved path
    some (.unhosted scheme (if shown.startsWith "//" then "/." ++ shown else shown))
  | characters =>
    let (path, rest) := splitPath characters
    some (.unhosted scheme (encode [] path ++ tail queryReserved rest))

/-- An address of a file, after the scheme. The host at which it is looked up goes without
saying. -/
def ofFile? (characters : List Char) : Option Address :=
  match slashed characters with
  | '/' :: '/' :: rest =>
    let name := rest.takeWhile fun character => !endsServer character
    let rest := rest.dropWhile fun character => !endsServer character
    let path :=
      stepped webQueryReserved (if rest.head? == some '/' then rest.drop 1 else rest)
    if name.isEmpty then some (.hosted "file" "" none path)
    else
      (Host.ofText? name).map fun host =>
        .hosted "file" (if host = "localhost" then "" else host) none path
  | '/' :: path | path => some (.hosted "file" "" none (stepped webQueryReserved path))

/-- Controls and blanks around an address do not belong to it, and neither do tabs and ends
of lines in it. -/
def clean (text : String) : List Char :=
  let outside (character : Char) : Bool := character.toNat ≤ 32
  let trimmed := ((text.toList.dropWhile outside).reverse.dropWhile outside).reverse
  trimmed.filter fun character => !(['\t', '\n', '\r'].contains character)

/-- The address that a text stands for, if it stands for one. -/
def ofText? (text : String) : Option Address := do
  let (scheme, rest) ← splitScheme? (clean text)
  if (defaultPorts.lookup scheme).isSome then ofServer? scheme rest
  else if scheme = "file" then ofFile? rest
  else ofOther? scheme rest

def text : Address → String
  | .hosted scheme host port path =>
    let shownPort :=
      match port with
      | some port => s!":{port}"
      | none => ""
    s!"{scheme}://{host}{shownPort}{path}"
  | .unhosted scheme path => s!"{scheme}:{path}"

/-- Whether there is a server, and it has a name. -/
def hasHost : Address → Bool
  | .hosted _ host _ _ => !host.isEmpty
  | .unhosted .. => false

/-- Whether requests can be sent there. -/
def isReachable : Address → Bool
  | .hosted scheme host _ _ => (scheme = "http" || scheme = "https") && Host.isAddressable host
  | .unhosted .. => false

end Address

end AssistantEngine
