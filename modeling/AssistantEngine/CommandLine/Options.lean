import AssistantEngine.Settings.Environment

/-!
The command line: options that say where the settings and the checkpoints are, then a command
with options of its own. An option is given as two words, or as one with an equals sign, and
at most once.
-/

namespace AssistantEngine

namespace CommandLine

inductive Command where
  | plugins
  | inspect (workflow : String)
  /-- With a message one turn is taken; without one the turns are read line by line. -/
  | chat (workflow thread : String) (message : Option String)
deriving DecidableEq, Repr

structure Options where
  configPath : String
  /-- The database to use in place of the one that the settings name. -/
  database : Option String
  /-- Without a command only the usage is shown. -/
  command : Option Command
deriving DecidableEq, Repr

/-! ## Words -/

/-- The options that may be given at one place, by spelling, with the name they set. -/
abbrev Spellings := List (String × String)

/-- What the words at one place say. -/
structure Reading where
  values : Catalog String := []
  operands : List String := []
deriving DecidableEq, Repr

namespace Reading

/-- Sets an option that is not set yet. -/
def set? (reading : Reading) (name value : String) : Option Reading :=
  if reading.values.contains name then none
  else some { reading with values := reading.values.insert name value }

end Reading

/-- A single hyphen is an operand. -/
def isOption (word : String) : Bool :=
  match word.toList with
  | '-' :: _ :: _ => true
  | _ => false

/-- The spelling of an option, and its value if that is part of the word. -/
def splitOption (word : String) : String × Option String :=
  match word.toList with
  | '-' :: '-' :: rest =>
    let name := String.ofList ('-' :: '-' :: rest.takeWhile (· ≠ '='))
    match rest.dropWhile (· ≠ '=') with
    | _ :: value => (name, some (String.ofList value))
    | [] => (name, none)
  | first :: letter :: '=' :: value => (String.ofList [first, letter], some (String.ofList value))
  | first :: letter :: more :: value =>
    (String.ofList [first, letter], some (String.ofList (more :: value)))
  | _ => (word, none)

/-- Reads options and operands. With `stops` the first operand ends the reading and the words
after it are operands too; otherwise those after a double hyphen are. -/
def readWords (spellings : Spellings) (stops : Bool) (words : List String) (reading : Reading) :
    Option Reading :=
  match words with
  | [] => some reading
  | word :: rest =>
    if word = "--" then
      if stops then none else some { reading with operands := reading.operands ++ rest }
    else if isOption word then
      match splitOption word, rest with
      | (spelling, some value), rest => do
        let name ← spellings.lookup spelling
        readWords spellings stops rest (← reading.set? name value)
      | (spelling, none), value :: rest =>
        if isOption value then none
        else do
          let name ← spellings.lookup spelling
          readWords spellings stops rest (← reading.set? name value)
      | (_, none), [] => none
    else if stops then some { reading with operands := reading.operands ++ word :: rest }
    else readWords spellings stops rest { reading with operands := reading.operands ++ [word] }
termination_by words.length

/-! ## Commands -/

def globalSpellings : Spellings := [("--config", "config"), ("--db", "db")]

def chatSpellings : Spellings :=
  [("--thread", "thread"), ("--message", "message"), ("-m", "message")]

def readCommand (name : String) (words : List String) : Option Command :=
  match name with
  | "plugins" => do
    let ⟨_, []⟩ ← readWords [] false words {} | none
    some .plugins
  | "inspect" => do
    let ⟨_, [workflow]⟩ ← readWords [] false words {} | none
    some (.inspect workflow)
  | "chat" => do
    let ⟨values, [workflow]⟩ ← readWords chatSpellings false words {} | none
    some (.chat workflow ((values.find? "thread").getD "cli") (values.find? "message"))
  | _ => none

/-- The options of a command line; those that are not given are looked up in the environment.
Without a result the command line is not understood. -/
def Options.read? (environment : Environment) (words : List String) : Option Options := do
  let reading ← readWords globalSpellings true words {}
  let value (name fallback : String) : Option String :=
    (reading.values.find? name).or (environment.value? fallback)
  some {
    configPath := (value "config" "SWITCHYARD_CONFIG").getD "switchyard.yaml"
    database := value "db" "SWITCHYARD_DB_PATH"
    command := ←
      match reading.operands with
      | [] => some none
      | name :: words => (readCommand name words).map some }

def usage : String :=
  String.join [
    "Usage: switchyard [--config FILE] [--db FILE] COMMAND\n\nCommands:\n",
    "  plugins\n  inspect WORKFLOW\n  chat WORKFLOW [--thread THREAD] [--message TEXT]\n"]

end CommandLine

end AssistantEngine
