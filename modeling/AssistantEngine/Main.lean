import AssistantEngine.CommandLine.Run
import AssistantEngine.Json.Parser
import AssistantEngine.Text.Calendar
import Std.Time.DateTime

/-!
The program: it collects the surroundings of a command line, runs the command, and writes
what the command writes. Checkpoints are kept as JSON. Neither subprocesses nor the network
are within its reach.
-/

namespace AssistantEngine

namespace CommandLine

/-! ## Surroundings -/

def variablesOf (names : List String) : IO Environment :=
  names.foldlM (fun environment name => do
    match ← IO.getEnv name with
    | some value => return environment.insert name value
    | none => return environment) []

/-- How many levels of directories are looked into. -/
def deepestDirectory : Nat := 8

/-- The files and directories at a path, as far as they can be read. -/
def loadTree : Nat → String → IO (Option FileTree)
  | 0, _ => return none
  | depth + 1, path => do
    try
      let place ← IO.FS.realPath path
      if ← place.isDir then
        let entries ← place.readDir
        let trees ← entries.toList.filterMapM fun entry => do
          return (← loadTree depth entry.path.toString).map fun tree => (entry.fileName, tree)
        return some (.directory (Catalog.ofList trees))
      else return some (.file (← IO.FS.readFile path))
    catch _ => return none

def loadInto (files : FileSystem) (path : String) : IO FileSystem := do
  match ← loadTree deepestDirectory path with
  | some tree => return { files with tree := files.tree.place (files.resolve path) tree }
  | none => return files

/-- Notes the directory that a file would lie in, if that directory is there. -/
def noteParent (files : FileSystem) (path : String) : IO FileSystem := do
  let parent := (Path.parent? path).getD ""
  let parent := if parent.isEmpty then "." else parent
  try
    let place ← IO.FS.realPath parent
    if ← place.isDir then return files.makeDirectory parent else return files
  catch _ => return files

/-- The database of a file goes to the shelf, if the file holds one. -/
def shelve (surroundings : Surroundings) (name : String) : IO Surroundings := do
  let some (.file path use) := DatabaseLocation.ofName? name | return surroundings
  let files ← (path :: use.model.toList).foldlM loadInto (← noteParent surroundings.files path)
  match (files.read? path).bind fun text => (Json.parse text).bind Database.ofJson? with
  | some database =>
    return { surroundings with
      files := files.write path ""
      shelf := surroundings.shelf.keep files name database }
  | none => return { surroundings with files := files }

def refuse : Transport → Except DialFailure ProtocolPeer
  | .http url | .eventStream url => .error (.noSession (HttpRequest.sendingText url))
  | .subprocess .. => .error (.notStarted "subprocesses are not supported")

def collect (options : Options) (known : List String) : IO Surroundings := do
  let directory ← IO.currentDir
  let files ← loadInto { workingDirectory := Path.names directory.toString } options.configPath
  let text := (files.read? options.configPath).getD ""
  let now ← Std.Time.Timestamp.now
  let surroundings : Surroundings := {
    environment := ← variablesOf (known ++ Environment.mentioned text)
    files := files
    dial := refuse
    clock := Text.moment now.toSecondsSinceUnixEpoch.val.toNat }
  match loadSettings surroundings options with
  | .error _ => return surroundings
  | .ok settings =>
    let paths := settings.workflowDirectoryOrDefault :: settings.pluginDirectories
    shelve { surroundings with files := ← paths.foldlM loadInto files } settings.checkpointDatabase

/-- Writes the databases of the shelf to their files. -/
def store (surroundings : Surroundings) : IO Unit :=
  surroundings.shelf.forM fun (place, database) => do
    match Path.parent? place with
    | some parent => IO.FS.createDirAll parent
    | none => return
    IO.FS.writeFile place database.toJson.compact

/-! ## Running -/

def put (text : String) : IO Unit := do
  let output ← IO.getStdout
  output.putStr text
  output.flush

def finish (report : Report) (surroundings : Surroundings) : IO UInt32 := do
  put report.output
  report.errors.forM IO.eprintln
  store surroundings
  return report.exit.toUInt32

/-- Reads lines until the conversation ends; the checkpoints are stored after each line. -/
partial def listen (surroundings : Surroundings) (launched : Launched)
    (conversation : Conversation) : IO UInt32 := do
  let line ← (← IO.getStdin).getLine
  if line.isEmpty then
    finish {} (shutdown surroundings { launched with client := conversation.client })
  else
    let (shown, standing, conversation) := conversation.hear line
    let surroundings := shutdown surroundings { launched with client := conversation.client }
    match standing with
    | .open =>
      put shown
      store surroundings
      listen surroundings launched conversation
    | .over => finish { output := shown } surroundings
    | .failed fault => finish (Report.ofFault shown fault) surroundings

def talk (surroundings : Surroundings) (options : Options) (workflow thread : String) :
    IO UInt32 := do
  match launch surroundings options with
  | (.error message, surroundings) => finish (Report.failed "" message) surroundings
  | (.ok launched, surroundings) =>
    match Conversation.start workflow thread launched.client with
    | (.error fault, _) => finish (Report.ofFault "" fault) surroundings
    | (.ok shown, conversation) =>
      put shown
      listen surroundings launched conversation

end CommandLine

end AssistantEngine

open AssistantEngine CommandLine in
def main (words : List String) : IO UInt32 := do
  let known := ["HOME", "SWITCHYARD_CONFIG", "SWITCHYARD_DB_PATH"]
  match Options.read? (← variablesOf known) words with
  | none => finish Report.misused {
      dial := refuse
      clock := "" }
  | some options =>
    let surroundings ← collect options known
    match options.command with
    | some (.chat workflow thread none) => talk surroundings options workflow thread
    | _ =>
      let (report, surroundings) := run surroundings words []
      finish report surroundings
