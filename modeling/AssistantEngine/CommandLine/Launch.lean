import AssistantEngine.Chat.Hosted
import AssistantEngine.Checkpoint.Shelf
import AssistantEngine.CommandLine.Options
import AssistantEngine.Engine.Basic
import AssistantEngine.Plugin.ContextProtocol
import AssistantEngine.RuntimeCache.Client

/-!
Setting an engine up for one command: its settings, its database, and whom it can reach, all
taken from the surroundings that the command is given in.
-/

namespace AssistantEngine

namespace CommandLine

/-- What a command finds around it. -/
structure Surroundings where
  environment : Environment := []
  files : FileSystem := {}
  shelf : DatabaseShelf := []
  network : Network := Network.unreachable
  dial : Transport → Except DialFailure ProtocolPeer
  /-- The time of day, as it is shown. -/
  clock : String

/-- The turns that an engine is asked for yield their output or a fault. -/
abbrev Client := RuntimeCache.Client World CompiledRuntime Resource (Except Fault RunOutput)

structure Launched where
  settings : Settings
  client : Client

/-- The settings of a file; without the file those that hold by default. -/
def settingsAt (surroundings : Surroundings) (path : String) : Except Fault Settings :=
  if path.isEmpty || !surroundings.files.contains path then
    .ok (Settings.default surroundings.environment)
  else
    match surroundings.files.read? path with
    | some text => Settings.ofYaml surroundings.environment text
    | none =>
      .error (.config s!"Failed to read config file '{path}': Is a directory (os error 21)")

def loadSettings (surroundings : Surroundings) (options : Options) : Except Fault Settings :=
  (settingsAt surroundings options.configPath).map fun settings =>
    { settings with checkpointDatabase := options.database.getD settings.checkpointDatabase }

/-- An engine in a world with this database. -/
def clientOf (surroundings : Surroundings) (settings : Settings) (database : Database) : Client :=
  { builder := Engine.builder settings
    state := Engine.start (Engine.world settings surroundings.files
      (.directory settings.workflowDirectoryOrDefault) database
      (ChatModel.hosted settings.model surroundings.network)
      (ContextProtocol.reach surroundings.dial))
    fuel := 1000000 }

/-- Sets the engine up, or says why that is not possible; answers also the surroundings as they
are then. -/
def launch (surroundings : Surroundings) (options : Options) :
    Except String Launched × Surroundings :=
  match loadSettings surroundings options with
  | .error fault =>
    (.error s!"Failed to load config '{options.configPath}': {fault.message}", surroundings)
  | .ok settings =>
    let (database, files) :=
      surroundings.shelf.openAt surroundings.files settings.checkpointDatabase
    let surroundings := { surroundings with files := files }
    match database with
    | .error fault => (.error s!"Failed to start engine: {fault.message}", surroundings)
    | .ok database => (.ok ⟨settings, clientOf surroundings settings database⟩, surroundings)

/-- Shuts the engine down and puts its database back. -/
def shutdown (surroundings : Surroundings) (launched : Launched) : Surroundings :=
  let (_, client) := launched.client.ask (Engine.shutdown ·)
  { surroundings with
    shelf := surroundings.shelf.keep surroundings.files launched.settings.checkpointDatabase
      client.state.world.database }

end CommandLine

end AssistantEngine
