import AssistantEngine.Artifact.Store
import AssistantEngine.Fault
import AssistantEngine.Number.Power
import AssistantEngine.Reading.Field
import AssistantEngine.Settings.Environment
import AssistantEngine.Storage.Path

/-!
The engine's settings, read from a YAML text after its environment references have been
replaced.
-/

namespace AssistantEngine

open Reading

/-- Which language model is asked, and how. -/
structure ModelSettings where
  adapter : String := "openai"
  baseUrl : String := "https://api.openai.com/v1"
  apiKey : String := ""
  model : String := "gpt-4o-mini"
  temperature : Option Binary64 := none
  maxTokens : Nat := 4096
  timeoutSeconds : Nat := 300
deriving DecidableEq, Repr

structure Settings where
  checkpointDatabase : String := "switchyard.db"
  pluginDirectories : List String
  workflowDirectory : Option String := none
  resultCacheCapacity : Nat := ArtifactStore.defaultCapacity
  handshakeTimeout : Nat := 10000
  rebuildDebounce : Nat := 200
  maxAgentSteps : Nat := 16
  allowSelfHandoff : Bool := false
  model : ModelSettings := {}
deriving DecidableEq, Repr

namespace Settings

/-- Plugins are looked for beside the program and in the user's home directory. -/
def defaultPluginDirectories (environment : Environment) : List String :=
  match environment.value? "HOME" with
  | some home =>
    if home.isEmpty then ["plugins"]
    else ["plugins", Path.join (Path.join home ".switchyard") "plugins"]
  | none => ["plugins"]

def default (environment : Environment) : Settings :=
  { pluginDirectories := defaultPluginDirectories environment }

def workflowDirectoryOrDefault (settings : Settings) : String :=
  settings.workflowDirectory.getD "workflows"

end Settings

/-! ## Reading and writing -/

def greatestWord32 : Nat := twoTo 32 - 1

def greatestWord64 : Nat := twoTo 64 - 1

def ModelSettings.read (datum : Datum) : Reading ModelSettings :=
  fields [["adapter"], ["base_url"], ["api_key"], ["model"], ["temperature"], ["max_tokens"],
    ["timeout_secs"]]
    datum fun
    | [adapter, baseUrl, apiKey, model, temperature, maxTokens, timeoutSeconds] => return {
        adapter := ← defaulted "openai" asText adapter
        baseUrl := ← defaulted "https://api.openai.com/v1" asText baseUrl
        apiKey := ← defaulted "" asText apiKey
        model := ← defaulted "gpt-4o-mini" asText model
        temperature := ← nullable asReal temperature
        maxTokens := ← defaulted 4096 (asNatural greatestWord32) maxTokens
        timeoutSeconds := ← defaulted 300 (asNatural greatestWord64) timeoutSeconds }
    | _ => failure

namespace Settings

def read (environment : Environment) (datum : Datum) : Reading Settings :=
  fields [["checkpoint_db"], ["plugin_dirs"], ["workflow_dir"], ["result_cache_capacity"],
    ["handshake_timeout_ms"], ["rebuild_debounce_ms"], ["max_agent_steps"],
    ["allow_self_handoff"], ["model"]]
    datum fun
    | [checkpointDatabase, pluginDirectories, workflowDirectory, resultCacheCapacity,
        handshakeTimeout, rebuildDebounce, maxAgentSteps, allowSelfHandoff, model] => do
      let natural := asNatural greatestWord64
      return {
        checkpointDatabase := ← defaulted "switchyard.db" asText checkpointDatabase
        pluginDirectories := ← defaulted (defaultPluginDirectories environment)
          (asList asText) pluginDirectories
        workflowDirectory := ← nullable asText workflowDirectory
        resultCacheCapacity :=
          ← defaulted ArtifactStore.defaultCapacity natural resultCacheCapacity
        handshakeTimeout := ← defaulted 10000 natural handshakeTimeout
        rebuildDebounce := ← defaulted 200 natural rebuildDebounce
        maxAgentSteps := ← defaulted 16 natural maxAgentSteps
        allowSelfHandoff := ← defaulted false asBool allowSelfHandoff
        model := ← defaulted {} ModelSettings.read model }
    | _ => failure

/-- The settings of a YAML text, for an environment. -/
def ofYaml (environment : Environment) (text : String) : Except Fault Settings :=
  match Reading.ofYaml? (read environment) (environment.substitute text) with
  | some settings => .ok settings
  | none => .error (.config "Failed to parse engine config")

end Settings

def ModelSettings.toJson (settings : ModelSettings) : Json :=
  Json.object [("adapter", .str settings.adapter), ("base_url", .str settings.baseUrl),
    ("api_key", .str settings.apiKey), ("model", .str settings.model),
    ("temperature", Json.ofOption Json.ofReal settings.temperature),
    ("max_tokens", Json.natural settings.maxTokens),
    ("timeout_secs", Json.natural settings.timeoutSeconds)]

def Settings.toJson (settings : Settings) : Json :=
  Json.object [("checkpoint_db", .str settings.checkpointDatabase),
    ("plugin_dirs", Json.texts settings.pluginDirectories),
    ("workflow_dir", Json.ofOption .str settings.workflowDirectory),
    ("result_cache_capacity", Json.natural settings.resultCacheCapacity),
    ("handshake_timeout_ms", Json.natural settings.handshakeTimeout),
    ("rebuild_debounce_ms", Json.natural settings.rebuildDebounce),
    ("max_agent_steps", Json.natural settings.maxAgentSteps),
    ("allow_self_handoff", .bool settings.allowSelfHandoff), ("model", settings.model.toJson)]

end AssistantEngine
