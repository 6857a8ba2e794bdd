import AssistantEngine.Fault
import AssistantEngine.Plugin.Tool
import AssistantEngine.Text.Debug

/-!
Plugin runtimes: a plugin whose tool server was contacted, either with a connection and the
tools it exposes, or with the reason why it is unavailable. A runtime is a value; whether its
connection is still open is known to the world that it lives in.
-/

namespace AssistantEngine

/-- Connections are numbered in the order in which they were opened. -/
abbrev ConnectionId := Nat

/-- A singleton is shared by all links that take the plugin as it is; the others have a
runtime of their own. -/
inductive PluginKind where
  | singleton
  | perLink
deriving DecidableEq, Repr

inductive PluginState where
  | active (connection : ConnectionId) (tools : List ExposedTool)
  | failed (reason : String)
deriving DecidableEq

/-- No two runtimes have the same number. -/
structure PluginRuntime where
  number : Nat
  registryId : String
  kind : PluginKind
  state : PluginState
deriving DecidableEq

namespace PluginKind

def name : PluginKind → String
  | singleton => "singleton"
  | perLink => "per_link"

def debug : PluginKind → String
  | singleton => "Singleton"
  | perLink => "PerLink"

end PluginKind

namespace PluginRuntime

def isActive (runtime : PluginRuntime) : Bool :=
  match runtime.state with
  | .active .. => true
  | .failed _ => false

def failure? (runtime : PluginRuntime) : Option String :=
  match runtime.state with
  | .active .. => none
  | .failed reason => some reason

def connection? (runtime : PluginRuntime) : Option ConnectionId :=
  match runtime.state with
  | .active connection _ => some connection
  | .failed _ => none

/-- All tools, also those that are switched off. -/
def tools (runtime : PluginRuntime) : List ExposedTool :=
  match runtime.state with
  | .active _ tools => tools
  | .failed _ => []

/-- The tools that an assistant may call. -/
def enabledTools (runtime : PluginRuntime) : List ExposedTool := runtime.tools.filter (·.enabled)

/-- The tool that a call by name means, if it may be called. -/
def tool (runtime : PluginRuntime) (name : String) : Except Fault ExposedTool :=
  match runtime.tools.find? (·.exposedName = name) with
  | none => .error (.notFound s!"tool '{name}' on plugin '{runtime.registryId}'")
  | some tool =>
    if tool.enabled then .ok tool
    else .error (.tool s!"tool '{name}' is disabled on plugin '{runtime.registryId}'")

def status (runtime : PluginRuntime) : String := if runtime.isActive then "active" else "error"

def debugStatus (runtime : PluginRuntime) : String := if runtime.isActive then "Active" else "Error"

def debug (runtime : PluginRuntime) : String :=
  Debug.record "PluginRuntime" [("registry_id", Debug.quoted runtime.registryId),
    ("kind", runtime.kind.debug), ("status", runtime.debugStatus),
    ("tools", toString runtime.tools.length)]

end PluginRuntime

end AssistantEngine
