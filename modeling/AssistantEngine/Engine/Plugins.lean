import AssistantEngine.Engine.Connection
import AssistantEngine.Plugin.Configuration
import AssistantEngine.Text.Duration

/-!
Making plugin runtimes, calling their tools, and closing them. A plugin that cannot be
contacted yields a runtime all the same, one that has failed. A plugin without configuration
has one shared runtime, which is made when it is first needed.
-/

namespace AssistantEngine

/-- How long a server may take to answer the first two requests. -/
abbrev HandshakeTimeout := Time

/-- A call's record in brief, and the text that the caller sees. -/
structure CallResult where
  envelope : Envelope
  content : String
deriving DecidableEq

namespace PluginRuntime

open Activity

/-! ## Handshakes -/

/-- Connects and asks for the tools; a connection that cannot list them is closed. -/
def probe (transport : Transport) :
    Activity World (Except Fault (ConnectionId × List ToolInfo)) := do
  match ← ToolServer.connect transport with
  | .error fault => return .error fault
  | .ok connection =>
    match ← ToolServer.listTools connection with
    | .ok tools => return .ok (connection, tools)
    | .error fault =>
      ToolServer.close connection
      return .error fault

def timeoutFault (timeout : HandshakeTimeout) (transport : Transport) : Fault :=
  let time := Text.duration timeout
  .handshake s!"timed out after {time} connecting to {transport.describe}"

def make (registryId : String) (kind : PluginKind) (state : PluginState) :
    Activity World PluginRuntime :=
  transact fun world =>
    let runtime : PluginRuntime :=
      { number := world.plugins.length, registryId := registryId, kind := kind, state := state }
    (runtime, { world with plugins := world.plugins ++ [runtime] })

def fail (registryId : String) (kind : PluginKind) (fault : Fault) : Activity World PluginRuntime :=
  make registryId kind (.failed fault.message)

/-- A runtime for the server behind a transport, with the tools as the link exposes them. -/
def contact (timeout : HandshakeTimeout) (registryId : String) (kind : PluginKind)
    (link : PluginLink) (transport : Transport) : Activity World PluginRuntime := do
  match ← (probe transport).limit timeout with
  | none => fail registryId kind (timeoutFault timeout transport)
  | some (.error fault) => fail registryId kind fault
  | some (.ok (connection, tools)) =>
    make registryId kind (.active connection (ExposedTool.ofLink tools link))

/-! ## Singletons -/

def makeSingleton (timeout : HandshakeTimeout) (registryId : String) :
    Activity World PluginRuntime := do
  let world ← world
  match world.registry.find? registryId with
  | none => fail registryId .singleton (.notFound s!"plugin manifest '{registryId}'")
  | some manifest =>
    match Transport.ofManifest world.files manifest with
    | .error fault => fail registryId .singleton fault
    | .ok transport =>
      contact timeout registryId .singleton { registryId := registryId } transport

/-- Waits until nobody is about to make this singleton, and is then the one who does. -/
def reserve (registryId : String) : Activity World Unit := do
  waitUntil fun world => !world.reserved.contains registryId
  modify fun world => { world with reserved := registryId :: world.reserved }

def unreserve (registryId : String) : Activity World Unit :=
  modify fun world => { world with reserved := world.reserved.erase registryId }

/-- The shared runtime of a plugin, made if there is none. -/
def singleton (timeout : HandshakeTimeout) (registryId : String) :
    Activity World PluginRuntime := do
  giveWay
  match ← inspect (·.singletons.find? registryId) with
  | some runtime => return runtime
  | none =>
    reserve registryId
    giveWay
    match ← inspect (·.singletons.find? registryId) with
    | some runtime =>
      unreserve registryId
      return runtime
    | none =>
      let runtime ← makeSingleton timeout registryId
      giveWay
      modify fun world =>
        { world with singletons := world.singletons.insert registryId runtime }
      unreserve registryId
      return runtime

/-! ## Runtimes of links -/

/-- The configuration of a link, unvalidated if it does not validate. -/
def configurationOf (manifest : PluginManifest) (link : PluginLink) : Configuration :=
  match Configuration.validate manifest.configSchema link.config with
  | .ok config => config
  | .error _ => Configuration.raw manifest.configSchema link.config

/-- A runtime for one link alone. -/
def forLink (timeout : HandshakeTimeout) (manifest : PluginManifest) (link : PluginLink) :
    Activity World PluginRuntime := do
  let files ← inspect (·.files)
  match Transport.ofLink files manifest (configurationOf manifest link) with
  | .error fault => fail manifest.id .perLink fault
  | .ok transport => contact timeout manifest.id .perLink link transport

/-- The shared runtime where plugin and link allow it, else one for the link alone. -/
def ofLink (timeout : HandshakeTimeout) (manifest : PluginManifest) (link : PluginLink) :
    Activity World PluginRuntime :=
  if manifest.isConfigFree && link.isPlain then singleton timeout manifest.id
  else forLink timeout manifest link

/-! ## Calls -/

/-- The record of a result. -/
def recordOf (raw : RawOutput) (latency : Time) (tool : String) : Record :=
  ((Record.ofRaw raw).withMetadata "latency_ms" (Json.natural latency)).withMetadata "tool"
    (.str tool)

/-- Calls a tool on the server and keeps the record of its result. -/
def intercept (connection : ConnectionId) (tool : String) (arguments : Json) :
    Activity World (Except Fault CallResult) := do
  let start ← now
  match ← ToolServer.callTool connection tool arguments with
  | .error fault => return .error fault
  | .ok raw =>
    let time ← now
    let record := recordOf raw (time - start) tool
    let id ← transact (·.registerRecord record)
    return .ok {
      envelope := { artifactId := id, modelText := record.modelText }
      content := record.modelText }

/-- Calls a tool by the name under which it is exposed. -/
def callTool (runtime : PluginRuntime) (name : String) (arguments : Json) :
    Activity World (Except Fault CallResult) := do
  match runtime.tool name, runtime.connection? with
  | .error fault, _ => return .error fault
  | .ok tool, some connection =>
    if ← inspect (·.isClosed runtime) then
      return .error (.tool s!"plugin '{runtime.registryId}' is not connected")
    else intercept connection tool.serverName arguments
  | .ok _, none => return .error (.tool s!"plugin '{runtime.registryId}' is not connected")

/-! ## Closing -/

/-- Gives the connection up and closes it, unless that was done before. -/
def close (runtime : PluginRuntime) : Activity World Unit := do
  match runtime.connection? with
  | none => return
  | some connection =>
    if ← inspect (·.isClosed runtime) then return
    else
      modify fun world => { world with closedPlugins := runtime.number :: world.closedPlugins }
      ToolServer.close connection

def closeEach : List PluginRuntime → Activity World Unit
  | [] => return
  | runtime :: rest => do
    runtime.close
    closeEach rest

/-- Forgets all singletons and closes them one after the other. -/
def closeSingletons : Activity World Unit := do
  giveWay
  let runtimes ← transact fun world =>
    (world.singletons.values, { world with singletons := [] })
  closeEach runtimes

end PluginRuntime

end AssistantEngine
