import AssistantEngine.Plugin.Configuration
import AssistantEngine.Storage.FileTree

/-!
How a tool server is reached: as a subprocess, or at an address. The transport of a plugin
follows from its manifest; that of a link also carries the link's configuration.
-/

namespace AssistantEngine

inductive Transport where
  | subprocess (command : String) (args : List String) (env : List (String × String))
      (directory : Option String)
  | http (url : String)
  | eventStream (url : String)
deriving DecidableEq, Repr

namespace Transport

/-- Past trailing slashes, an address that ends in `/sse` is an event stream. -/
def remote (url : String) : Transport :=
  let trimmed := url.toList.reverse.dropWhile (· = '/')
  if ['e', 's', 's', '/'].isPrefixOf trimmed then .eventStream url else .http url

def launcher? (script : String) : Option String :=
  match Path.suffix? script with
  | some "py" => some "python3"
  | some "js" => some "node"
  | some "mjs" => some "node"
  | some "cjs" => some "node"
  | _ => none

/-- A script is run by the launcher for its suffix, or directly if there is none. -/
def script (path : String) (args : List String) (env : List (String × String))
    (directory : Option String) : Transport :=
  match launcher? path with
  | some launcher => .subprocess launcher (path :: args) env directory
  | none => .subprocess path args env directory

/-- One line that identifies the server. -/
def describe : Transport → String
  | .subprocess command args _ _ =>
    Text.trimEnd ("stdio: " ++ command ++ " " ++ Text.join " " args)
  | .http url => s!"http: {url}"
  | .eventStream url => s!"sse: {url}"

/-- The transport that the execution entry names. -/
def ofExecution (manifest : PluginManifest) (env : List (String × String)) :
    Except Fault Transport :=
  match manifest.execution.mode with
  | .localScript =>
    match manifest.execution.scriptPath with
    | some path =>
      .ok (script (manifest.resolvePath path) manifest.execution.args env
        (some manifest.baseDirectory))
    | none => .error (.manifest s!"plugin '{manifest.id}' has no script_path")
  | .remote =>
    match manifest.execution.url with
    | some url => .ok (remote url)
    | none => .error (.manifest s!"plugin '{manifest.id}' has no url")

/-- An argument that names a file beside the manifest is given with its directory. -/
def resolveArgument (files : FileSystem) (manifest : PluginManifest) (argument : String) : String :=
  if argument.toList.head? == some '-' || Path.isAbsolute argument then argument
  else
    let candidate := Path.join manifest.baseDirectory argument
    if files.contains candidate then candidate else argument

/-- The transport of a server entry; its own variables come before the further ones. -/
def ofServer (files : FileSystem) (manifest : PluginManifest) (server : ServerEntry)
    (furtherEnv : List (String × String)) : Except Fault Transport :=
  match server.url with
  | some url => .ok (remote url)
  | none =>
    match server.command with
    | none => .error (.manifest s!"plugin '{manifest.id}' server entry has neither command nor url")
    | some command =>
      let env := server.env ++ furtherEnv
      let args := server.args.map (resolveArgument files manifest)
      let directory := some manifest.baseDirectory
      if (launcher? command).isSome then
        .ok (script (manifest.resolvePath command) args env directory)
      else .ok (.subprocess command args env directory)

/-- The shared instance uses the first server entry, if there is one. -/
def ofManifest (files : FileSystem) (manifest : PluginManifest) : Except Fault Transport :=
  match manifest.servers with
  | (_, server) :: _ => ofServer files manifest server []
  | [] => ofExecution manifest []

def hasExecutionTarget (manifest : PluginManifest) : Bool :=
  match manifest.execution.mode with
  | .localScript => manifest.execution.scriptPath.isSome
  | .remote => manifest.execution.url.isSome

/-- A link's own instance uses a server entry only if the execution entry has no target.
The configuration travels as environment variables. -/
def ofLink (files : FileSystem) (manifest : PluginManifest) (config : Configuration) :
    Except Fault Transport :=
  match manifest.servers with
  | (_, server) :: _ =>
    if hasExecutionTarget manifest then ofExecution manifest config.environment
    else ofServer files manifest server config.environment
  | [] => ofExecution manifest config.environment

end Transport

end AssistantEngine
