import AssistantEngine.Assistant.Spec
import AssistantEngine.Json.Basic

/-!
Tools: as a server reports them, and as an assistant sees them after the overrides of its
link. An alias exposes a tool under another name while the tool's own entry stays in the
list, switched off.
-/

namespace AssistantEngine

structure ToolInfo where
  name : String
  description : String := ""
  inputSchema : Json := Json.object [("type", .str "object")]
deriving DecidableEq

structure ExposedTool where
  exposedName : String
  /-- The name the server knows. -/
  serverName : String
  description : String
  inputSchema : Json
  enabled : Bool
deriving DecidableEq

namespace ToolInfo

/-- A tool as a server describes it; one without a name is no tool. -/
def ofJson? (value : Json) : Option ToolInfo := do
  let name ← (value.member? "name").bind Json.asText?
  some {
    name := name
    description := ((value.member? "description").bind Json.asText?).getD ""
    inputSchema := (value.member? "inputSchema").getD (Json.object [("type", .str "object")]) }

def exposed (tool : ToolInfo) (enabled : Bool) : ExposedTool :=
  { exposedName := tool.name
    serverName := tool.name
    description := tool.description
    inputSchema := tool.inputSchema
    enabled := enabled }

end ToolInfo

namespace ExposedTool

/-- Changes the first entry that has this exposed name. -/
def updateFirst (name : String) (change : ExposedTool → ExposedTool) :
    List ExposedTool → List ExposedTool
  | [] => []
  | tool :: rest =>
    if tool.exposedName = name then change tool :: rest else tool :: updateFirst name change rest

def isExposed (tools : List ExposedTool) (name : String) : Bool :=
  tools.any (·.exposedName = name)

/-- The first entry with this exposed name becomes `tool`; without one it is added. -/
def replaceOrAdd (tools : List ExposedTool) (name : String) (tool : ExposedTool) :
    List ExposedTool :=
  if isExposed tools name then updateFirst name (fun _ => tool) tools else tools ++ [tool]

/-- An override that leaves the tool its name. -/
def adjust (tools : List ExposedTool) (override : ToolOverride) (info : ToolInfo) :
    List ExposedTool :=
  updateFirst override.name (fun tool =>
    { tool with
      enabled := override.enabled.getD true
      description := override.description.getD info.description }) tools

/-- An override that renames the tool. It is ignored if another tool is exposed under the
alias already; otherwise the tool's own entry is switched off. -/
def rename (tools : List ExposedTool) (override : ToolOverride) (info : ToolInfo) (name : String) :
    List ExposedTool :=
  if tools.any fun tool => tool.exposedName = name && tool.serverName ≠ info.name then tools
  else
    let switchedOff :=
      updateFirst override.name (fun tool => { tool with enabled := false }) tools
    replaceOrAdd switchedOff name
      { exposedName := name
        serverName := info.name
        description := override.description.getD info.description
        inputSchema := info.inputSchema
        enabled := override.enabled.getD true }

/-- One override; it is ignored if the server has no such tool. -/
def applyOverride (base : List ToolInfo) (tools : List ExposedTool) (override : ToolOverride) :
    List ExposedTool :=
  match base.find? (·.name = override.name) with
  | none => tools
  | some info =>
    match override.rename.filter (· ≠ override.name) with
    | some name => rename tools override info name
    | none => adjust tools override info

/-- The tools a link exposes: those of the server, on or off as the link says, changed by
the link's overrides in order. -/
def ofLink (base : List ToolInfo) (link : PluginLink) : List ExposedTool :=
  link.tools.foldl (applyOverride base) (base.map (·.exposed link.toolsDefaultEnabled))

def toJson (tool : ExposedTool) : Json :=
  Json.object [("exposed_name", .str tool.exposedName), ("original_name", .str tool.serverName),
    ("description", .str tool.description), ("input_schema", tool.inputSchema),
    ("enabled", .bool tool.enabled)]

end ExposedTool

end AssistantEngine
