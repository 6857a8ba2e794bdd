import AssistantEngine.Json.Member
import AssistantEngine.Json.Printer
import AssistantEngine.Json.Shape
import AssistantEngine.Plugin.Server
import AssistantEngine.Text.Moment

/-!
Tool servers that speak the model context protocol. Such a server gives its list of tools in
pages and answers a call with blocks of content; what the engine sees of it is the list as a
whole and the texts of the blocks. A reply with a part that has not the shape it should have
is refused as a whole.
-/

namespace AssistantEngine

/-- The other end of a session, known by its replies. A reply that fails gives a reason. -/
structure ProtocolPeer where
  pages : Except String (List (List Json))
  /-- The reply to a call of a tool with arguments, if any are given, after so many earlier
  calls of that tool. -/
  reply : String → Option Json → Nat → Except String Json

/-- Why no session came about. -/
inductive DialFailure where
  /-- The server's process could not be started. -/
  | notStarted (reason : String)
  | noSession (reason : String)
deriving DecidableEq, Repr

namespace ContextProtocol

/-! ## Shapes -/

open Json.Shape (anything text truth number word object list catalog oneOf either needed
  allowed members record tagged)

/-- Facts about a message that are not for the model. -/
def facts : Json.Shape.Part := allowed "_meta" object

def icons : Json.Shape.Part :=
  allowed "icons" <| list <| record
    [needed "src" text, allowed "mimeType" text, allowed "sizes" (list text)]

/-- What the two sides of a conversation are called. -/
def roleShape : Json.Shape := oneOf ["user", "assistant"]

/-- What a server lets its users know about a tool. -/
def hintsShape : Json.Shape :=
  record [allowed "title" text, allowed "readOnlyHint" truth, allowed "destructiveHint" truth,
    allowed "idempotentHint" truth, allowed "openWorldHint" truth]

/-- Whether a tool may be left to work on its own. -/
def executionShape : Json.Shape :=
  record [allowed "taskSupport" (oneOf ["forbidden", "optional", "required"])]

def toolShape : Json.Shape :=
  record [needed "name" text, allowed "title" text, allowed "description" text,
    needed "inputSchema" object, allowed "outputSchema" object,
    allowed "annotations" hintsShape, allowed "execution" executionShape, icons, facts]

/-- What a server says about the use of a block. -/
def annotationsShape : Json.Shape :=
  record [allowed "audience" (list roleShape), allowed "priority" number,
    allowed "lastModified" (Json.Shape.such fun value => value.asText?.any Text.isMoment)]

/-- An object of some shape, together with annotations. -/
def annotated (shape : Json.Shape) : Json.Shape := fun value => do
  let _ ← members [allowed "annotations" annotationsShape] value
  shape value

/-- A resource with its content, which is a text or bytes. -/
def contentsShape : Json.Shape :=
  either
    (record [needed "uri" text, allowed "mimeType" text, needed "text" text, facts])
    (record [needed "uri" text, allowed "mimeType" text, needed "blob" text, facts])

def resourceShape : Json.Shape :=
  members [needed "uri" text, needed "name" text, allowed "title" text,
    allowed "description" text, allowed "mimeType" text, allowed "size" word, icons, facts]

def imageShape : Json.Shape := members [needed "data" text, needed "mimeType" text, facts]

def embeddedShape : Json.Shape := members [facts, needed "resource" contentsShape]

/-- A block of content, of one of five kinds. -/
def blockShape : Json.Shape :=
  annotated <| tagged
    [("text", members [needed "text" text, facts]),
      ("image", imageShape),
      ("resource", embeddedShape),
      ("audio", members [needed "data" text, needed "mimeType" text]),
      ("resource_link", resourceShape)]

/-- The reply to a call. -/
def resultShape : Json.Shape :=
  record [allowed "content" (list blockShape), allowed "structuredContent" anything,
    allowed "isError" truth, facts]

/-! ## Replies to other requests -/

/-- The reply to a greeting: what the server is, and what it can do. -/
def greetingShape : Json.Shape :=
  let changes := allowed "listChanged" truth
  record [needed "protocolVersion" text,
    needed "capabilities" (record [allowed "experimental" (catalog object),
      allowed "logging" object, allowed "completions" object,
      allowed "prompts" (record [changes]),
      allowed "resources" (record [allowed "subscribe" truth, changes]),
      allowed "tools" (record [changes])]),
    needed "serverInfo" (record [needed "name" text, allowed "title" text,
      needed "version" text, icons, allowed "websiteUrl" text]),
    allowed "instructions" text]

def completionShape : Json.Shape :=
  record [needed "completion" (record
    [needed "values" (list text), allowed "total" word, allowed "hasMore" truth])]

/-- A message of a prompt holds one block, which is no sound. -/
def promptMessageShape : Json.Shape :=
  record [needed "role" roleShape,
    needed "content" (tagged
      [("text", record [needed "text" text]),
        ("image", annotated imageShape),
        ("resource", annotated embeddedShape),
        ("resource_link", annotated resourceShape)])]

def promptShape : Json.Shape :=
  record [needed "name" text, allowed "title" text, allowed "description" text,
    allowed "arguments" (list (record [needed "name" text, allowed "title" text,
      allowed "description" text, allowed "required" truth])), icons, facts]

def templateShape : Json.Shape :=
  members [needed "uriTemplate" text, needed "name" text, allowed "title" text,
    allowed "description" text, allowed "mimeType" text, icons]

/-- One page of a list of items. -/
def pageShape (name : String) (item : Json.Shape) : Json.Shape :=
  record [facts, allowed "nextCursor" text, needed name (list item)]

/-- What a reply may be taken for before it is taken for the reply to a call. -/
def otherReplies : List Json.Shape :=
  [greetingShape, completionShape,
    record [allowed "description" text, needed "messages" (list promptMessageShape)],
    pageShape "prompts" promptShape, pageShape "resources" (annotated resourceShape),
    pageShape "resourceTemplates" (annotated templateShape),
    record [needed "contents" (list contentsShape)]]

/-- The full form of the reply to a call. It has blocks or structured content. -/
def resultOf? (reply : Json) : Option Json :=
  if otherReplies.any fun shape => (shape reply).isSome then none
  else
    (resultShape reply).filter fun result =>
      !(result.listAt "content").isEmpty || !(result.valueAt "structuredContent").isNull

/-! ## Content -/

/-- The text of a block. Pictures, sounds and links have none. -/
def blockText? (block : Json) : Option String :=
  match block.textAt? "type" with
  | some "text" => block.textAt? "text"
  | some "resource" => (block.member? "resource").bind fun resource => resource.textAt? "text"
  | _ => none

def outputOf (result : Json) : RawOutput :=
  { text := (result.listAt "content").filterMap blockText?
    structured := (result.member? "structuredContent").filter fun value => !value.isNull
    isError := result.boolAt "isError" }

/-! ## Requests -/

/-- Why a reply of the wrong shape is refused. -/
def refusal : String := "Unexpected response type"

def listFault (label reason : String) : Fault :=
  .handshake s!"{label}: list_tools failed: {reason}"

/-- The tools of all pages, in order. -/
def toolsOf (label : String) (pages : Except String (List (List Json))) :
    Except Fault (List ToolInfo) :=
  match pages with
  | .ok pages =>
    match pages.flatten.mapM toolShape with
    | some tools => .ok (tools.filterMap ToolInfo.ofJson?)
    | none => .error (listFault label refusal)
  | .error reason => .error (listFault label reason)

/-- The arguments of a call are an object; null stands for none. -/
def argumentsOf (tool : String) (arguments : Json) : Except Fault (Option Json) :=
  match arguments with
  | .obj members => .ok (some (.obj members))
  | .null => .ok none
  | other =>
    .error (.tool s!"arguments for '{tool}' must be an object, got {other.compact}")

def callFault (label tool reason : String) : Fault :=
  .tool s!"{label}: call '{tool}' failed: {reason}"

/-- What a reply to a call amounts to. -/
def readReply (label tool : String) : Except String Json → Except Fault RawOutput
  | .error reason => .error (callFault label tool reason)
  | .ok reply =>
    match resultOf? reply with
    | some result => .ok (outputOf result)
    | none => .error (callFault label tool refusal)

def call (label : String) (peer : ProtocolPeer) (tool : String) (arguments : Json)
    (earlier : Nat) : Except Fault RawOutput :=
  match argumentsOf tool arguments with
  | .error fault => .error fault
  | .ok arguments => readReply label tool (peer.reply tool arguments earlier)

end ContextProtocol

/-- A server that goes by a label in its faults. -/
def ToolServer.ofPeer (label : String) (peer : ProtocolPeer) : ToolServer :=
  { tools := ContextProtocol.toolsOf label peer.pages
    answer := ContextProtocol.call label peer }

namespace ContextProtocol

def dialFault (transport : Transport) : DialFailure → Fault
  | .notStarted reason =>
    match transport with
    | .subprocess command _ _ _ => .handshake s!"Failed to spawn '{command}': {reason}"
    | other => .handshake s!"{other.describe}: {reason}"
  | .noSession reason => .handshake s!"{transport.describe}: {reason}"

/-- What is found at the other end of a transport, where `dial` begins sessions. Sessions over
event streams are not begun at all. -/
def reach (dial : Transport → Except DialFailure ProtocolPeer) (transport : Transport) :
    Except Fault ToolServer :=
  match transport with
  | .eventStream url =>
    .error (.handshake
      s!"SSE transport is not supported for '{url}'; expose a streamable HTTP endpoint instead")
  | transport =>
    match dial transport with
    | .ok peer => .ok (ToolServer.ofPeer transport.describe peer)
    | .error failure => .error (dialFault transport failure)

end ContextProtocol

end AssistantEngine
