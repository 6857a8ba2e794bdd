/-!
Faults: what a request to the engine can fail with. A fault has a kind, which says what
part of the work failed, and a text about the case at hand.
-/

namespace AssistantEngine

inductive FaultKind where
  | notFound
  | invalidSpec
  | manifest
  | config
  | handshake
  | tool
  | model
  | checkpoint
  | build
  | internal
deriving DecidableEq, Repr, Inhabited

structure Fault where
  kind : FaultKind
  text : String
deriving DecidableEq, Repr, Inhabited

namespace FaultKind

/-- The words that open the message of a fault of this kind. -/
def opening : FaultKind → String
  | notFound => "Not found: "
  | invalidSpec => "Invalid workflow spec: "
  | manifest => "Manifest error: "
  | config => "Config error: "
  | handshake => "Handshake failed: "
  | tool => "Tool error: "
  | model => "Model error: "
  | checkpoint => "Checkpoint store error: "
  | build => "Build failed: "
  | internal => "Internal error: "

def name : FaultKind → String
  | notFound => "NotFound"
  | invalidSpec => "InvalidSpec"
  | manifest => "Manifest"
  | config => "Config"
  | handshake => "Handshake"
  | tool => "Tool"
  | model => "Model"
  | checkpoint => "Checkpoint"
  | build => "Build"
  | internal => "Internal"

def all : List FaultKind :=
  [notFound, invalidSpec, manifest, config, handshake, tool, model, checkpoint, build, internal]

def ofName? (name : String) : Option FaultKind := all.find? fun kind => kind.name = name

end FaultKind

namespace Fault

/-- The message shown to callers. A fault that wraps another one carries that one's whole
message as its text. -/
def message (fault : Fault) : String := fault.kind.opening ++ fault.text

def notFound (text : String) : Fault := ⟨.notFound, text⟩

def invalidSpec (text : String) : Fault := ⟨.invalidSpec, text⟩

def manifest (text : String) : Fault := ⟨.manifest, text⟩

def config (text : String) : Fault := ⟨.config, text⟩

def handshake (text : String) : Fault := ⟨.handshake, text⟩

def tool (text : String) : Fault := ⟨.tool, text⟩

def model (text : String) : Fault := ⟨.model, text⟩

def checkpoint (text : String) : Fault := ⟨.checkpoint, text⟩

def build (text : String) : Fault := ⟨.build, text⟩

def internal (text : String) : Fault := ⟨.internal, text⟩

end Fault

end AssistantEngine
