import AssistantEngine.Artifact.Record
import AssistantEngine.Concurrency.Activity
import AssistantEngine.Plugin.Runtime
import AssistantEngine.Plugin.Transport

/-!
Tool servers and the connections to them. A server is known by how it behaves: how long it
takes, whether it can be reached, which tools it reports, and what it answers to calls.
-/

namespace AssistantEngine

structure ToolServer where
  connectDelay : Time := 0
  connectFault : Option Fault := none
  listDelay : Time := 0
  tools : Except Fault (List ToolInfo) := .ok []
  /-- The answer to a call of a tool with arguments, after so many earlier calls of that tool
  on the same connection. -/
  answer : String → Json → Nat → Except Fault RawOutput

namespace ToolServer

/-- The answers of a server to whose tools outputs are assigned: the first call of a tool on
a connection gets its first output and so on, and the last one is given again. A tool without
outputs answers with its name and the arguments. -/
def assigned (outputs : Catalog (List (Except Fault RawOutput))) (tool : String)
    (arguments : Json) (earlier : Nat) : Except Fault RawOutput :=
  match (outputs.find? tool).getD [] with
  | [] => .ok { text := [tool ++ " " ++ arguments.compact] }
  | first :: rest => (first :: rest).getD (min earlier rest.length) first

end ToolServer

/-- A connection that was opened. It goes on to the server as it was then. -/
structure Connection where
  transport : Transport
  server : ToolServer
  /-- The tools called so far. -/
  calls : List String := []
  /-- How many times it was closed. -/
  closings : Nat := 0

/-- What passes between the engine and tool servers. -/
inductive Exchange where
  | connect (transport : Transport)
  | call (connection : ConnectionId) (transport : Transport) (tool : String) (arguments : Json)
  | close (connection : ConnectionId) (transport : Transport)

end AssistantEngine
