import AssistantEngine.Engine.World

/-!
Talking to tool servers: connecting, asking for the tools, calling one, and closing.
-/

namespace AssistantEngine

namespace ToolServer

open Activity

/-- Connects; answers the new connection. -/
def connect (transport : Transport) : Activity World (Except Fault ConnectionId) := do
  modify (·.record (.connect transport))
  giveWay
  match ← inspect (·.reach transport) with
  | .error fault => return .error fault
  | .ok server =>
    sleep server.connectDelay
    match server.connectFault with
    | some fault => return .error fault
    | none =>
      transact fun world =>
        (.ok world.connections.length,
          { world with
            connections := world.connections ++ [{ transport := transport, server := server }] })

def gone : Fault := .tool "connection is gone"

def listTools (id : ConnectionId) : Activity World (Except Fault (List ToolInfo)) := do
  match ← inspect (·.connection? id) with
  | none => return .error gone
  | some connection =>
    giveWay
    sleep connection.server.listDelay
    return connection.server.tools

/-- The answer to the next call of a tool on a connection, and the world after it. -/
def answerCall (id : ConnectionId) (tool : String) (arguments : Json) (world : World) :
    Except Fault RawOutput × World :=
  match world.connection? id with
  | none => (.error gone, world)
  | some connection =>
    (connection.server.answer tool arguments (connection.calls.count tool),
      (world.record (.call id connection.transport tool arguments)).updateConnection id
        fun connection => { connection with calls := connection.calls ++ [tool] })

def callTool (id : ConnectionId) (tool : String) (arguments : Json) :
    Activity World (Except Fault RawOutput) := do
  let answer ← transact (answerCall id tool arguments)
  giveWay
  return answer

def close (id : ConnectionId) : Activity World Unit := do
  match ← inspect (·.connection? id) with
  | none => return
  | some connection =>
    modify fun world =>
      (world.record (.close id connection.transport)).updateConnection id
        fun connection => { connection with closings := connection.closings + 1 }
    giveWay

end ToolServer

end AssistantEngine
