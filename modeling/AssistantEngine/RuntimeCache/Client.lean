import AssistantEngine.RuntimeCache.Schedule

/-!
A client of the runtime cache. It makes one call at a time and waits for the answer, or
starts a call and asks for the answer later; runtimes that it wants to keep it holds under
names.
-/

namespace AssistantEngine

namespace RuntimeCache

structure Client (World Runtime Resource Reply : Type) where
  builder : Builder World Runtime Resource
  state : State World Runtime Resource Reply
  /-- The greatest number of actions to take while waiting. -/
  fuel : Nat
  calls : CallId := 0
  /-- The runtimes that are held, by name. -/
  handles : Catalog (Holder × BuildId) := []
  /-- The calls that were started, by name. -/
  pending : Catalog CallId := []

namespace Client

variable {World Runtime Resource Reply : Type}

def act (client : Client World Runtime Resource Reply)
    (action : Action World Runtime Resource Reply) : Client World Runtime Resource Reply :=
  { client with state := client.state.step client.builder action }

/-- Makes a call; answers its number. -/
def call (client : Client World Runtime Resource Reply)
    (action : CallId → Action World Runtime Resource Reply) :
    CallId × Client World Runtime Resource Reply :=
  (client.calls, { client with calls := client.calls + 1 }.act (action client.calls))

/-- The answer to a call, and `none` if it never comes. -/
def await (client : Client World Runtime Resource Reply) (call : CallId) :
    Option (Answer Reply) × Client World Runtime Resource Reply :=
  let state := client.state.await client.builder client.fuel call
  (state.answer? call, { client with state := state })

def ask (client : Client World Runtime Resource Reply)
    (action : CallId → Action World Runtime Resource Reply) :
    Option (Answer Reply) × Client World Runtime Resource Reply :=
  let (call, client) := client.call action
  client.await call

/-- Makes several calls at once and waits for all answers. -/
def askTogether (client : Client World Runtime Resource Reply)
    (actions : List (CallId → Action World Runtime Resource Reply)) :
    List (Option (Answer Reply)) × Client World Runtime Resource Reply :=
  let (calls, client) := actions.foldl (fun (calls, client) action =>
    let (call, client) := Client.call client action
    (calls ++ [call], client)) ([], client)
  let (answers, client) := calls.foldl (fun (answers, client) call =>
    let (answer, client) := Client.await client call
    (answers ++ [answer], client)) ([], client)
  (answers, calls.foldl (fun client call => client.act (.drop (.call call))) client)

/-- Lets time pass. -/
def pass (client : Client World Runtime Resource Reply) (duration : Time) :
    Client World Runtime Resource Reply :=
  { client with state := client.state.pass client.builder client.fuel duration }

/-! ## Runtimes that are held -/

/-- Holds a runtime under a name, in place of what was held under it. -/
def keep (client : Client World Runtime Resource Reply) (name : String) (holder : Holder)
    (id : BuildId) : Client World Runtime Resource Reply :=
  let kept := { client with handles := client.handles.insert name (holder, id) }
  match client.handles.find? name with
  | some (previous, _) => kept.act (.drop previous)
  | none => kept

/-- Holds a runtime that is held already under a further name. -/
def share (client : Client World Runtime Resource Reply) (name : String) (id : BuildId) :
    Client World Runtime Resource Reply :=
  let holder := Holder.call client.calls
  ({ client with calls := client.calls + 1 }.act (.share holder id)).keep name holder id

/-- Lets go what is held under a name; answers whether there was anything. -/
def release (client : Client World Runtime Resource Reply) (name : String) :
    Bool × Client World Runtime Resource Reply :=
  match client.handles.find? name with
  | some (holder, _) =>
    (true, { client with handles := client.handles.erase name }.act (.drop holder))
  | none => (false, client)

def held? (client : Client World Runtime Resource Reply) (name : String) :
    Option (BuildId × Runtime) :=
  (client.handles.find? name).bind fun (_, id) =>
    (client.state.runtime? id).map fun runtime => (id, runtime)

/-- Waits for a call. A runtime that it yields is held under a name if one is given, and let
go otherwise. -/
def receive (client : Client World Runtime Resource Reply) (call : CallId) (name : Option String) :
    Option (Answer Reply) × Client World Runtime Resource Reply :=
  match client.await call, name with
  | (some (.runtime (.ok id)), client), some name =>
    (some (.runtime (.ok id)), client.keep name (.call call) id)
  | (answer, client), _ => (answer, client.act (.drop (.call call)))

/-- Uses the runtime of a key and holds it only so long. -/
def borrow {α : Type} (client : Client World Runtime Resource Reply) (key : String)
    (use : Client World Runtime Resource Reply → BuildId → Runtime →
      α × Client World Runtime Resource Reply) :
    Except Fault α × Client World Runtime Resource Reply :=
  let (call, client) := client.call (.get · key)
  match client.await call with
  | (some (.runtime (.ok id)), client) =>
    match client.state.runtime? id with
    | some runtime =>
      let (answer, client) := use client id runtime
      (.ok answer, client.act (.drop (.call call)))
    | none => (.error (.internal "no such runtime"), client)
  | (some (.runtime (.error fault)), client) => (.error fault, client)
  | (_, client) => (.error (.internal "no answer"), client)

/-- Does some work, on a runtime that is held or on none. -/
def perform (client : Client World Runtime Resource Reply) (held : Option BuildId)
    (activity : Activity World Reply) : Option Reply × Client World Runtime Resource Reply :=
  match client.ask (.work · held activity) with
  | (some (.reply reply), client) => (some reply, client)
  | (_, client) => (none, client)

/-! ## Calls whose answer is asked for later -/

/-- Starts a call. One that was started under the same name goes on, but its answer is given
up. -/
def start (client : Client World Runtime Resource Reply) (name : String)
    (action : CallId → Action World Runtime Resource Reply) :
    Client World Runtime Resource Reply :=
  let client :=
    match client.pending.find? name with
    | some call => client.act (.forget call)
    | none => client
  let (call, client) := client.call action
  { client with pending := client.pending.insert name call }

/-- Whether a call that was started has no answer yet. -/
def isRunning? (client : Client World Runtime Resource Reply) (name : String) : Option Bool :=
  (client.pending.find? name).map fun call => (client.state.answer? call).isNone

/-- Takes a call that was started off the list. -/
def collect (client : Client World Runtime Resource Reply) (name : String) :
    Option CallId × Client World Runtime Resource Reply :=
  (client.pending.find? name, { client with pending := client.pending.erase name })

end Client

end RuntimeCache

end AssistantEngine
