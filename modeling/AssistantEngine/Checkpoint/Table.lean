import AssistantEngine.Chat.Message
import AssistantEngine.Fault
import AssistantEngine.Number.Binary64

/-!
The table of checkpoints. Each row holds the state of one thread after one turn, as JSON
text, under the scope of its workflow; the row with the greatest sequence number is the
thread's present state.
-/

namespace AssistantEngine

open Reading

/-- What is known of a conversation. -/
structure ThreadState where
  messages : List ChatMessage := []
  activeAssistant : Option String := none
deriving DecidableEq

def ThreadState.read (datum : Datum) : Reading ThreadState :=
  fields [["messages"], ["active_assistant"]] datum fun
    | [messages, activeAssistant] => return {
        messages := ← defaulted [] (asList ChatMessage.read) messages
        activeAssistant := ← nullable asText activeAssistant }
    | _ => failure

def ThreadState.toJson (state : ThreadState) : Json :=
  Json.object [("messages", .arr (state.messages.map ChatMessage.toJson)),
    ("active_assistant", Json.ofOption .str state.activeAssistant)]

structure CheckpointRow where
  scope : String
  thread : String
  sequence : Int
  state : String
  createdAt : Nat
deriving DecidableEq, Repr

/-- Rows, oldest first, and the time of the next save; every save moves that time on. -/
structure CheckpointTable where
  rows : List CheckpointRow := []
  nextTime : Nat := 1
deriving DecidableEq, Repr

/-- A database whose table may have been dropped. -/
structure Database where
  table : Option CheckpointTable := some {}
deriving DecidableEq, Repr

namespace CheckpointTable

def history (table : CheckpointTable) (scope thread : String) : List CheckpointRow :=
  table.rows.filter fun row => row.scope = scope && row.thread = thread

/-- Of two rows the one with the greater number; of equal ones the first. -/
def later (found : Option CheckpointRow) (row : CheckpointRow) : Option CheckpointRow :=
  match found with
  | some best => if best.sequence < row.sequence then some row else some best
  | none => some row

def latest? (table : CheckpointTable) (scope thread : String) : Option CheckpointRow :=
  (table.history scope thread).foldl later none

def nextSequence (table : CheckpointTable) (scope thread : String) : Int :=
  match table.latest? scope thread with
  | some row => row.sequence + 1
  | none => 1

def append (table : CheckpointTable) (scope thread state : String) : CheckpointTable :=
  { rows := table.rows ++
      [{ scope := scope
         thread := thread
         sequence := table.nextSequence scope thread
         state := state
         createdAt := table.nextTime }]
    nextTime := table.nextTime + 1 }

def delete (table : CheckpointTable) (scope thread : String) : CheckpointTable :=
  { table with rows := table.rows.filter fun row => !(row.scope = scope && row.thread = thread) }

/-- The threads of a scope with the time of their last row. -/
def lastTimes (table : CheckpointTable) (scope : String) : Catalog Nat :=
  (table.rows.filter (·.scope = scope)).foldl
    (fun times row => times.insert row.thread (max ((times.find? row.thread).getD 0) row.createdAt))
    []

/-- Later times come first; of equal ones the lesser name. -/
def comesBefore (first second : String × Nat) : Bool :=
  first.2 > second.2 || (first.2 == second.2 && first.1 ≤ second.1)

/-- The threads of a scope, the one saved last in front. -/
def threads (table : CheckpointTable) (scope : String) : List String :=
  ((table.lastTimes scope).mergeSort comesBefore).map (·.1)

end CheckpointTable

namespace Database

def noTable : Fault := .checkpoint "no such table: checkpoints"

/-- Makes the table if there is none. -/
def ensureTable (database : Database) : Database :=
  { table := some (database.table.getD {}) }

def withTable {α : Type} (database : Database) (use : CheckpointTable → α) : Except Fault α :=
  match database.table with
  | some table => .ok (use table)
  | none => .error noTable

/-- A store can be opened while there is a table. -/
def probe (database : Database) : Except Fault Unit := database.withTable fun _ => ()

/-- The present state of a thread, if it has one. A row whose text is no state is a fault. -/
def load (database : Database) (scope thread : String) : Except Fault (Option ThreadState) :=
  match database.table with
  | none => .error noTable
  | some table =>
    match table.latest? scope thread with
    | none => .ok none
    | some row =>
      match Reading.ofJsonText? ThreadState.read row.state with
      | some state => .ok (some state)
      | none => .error (.internal "JSON error")

/-- Numbers of rows are words of 64 bits with a sign. -/
def greatestSequence : Int := twoTo 63 - 1

/-- The number of a row that is asked for; one beyond the greatest is only kept about right. -/
def sequenceFor (number : Nat) : Int :=
  if (number : Int) ≤ greatestSequence then number else Binary64.nearestNat number

/-- There is no row number after the greatest one. -/
def sequenceOverflow : Fault :=
  .checkpoint "Invalid column type Real at index: 0, name: COALESCE(MAX(seq), 0) + 1"

/-- Appends a state to a thread's history; answers its sequence number. -/
def save (database : Database) (scope thread : String) (state : ThreadState) :
    Except Fault (Int × Database) :=
  match database.table with
  | none => .error noTable
  | some table =>
    let sequence := table.nextSequence scope thread
    if greatestSequence < sequence then .error sequenceOverflow
    else
      .ok (sequence, { table := some (table.append scope thread state.toJson.compact) })

def threads (database : Database) (scope : String) : Except Fault (List String) :=
  database.withTable fun table => table.threads scope

/-- Removes a thread's history; answers how many rows it had. -/
def deleteThread (database : Database) (scope thread : String) : Except Fault (Nat × Database) :=
  match database.table with
  | none => .error noTable
  | some table =>
    .ok ((table.history scope thread).length, { table := some (table.delete scope thread) })

/-- Puts a row in as it is; the number must be new in its thread. -/
def insertRow (database : Database) (row : CheckpointRow) : Except Fault Database :=
  match database.table with
  | none => .error noTable
  | some table =>
    if (table.history row.scope row.thread).any (·.sequence = row.sequence) then
      .error (.checkpoint
        "UNIQUE constraint failed: checkpoints.scope, checkpoints.thread_id, checkpoints.seq")
    else .ok { table := some { table with rows := table.rows ++ [row] } }

def dropTable (database : Database) : Except Fault Database :=
  database.withTable fun _ => { table := none }

end Database

/-! ## What stores do -/

/-- What a checkpoint store may be asked for; the store adds its scope. -/
inductive CheckpointAction where
  | save (thread : String) (state : ThreadState)
  | load (thread : String)
  | threads
  | deleteThread (thread : String)

inductive CheckpointAnswer where
  | saved (sequence : Int)
  | loaded (state : Option ThreadState)
  | threads (names : List String)
  | deleted (count : Nat)

def Database.perform (database : Database) (scope : String) :
    CheckpointAction → Except Fault (CheckpointAnswer × Database)
  | .save thread state =>
    (database.save scope thread state).map fun (sequence, database) => (.saved sequence, database)
  | .load thread => (database.load scope thread).map fun state => (.loaded state, database)
  | .threads => (database.threads scope).map fun names => (.threads names, database)
  | .deleteThread thread =>
    (database.deleteThread scope thread).map fun (count, database) => (.deleted count, database)

end AssistantEngine
