import AssistantEngine.Checkpoint.Location
import AssistantEngine.Checkpoint.Table
import AssistantEngine.Json.Member
import AssistantEngine.Storage.FileTree

/-!
Databases that are kept in files. Those that nobody keeps are new whenever they are opened.
-/

namespace AssistantEngine

/-- The kept databases by the place of their file. -/
abbrev DatabaseShelf := Catalog Database

namespace DatabaseShelf

/-- The place of a database's file. -/
def placeOf (files : FileSystem) (path : String) : String :=
  "/" ++ Text.join "/" (files.resolve path)

/-- Makes the directories that the name of a database seems to lie in, also if the name is
an address. -/
def makeParents (files : FileSystem) (name : String) : Except Fault FileSystem :=
  match (Path.parent? name).filter (!·.isEmpty) with
  | none => .ok files
  | some parent =>
    match files.makeDirectories? parent with
    | some files => .ok files
    | none =>
      .error (.checkpoint s!"Failed to create directory {parent}: File exists (os error 17)")

def unopened : Fault := .checkpoint "Failed to open database: unable to open database file"

def unwritableText : String := "attempt to write a readonly database"

/-- The fault of a database in which no table can be made. -/
def unwritable : Fault := .checkpoint unwritableText

/-- What a file may be opened as, and the files as they are then. An empty file is a database
without a table, and it takes writing to make one. The path is taken name by name, so that a
slash at its end says nothing. -/
def openFile (shelf : DatabaseShelf) (files : FileSystem) (path : String) (use : FileUse) :
    Except Fault Database × FileSystem :=
  if use.model.any fun model => model.isEmpty || !files.contains model then
    (.error unopened, files)
  else
    match files.tree.find? (files.resolve path) with
    | some (.directory _) => (.error unopened, files)
    | some (.file content) =>
      if !content.isEmpty then
        (.error (.checkpoint "Failed to set pragmas: file is not a database"), files)
      else
        match shelf.find? (placeOf files path) with
        | some database => (.ok database.ensureTable, files)
        | none =>
          if use.frozen then (.error unwritable, files)
          else if use.access = .readOnly then
            (.error (.checkpoint ("Failed to set pragmas: " ++ unwritableText)), files)
          else (.ok {}, files)
    | none =>
      let directory := (files.resolve path).dropLast
      if use.access = .create && (files.tree.find? directory).any FileTree.isDirectory then
        (if use.frozen then .error unwritable else .ok {}, files.write path "")
      else (.error unopened, files)

/-- Opens the database of a name; answers it with the files as they are then. -/
def openAt (shelf : DatabaseShelf) (files : FileSystem) (name : String) :
    Except Fault Database × FileSystem :=
  if name = ":memory:" then (.ok {}, files)
  else
    match makeParents files name with
    | .error fault => (.error fault, files)
    | .ok files =>
      match DatabaseLocation.ofName? name with
      | none => (.error unopened, files)
      | some .unkept => (.ok {}, files)
      | some .unwritable => (.error unwritable, files)
      | some (.file path use) => openFile shelf files path use

/-- Keeps a database in the file that its name leads to. -/
def keep (shelf : DatabaseShelf) (files : FileSystem) (name : String) (database : Database) :
    DatabaseShelf :=
  match DatabaseLocation.ofName? name with
  | some (.file path _) => shelf.insert (placeOf files path) database
  | _ => shelf

end DatabaseShelf

/-! ## Databases as texts -/

namespace CheckpointRow

def toJson (row : CheckpointRow) : Json :=
  Json.object [("scope", .str row.scope), ("thread", .str row.thread),
    ("sequence", .int row.sequence), ("state", .str row.state),
    ("created_at", Json.natural row.createdAt)]

def ofJson? (value : Json) : Option CheckpointRow := do
  let .int sequence ← value.member? "sequence" | none
  some {
    scope := ← value.textAt? "scope"
    thread := ← value.textAt? "thread"
    sequence := sequence
    state := ← value.textAt? "state"
    createdAt := ← value.naturalAt? "created_at" }

end CheckpointRow

namespace Database

def toJson (database : Database) : Json :=
  Json.ofOption (fun (table : CheckpointTable) =>
    Json.object [("rows", .arr (table.rows.map CheckpointRow.toJson)),
      ("next_time", Json.natural table.nextTime)]) database.table

def ofJson? (value : Json) : Option Database := do
  let .arr rows ← value.member? "rows" | none
  some { table := some {
    rows := ← rows.mapM CheckpointRow.ofJson?
    nextTime := ← value.naturalAt? "next_time" } }

end Database

end AssistantEngine
