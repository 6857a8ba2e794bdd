import AssistantEngine.Catalog
import AssistantEngine.Storage.Path

/-!
A tree of files and directories. The entries of a directory are kept in ascending order
of their names, which is the order in which a directory is visited.
-/

namespace AssistantEngine

inductive FileTree where
  | file (content : String)
  | directory (entries : List (String × FileTree))
deriving Inhabited

namespace FileTree

def empty : FileTree := .directory []

def isDirectory : FileTree → Bool
  | .directory _ => true
  | .file _ => false

/-- What lies at the end of a row of names. -/
def find? : FileTree → List String → Option FileTree
  | tree, [] => some tree
  | .file _, _ :: _ => none
  | .directory entries, name :: rest =>
    match Catalog.find? entries name with
    | some tree => find? tree rest
    | none => none

def entries : FileTree → Catalog FileTree
  | .directory entries => entries
  | .file _ => []

/-- Puts a tree at the end of a row of names and makes the directories on the way. A file
on the way gives place to a directory. -/
def place : FileTree → List String → FileTree → FileTree
  | _, [], new => new
  | tree, name :: rest, new =>
    let below := (Catalog.find? tree.entries name).getD empty
    .directory (Catalog.insert tree.entries name (place below rest new))

/-- Makes the directories along a row of names, keeping what is there. -/
def makeDirectory : FileTree → List String → FileTree
  | tree, [] => tree
  | tree, name :: rest =>
    let below := (Catalog.find? tree.entries name).getD empty
    .directory (Catalog.insert tree.entries name (makeDirectory below rest))

def remove : FileTree → List String → FileTree
  | _, [] => empty
  | tree, [name] => .directory (Catalog.erase tree.entries name)
  | tree, name :: next :: rest =>
    match Catalog.find? tree.entries name with
    | some below => .directory (Catalog.insert tree.entries name (remove below (next :: rest)))
    | none => tree

end FileTree

/-- The row of names that a path comes to; stepping up from the top stays there. -/
def Path.steps (names : List String) : List String :=
  let walked := names.foldl
    (fun walked name => if name = ".." then walked.drop 1 else name :: walked) []
  walked.reverse

namespace FileTree

/-- What lies at the end of a walk, where `walked` has been gone already, last name first.
Stepping up is possible only from a directory. -/
def walk? (tree : FileTree) (walked : List String) : List String → Option FileTree
  | [] => tree.find? walked.reverse
  | name :: rest =>
    if name = ".." then
      if (tree.find? walked.reverse).any isDirectory then walk? tree (walked.drop 1) rest
      else none
    else walk? tree (name :: walked) rest

/-- Makes the directories along a walk that are not there; a file on the way prevents it. -/
def makeWay? (tree : FileTree) (walked : List String) : List String → Option FileTree
  | [] => some tree
  | name :: rest =>
    if name = ".." then makeWay? tree (walked.drop 1) rest
    else
      let walked := name :: walked
      match tree.find? walked.reverse with
      | some (.file _) => none
      | some (.directory _) => makeWay? tree walked rest
      | none => makeWay? (tree.makeDirectory walked.reverse) walked rest

end FileTree

/-- A file tree together with the directory that relative paths start from. -/
structure FileSystem where
  tree : FileTree := .empty
  workingDirectory : List String := []
deriving Inhabited

namespace FileSystem

/-- The names that a path is a walk along, from the top. -/
def way (files : FileSystem) (path : String) : List String :=
  if Path.isAbsolute path then Path.names path else files.workingDirectory ++ Path.names path

/-- The row of names, from the top, that a path comes to. -/
def resolve (files : FileSystem) (path : String) : List String := Path.steps (files.way path)

/-- What a path leads to. A path that ends with a slash or a single dot leads to a directory
only. -/
def find? (files : FileSystem) (path : String) : Option FileTree :=
  (files.tree.walk? [] (files.way path)).filter fun tree =>
    tree.isDirectory || !Path.endsInDirectory path

def read? (files : FileSystem) (path : String) : Option String :=
  match files.find? path with
  | some (.file content) => some content
  | _ => none

def contains (files : FileSystem) (path : String) : Bool := (files.find? path).isSome

def isDirectory (files : FileSystem) (path : String) : Bool :=
  (files.find? path).any FileTree.isDirectory

def write (files : FileSystem) (path content : String) : FileSystem :=
  { files with tree := files.tree.place (files.resolve path) (.file content) }

def makeDirectory (files : FileSystem) (path : String) : FileSystem :=
  { files with tree := files.tree.makeDirectory (files.resolve path) }

/-- Makes all directories of a path, unless a file is in the way. -/
def makeDirectories? (files : FileSystem) (path : String) : Option FileSystem :=
  (files.tree.makeWay? [] (files.way path)).map fun tree => { files with tree := tree }

def remove (files : FileSystem) (path : String) : FileSystem :=
  { files with tree := files.tree.remove (files.resolve path) }

end FileSystem

end AssistantEngine
