import AssistantEngine.Plugin.Manifest
import AssistantEngine.Storage.FileTree

/-!
The registry of plugin manifests. Loading walks the configured directories in order, each
depth first in ascending order of names and at most two levels deep, and keeps the first
manifest of every id.
-/

namespace AssistantEngine

structure PluginRegistry where
  directories : List String
  manifests : Catalog PluginManifest := []

namespace PluginRegistry

def manifestNames : List String := ["plugin.yaml", "plugin.yml", "plugin.json"]

def deepestScan : Nat := 2

/-! The manifest files below a directory, as paths with contents, in the order of the walk.
`levels` counts the levels of directories that may still be entered. -/

mutual
def manifestFiles (path : String) : Nat → FileTree → List (String × String)
  | levels, .directory entries => manifestFilesAmong path levels entries
  | _, .file _ => []

def manifestFilesAmong (path : String) : Nat → List (String × FileTree) → List (String × String)
  | _, [] => []
  | levels, (name, .file content) :: rest =>
    let further := manifestFilesAmong path levels rest
    if manifestNames.contains name then (Path.join path name, content) :: further else further
  | 0, (_, .directory _) :: rest => manifestFilesAmong path 0 rest
  | levels + 1, (name, .directory entries) :: rest =>
    manifestFilesAmong (Path.join path name) levels entries ++
      manifestFilesAmong path (levels + 1) rest
end

/-- The manifest that a file holds, if it holds one. -/
def manifestAt? (file : String × String) : Option PluginManifest :=
  match PluginManifest.ofYaml file.2 with
  | .ok manifest => some (manifest.atPath file.1)
  | .error _ => none

def filesIn (files : FileSystem) (directory : String) : List (String × String) :=
  match files.find? directory with
  | some tree => manifestFiles directory deepestScan tree
  | none => []

/-- All manifests in the order of the walk. -/
def discovered (files : FileSystem) (directories : List String) : List PluginManifest :=
  (directories.flatMap (filesIn files)).filterMap manifestAt?

/-- The first manifest of every id. -/
def firstOfEach (manifests : List PluginManifest) : Catalog PluginManifest :=
  manifests.foldl (fun catalog manifest => catalog.insertNew manifest.id manifest) []

/-- Replaces the contents by what the directories hold now. -/
def reload (registry : PluginRegistry) (files : FileSystem) : PluginRegistry :=
  { registry with manifests := firstOfEach (discovered files registry.directories) }

def load (files : FileSystem) (directories : List String) : PluginRegistry :=
  reload { directories := directories } files

/-- Registers a manifest in place of any other of its id. -/
def insert (registry : PluginRegistry) (manifest : PluginManifest) : PluginRegistry :=
  { registry with manifests := registry.manifests.insert manifest.id manifest }

def find? (registry : PluginRegistry) (id : String) : Option PluginManifest :=
  registry.manifests.find? id

/-- All manifests in ascending order of their ids. -/
def list (registry : PluginRegistry) : List PluginManifest := registry.manifests.values

def size (registry : PluginRegistry) : Nat := registry.manifests.length

end PluginRegistry

end AssistantEngine
