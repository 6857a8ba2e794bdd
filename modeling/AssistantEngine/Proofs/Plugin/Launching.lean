import AssistantEngine.Plugin.Transport

/-!
Which accepted manifests have a server that can be reached. A manifest is accepted if it names a
target of its execution or any server entry; whether the first entry, which counts for the shared
instance, says how its server is reached is not looked at before the server is needed.
-/

namespace AssistantEngine

theorem eq_ok_of_toOption {ε α : Type} {result : Except ε α} {value : α}
    (found : result.toOption = some value) : result = .ok value := by
  cases result with
  | error _ => cases found
  | ok _ => exact congrArg Except.ok (Option.some.inj found)

/-- Whether a server entry says how its server is reached. -/
def ServerEntry.isReachable (server : ServerEntry) : Bool :=
  server.url.isSome || server.command.isSome

namespace PluginManifest

/-- Whether the server entry that counts, if there is one, says how its server is reached. -/
def firstReachable (manifest : PluginManifest) : Bool :=
  manifest.servers.head?.all fun entry => entry.2.isReachable

variable {manifest : PluginManifest} {text : String}

theorem check_eq_ok_iff :
    manifest.check = .ok () ↔
      Transport.hasExecutionTarget manifest = true ∨ manifest.servers ≠ [] := by
  unfold check Transport.hasExecutionTarget
  cases manifest.execution.mode with
  | localScript => cases manifest.execution.scriptPath <;> cases manifest.servers <;> simp
  | remote => cases manifest.execution.url <;> cases manifest.servers <;> simp

/-- The manifest of an accepted text has passed the check. -/
theorem check_of_ofYaml (accepted : ofYaml text = .ok manifest) : manifest.check = .ok () := by
  unfold ofYaml at accepted
  split at accepted
  · rename_i read found
    cases checked : read.check with
    | ok _ =>
        rw [checked] at accepted
        cases accepted
        exact checked
    | error fault =>
        rw [checked] at accepted
        cases accepted
  · cases accepted

end PluginManifest

namespace Transport

variable {files : FileSystem} {manifest : PluginManifest} {server : ServerEntry} {text : String}
  {env : List (String × String)} {config : Configuration}

/-- There is a way to the server. -/
def Found (outcome : Except Fault Transport) : Prop := ∃ transport, outcome = .ok transport

/-- What is said of a server entry that says nothing of its server. -/
def unreachable (id : String) : Fault :=
  .manifest s!"plugin '{id}' server entry has neither command nor url"

theorem not_found_error (fault : Fault) : ¬Found (.error fault) := by
  rintro ⟨transport, same⟩
  cases same

theorem found_ofServer (reachable : server.isReachable = true) :
    Found (ofServer files manifest server env) := by
  unfold ofServer
  split
  · exact ⟨_, rfl⟩
  · rename_i noUrl
    split
    · rename_i noCommand
      simp [ServerEntry.isReachable, noUrl, noCommand] at reachable
    · dsimp only
      split <;> exact ⟨_, rfl⟩

theorem ofServer_unreachable (unreached : server.isReachable = false) :
    ofServer files manifest server env = .error (unreachable manifest.id) := by
  obtain ⟨noUrl, noCommand⟩ : server.url = none ∧ server.command = none := by
    simpa [ServerEntry.isReachable] using unreached
  unfold ofServer
  rw [noUrl, noCommand]
  rfl

theorem found_ofExecution (target : hasExecutionTarget manifest = true) :
    Found (ofExecution manifest env) := by
  unfold hasExecutionTarget at target
  unfold ofExecution
  split <;> rename_i mode <;> rw [mode] at target
  · obtain ⟨path, given⟩ := Option.isSome_iff_exists.mp target
    rw [given]
    exact ⟨_, rfl⟩
  · obtain ⟨url, given⟩ := Option.isSome_iff_exists.mp target
    rw [given]
    exact ⟨_, rfl⟩

/-- The server entry that counts is the first one. -/
theorem firstReachable_cons {name : String} {rest : Catalog ServerEntry}
    (servers : manifest.servers = (name, server) :: rest) :
    manifest.firstReachable = server.isReachable := by
  simp [PluginManifest.firstReachable, servers]

theorem ofManifest_unreachable (unreached : manifest.firstReachable = false) :
    ofManifest files manifest = .error (unreachable manifest.id) := by
  unfold ofManifest
  split
  · rename_i servers
    exact ofServer_unreachable (firstReachable_cons servers ▸ unreached)
  · rename_i servers
    simp [PluginManifest.firstReachable, servers] at unreached

theorem ofLink_unreachable (noTarget : hasExecutionTarget manifest = false)
    (unreached : manifest.firstReachable = false) :
    ofLink files manifest config = .error (unreachable manifest.id) := by
  unfold ofLink
  split
  · rename_i servers
    rw [noTarget, if_neg Bool.false_ne_true]
    exact ofServer_unreachable (firstReachable_cons servers ▸ unreached)
  · rename_i servers
    simp [PluginManifest.firstReachable, servers] at unreached

variable (checked : manifest.check = .ok ())
include checked

/-- Without server entries an accepted manifest has a target. -/
theorem target_of_check (servers : manifest.servers = []) : hasExecutionTarget manifest = true :=
  (PluginManifest.check_eq_ok_iff.mp checked).resolve_right fun some => some servers

theorem found_ofManifest (reached : manifest.firstReachable = true) :
    Found (ofManifest files manifest) := by
  unfold ofManifest
  split
  · rename_i servers
    exact found_ofServer (firstReachable_cons servers ▸ reached)
  · rename_i servers
    exact found_ofExecution (target_of_check checked servers)

theorem found_ofLink (way : hasExecutionTarget manifest = true ∨ manifest.firstReachable = true) :
    Found (ofLink files manifest config) := by
  unfold ofLink
  split
  · rename_i servers
    split
    · rename_i target
      exact found_ofExecution target
    · rename_i noTarget
      exact found_ofServer (firstReachable_cons servers ▸ way.resolve_left noTarget)
  · rename_i servers
    exact found_ofExecution (target_of_check checked servers)

omit checked

/-- Wherever the file of an accepted manifest lies, whatever id it goes by, and whatever its
configuration: its shared instance and a link's own one both have a way to the server exactly if its
first server entry, where it has any, says how that is reached. Otherwise the shared instance has
none, and a link's own one has none either unless there is a target to be executed; that is refused
for the entry. -/
theorem accepted_launches_iff (accepted : PluginManifest.ofYaml text = .ok manifest)
    (id directory : String) (files : FileSystem) (config : Configuration) :
    let launched := { manifest with id := id, baseDirectory := directory }
    let shared := ofManifest files launched
    let own := ofLink files launched config
    (Found shared ∧ Found own ↔ manifest.firstReachable = true) ∧
    (manifest.firstReachable = false → shared = .error (unreachable id) ∧
      if hasExecutionTarget manifest then Found own else own = .error (unreachable id)) := by
  intro launched shared own
  have passed : manifest.check = .ok () := PluginManifest.check_of_ofYaml accepted
  have checked : launched.check = .ok () :=
    PluginManifest.check_eq_ok_iff.mpr (PluginManifest.check_eq_ok_iff.mp passed)
  cases first : manifest.firstReachable with
  | true =>
      have reached : launched.firstReachable = true := first
      exact ⟨iff_of_true ⟨found_ofManifest checked reached,
        found_ofLink checked (.inr reached)⟩ rfl, nofun⟩
  | false =>
      have unreached : launched.firstReachable = false := first
      have refused : shared = .error (unreachable id) := ofManifest_unreachable unreached
      refine ⟨iff_of_false ?_ Bool.false_ne_true, fun _ => ⟨refused, ?_⟩⟩
      · rintro ⟨found, -⟩
        exact not_found_error _ (refused ▸ found)
      · split
        · rename_i target
          exact found_ofLink checked (.inl target)
        · rename_i noTarget
          exact ofLink_unreachable (Bool.eq_false_iff.mpr noTarget) unreached

/-- A plugin whose server is run by its first server entry. The other entry says nothing. -/
def searchManifest : PluginManifest :=
  { displayName := "Search"
    execution := { mode := .localScript }
    servers := [("docs", { command := some "uvx", args := ["docs-mcp"] }), ("main", {})] }

def searchText : String :=
  "display_name: Search\nexecution:\n  mode: local\nservers:\n  main:\n  docs:\n    command: uvx\n    args: [docs-mcp]\n"

theorem accepted_launches_iff_search :
    PluginManifest.ofYaml searchText = .ok searchManifest ∧
      Found (ofManifest {} { searchManifest with id := "search", baseDirectory := "/plugins" }) ∧
      Found (ofLink {} { searchManifest with id := "search", baseDirectory := "/plugins" } {}) := by
  have accepted : PluginManifest.ofYaml searchText = .ok searchManifest :=
    eq_ok_of_toOption (by decide +kernel)
  exact ⟨accepted, (accepted_launches_iff accepted "search" "/plugins" {} {}).1.mpr rfl⟩

def bareManifest : PluginManifest :=
  { displayName := "Weather"
    execution := { mode := .remote, url := some "http://tools" }
    servers := [("main", {})] }

/-- A manifest is accepted whose server is known, though its shared instance cannot be launched. -/
theorem accepted_not_launched :
    PluginManifest.ofYaml
      "display_name: Weather\nexecution:\n  mode: remote\n  url: http://tools\nservers:\n  main: \x7b\x7d\n" =
        .ok bareManifest ∧
      hasExecutionTarget bareManifest = true ∧
      ofManifest {} { bareManifest with id := "weather", baseDirectory := "/plugins" } =
        .error (.manifest "plugin 'weather' server entry has neither command nor url") :=
  ⟨eq_ok_of_toOption (by decide +kernel), rfl, rfl⟩

end Transport

end AssistantEngine
