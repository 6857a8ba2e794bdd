import AssistantEngine.Engine.Plugins
import AssistantEngine.Proofs.Plugin.Validation

/-!
How a configuration reaches a server that is run as a subprocess. Each value becomes a variable of
the subprocess, which is named after the key of the value. Different keys may name one variable. It
is left with the value of the last of them, be that key declared by a field or not; what the
server's own entry says of the variable never counts.
-/

namespace AssistantEngine

namespace Configuration

variable {schema : List ConfigField} {input : Catalog Json} {config : Configuration}
  {own : List (String × String)} {name key : String} {value : Json}

/-! ## Keys of a variable -/

/-- Of the keys that name a variable, the last one, with its value. -/
structure Prevails (config : Configuration) (name key : String) (value : Json) : Prop where
  held : config.values.find? key = some value
  named : variableName key = name
  last : ∀ other ∈ config.values.keys, variableName other = name → other ≤ key

theorem ascending_of_validate (accepted : validate schema input = .ok config) :
    config.values.Ascending := by
  obtain ⟨-, rfl⟩ := validate_ok_iff.mp accepted
  exact (ascending_fieldValues schema input).foldl_insert _

/-- The last key is the first one from behind. -/
theorem find?_reverse_eq_some_iff (ascending : config.values.Ascending) :
    config.values.reverse.find? (variableName ·.1 = name) = some (key, value) ↔
      Prevails config name key value := by
  rw [List.find?_eq_some_iff_append]
  simp only [decide_eq_true_eq, Bool.not_eq_true', decide_eq_false_iff_not]
  constructor
  · rintro ⟨named, later, earlier, split, others⟩
    have values : config.values = earlier.reverse ++ (key, value) :: later.reverse := by
      rw [← List.reverse_reverse config.values, split]
      simp
    obtain ⟨before, -⟩ := ascending.around values
    refine ⟨ascending.find?_eq_some_iff.mpr (by simp [values]), named, ?_⟩
    intro other member same
    obtain ⟨entry, held, rfl⟩ := List.mem_map.mp member
    rw [values] at held
    rcases List.mem_append.mp held with first | rest
    · exact Std.le_of_lt (before entry first)
    · rcases List.mem_cons.mp rest with rfl | behind
      · exact String.le_refl _
      · exact absurd same (others entry (List.mem_reverse.mp behind))
  · intro prevails
    obtain ⟨earlier, later, values⟩ := List.append_of_mem (Catalog.mem_of_find? prevails.held)
    obtain ⟨-, after⟩ := ascending.around values
    refine ⟨prevails.named, later.reverse, earlier.reverse, by simp [values], ?_⟩
    intro entry behind same
    have greater := after entry (List.mem_reverse.mp behind)
    have member : entry ∈ config.values := by
      rw [values]
      exact List.mem_append_right _ (List.mem_cons_of_mem _ (List.mem_reverse.mp behind))
    exact absurd (prevails.last _ (List.mem_map_of_mem member) same) (String.not_le.mpr greater)

/-- A key names a variable in which some key prevails. -/
theorem exists_prevails (ascending : config.values.Ascending)
    (held : config.values.find? key = some value) :
    ∃ last other, Prevails config (variableName key) last other := by
  have found : (config.values.reverse.find? (variableName ·.1 = variableName key)).isSome := by
    rw [List.find?_isSome]
    exact ⟨_, List.mem_reverse.mpr (Catalog.mem_of_find? held), by simp⟩
  obtain ⟨⟨last, other⟩, found⟩ := Option.isSome_iff_exists.mp found
  exact ⟨last, other, (find?_reverse_eq_some_iff ascending).mp found⟩

theorem Prevails.unique {first second : String} {one other : Json}
    (prevails : Prevails config name first one) (also : Prevails config name second other) :
    one = other := by
  have same : first = second := String.le_antisymm
    (also.last first (Catalog.mem_keys_of_find? prevails.held) prevails.named)
    (prevails.last second (Catalog.mem_keys_of_find? also.held) also.named)
  subst same
  exact Option.some.inj (prevails.held.symm.trans also.held)

/-- Variables that are set one after the other, those of a configuration at the end: the value that
prevails is what is found. -/
theorem find?_ofList_environment (ascending : config.values.Ascending)
    (prevails : Prevails config name key value) :
    (Catalog.ofList (own ++ config.environment)).find? name = some (variableValue value) := by
  have found := (find?_reverse_eq_some_iff ascending).mpr prevails
  rw [Catalog.find?_ofList, List.reverse_append, List.find?_append, environment, ← List.map_reverse,
    List.find?_map]
  simp only [Function.comp_def, found, Option.map_some, Option.some_or]

end Configuration

/-! ## Subprocesses -/

namespace Transport

variable {files : FileSystem} {manifest : PluginManifest} {env : List (String × String)}
  {transport : Transport}

/-- The variables that a subprocess is given. -/
def variables? : Transport → Option (List (String × String))
  | .subprocess _ _ env _ => some env
  | .http _ | .eventStream _ => none

theorem variables?_remote (url : String) : (remote url).variables? = none := by
  unfold remote
  dsimp only
  split <;> rfl

theorem variables?_script (path : String) (args : List String) (directory : Option String) :
    (script path args env directory).variables? = some env := by
  unfold script
  split <;> rfl

theorem variables?_ofExecution (made : ofExecution manifest env = .ok transport) :
    ∀ all ∈ transport.variables?, all = env := by
  unfold ofExecution at made
  split at made
  · split at made <;> cases made
    simp [variables?_script]
  · split at made <;> cases made
    simp [variables?_remote]

theorem variables?_ofServer {server : ServerEntry}
    (made : ofServer files manifest server env = .ok transport) :
    ∀ all ∈ transport.variables?, all = server.env ++ env := by
  unfold ofServer at made
  split at made
  · cases made
    simp [variables?_remote]
  · split at made
    · cases made
    · dsimp only at made
      split at made <;> cases made
      · simp [variables?_script]
      · simp [variables?]

/-- A configuration is what a subprocess is told last. -/
theorem variables?_ofLink {config : Configuration}
    (made : ofLink files manifest config = .ok transport) :
    ∀ all ∈ transport.variables?, ∃ own, all = own ++ config.environment := by
  intro all given
  unfold ofLink at made
  split at made
  · split at made
    · exact ⟨[], variables?_ofExecution made all given⟩
    · exact ⟨_, variables?_ofServer made all given⟩
  · exact ⟨[], variables?_ofExecution made all given⟩

end Transport

namespace PluginRuntime

/-- A link's own subprocess finds a value of the validated configuration under the name of its
variable exactly if the last key that names the variable has a value of the same text. -/
theorem forLink_carries_iff {files : FileSystem} {manifest : PluginManifest} {link : PluginLink}
    {config : Configuration} {command : String} {args : List String} {env : List (String × String)}
    {directory : Option String} {key : String} {value : Json}
    (accepted : Configuration.validate manifest.configSchema link.config = .ok config)
    (launched : Transport.ofLink files manifest (configurationOf manifest link) =
      .ok (.subprocess command args env directory))
    (held : config.values.find? key = some value) :
    (Catalog.ofList env).find? (Configuration.variableName key) =
        some (Configuration.variableValue value) ↔
      ∀ last other, config.Prevails (Configuration.variableName key) last other →
        Configuration.variableValue other = Configuration.variableValue value := by
  have ascending := Configuration.ascending_of_validate accepted
  have chosen : configurationOf manifest link = config := by rw [configurationOf, accepted]
  rw [chosen] at launched
  obtain ⟨own, rfl⟩ := Transport.variables?_ofLink launched env rfl
  constructor
  · intro found last other prevails
    rw [Configuration.find?_ofList_environment ascending prevails] at found
    exact Option.some.inj found
  · intro same
    obtain ⟨last, other, prevails⟩ := Configuration.exists_prevails ascending held
    rw [Configuration.find?_ofList_environment ascending prevails, same last other prevails]

/-! ## A variable of two keys -/

def sizeField : ConfigField := { name := "pool-size", type := .integer }

/-- A database server, whose pool of connections has a size. -/
def poolManifest : PluginManifest where
  id := "db"
  displayName := "DB"
  configSchema := [{ name := "dsn", required := true }, sizeField]
  execution := { mode := .localScript }
  servers := [("main", { command := some "uvx", env := [("DSN", "sqlite"), ("MODE", "fast")] })]
  baseDirectory := "plugins/db"

/-- A size of the pool, and something else under a similar key. -/
def poolLink : PluginLink where
  registryId := "db"
  config := [("dsn", .str "pg://x"), ("pool-size", .str "8"), ("pool_size", .str "lots")]

def poolConfig : Configuration :=
  { values := [("dsn", .str "pg://x"), ("pool-size", .int 8), ("pool_size", .str "lots")] }

def poolEnv : List (String × String) :=
  [("DSN", "sqlite"), ("MODE", "fast"), ("DSN", "pg://x"), ("POOL_SIZE", "8"),
    ("POOL_SIZE", "lots")]

theorem pool_accepted :
    Configuration.validate poolManifest.configSchema poolLink.config = .ok poolConfig := by
  decide

theorem pool_launched :
    Transport.ofLink {} poolManifest (configurationOf poolManifest poolLink) =
      .ok (.subprocess "uvx" [] poolEnv (some "plugins/db")) :=
  rfl

/-- The server finds the address in place of the one in its entry. It does not find the size. -/
theorem forLink_carries_iff_pool :
    Configuration.validate poolManifest.configSchema poolLink.config = .ok poolConfig ∧
    Transport.ofLink {} poolManifest (configurationOf poolManifest poolLink) =
      .ok (.subprocess "uvx" [] poolEnv (some "plugins/db")) ∧
    poolConfig.values.find? "dsn" = some (.str "pg://x") ∧
    poolConfig.values.find? "pool-size" = some (.int 8) ∧
    (Catalog.ofList poolEnv).find? "DSN" = some "pg://x" ∧
    (Catalog.ofList poolEnv).find? "POOL_SIZE" ≠ some "8" := by
  have address : poolConfig.values.find? "dsn" = some (.str "pg://x") := rfl
  have size : poolConfig.values.find? "pool-size" = some (.int 8) := rfl
  have addressPrevails : poolConfig.Prevails "DSN" "dsn" (.str "pg://x") :=
    ⟨rfl, by decide, by decide⟩
  have otherPrevails : poolConfig.Prevails "POOL_SIZE" "pool_size" (.str "lots") :=
    ⟨rfl, by decide, by decide⟩
  refine ⟨pool_accepted, pool_launched, address, size, ?_, ?_⟩
  · apply (forLink_carries_iff pool_accepted pool_launched address).mpr
    intro last other prevails
    rw [prevails.unique addressPrevails]
  · intro found
    have same := (forLink_carries_iff pool_accepted pool_launched size).mp found _ _ otherPrevails
    revert same
    decide

/-- A validated value of a field may not reach the server. -/
theorem pool_size_displaced :
    ¬ ∀ (files : FileSystem) (manifest : PluginManifest) (link : PluginLink)
      (config : Configuration) (command : String) (args : List String)
      (env : List (String × String)) (directory : Option String) (field : ConfigField)
      (value : Json), (manifest.configSchema.map (·.name)).Nodup → link.config.Ascending →
      Configuration.validate manifest.configSchema link.config = .ok config →
      Transport.ofLink files manifest (configurationOf manifest link) =
        .ok (.subprocess command args env directory) →
      field ∈ manifest.configSchema → config.values.find? field.name = some value →
      (Catalog.ofList env).find? (Configuration.variableName field.name) =
        some (Configuration.variableValue value) := by
  intro claim
  have ascending : poolLink.config.Ascending := Catalog.ascending_ofList poolLink.config
  have found := claim {} poolManifest poolLink poolConfig _ _ poolEnv _ sizeField (.int 8)
    (by decide) ascending pool_accepted pool_launched (by simp [poolManifest]) rfl
  revert found
  decide

end PluginRuntime

end AssistantEngine
