import AssistantEngine.Proofs.Reading.Respelling
import AssistantEngine.Settings.Basic

/-!
The settings of two documents that differ only in how their quoted scalars are spelled: they differ
at most in their texts. What two readings have in common determines which of the texts is the quoted
one.
-/

namespace AssistantEngine

open Reading

/-- Settings that differ at most in their texts. -/
structure ModelSettings.Alike (Same : String → String → Prop) (settings other : ModelSettings) :
    Prop where
  adapter : Same settings.adapter other.adapter
  baseUrl : Same settings.baseUrl other.baseUrl
  apiKey : Same settings.apiKey other.apiKey
  model : Same settings.model other.model
  temperature : settings.temperature = other.temperature
  maxTokens : settings.maxTokens = other.maxTokens
  timeoutSeconds : settings.timeoutSeconds = other.timeoutSeconds

structure Settings.Alike (Same : String → String → Prop) (settings other : Settings) : Prop where
  checkpointDatabase : Same settings.checkpointDatabase other.checkpointDatabase
  pluginDirectories : List.Forall₂ Same settings.pluginDirectories other.pluginDirectories
  workflowDirectory : Option.Rel Same settings.workflowDirectory other.workflowDirectory
  resultCacheCapacity : settings.resultCacheCapacity = other.resultCacheCapacity
  handshakeTimeout : settings.handshakeTimeout = other.handshakeTimeout
  rebuildDebounce : settings.rebuildDebounce = other.rebuildDebounce
  maxAgentSteps : settings.maxAgentSteps = other.maxAgentSteps
  allowSelfHandoff : settings.allowSelfHandoff = other.allowSelfHandoff
  model : settings.model.Alike Same other.model

/-- The names of all fields. -/
def Settings.fieldNames : List String :=
  ["checkpoint_db", "plugin_dirs", "workflow_dir", "result_cache_capacity", "handshake_timeout_ms",
    "rebuild_debounce_ms", "max_agent_steps", "allow_self_handoff", "model", "adapter", "base_url",
    "api_key", "temperature", "max_tokens", "timeout_secs"]

variable {spellings : Spellings}

/-- Texts that may stand for one another name the same field. -/
def Reading.Spellings.Respects (spellings : Spellings) : Prop :=
  ∀ text other, spellings.Same text other → text = other ∨
    text ∉ Settings.fieldNames ∧ other ∉ Settings.fieldNames

namespace Reading.Spellings

theorem Respects.fieldPosition?_eq (respects : spellings.Respects) {names : List (List String)}
    (fields : ∀ accepted ∈ names, ∀ name ∈ accepted, name ∈ Settings.fieldNames) (text : String)
    (other : String) (same : spellings.Same text other) :
    fieldPosition? names text = fieldPosition? names other := by
  have unknown {text : String} (foreign : text ∉ Settings.fieldNames) :
      fieldPosition? names text = none := by
    refine List.findIdx?_eq_none_iff.mpr fun accepted member => ?_
    simpa using fun within => foreign (fields accepted member text within)
  rcases respects text other same with rfl | ⟨foreign, further⟩
  · rfl
  · rw [unknown foreign, unknown further]

theorem imitates_text (otherwise : String) {field other : Option Datum}
    (given : Option.Rel spellings.Data field other) :
    spellings.Imitates spellings.Same (defaulted otherwise asText field)
      (defaulted otherwise asText other) :=
  imitates_defaulted (fun _ _ => imitates_asText) (spellings.refl otherwise) given

theorem imitates_natural (greatest otherwise : Nat) {field other : Option Datum}
    (given : Option.Rel spellings.Data field other) :
    spellings.Imitates Eq (defaulted otherwise (asNatural greatest) field)
      (defaulted otherwise (asNatural greatest) other) :=
  imitates_defaulted (fun _ _ => imitates_asNatural greatest) rfl given

end Reading.Spellings

open Reading.Spellings

theorem ModelSettings.imitates_read (respects : spellings.Respects) {datum other : Datum}
    (data : spellings.Data datum other) :
    spellings.Imitates (ModelSettings.Alike spellings.Same) (read datum) (read other) := by
  refine imitates_fields (respects.fieldPosition?_eq (by decide)) (fun row another rows => ?_) data
  rcases rows with _ | ⟨adapter, rows⟩
  · exact .failure _
  rcases rows with _ | ⟨baseUrl, rows⟩
  · exact .failure _
  rcases rows with _ | ⟨apiKey, rows⟩
  · exact .failure _
  rcases rows with _ | ⟨model, rows⟩
  · exact .failure _
  rcases rows with _ | ⟨temperature, rows⟩
  · exact .failure _
  rcases rows with _ | ⟨maxTokens, rows⟩
  · exact .failure _
  rcases rows with _ | ⟨timeoutSeconds, _ | _⟩
  · exact .failure _
  · refine .bind (imitates_text _ adapter) fun _ _ adapter => ?_
    refine .bind (imitates_text _ baseUrl) fun _ _ baseUrl => ?_
    refine .bind (imitates_text _ apiKey) fun _ _ apiKey => ?_
    refine .bind (imitates_text _ model) fun _ _ model => ?_
    refine .bind (imitates_nullable (fun _ _ => imitates_asReal) temperature) fun _ _ warmth => ?_
    refine .bind (imitates_natural _ _ maxTokens) fun _ _ maxTokens => ?_
    refine .bind (imitates_natural _ _ timeoutSeconds) fun _ _ timeoutSeconds => ?_
    refine .pure ⟨adapter, baseUrl, apiKey, model, ?_, maxTokens, timeoutSeconds⟩
    cases warmth with
    | none => rfl
    | some same => rw [same]
  · exact .failure _

theorem ModelSettings.alike_default : Alike spellings.Same {} {} :=
  ⟨spellings.refl _, spellings.refl _, spellings.refl _, spellings.refl _, rfl, rfl, rfl⟩

theorem Settings.imitates_read (respects : spellings.Respects) {environment further : Environment}
    (directories : List.Forall₂ spellings.Same (defaultPluginDirectories environment)
      (defaultPluginDirectories further))
    {datum other : Datum} (data : spellings.Data datum other) :
    spellings.Imitates (Settings.Alike spellings.Same) (read environment datum)
      (read further other) := by
  refine imitates_fields (respects.fieldPosition?_eq (by decide)) (fun row another rows => ?_) data
  rcases rows with _ | ⟨checkpointDatabase, rows⟩
  · exact .failure _
  rcases rows with _ | ⟨pluginDirectories, rows⟩
  · exact .failure _
  rcases rows with _ | ⟨workflowDirectory, rows⟩
  · exact .failure _
  rcases rows with _ | ⟨resultCacheCapacity, rows⟩
  · exact .failure _
  rcases rows with _ | ⟨handshakeTimeout, rows⟩
  · exact .failure _
  rcases rows with _ | ⟨rebuildDebounce, rows⟩
  · exact .failure _
  rcases rows with _ | ⟨maxAgentSteps, rows⟩
  · exact .failure _
  rcases rows with _ | ⟨allowSelfHandoff, rows⟩
  · exact .failure _
  rcases rows with _ | ⟨model, _ | _⟩
  · exact .failure _
  · refine .bind (imitates_text _ checkpointDatabase) fun _ _ checkpointDatabase => ?_
    refine .bind (imitates_defaulted (fun _ _ => imitates_asList fun _ _ => imitates_asText)
      directories pluginDirectories) fun _ _ pluginDirectories => ?_
    refine .bind (imitates_nullable (fun _ _ => imitates_asText) workflowDirectory)
      fun _ _ workflowDirectory => ?_
    refine .bind (imitates_natural _ _ resultCacheCapacity) fun _ _ resultCacheCapacity => ?_
    refine .bind (imitates_natural _ _ handshakeTimeout) fun _ _ handshakeTimeout => ?_
    refine .bind (imitates_natural _ _ rebuildDebounce) fun _ _ rebuildDebounce => ?_
    refine .bind (imitates_natural _ _ maxAgentSteps) fun _ _ maxAgentSteps => ?_
    refine .bind (imitates_defaulted (fun _ _ => imitates_asBool) rfl allowSelfHandoff)
      fun _ _ allowSelfHandoff => ?_
    refine .bind (imitates_defaulted (fun _ _ => ModelSettings.imitates_read respects)
      ModelSettings.alike_default model) fun _ _ model => ?_
    exact .pure ⟨checkpointDatabase, pluginDirectories, workflowDirectory, resultCacheCapacity,
      handshakeTimeout, rebuildDebounce, maxAgentSteps, allowSelfHandoff, model⟩
  · exact .failure _

/-! ## Which text was spelled in another way -/

/-- The fields that hold texts. -/
inductive TextField where
  | checkpointDatabase
  | pluginDirectory (position : Nat)
  | workflowDirectory
  | adapter
  | baseUrl
  | apiKey
  | model

/-- The settings with a text in one of their fields. -/
def TextField.set (field : TextField) (text : String) (settings : Settings) : Settings :=
  match field with
  | checkpointDatabase => { settings with checkpointDatabase := text }
  | pluginDirectory position =>
    { settings with pluginDirectories := settings.pluginDirectories.set position text }
  | workflowDirectory => { settings with workflowDirectory := some text }
  | adapter => { settings with model := { settings.model with adapter := text } }
  | baseUrl => { settings with model := { settings.model with baseUrl := text } }
  | apiKey => { settings with model := { settings.model with apiKey := text } }
  | model => { settings with model := { settings.model with model := text } }

/-- Two relations that both hold between a text and another one only if that is the same, or if the
text and the other text are these. -/
structure Determines (One Two : String → String → Prop) (first second value : String) : Prop where
  other : ∀ text result, One text result → Two text result → result = text
  value : ∀ result, One first result → Two second result → result = value

namespace Determines

variable {One Two : String → String → Prop} {first second value : String}
  (determines : Determines One Two first second value)
include determines

/-- A text is the one that was given, or has nothing to do with it. -/
theorem text_eq (text : String → String)
    (either : (∀ given, text given = given) ∨ ∀ given another, text given = text another)
    {result : String} (one : One (text first) result) (two : Two (text second) result) :
    result = text value := by
  rcases either with given | fixed
  · rw [given] at one two ⊢
    exact determines.value result one two
  · rw [fixed second first] at two
    rw [fixed value first]
    exact determines.other _ result one two

theorem list_eq {texts results : List String} (one : List.Forall₂ One texts results)
    (two : List.Forall₂ Two texts results) : results = texts := by
  induction one with
  | nil => rfl
  | cons here later induction =>
      obtain _ | ⟨also, further⟩ := two
      rw [determines.other _ _ here also, induction further]

theorem list_set {texts results : List String} {position : Nat}
    (one : List.Forall₂ One (texts.set position first) results)
    (two : List.Forall₂ Two (texts.set position second) results) :
    results = texts.set position value := by
  induction texts generalizing results position with
  | nil =>
      cases one
      rfl
  | cons text texts induction =>
      cases position with
      | zero =>
          obtain _ | ⟨here, later⟩ := one
          obtain _ | ⟨also, further⟩ := two
          rw [determines.value _ here also, determines.list_eq later further]
          rfl
      | succ position =>
          obtain _ | ⟨here, later⟩ := one
          obtain _ | ⟨also, further⟩ := two
          rw [determines.other _ _ here also, induction later further]
          rfl

theorem option_eq (text : String → Option String)
    (either : (∀ given, text given = some given) ∨ ∀ given another, text given = text another)
    {result : Option String} (one : Option.Rel One (text first) result)
    (two : Option.Rel Two (text second) result) : result = text value := by
  rcases either with given | fixed
  · rw [given] at one two ⊢
    obtain ⟨one⟩ := one
    obtain ⟨two⟩ := two
    rw [determines.value _ one two]
  · rw [fixed second first] at two
    rw [fixed value first]
    generalize text first = found at one two
    cases one with
    | none => rfl
    | some one =>
        obtain ⟨two⟩ := two
        rw [determines.other _ _ one two]

theorem model_eq {field : TextField} {settings : Settings} {result : ModelSettings}
    (one : (field.set first settings).model.Alike One result)
    (two : (field.set second settings).model.Alike Two result) :
    result = (field.set value settings).model := by
  have adapter := determines.text_eq (fun text => (field.set text settings).model.adapter)
    (by cases field <;> first | exact .inl fun _ => rfl | exact .inr fun _ _ => rfl)
    one.adapter two.adapter
  have baseUrl := determines.text_eq (fun text => (field.set text settings).model.baseUrl)
    (by cases field <;> first | exact .inl fun _ => rfl | exact .inr fun _ _ => rfl)
    one.baseUrl two.baseUrl
  have apiKey := determines.text_eq (fun text => (field.set text settings).model.apiKey)
    (by cases field <;> first | exact .inl fun _ => rfl | exact .inr fun _ _ => rfl)
    one.apiKey two.apiKey
  have model := determines.text_eq (fun text => (field.set text settings).model.model)
    (by cases field <;> first | exact .inl fun _ => rfl | exact .inr fun _ _ => rfl)
    one.model two.model
  have temperature : result.temperature = (field.set value settings).model.temperature :=
    one.temperature.symm.trans (by cases field <;> rfl)
  have tokens : result.maxTokens = (field.set value settings).model.maxTokens :=
    one.maxTokens.symm.trans (by cases field <;> rfl)
  have timeout : result.timeoutSeconds = (field.set value settings).model.timeoutSeconds :=
    one.timeoutSeconds.symm.trans (by cases field <;> rfl)
  cases result
  subst adapter baseUrl apiKey model temperature tokens timeout
  rfl

/-- What is alike to the settings with two different texts in a field has the value there. -/
theorem eq_set {field : TextField} {settings result : Settings}
    (one : (field.set first settings).Alike One result)
    (two : (field.set second settings).Alike Two result) : result = field.set value settings := by
  have checkpoint := determines.text_eq (fun text => (field.set text settings).checkpointDatabase)
    (by cases field <;> first | exact .inl fun _ => rfl | exact .inr fun _ _ => rfl)
    one.checkpointDatabase two.checkpointDatabase
  have plugins : result.pluginDirectories = (field.set value settings).pluginDirectories := by
    have here := one.pluginDirectories
    have also := two.pluginDirectories
    cases field with
    | pluginDirectory position => exact determines.list_set here also
    | _ => exact determines.list_eq here also
  have workflow := determines.option_eq (fun text => (field.set text settings).workflowDirectory)
    (by cases field <;> first | exact .inl fun _ => rfl | exact .inr fun _ _ => rfl)
    one.workflowDirectory two.workflowDirectory
  have capacity : result.resultCacheCapacity = (field.set value settings).resultCacheCapacity :=
    one.resultCacheCapacity.symm.trans (by cases field <;> rfl)
  have handshake : result.handshakeTimeout = (field.set value settings).handshakeTimeout :=
    one.handshakeTimeout.symm.trans (by cases field <;> rfl)
  have debounce : result.rebuildDebounce = (field.set value settings).rebuildDebounce :=
    one.rebuildDebounce.symm.trans (by cases field <;> rfl)
  have steps : result.maxAgentSteps = (field.set value settings).maxAgentSteps :=
    one.maxAgentSteps.symm.trans (by cases field <;> rfl)
  have handoff : result.allowSelfHandoff = (field.set value settings).allowSelfHandoff :=
    one.allowSelfHandoff.symm.trans (by cases field <;> rfl)
  have model := determines.model_eq one.model two.model
  cases result
  subst checkpoint plugins workflow capacity handshake debounce steps handoff model
  rfl

end Determines

end AssistantEngine
