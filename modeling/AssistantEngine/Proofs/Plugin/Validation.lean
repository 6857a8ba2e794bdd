import Mathlib.Data.List.Forall2
import AssistantEngine.Proofs.Catalog
import AssistantEngine.Proofs.Plugin.Disclosure

/-!
What a validation accepts, and what comes out of it. Every field of the schema is checked by itself,
against its effective value: what is supplied for it, unless that is null, or else its default. If
fields are refused, each one has an error, in the order of the schema. If none is, the outcome holds
the values of the fields as their types have them, and what the input holds besides.
-/

namespace AssistantEngine

namespace Configuration

variable {schema : List ConfigField} {input : Catalog Json} {field : ConfigField} {value : Json}

/-! ## One field -/

/-- What a field is checked for: the supplied value, or the default where nothing but null is
supplied. -/
inductive Effective (input : Catalog Json) (field : ConfigField) (value : Json) : Prop where
  | supplied (found : input.find? field.name = some value) (given : value ≠ .null)
  | default (absent : ∀ other, input.find? field.name = some other → other = .null)
      (default : field.default = some value)

theorem effective?_eq_some_iff : effective? input field = some value ↔ Effective input field value := by
  have isNull_iff (other : Json) : other.isNull = true ↔ other = .null := by
    cases other <;> simp [Json.isNull]
  unfold effective?
  cases supplied : (input.find? field.name).filter fun value => !value.isNull with
  | some other =>
      obtain ⟨found, given⟩ := Option.filter_eq_some_iff.mp supplied
      rw [Bool.not_eq_true', ← Bool.not_eq_true, isNull_iff] at given
      constructor
      · rintro same
        cases same
        exact .supplied found given
      · rintro (⟨also, -⟩ | ⟨absent, -⟩)
        · exact found.symm.trans also
        · exact absurd (absent other found) given
  | none =>
      have absent : ∀ other, input.find? field.name = some other → other = .null := by
        simpa [isNull_iff] using Option.filter_eq_none_iff.mp supplied
      constructor
      · exact .default absent
      · rintro (⟨found, given⟩ | ⟨-, default⟩)
        · exact absurd (absent value found) given
        · exact default

theorem Effective.unique {first second : Json} (one : Effective input field first)
    (other : Effective input field second) : first = second :=
  Option.some.inj ((effective?_eq_some_iff.mpr one).symm.trans (effective?_eq_some_iff.mpr other))

/-- Why a field is refused: it is required and has no effective value, or it has one that cannot
stand for a value of its type. -/
inductive Refused (input : Catalog Json) (field : ConfigField) : FieldDefect → Prop where
  | missing (required : field.required = true) (none : ∀ value, ¬Effective input field value) :
      Refused input field .missing
  | mismatch {value : Json} (effective : Effective input field value)
      (unfit : coerce field.type value = none) : Refused input field (.mismatch field.type value)

theorem effective?_eq_none_iff :
    effective? input field = none ↔ ∀ value, ¬Effective input field value := by
  simp only [← effective?_eq_some_iff, Option.eq_none_iff_forall_ne_some, ne_eq]

theorem checkField_of_refused {defect : FieldDefect} (refused : Refused input field defect) :
    checkField input field = .error ⟨field.name, defect⟩ := by
  unfold checkField
  cases refused with
  | missing required none =>
      rw [effective?_eq_none_iff.mpr none]
      exact if_pos required
  | mismatch effective unfit =>
      rw [effective?_eq_some_iff.mpr effective]
      simp only [unfit]

theorem refused_of_checkField {error : FieldError} (failed : checkField input field = .error error) :
    error.field = field.name ∧ Refused input field error.defect := by
  unfold checkField at failed
  split at failed
  · rename_i value found
    split at failed
    · cases failed
    · rename_i unfit
      cases failed
      exact ⟨rfl, .mismatch (effective?_eq_some_iff.mp found) unfit⟩
  · rename_i without
    split at failed
    · rename_i required
      cases failed
      exact ⟨rfl, .missing required (effective?_eq_none_iff.mp without)⟩
    · cases failed

theorem isRefused_iff : isRefused input field = true ↔ ∃ defect, Refused input field defect := by
  unfold isRefused
  constructor
  · intro refused
    split at refused
    · rename_i error failed
      exact ⟨error.defect, (refused_of_checkField failed).2⟩
    · cases refused
  · rintro ⟨defect, refused⟩
    rw [checkField_of_refused refused]

/-- The value that a field contributes. -/
def contribution (input : Catalog Json) (field : ConfigField) : Option Json :=
  match checkField input field with
  | .ok value => value
  | .error _ => none

theorem contribution_eq_some_iff :
    contribution input field = some value ↔
      ∃ given, Effective input field given ∧ coerce field.type given = some value := by
  simp only [← effective?_eq_some_iff]
  unfold contribution checkField
  cases effective? input field with
  | some given => cases fit : coerce field.type given <;> simp [fit]
  | none => cases field.required <;> simp

/-! ## All fields -/

/-- The errors are those of the fields that are refused, in the same order. -/
theorem fieldErrors_in_step (schema : List ConfigField) (input : Catalog Json) :
    List.Forall₂ (fun field error => checkField input field = .error error)
      (schema.filter (isRefused input)) (fieldErrors schema input) := by
  induction schema with
  | nil => exact .nil
  | cons field rest induction =>
      unfold fieldErrors at induction ⊢
      cases checked : checkField input field with
      | ok value =>
          have accepted : isRefused input field = false := by simp [isRefused, checked]
          rw [List.filter_cons_of_neg (by simp [accepted]), List.filterMap_cons, checked]
          exact induction
      | error error =>
          have refused : isRefused input field = true := by simp [isRefused, checked]
          rw [List.filter_cons_of_pos refused, List.filterMap_cons, checked]
          exact .cons checked induction

theorem fieldErrors_eq_nil_iff :
    fieldErrors schema input = [] ↔ ∀ field ∈ schema, ∀ defect, ¬Refused input field defect := by
  have length := (fieldErrors_in_step schema input).length_eq
  rw [← List.length_eq_zero_iff, ← length, List.length_eq_zero_iff, List.filter_eq_nil_iff]
  simp only [isRefused_iff, not_exists]

/-- Every refused field of a schema has an error, in the order of the schema, which tells the field
and why it is refused. -/
def Reported (schema : List ConfigField) (input : Catalog Json) (errors : List FieldError) : Prop :=
  ∃ refused : List ConfigField, refused.Sublist schema ∧
    (∀ field ∈ schema, field ∈ refused ↔ ∃ defect, Refused input field defect) ∧
    List.Forall₂ (fun field error => error.field = field.name ∧ Refused input field error.defect)
      refused errors

theorem fieldErrors_reported (schema : List ConfigField) (input : Catalog Json) :
    Reported schema input (fieldErrors schema input) := by
  refine ⟨schema.filter (isRefused input), List.filter_sublist, fun field member => ?_, ?_⟩
  · rw [List.mem_filter, isRefused_iff]
    exact and_iff_right member
  · exact (fieldErrors_in_step schema input).imp fun field error => refused_of_checkField

/-! ## Values -/

/-- Adds the value of a field to those of the fields before it. -/
def contribute (input values : Catalog Json) (field : ConfigField) : Catalog Json :=
  match contribution input field with
  | some value => values.insert field.name value
  | none => values

theorem fieldValues_eq (schema : List ConfigField) (input : Catalog Json) :
    fieldValues schema input = schema.foldl (contribute input) [] := by
  unfold fieldValues
  congr
  funext values field
  unfold contribute contribution
  rcases checkField input field with error | - | value <;> rfl

theorem find?_contribute (values : Catalog Json) (key : String) :
    (contribute input values field).find? key =
      if field.name = key then (contribution input field).or (values.find? key)
      else values.find? key := by
  unfold contribute
  cases contribution input field with
  | none => simp
  | some value => exact Catalog.find?_insert values field.name key value

theorem find?_foldl_contribute (distinct : (schema.map (·.name)).Nodup) (values : Catalog Json)
    (key : String) :
    (schema.foldl (contribute input) values).find? key =
      ((schema.find? (·.name = key)).bind (contribution input)).or (values.find? key) := by
  induction schema generalizing values with
  | nil => rfl
  | cons field rest induction =>
      obtain ⟨fresh, distinct⟩ := List.nodup_cons.mp distinct
      rw [List.foldl_cons, induction distinct, find?_contribute]
      by_cases same : field.name = key
      · have absent : rest.find? (·.name = key) = none := by
          apply List.find?_eq_none.mpr
          intro other member
          have different : other.name ≠ key := fun also =>
            fresh (List.mem_map.mpr ⟨other, member, also.trans same.symm⟩)
          simpa using different
        rw [List.find?_cons_of_pos (by simpa using same), absent, if_pos same]
        rfl
      · rw [List.find?_cons_of_neg (by simpa using same), if_neg same]

theorem ascending_fieldValues (schema : List ConfigField) (input : Catalog Json) :
    (fieldValues schema input).Ascending := by
  rw [fieldValues_eq]
  refine List.foldlRecOn schema _ Catalog.ascending_nil fun values ascending field _ => ?_
  unfold contribute
  split
  · exact ascending.insert _ _
  · exact ascending

theorem find?_fieldValues (distinct : (schema.map (·.name)).Nodup) (member : field ∈ schema) :
    (fieldValues schema input).find? field.name = contribution input field := by
  rw [fieldValues_eq, find?_foldl_contribute distinct, find?_of_nodup distinct member,
    Catalog.find?_nil, Option.or_none, Option.bind_some]

/-- Only fields contribute to the values of the fields. -/
theorem find?_fieldValues_of_undeclared (distinct : (schema.map (·.name)).Nodup) {key : String}
    (free : ∀ field ∈ schema, field.name ≠ key) : (fieldValues schema input).find? key = none := by
  have absent : schema.find? (·.name = key) = none := by simpa using free
  rw [fieldValues_eq, find?_foldl_contribute distinct, absent]
  rfl

/-! ## Outcomes -/

/-- A catalog of the effective values of the fields, as their types have them, and of the entries
that no field declares, as they are. -/
structure Contains (schema : List ConfigField) (input values : Catalog Json) : Prop where
  ascending : values.Ascending
  effective : ∀ field ∈ schema, ∀ given, Effective input field given →
    ∃ value, coerce field.type given = some value ∧ values.find? field.name = some value
  absent : ∀ field ∈ schema, (∀ given, ¬Effective input field given) →
    values.find? field.name = none
  undeclared : ∀ key, (∀ field ∈ schema, field.name ≠ key) → values.find? key = input.find? key

/-- What is held for a field is what its effective value is coerced to. -/
theorem Contains.effective_of_find? {values : Catalog Json} (contains : Contains schema input values)
    (member : field ∈ schema) (found : values.find? field.name = some value) :
    ∃ given, Effective input field given ∧ coerce field.type given = some value := by
  by_cases some_value : ∃ given, Effective input field given
  · obtain ⟨given, effective⟩ := some_value
    obtain ⟨other, fit, same⟩ := contains.effective field member given effective
    rw [Option.some.inj (found.symm.trans same)]
    exact ⟨given, effective, fit⟩
  · rw [contains.absent field member (not_exists.mp some_value)] at found
    cases found

/-- The values that come out where nothing is refused. -/
def outcome (schema : List ConfigField) (input : Catalog Json) : Catalog Json :=
  (undeclared schema input).foldl (fun values entry => values.insert entry.1 entry.2)
    (fieldValues schema input)

theorem find?_outcome (keys : input.keys.Nodup) (key : String) :
    (outcome schema input).find? key =
      if schema.any (·.name = key) then (fieldValues schema input).find? key
      else (input.find? key).or ((fieldValues schema input).find? key) := by
  have some_keys : (undeclared schema input).keys.Nodup :=
    keys.sublist (List.filter_sublist.map _)
  have kept := Catalog.find?_filter (fun name => !schema.any (·.name = name)) input key
  rw [outcome, Catalog.find?_foldl_insert some_keys, undeclared, kept]
  cases schema.any (·.name = key) <;> rfl

theorem find?_outcome_field (distinct : (schema.map (·.name)).Nodup) (keys : input.keys.Nodup)
    (member : field ∈ schema) :
    (outcome schema input).find? field.name = contribution input field := by
  have known : schema.any (·.name = field.name) = true :=
    List.any_eq_true.mpr ⟨field, member, by simp⟩
  rw [find?_outcome keys, if_pos known, find?_fieldValues distinct member]

theorem contains_outcome (distinct : (schema.map (·.name)).Nodup) (keys : input.keys.Nodup)
    (accepted : ∀ field ∈ schema, ∀ defect, ¬Refused input field defect) :
    Contains schema input (outcome schema input) where
  ascending := (ascending_fieldValues schema input).foldl_insert _
  effective field member given effective := by
    rw [find?_outcome_field distinct keys member]
    cases fit : coerce field.type given with
    | none => exact absurd (.mismatch effective fit) (accepted field member _)
    | some value => exact ⟨value, rfl, contribution_eq_some_iff.mpr ⟨given, effective, fit⟩⟩
  absent field member without := by
    rw [find?_outcome_field distinct keys member]
    apply Option.eq_none_iff_forall_ne_some.mpr
    intro value contributed
    obtain ⟨given, effective, -⟩ := contribution_eq_some_iff.mp contributed
    exact without given effective
  undeclared key free := by
    have unknown : schema.any (·.name = key) = false := by simpa using free
    rw [find?_outcome keys, unknown, if_neg Bool.false_ne_true,
      find?_fieldValues_of_undeclared distinct free, Option.or_none]

theorem validate_ok_iff {config : Configuration} :
    validate schema input = .ok config ↔
      (∀ field ∈ schema, ∀ defect, ¬Refused input field defect) ∧
        config = { values := outcome schema input, secrets := secretNames schema } := by
  rw [← fieldErrors_eq_nil_iff]
  unfold validate
  cases fieldErrors schema input with
  | nil => simp [outcome, eq_comm]
  | cons error rest => simp

/-- A schema with one field to a name accepts an input exactly if it refuses none of its fields. Else
it reports all fields that it refuses. What it accepts are the values of its fields, and the entries
that it does not declare. -/
theorem validate_outcome (distinct : (schema.map (·.name)).Nodup) (keys : input.keys.Nodup) :
    ((∃ field ∈ schema, ∃ defect, Refused input field defect) →
      ∃ errors, validate schema input = .error errors ∧ Reported schema input errors) ∧
    ((∀ field ∈ schema, ∀ defect, ¬Refused input field defect) →
      ∃ config, validate schema input = .ok config ∧ Contains schema input config.values) := by
  constructor
  · rintro ⟨field, member, defect, refused⟩
    have some_errors : fieldErrors schema input ≠ [] := fun none =>
      fieldErrors_eq_nil_iff.mp none field member defect refused
    exact ⟨_, validate_error_iff.mpr ⟨rfl, some_errors⟩, fieldErrors_reported schema input⟩
  · intro accepted
    exact ⟨_, validate_ok_iff.mpr ⟨accepted, rfl⟩, contains_outcome distinct keys accepted⟩

/-- How a server is reached. -/
def serverSchema : List ConfigField :=
  [{ name := "port", type := .integer, required := true },
    { name := "host", default := some (.str "localhost") },
    { name := "debug", type := .bool }]

/-- A port as a text, the host left to its default, and a note that no field declares. -/
def serverInput : Catalog Json := [("host", .null), ("note", .null), ("port", .str " 8080 ")]

/-- No port, and no truth value. -/
def defectiveInput : Catalog Json := [("debug", .str "maybe"), ("port", .null)]

theorem validate_outcome_server :
    (serverSchema.map (·.name)).Nodup ∧ serverInput.keys.Nodup ∧ defectiveInput.keys.Nodup ∧
      (∃ config, validate serverSchema serverInput = .ok config ∧
        config.values =
          [("host", .str "localhost"), ("note", .null), ("port", .int 8080)] ∧
        Contains serverSchema serverInput config.values) ∧
      ∃ errors, validate serverSchema defectiveInput = .error errors ∧
        errors = [⟨"port", .missing⟩, ⟨"debug", .mismatch .bool (.str "maybe")⟩] ∧
        Reported serverSchema defectiveInput errors := by
  have distinct : (serverSchema.map (·.name)).Nodup := by decide
  have keys : serverInput.keys.Nodup := by decide
  have others : defectiveInput.keys.Nodup := by decide
  have accepted := fieldErrors_eq_nil_iff.mp
    (show fieldErrors serverSchema serverInput = [] by decide)
  have refused : ∃ field ∈ serverSchema, ∃ defect, Refused defectiveInput field defect :=
    ⟨_, List.mem_cons_self, isRefused_iff.mp (by decide)⟩
  obtain ⟨config, passed, contains⟩ := (validate_outcome distinct keys).2 accepted
  obtain ⟨errors, failed, reported⟩ := (validate_outcome distinct others).1 refused
  have values := congrArg Configuration.values (Except.ok.inj (passed.symm.trans rfl))
  have listed := Except.error.inj (failed.symm.trans rfl)
  exact ⟨distinct, keys, others, ⟨config, passed, values, contains⟩, errors, failed, listed,
    reported⟩

end Configuration

end AssistantEngine
