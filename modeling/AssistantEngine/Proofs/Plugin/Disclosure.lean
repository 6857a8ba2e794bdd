import Mathlib.Data.List.Basic
import AssistantEngine.Plugin.Configuration

/-!
What the errors of a validation tell of the values that were refused. Of a field under a name that
is not secret they tell what may be told. Of a field under a secret name they tell the whole value
as well, since an error quotes whatever it refuses.
-/

namespace AssistantEngine

/-! ## Lists in two parts -/

/-- Lists that agree in their keys, and in what they hold under the keys of a kind and under all
others, are the same. -/
theorem eq_of_parts {Value : Type} (kind : String → Bool) {first second : List (String × Value)}
    (keys : first.map (·.1) = second.map (·.1))
    (inside : first.filter (kind ·.1) = second.filter (kind ·.1))
    (outside : first.filter (!kind ·.1) = second.filter (!kind ·.1)) : first = second := by
  induction first generalizing second with
  | nil =>
      cases second with
      | nil => rfl
      | cons head rest => cases keys
  | cons head rest induction =>
      cases second with
      | nil => cases keys
      | cons other others =>
          obtain ⟨key, value⟩ := head
          obtain ⟨name, content⟩ := other
          simp only [List.map_cons, List.cons.injEq] at keys
          obtain ⟨rfl, keys⟩ := keys
          cases secret : kind key with
          | true =>
              simp only [List.filter_cons, secret, if_true, List.cons.injEq, Bool.not_true,
                Bool.false_eq_true, if_false] at inside outside
              rw [inside.1, induction keys inside.2 outside]
          | false =>
              simp only [List.filter_cons, secret, if_true, List.cons.injEq, Bool.not_false,
                Bool.false_eq_true, if_false] at inside outside
              rw [outside.1, induction keys inside outside.2]

/-- Two views that tell the same elements apart tell the same lists apart. -/
theorem map_eq_map_iff_of_views {Element View Other : Type} {view : Element → View}
    {other : Element → Other}
    (same : ∀ first second, view first = view second ↔ other first = other second)
    {firsts seconds : List Element} :
    firsts.map view = seconds.map view ↔ firsts.map other = seconds.map other := by
  induction firsts generalizing seconds with
  | nil => cases seconds <;> simp
  | cons first rest induction =>
      cases seconds with
      | nil => simp
      | cons second others => simp only [List.map_cons, List.cons.injEq, same, induction]

/-! ## Messages -/

namespace FieldError

/-- What an error tells of a value: the type it should have, and its text. Of a missing value there
is nothing to tell. -/
def shown (error : FieldError) : Option (FieldType × String) :=
  match error.defect with
  | .missing => none
  | .mismatch expected found => some (expected, found.compact)

/-- An error as the parties see it: the field, the message, and the displayed text. -/
def report (error : FieldError) : String × String × String :=
  (error.field, error.message, error.display)

/-- The field, and what is told of its value. -/
def label (error : FieldError) : String × Option (FieldType × String) := (error.field, error.shown)

theorem mismatch_message_toList (expected : FieldType) (found : Json) :
    (FieldDefect.mismatch expected found).message.toList =
      "expected ".toList ++ (expected.name.toList ++ (", got ".toList ++ found.compact.toList)) := by
  change ("expected " ++ expected.name ++ ", got " ++ found.compact).toList = _
  simp only [String.toList_append, List.append_assoc]

/-- From the message of an error the expected type and the text of the value can be read off. -/
theorem message_eq_iff {first second : FieldError} :
    first.message = second.message ↔ first.shown = second.shown := by
  obtain ⟨_, defect⟩ := first
  obtain ⟨_, other⟩ := second
  rw [← String.toList_inj]
  unfold message shown
  cases defect with
  | missing =>
      cases other with
      | missing => simp
      | mismatch expected found =>
          rw [mismatch_message_toList]
          simp [FieldDefect.message]
  | mismatch expected found =>
      cases other with
      | missing =>
          rw [mismatch_message_toList]
          simp [FieldDefect.message]
      | mismatch type value =>
          rw [mismatch_message_toList, mismatch_message_toList]
          cases expected <;> cases type <;> simp [FieldType.name, String.toList_inj]

theorem report_eq_iff (first second : FieldError) :
    first.report = second.report ↔ first.label = second.label := by
  unfold report label
  constructor
  · intro same
    simp only [Prod.mk.injEq] at same ⊢
    exact ⟨same.1, message_eq_iff.mp same.2.1⟩
  · intro same
    simp only [Prod.mk.injEq] at same ⊢
    have message := message_eq_iff.mpr same.2
    refine ⟨same.1, message, ?_⟩
    unfold display
    rw [same.1, message]

end FieldError

/-! ## Refusals -/

namespace Configuration

variable {schema : List ConfigField} {first second : Catalog Json}
  {firstErrors secondErrors : List FieldError}

/-- Whether a field has no value that would do. -/
def isRefused (input : Catalog Json) (field : ConfigField) : Bool :=
  match checkField input field with
  | .error _ => true
  | .ok _ => false

def isSecret (schema : List ConfigField) (name : String) : Bool := (secretNames schema).contains name

/-- What there is to tell of a field that is refused: what it requires, and the text of the value
that it has. -/
def told (input : Catalog Json) (field : ConfigField) : String × Option (FieldType × String) :=
  (field.name, (effective? input field).map fun value => (field.type, value.compact))

/-- What there is to tell of the refused fields under secret names, in order. -/
def exposure (schema : List ConfigField) (input : Catalog Json) :
    List (String × Option (FieldType × String)) :=
  (schema.filter fun field => isSecret schema field.name && isRefused input field).map (told input)

theorem validate_error_iff {input : Catalog Json} {errors : List FieldError} :
    validate schema input = .error errors ↔ fieldErrors schema input = errors ∧ errors ≠ [] := by
  unfold validate
  cases fieldErrors schema input with
  | nil => simp
  | cons error rest =>
      simp only [Except.error.injEq, ne_eq, iff_self_and]
      rintro rfl
      exact List.cons_ne_nil error rest

/-- An error names its field, and tells the value that was refused. -/
theorem label_of_checkField {input : Catalog Json} {field : ConfigField} {error : FieldError}
    (refused : checkField input field = .error error) : error.label = told input field := by
  unfold checkField at refused
  split at refused
  · rename_i value found
    split at refused
    · cases refused
    · cases refused
      simp [FieldError.label, FieldError.shown, told, found]
  · rename_i absent
    split at refused
    · cases refused
      simp [FieldError.label, FieldError.shown, told, absent]
    · cases refused

/-- What the errors about names of a kind tell is what there is to tell of the refused fields. -/
theorem labels_of_kind (kind : String → Bool) (schema : List ConfigField) (input : Catalog Json) :
    ((fieldErrors schema input).map FieldError.label).filter (kind ·.1) =
      (schema.filter fun field => kind field.name && isRefused input field).map (told input) := by
  induction schema with
  | nil => rfl
  | cons field rest induction =>
      cases checked : checkField input field with
      | ok value =>
          have accepted : isRefused input field = false := by simp [isRefused, checked]
          have errors : fieldErrors (field :: rest) input = fieldErrors rest input := by
            simp [fieldErrors, checked]
          rw [errors, induction, List.filter_cons_of_neg (by simp [accepted])]
      | error error =>
          have refused : isRefused input field = true := by simp [isRefused, checked]
          have errors : fieldErrors (field :: rest) input = error :: fieldErrors rest input := by
            simp [fieldErrors, checked]
          rw [errors, List.map_cons, label_of_checkField checked]
          cases wanted : kind field.name with
          | true =>
              rw [List.filter_cons_of_pos (by simpa [told] using wanted), induction,
                List.filter_cons_of_pos (by simp [wanted, refused]), List.map_cons]
          | false =>
              rw [List.filter_cons_of_neg (by simp [told, wanted]), induction,
                List.filter_cons_of_neg (by simp [wanted])]

/-- A field is checked against nothing but its own entry of the input. -/
theorem effective?_congr {field : ConfigField}
    (same : first.find? field.name = second.find? field.name) :
    effective? first field = effective? second field := by
  unfold effective?
  rw [same]

/-- Of the fields whose names are not secret the errors tell the same for inputs that agree on
these names. -/
theorem labels_public
    (agree : ∀ key, key ∉ secretNames schema → first.find? key = second.find? key) :
    ((fieldErrors schema first).map FieldError.label).filter (!isSecret schema ·.1) =
      ((fieldErrors schema second).map FieldError.label).filter (!isSecret schema ·.1) := by
  rw [labels_of_kind (!isSecret schema ·), labels_of_kind (!isSecret schema ·)]
  have effective (field : ConfigField) (open' : isSecret schema field.name = false) :
      effective? first field = effective? second field :=
    effective?_congr (agree field.name (by simpa [isSecret] using open'))
  have fields : (schema.filter fun field => !isSecret schema field.name && isRefused first field) =
      schema.filter fun field => !isSecret schema field.name && isRefused second field := by
    apply List.filter_congr
    intro field _
    cases secret : isSecret schema field.name with
    | true => rfl
    | false => simp [isRefused, checkField, effective field secret]
  rw [fields]
  apply List.map_congr_left
  intro field member
  have secret : isSecret schema field.name = false := by
    have kept := (List.mem_filter.mp member).2
    simp only [Bool.and_eq_true, Bool.not_eq_true'] at kept
    exact kept.1
  simp [told, effective field secret]

/-- Two inputs that agree on all names that are not secret, and are refused with errors for the
same fields, get the same errors exactly if the secret values that are refused have the same
texts. -/
theorem reports_eq_iff (schema : List ConfigField) (first second : Catalog Json)
    (firstErrors secondErrors : List FieldError)
    (agree : ∀ key, key ∉ secretNames schema → first.find? key = second.find? key)
    (firstRefused : validate schema first = .error firstErrors)
    (secondRefused : validate schema second = .error secondErrors)
    (fields : firstErrors.map (·.field) = secondErrors.map (·.field)) :
    firstErrors.map FieldError.report = secondErrors.map FieldError.report ↔
      exposure schema first = exposure schema second := by
  obtain ⟨rfl, _⟩ := validate_error_iff.mp firstRefused
  obtain ⟨rfl, _⟩ := validate_error_iff.mp secondRefused
  rw [map_eq_map_iff_of_views FieldError.report_eq_iff]
  unfold exposure
  rw [← labels_of_kind (isSecret schema), ← labels_of_kind (isSecret schema)]
  constructor
  · intro same
    rw [same]
  · intro same
    apply eq_of_parts (isSecret schema) _ same (labels_public agree)
    rw [List.map_map, List.map_map]
    exact fields

/-! ## A secret that is disclosed -/

/-- A secret number. -/
def pinSchema : List ConfigField := [{ name := "pin", type := .integer, secret := true }]

/-- Somebody gives a word instead. -/
def pinInput (word : String) : Catalog Json := [("pin", .str word)]

def pinErrors (word : String) : List FieldError := [⟨"pin", .mismatch .integer (.str word)⟩]

theorem pinInputs_agree (word other : String) :
    ∀ key, key ∉ secretNames pinSchema →
      (pinInput word).find? key = (pinInput other).find? key := by
  intro key notSecret
  have different : "pin" ≠ key := by
    rintro rfl
    exact notSecret (by decide)
  simp [pinInput, Catalog.find?, different]

/-- The errors for two words are different, since the words are exposed. -/
theorem reports_eq_iff_pin :
    (∀ key, key ∉ secretNames pinSchema →
      (pinInput "hunter2").find? key = (pinInput "swordfish").find? key) ∧
    validate pinSchema (pinInput "hunter2") = .error (pinErrors "hunter2") ∧
    validate pinSchema (pinInput "swordfish") = .error (pinErrors "swordfish") ∧
    exposure pinSchema (pinInput "hunter2") =
      [("pin", some (.integer, (Json.str "hunter2").compact))] ∧
    (pinErrors "hunter2").map FieldError.report ≠ (pinErrors "swordfish").map FieldError.report := by
  have agree := pinInputs_agree "hunter2" "swordfish"
  have first : validate pinSchema (pinInput "hunter2") = .error (pinErrors "hunter2") := by decide
  have second : validate pinSchema (pinInput "swordfish") = .error (pinErrors "swordfish") := by
    decide
  refine ⟨agree, first, second, rfl, fun same => ?_⟩
  have exposed := (reports_eq_iff pinSchema (pinInput "hunter2") (pinInput "swordfish") _ _ agree
    first second rfl).mp same
  revert exposed
  decide

/-- Errors may tell two secret values apart. -/
theorem reports_disclose :
    ¬ ∀ (schema : List ConfigField) (first second : Catalog Json)
      (firstErrors secondErrors : List FieldError),
      (∀ key, key ∉ secretNames schema → first.find? key = second.find? key) →
      validate schema first = .error firstErrors → validate schema second = .error secondErrors →
      firstErrors.map (·.field) = secondErrors.map (·.field) →
      firstErrors.map FieldError.report = secondErrors.map FieldError.report := by
  intro claim
  have same := claim pinSchema (pinInput "hunter2") (pinInput "swordfish") (pinErrors "hunter2")
    (pinErrors "swordfish") (pinInputs_agree _ _) (by decide) (by decide) rfl
  revert same
  decide

end Configuration

end AssistantEngine
