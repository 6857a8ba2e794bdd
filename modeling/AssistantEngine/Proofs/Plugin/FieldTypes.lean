import AssistantEngine.Proofs.Json.Numerals
import AssistantEngine.Proofs.Plugin.Validation

/-!
Which types the values have that a validation accepts. Every value has the type that its field
declares, but for one kind of text: a field of real numbers accepts the words for infinity and for no
number, and numerals too large for a finite number, and then holds null, for which nothing would have
been accepted.
-/

namespace AssistantEngine

/-! ## Numbers within their ranges -/

namespace Binary64

/-- No quotient with a numerator of few digits is rounded to infinity. -/
theorem isFinite_roundRatio {numerator denominator : Nat}
    (small : numerator.log2 ≤ denominator.log2 + 1022) (negative : Bool) :
    (roundRatio negative numerator denominator).isFinite = true := by
  unfold roundRatio
  split
  · rfl
  · dsimp only
    generalize roundQuotient _ _ = rounded
    -- The exponent is the least one, or exceeds the estimate by two at most.
    rw [if_neg]
    · rfl
    · unfold greatestExponent leastExponent
      split_ifs <;> dsimp only <;> omega

theorem isFinite_ofInt {value : Int} (representable : Json.Representable value) :
    (ofInt value).isFinite = true := by
  have size : value.natAbs < 2 ^ 64 := by
    obtain ⟨lower, upper⟩ := representable
    change -((2 ^ 63 : Nat) : Int) ≤ value at lower
    change value < ((2 ^ 64 : Nat) : Int) at upper
    omega
  apply isFinite_roundRatio
  by_cases zero : value.natAbs = 0
  · simp [zero]
  · have few := (Nat.log2_lt zero).mpr size
    omega

end Binary64

namespace Numeral

theorem signed?_bounds {base : Nat} {characters : List Char} {value : Int}
    (read : signed? base characters = some value) :
    -(twoTo 63 : Int) ≤ value ∧ value < twoTo 63 := by
  have positive : 0 < twoTo 63 := by decide
  unfold signed? at read
  split at read
  all_goals
    obtain ⟨magnitude, -, within⟩ := Option.bind_eq_some_iff.mp read
    unfold greatestSigned at within
    split at within <;> cases within
    omega

end Numeral

namespace Json

/-- A value whose number, if it is one, is within the ranges of numbers. -/
def Ranged : Json → Prop
  | .int value => Representable value
  | .real value => value.isFinite = true
  | _ => True

end Json

/-! ## Types of values -/

namespace Configuration

variable {schema : List ConfigField} {input : Catalog Json} {field : ConfigField}
  {value given : Json} {type : FieldType}

/-- The values of a type. -/
inductive HasType : FieldType → Json → Prop where
  | string (text : String) : HasType .string (.str text)
  | integer {number : Int} (lower : -(twoTo 63 : Int) ≤ number) (upper : number < twoTo 63) :
      HasType .integer (.int number)
  | float {number : Binary64} (finite : number.isFinite = true) : HasType .float (.real number)
  | bool (truth : Bool) : HasType .bool (.bool truth)

theorem HasType.ne_null (typed : HasType type value) : value ≠ .null := by
  cases typed <;> nofun

/-- A text that is read as a real number, but not as a finite one. -/
def ReadsUnbounded (value : Json) : Prop :=
  ∃ text number, value = .str text ∧ Numeral.real? (Text.trim text).toList = some number ∧
    number.isFinite = false

/-- What a value is coerced to has the type, unless it is a text that stands for no finite number. -/
theorem hasType_of_coerce (ranged : given.Ranged) (fit : coerce type given = some value) :
    HasType type value ∨ type = .float ∧ ReadsUnbounded given ∧ value = .null := by
  cases type with
  | string =>
      left
      cases given <;> cases fit <;> exact .string _
  | integer =>
      left
      cases given with
      | int number =>
          simp only [coerce, Option.ite_none_right_eq_some, Option.some.injEq] at fit
          obtain ⟨below, rfl⟩ := fit
          have positive : 0 < twoTo 63 := by decide
          unfold Numeral.greatestSigned at below
          exact .integer ranged.1 (by omega)
      | str text =>
          rw [coerce, Option.map_eq_some_iff] at fit
          obtain ⟨number, read, rfl⟩ := fit
          obtain ⟨lower, upper⟩ := Numeral.signed?_bounds read
          exact .integer lower upper
      | _ => cases fit
  | float =>
      cases given with
      | int number =>
          cases fit
          exact .inl (.float (Binary64.isFinite_ofInt ranged))
      | real number =>
          cases fit
          exact .inl (.float ranged)
      | str text =>
          rw [coerce, Option.map_eq_some_iff] at fit
          obtain ⟨number, read, rfl⟩ := fit
          cases finite : number.isFinite with
          | true =>
              rw [Json.ofReal, if_pos finite]
              exact .inl (.float finite)
          | false =>
              rw [Json.ofReal, finite]
              exact .inr ⟨rfl, ⟨text, number, rfl, read, finite⟩, rfl⟩
      | _ => cases fit
  | bool =>
      left
      cases given with
      | bool truth =>
          cases fit
          exact .bool truth
      | str text =>
          rw [coerce, Option.map_eq_some_iff] at fit
          obtain ⟨truth, -, rfl⟩ := fit
          exact .bool truth
      | _ => cases fit

theorem coerce_of_readsUnbounded (unbounded : ReadsUnbounded given) :
    coerce .float given = some .null := by
  obtain ⟨text, number, rfl, read, infinite⟩ := unbounded
  simp [coerce, read, Json.ofReal, infinite]

/-- A real field whose effective value is a text that stands for no finite number. -/
def Unbounded (input : Catalog Json) (field : ConfigField) : Prop :=
  field.type = .float ∧ ∃ given, Effective input field given ∧ ReadsUnbounded given

/-- Of an input that is accepted, every field that comes out has a value of its type, unless it is a
real field and its effective value is a text that stands for no finite number; then it is null. A
required field always comes out. -/
theorem validated_typed_iff {config : Configuration} (distinct : (schema.map (·.name)).Nodup)
    (keys : input.keys.Nodup) (supplied : ∀ value ∈ input.values, value.Ranged)
    (defaults : ∀ field ∈ schema, ∀ value, field.default = some value → value.Ranged)
    (accepted : validate schema input = .ok config) :
    ∀ field ∈ schema,
      (∀ value, config.values.find? field.name = some value →
        (HasType field.type value ↔ ¬Unbounded input field) ∧
          (Unbounded input field → value = .null)) ∧
      (field.required = true → ∃ value, config.values.find? field.name = some value) := by
  intro field member
  obtain ⟨none_refused, rfl⟩ := validate_ok_iff.mp accepted
  have contains := contains_outcome distinct keys none_refused
  constructor
  · intro value found
    obtain ⟨given, effective, fit⟩ := contains.effective_of_find? member found
    have ranged : given.Ranged := by
      cases effective with
      | supplied known => exact supplied given (Catalog.mem_values_of_find? known)
      | default _ known => exact defaults field member given known
    have null : Unbounded input field → value = .null := by
      rintro ⟨real, other, also, unbounded⟩
      rw [← effective.unique also] at unbounded
      rw [real, coerce_of_readsUnbounded unbounded] at fit
      exact (Option.some.inj fit).symm
    refine ⟨⟨fun typed unbounded => typed.ne_null (null unbounded), fun bounded => ?_⟩, null⟩
    rcases hasType_of_coerce ranged fit with typed | ⟨real, unbounded, -⟩
    · exact typed
    · exact absurd ⟨real, given, effective, unbounded⟩ bounded
  · intro required
    by_cases some_value : ∃ given, Effective input field given
    · obtain ⟨given, effective⟩ := some_value
      obtain ⟨value, -, found⟩ := contains.effective field member given effective
      exact ⟨value, found⟩
    · exact absurd (.missing required (not_exists.mp some_value)) (none_refused field member _)

def portField : ConfigField := { name := "port", type := .integer, required := true }

/-- A server's share of the load. -/
def shareField : ConfigField :=
  { name := "share", type := .float, required := true, default := some (.int 1) }

/-- The share is the word for no number. -/
def shareInput : Catalog Json := [("port", .str "8080"), ("share", .str "nan")]

theorem validated_typed_iff_share :
    ∃ config, validate [portField, shareField] shareInput = .ok config ∧
      (∃ value, config.values.find? "port" = some value ∧ HasType .integer value) ∧
      ∃ value, config.values.find? "share" = some value ∧ value = .null := by
  have supplied : ∀ value ∈ shareInput.values, value.Ranged := by
    simp [shareInput, Catalog.values, Json.Ranged]
  have defaults : ∀ field ∈ [portField, shareField], ∀ value, field.default = some value →
      value.Ranged := by
    rintro field member value default
    rcases List.mem_pair.mp member with rfl | rfl <;> cases default
    exact ⟨by decide, by decide⟩
  have accepted : validate [portField, shareField] shareInput = .ok ⟨_, _⟩ := rfl
  have typed := validated_typed_iff (by decide) (by decide) supplied defaults accepted
  obtain ⟨port, some_port⟩ := typed portField List.mem_cons_self
  obtain ⟨share, some_share⟩ := typed shareField (List.mem_cons_of_mem _ List.mem_cons_self)
  obtain ⟨value, found⟩ := some_port rfl
  obtain ⟨other, given⟩ := some_share rfl
  have bounded : ¬Unbounded shareInput portField := nofun
  have unbounded : Unbounded shareInput shareField :=
    ⟨rfl, .str "nan", .supplied rfl nofun, "nan", .notANumber, rfl, rfl, rfl⟩
  exact ⟨_, accepted, ⟨value, found, (port value found).1.mpr bounded⟩,
    other, given, (share other given).2 unbounded⟩

/-- A required field of real numbers that comes out as null. -/
theorem required_real_null :
    shareField.type = .float ∧ shareField.required = true ∧
      validate [portField, shareField] shareInput =
        .ok { values := [("port", .int 8080), ("share", .null)], secrets := [] } ∧
      ¬HasType .float .null :=
  ⟨rfl, rfl, rfl, fun typed => typed.ne_null rfl⟩

end Configuration

end AssistantEngine
