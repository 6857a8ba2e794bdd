import AssistantEngine.Proofs.Plugin.Validation

/-!
What a rendering with masked secrets tells: which names a configuration has, and the values under
the names that are not secret. A validation does not mix the two. Which names come out of it, and
what comes out under a name that is not secret, does not depend on the values under secret names. So
inputs that differ in these values alone are rendered alike, as they are given and as they are
validated.
-/

namespace AssistantEngine

namespace Configuration

variable {schema : List ConfigField} {input first second : Catalog Json} {field : ConfigField}
  {name : String}

/-! ## Renderings -/

/-- What a rendering shows of a value under a name. -/
def shown (secrets : List String) (name : String) (value : Json) : Json :=
  if secrets.contains name then .str mask else value

theorem member?_redacted (config : Configuration) (key : String) :
    config.redacted.member? key = (config.values.find? key).map (shown config.secrets key) :=
  Catalog.find?_mapEntries (shown config.secrets) config.values key

/-- Configurations of which the same is shown under every name are rendered alike. -/
theorem redacted_congr {one other : Configuration} (ascending : one.values.Ascending)
    (ordered : other.values.Ascending)
    (same : ∀ key, one.redacted.member? key = other.redacted.member? key) :
    one.redacted = other.redacted := by
  apply congrArg Json.obj
  apply Catalog.Ascending.ext
  · exact List.pairwise_map.mpr ascending
  · exact List.pairwise_map.mpr ordered
  · exact same

/-- Under a secret name all values look the same. -/
theorem map_shown_of_secret {secrets : List String} (secret : name ∈ secrets)
    {one other : Option Json} (present : one.isSome = other.isSome) :
    one.map (shown secrets name) = other.map (shown secrets name) := by
  cases one <;> cases other <;> simp_all [shown]

/-! ## Fields -/

/-- Something other than null is supplied under a name. -/
def Supplied (input : Catalog Json) (name : String) : Prop :=
  ∃ value, input.find? name = some value ∧ value ≠ .null

/-- A field has an effective value if one is supplied or there is a default. -/
theorem exists_effective_iff :
    (∃ given, Effective input field given) ↔
      Supplied input field.name ∨ field.default.isSome = true := by
  constructor
  · rintro ⟨given, effective⟩
    cases effective with
    | supplied found some_value => exact .inl ⟨given, found, some_value⟩
    | default absent known => exact .inr (by simp [known])
  · intro either
    by_cases supplied : Supplied input field.name
    · obtain ⟨given, found, some_value⟩ := supplied
      exact ⟨given, .supplied found some_value⟩
    · obtain ⟨given, known⟩ := Option.isSome_iff_exists.mp (either.resolve_left supplied)
      refine ⟨given, .default (fun other found => ?_) known⟩
      by_contra some_value
      exact supplied ⟨other, found, some_value⟩

/-- A field that is not refused contributes a value if it has an effective one. -/
theorem isSome_contribution_iff (accepted : ∀ defect, ¬Refused input field defect) :
    (contribution input field).isSome = true ↔
      Supplied input field.name ∨ field.default.isSome = true := by
  rw [← exists_effective_iff, Option.isSome_iff_exists]
  constructor
  · rintro ⟨value, contributed⟩
    obtain ⟨given, effective, -⟩ := contribution_eq_some_iff.mp contributed
    exact ⟨given, effective⟩
  · rintro ⟨given, effective⟩
    cases fit : coerce field.type given with
    | none => exact absurd (.mismatch effective fit) (accepted _)
    | some value => exact ⟨value, contribution_eq_some_iff.mpr ⟨given, effective, fit⟩⟩

theorem contribution_congr (same : first.find? field.name = second.find? field.name) :
    contribution first field = contribution second field := by
  have checked : checkField first field = checkField second field := by
    rw [checkField, checkField, effective?_congr same]
  rw [contribution, contribution, checked]

/-- Of the values of the fields the same is seen, if the same is seen of the contributions. A name
may have several fields; then the last one that contributes is seen. -/
theorem find?_foldl_contribute_congr {View : Type} {view : Json → View} {key : String}
    (same : ∀ field ∈ schema, field.name = key →
      (contribution first field).map view = (contribution second field).map view)
    {firsts seconds : Catalog Json}
    (before : (firsts.find? key).map view = (seconds.find? key).map view) :
    ((schema.foldl (contribute first) firsts).find? key).map view =
      ((schema.foldl (contribute second) seconds).find? key).map view := by
  induction schema generalizing firsts seconds with
  | nil => exact before
  | cons field rest induction =>
      apply induction fun other member => same other (List.mem_cons_of_mem _ member)
      rw [find?_contribute, find?_contribute]
      by_cases named : field.name = key
      · rw [if_pos named, if_pos named, Option.map_or, Option.map_or, before,
          same field List.mem_cons_self named]
      · rw [if_neg named, if_neg named, before]

/-! ## Two inputs -/

/-- Two inputs that a schema accepts, alike but for the values of secrets. -/
structure Indistinct (schema : List ConfigField) (first second : Catalog Json) : Prop where
  agree : ∀ key, key ∉ secretNames schema → first.find? key = second.find? key
  supplied : ∀ key ∈ secretNames schema, Supplied first key ↔ Supplied second key
  accepted : ∀ field ∈ schema, ∀ defect, ¬Refused first field defect
  admitted : ∀ field ∈ schema, ∀ defect, ¬Refused second field defect

namespace Indistinct

theorem contribution_shown (alike : Indistinct schema first second) (member : field ∈ schema) :
    (contribution first field).map (shown (secretNames schema) field.name) =
      (contribution second field).map (shown (secretNames schema) field.name) := by
  by_cases secret : field.name ∈ secretNames schema
  · apply map_shown_of_secret secret
    rw [Bool.eq_iff_iff, isSome_contribution_iff (alike.accepted field member),
      isSome_contribution_iff (alike.admitted field member), alike.supplied _ secret]
  · rw [contribution_congr (alike.agree _ secret)]

theorem fieldValues_shown (alike : Indistinct schema first second) (key : String) :
    ((fieldValues schema first).find? key).map (shown (secretNames schema) key) =
      ((fieldValues schema second).find? key).map (shown (secretNames schema) key) := by
  rw [fieldValues_eq, fieldValues_eq]
  apply find?_foldl_contribute_congr _ rfl
  rintro field member rfl
  exact alike.contribution_shown member

theorem outcome_shown (alike : Indistinct schema first second) (keys : first.keys.Nodup)
    (others : second.keys.Nodup) (key : String) :
    ((outcome schema first).find? key).map (shown (secretNames schema) key) =
      ((outcome schema second).find? key).map (shown (secretNames schema) key) := by
  rw [find?_outcome keys, find?_outcome others]
  cases declared : schema.any (·.name = key) with
  | true => exact alike.fieldValues_shown key
  | false =>
      have notSecret : key ∉ secretNames schema := by
        intro secret
        obtain ⟨field, kept, named⟩ := List.mem_map.mp secret
        rw [List.any_eq_false] at declared
        exact declared field (List.mem_filter.mp kept).1 (by simpa using named)
      simp only [Bool.false_eq_true, if_false, Option.map_or, alike.fieldValues_shown key,
        alike.agree key notSecret]

end Indistinct

/-- Two inputs with the same names that agree on all names that are not secret are rendered alike.
If both are accepted, and the same secrets are supplied in both, then what comes out of them is
rendered alike as well. -/
theorem redacted_eq_of_agree (schema : List ConfigField) (ascending : first.Ascending)
    (ordered : second.Ascending) (keys : ∀ key, key ∈ first.keys ↔ key ∈ second.keys)
    (agree : ∀ key, key ∉ secretNames schema → first.find? key = second.find? key) :
    (raw schema first).redacted = (raw schema second).redacted ∧
      ∀ one other : Configuration, validate schema first = .ok one →
        validate schema second = .ok other →
        (∀ field ∈ schema, field.secret = true →
          (Supplied first field.name ↔ Supplied second field.name)) →
        one.redacted = other.redacted := by
  constructor
  · apply redacted_congr ascending ordered
    intro key
    rw [member?_redacted, member?_redacted]
    by_cases secret : key ∈ secretNames schema
    · apply map_shown_of_secret secret
      rw [Bool.eq_iff_iff, ← Catalog.mem_keys_iff, ← Catalog.mem_keys_iff]
      exact keys key
    · exact congrArg _ (agree key secret)
  · intro one other passed also supplied
    obtain ⟨accepted, rfl⟩ := validate_ok_iff.mp passed
    obtain ⟨admitted, rfl⟩ := validate_ok_iff.mp also
    have alike : Indistinct schema first second := {
      agree := agree
      supplied := by
        intro key secret
        obtain ⟨field, member, rfl⟩ := List.mem_map.mp secret
        obtain ⟨member, isSecret⟩ := List.mem_filter.mp member
        exact supplied field member isSecret
      accepted := accepted
      admitted := admitted }
    apply redacted_congr
    · exact (ascending_fieldValues schema first).foldl_insert _
    · exact (ascending_fieldValues schema second).foldl_insert _
    · intro key
      rw [member?_redacted, member?_redacted]
      exact alike.outcome_shown ascending.keys_nodup ordered.keys_nodup key

/-- A token that is secret in one of two descriptions of it, and a number of retries. -/
def tokenSchema : List ConfigField :=
  [{ name := "token", required := true, secret := true }, { name := "token" },
    { name := "retries", type := .integer, default := some (.int 3) }]

def tokenInput (token : Json) : Catalog Json := [("note", .null), ("token", token)]

theorem redacted_eq_of_agree_tokens :
    (tokenInput (.str "hunter2")).Ascending ∧ (tokenInput (.int 42)).Ascending ∧
    (∀ key, key ∈ (tokenInput (.str "hunter2")).keys ↔ key ∈ (tokenInput (.int 42)).keys) ∧
    (∀ key, key ∉ secretNames tokenSchema →
      (tokenInput (.str "hunter2")).find? key = (tokenInput (.int 42)).find? key) ∧
    (raw tokenSchema (tokenInput (.str "hunter2"))).redacted =
      (raw tokenSchema (tokenInput (.int 42))).redacted ∧
    ∃ one other : Configuration, validate tokenSchema (tokenInput (.str "hunter2")) = .ok one ∧
      validate tokenSchema (tokenInput (.int 42)) = .ok other ∧
      one.values.find? "token" ≠ other.values.find? "token" ∧ one.redacted = other.redacted ∧
      other.redacted = .obj [("note", .null), ("retries", .int 3), ("token", .str "********")] := by
  have ascending (token : Json) : (tokenInput token).Ascending :=
    List.pairwise_pair.mpr (by decide : "note" < "token")
  have keys : ∀ key, key ∈ (tokenInput (.str "hunter2")).keys ↔
      key ∈ (tokenInput (.int 42)).keys := fun key => Iff.rfl
  have agree : ∀ key, key ∉ secretNames tokenSchema →
      (tokenInput (.str "hunter2")).find? key = (tokenInput (.int 42)).find? key := by
    intro key notSecret
    have different : "token" ≠ key := by
      rintro rfl
      exact notSecret (by decide)
    simp [tokenInput, Catalog.find?, different]
  have supplied : ∀ field ∈ tokenSchema, field.secret = true →
      (Supplied (tokenInput (.str "hunter2")) field.name ↔
        Supplied (tokenInput (.int 42)) field.name) := by
    intro field member secret
    have named : field.name = "token" := by
      revert secret
      simp only [tokenSchema, List.mem_cons, List.not_mem_nil, or_false] at member
      rcases member with rfl | rfl | rfl <;> simp
    rw [named]
    exact ⟨fun _ => ⟨_, rfl, by simp⟩, fun _ => ⟨_, rfl, by simp⟩⟩
  obtain ⟨raws, validated⟩ := redacted_eq_of_agree tokenSchema (ascending (.str "hunter2"))
    (ascending (.int 42)) keys agree
  exact ⟨ascending _, ascending _, keys, agree, raws, _, _, rfl, rfl, by decide,
    validated _ _ rfl rfl supplied, by decide⟩

end Configuration

end AssistantEngine
