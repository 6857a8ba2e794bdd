import AssistantEngine.Proofs.Json.Texts
import AssistantEngine.Reading.Field

/-!
Records read back from the objects that they are written as. Loose data are read without regard to
what surrounds them, and a record finds each of its fields under the field's name.
-/

namespace AssistantEngine

namespace Json

/-- What a reader finds in place of a value in a text, where so many more collections may be
opened. -/
def datumWithin (room : Nat) (value : Json) : Datum := .ofWritten (writtenWithin room value)

theorem datumWithin_str (room : Nat) (value : String) :
    datumWithin room (.str value) = .text value := rfl

theorem ofWrittenItems_eq (room : Nat) (items : List Json) :
    Datum.ofWrittenItems (writtenItems room items) = items.map (datumWithin room) := by
  induction items with
  | nil => rfl
  | cons item items induction =>
      rw [writtenItems, Datum.ofWrittenItems, induction]
      rfl

theorem datumWithin_arr (room : Nat) (items : List Json) :
    datumWithin (room + 1) (.arr items) = .list (items.map (datumWithin room)) :=
  congrArg Datum.list (ofWrittenItems_eq room items)

/-- The entries of a table with these names. -/
def entries (data : Catalog Datum) : List (Datum × Datum) :=
  data.map fun entry => (.text entry.1, entry.2)

theorem ofWrittenMembers_eq (room : Nat) (members : List (String × Json)) :
    Datum.ofWrittenMembers (writtenMembers room members) =
      entries (Catalog.mapValues (datumWithin room) members) := by
  induction members with
  | nil => rfl
  | cons member members induction =>
      rcases member with ⟨key, value⟩
      rw [writtenMembers, Datum.ofWrittenMembers, induction]
      rfl

theorem datumWithin_obj (room : Nat) (members : List (String × Json)) :
    datumWithin (room + 1) (.obj members) =
      .table (entries (Catalog.mapValues (datumWithin room) members)) :=
  congrArg Datum.table (ofWrittenMembers_eq room members)

/-! ## Values in records -/

mutual
/-- What stands in place of a value stands for the value, unless that is nested too deep. -/
theorem toJson?_datumWithin : (value : Json) → value.Proper → ∀ room : Nat,
    (datumWithin room value).toJson? = if value.depth ≤ room then some value else none
  | .null, _, _ => rfl
  | .bool _, _, _ => rfl
  | .int _, _, _ => rfl
  | .real value, legible, room => by
      change some (ofReal value) = _
      rw [ofReal, if_pos (Legible.isFinite legible)]
      rfl
  | .str _, _, _ => rfl
  | .arr items, _, 0 => rfl
  | .arr items, proper, room + 1 => by
      have inner := toJsonItems?_datumWithin items proper room
      rw [datumWithin_arr, Datum.toJson?, inner, depth]
      by_cases fits : depthItems items ≤ room <;> simp [fits]
  | .obj members, _, 0 => rfl
  | .obj members, proper, room + 1 => by
      have inner := toJsonMembers?_datumWithin members proper.2 room
      rw [datumWithin_obj, Datum.toJson?, inner, depth]
      by_cases fits : depthMembers members ≤ room <;> simp [fits, object, proper.1.ofList_eq]

theorem toJsonItems?_datumWithin : (items : List Json) → ProperItems items → ∀ room : Nat,
    Datum.toJsonItems? (items.map (datumWithin room)) =
      if depthItems items ≤ room then some items else none
  | [], _, _ => rfl
  | item :: items, proper, room => by
      have here := toJson?_datumWithin item proper.1 room
      have later := toJsonItems?_datumWithin items proper.2 room
      simp only [List.map_cons, Datum.toJsonItems?, here, later, depthItems, Nat.max_le]
      by_cases first : item.depth ≤ room <;> by_cases others : depthItems items ≤ room <;>
        simp [first, others]

theorem toJsonMembers?_datumWithin : (members : List (String × Json)) → ProperMembers members →
    ∀ room : Nat,
    Datum.toJsonMembers? (entries (Catalog.mapValues (datumWithin room) members)) =
      if depthMembers members ≤ room then some members else none
  | [], _, _ => rfl
  | (key, value) :: members, proper, room => by
      have here := toJson?_datumWithin value proper.1 room
      have later := toJsonMembers?_datumWithin members proper.2 room
      change Datum.toJsonMembers? ((.text key, datumWithin room value) ::
        entries (Catalog.mapValues (datumWithin room) members)) = _
      simp only [Datum.toJsonMembers?, here, later, depthMembers, Nat.max_le]
      by_cases first : value.depth ≤ room <;> by_cases others : depthMembers members ≤ room <;>
        simp [first, others]
end

end Json

namespace Reading

variable {α β : Type}

/-- In loose data there is nothing to follow. -/
theorem asJson_datumWithin (room : Nat) (value : Json) :
    asJson (value.datumWithin room) = ofOption (value.datumWithin room).toJson? := by
  cases value with
  | arr items => cases room <;> rfl
  | obj members => cases room <;> rfl
  | _ => rfl

theorem asText_text (value : String) : asText (.text value) = pure value := rfl

/-- An optional text is left out if it is missing. -/
theorem nullable_asText (room : Nat) (value : Option String) :
    nullable asText ((value.map Json.str).map (Json.datumWithin room)) = pure value := by
  cases value <;> rfl

/-- An object is not taken for a missing value. -/
theorem nullable_object (read : Datum → Reading α) (room : Nat) (members : List (String × Json)) :
    nullable read (some ((Json.object members).datumWithin (room + 1))) =
      some <$> read ((Json.object members).datumWithin (room + 1)) := by
  unfold Json.object
  rw [Json.datumWithin_obj]
  rfl

/-- A list is read if each of its items is. -/
theorem asList_list {read : Datum → Reading α} {written : α → Datum} {legible : α → Prop}
    [DecidablePred legible] {items : List α}
    (each : ∀ item ∈ items, read (written item) =
      ofOption (if legible item then some item else none)) :
    asList read (.list (items.map written)) =
      ofOption (if ∀ item ∈ items, legible item then some items else none) := by
  change (items.map written).mapM read = _
  induction items with
  | nil => rfl
  | cons item items induction =>
      have here := each item List.mem_cons_self
      have later := induction fun other member => each other (List.mem_cons_of_mem _ member)
      rw [List.map_cons, List.mapM_cons, here, later]
      simp only [List.forall_mem_cons]
      by_cases first : legible item
      · by_cases others : ∀ other ∈ items, legible other
        · rw [if_pos first, if_pos others, if_pos ⟨first, others⟩]
          rfl
        · have notAll : ¬(legible item ∧ ∀ other ∈ items, legible other) := fun all => others all.2
          rw [if_pos first, if_neg others, if_neg notAll]
          rfl
      · have notAll : ¬(legible item ∧ ∀ other ∈ items, legible other) := fun all => first all.1
        rw [if_neg first, if_neg notAll]
        rfl

/-! ## Fields -/

theorem placeField_cons (field : Option Datum) (row : List (Option Datum)) (position : Option Nat)
    (value : Datum) :
    placeField (field :: row) (position.map (· + 1)) value =
      (placeField row position value).map (field :: ·) := by
  cases position with
  | none => rfl
  | some position =>
      simp only [placeField, Option.map_some, List.getElem?_cons_succ, List.set_cons_succ]
      cases row[position]? with
      | none => rfl
      | some held => cases held <;> rfl

/-- An entry takes the place of its name among the fields. -/
theorem placeField_named {names : List String} (distinct : names.Nodup) {key : String}
    {row : String → Option Datum} (vacant : row key = none) (value : Datum) :
    placeField (names.map row) (fieldPosition? (names.map ([·])) key) value =
      some (names.map fun name => if name = key then some value else row name) := by
  induction names with
  | nil => rfl
  | cons name names induction =>
      obtain ⟨fresh, others⟩ := List.nodup_cons.mp distinct
      unfold fieldPosition? at induction ⊢
      rw [List.map_cons, List.map_cons, List.findIdx?_cons]
      by_cases same : name = key
      · subst same
        have untouched : names.map (fun other => if other = name then some value else row other) =
            names.map row := by
          apply List.map_congr_left
          intro other member
          have different : other ≠ name := fun same => fresh (same ▸ member)
          rw [if_neg different]
        simp [placeField, vacant, untouched]
      · have elsewhere : [name].contains key = false := by simpa using Ne.symm same
        rw [elsewhere]
        simp only [Bool.false_eq_true, if_false]
        rw [placeField_cons, induction others, List.map_cons, if_neg same]
        rfl

theorem foldlM_placeEntry {names : List String} (distinct : names.Nodup) {data : Catalog Datum}
    (keyed : data.keys.Nodup) {row : String → Option Datum}
    (vacant : ∀ key ∈ data.keys, row key = none) :
    (Json.entries data).foldlM (placeEntry (names.map ([·]))) (names.map row) =
      pure (names.map fun name => (data.find? name).or (row name)) := by
  -- The row has what the entries so far have placed. No later entry has a key of theirs, so none
  -- meets a field that is filled.
  induction data generalizing row with
  | nil => rfl
  | cons entry data induction =>
      rcases entry with ⟨key, value⟩
      obtain ⟨fresh, others⟩ := List.nodup_cons.mp keyed
      have placed := placeField_named distinct (vacant key List.mem_cons_self) value
      have step : placeEntry (names.map ([·])) (names.map row) (.text key, value) =
          ofOption (placeField (names.map row) (fieldPosition? (names.map ([·])) key) value) := rfl
      have later : ∀ other ∈ Catalog.keys data,
          (if other = key then some value else row other) = none := by
        intro other member
        have different : other ≠ key := fun same => fresh (same ▸ member)
        rw [if_neg different]
        exact vacant other (List.mem_cons_of_mem _ member)
      have first : Json.entries ((key, value) :: data) =
          (.text key, value) :: Json.entries data := rfl
      rw [first, List.foldlM_cons, step, placed]
      refine (induction others later).trans ?_
      congr 1
      apply List.map_congr_left
      intro name _
      by_cases same : name = key
      · subst same
        have absent : Catalog.find? data name = none := by
          rw [← Option.not_isSome_iff_eq_none, ← Catalog.mem_keys_iff]
          exact fresh
        simp [absent, Catalog.find?]
      · rw [if_neg same, Catalog.find?_cons_of_ne (Ne.symm same)]

/-- A record has each of its fields from the entry with the field's name. -/
theorem fields_table {names : List String} (distinct : names.Nodup) {data : Catalog Datum}
    (keyed : data.keys.Nodup) (use : List (Option Datum) → Reading α) :
    fields (names.map ([·])) (.table (Json.entries data)) use = use (names.map data.find?) := by
  have vacant : List.replicate (names.map ([·])).length none =
      names.map fun _ => (none : Option Datum) := by
    rw [List.length_map, List.map_const']
  have placed := foldlM_placeEntry distinct keyed (fun _ _ => rfl)
  rw [← vacant] at placed
  change (Json.entries data).foldlM (placeEntry (names.map ([·])))
    (List.replicate (names.map ([·])).length none) >>= use = _
  rw [placed, pure_bind]
  simp

/-- A record is read from the members of the object that it is written as. -/
theorem fields_object {names : List String} (distinct : names.Nodup) (room : Nat)
    {members : List (String × Json)} {row : List (Option Json)}
    (found : names.map (Catalog.ofList members).find? = row)
    (use : List (Option Datum) → Reading α) :
    fields (names.map ([·])) ((Json.object members).datumWithin (room + 1)) use =
      use (row.map (Option.map (Json.datumWithin room))) := by
  unfold Json.object
  rw [Json.datumWithin_obj, fields_table distinct, ← found, List.map_map]
  · congr 1
    apply List.map_congr_left
    intro name _
    exact Catalog.find?_mapValues _ _ _
  · exact (Catalog.ascending_ofList members).mapValues _ |>.keys_nodup

end Reading

end AssistantEngine
