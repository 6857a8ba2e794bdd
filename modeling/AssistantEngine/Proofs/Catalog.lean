import Mathlib.Data.List.Basic
import Mathlib.Data.List.Induction
import Mathlib.Data.List.Nodup
import AssistantEngine.Catalog

/-!
Catalogs as maps. Every operation keeps a catalog in strictly ascending key order, so that it has
one entry per key, and what it holds is what can be looked up in it.
-/

namespace AssistantEngine

variable {α β : Type}

/-- Where no two elements have the same name, each one is found by its name. -/
theorem find?_of_nodup {name : α → String} {elements : List α} {element : α}
    (distinct : (elements.map name).Nodup) (member : element ∈ elements) :
    elements.find? (name · = name element) = some element := by
  cases found : elements.find? (name · = name element) with
  | none =>
      have absent := List.find?_eq_none.mp found element member
      simp at absent
  | some first =>
      have same : name first = name element := by simpa using List.find?_some found
      rw [List.inj_on_of_nodup_map distinct (List.mem_of_find?_eq_some found) member same]

/-- In a list that is in the order of its keys, of all that is selected and of a kind the first one
has the first key. -/
theorem findSome?_filter_eq_some_iff {κ : Type} (before : κ → κ → Prop) {elements : List (κ × α)}
    (ordered : elements.Pairwise fun first second => before first.1 second.1)
    (irreflexive : ∀ key, ¬before key key)
    (transitive : ∀ {first second third}, before first second → before second third →
      before first third) {select : κ × α → Option β} {kind : β → Bool} {result : β} :
    elements.findSome? (fun element => (select element).filter kind) = some result ↔
      ∃ key, (∃ value, (key, value) ∈ elements ∧ select (key, value) = some result) ∧
        kind result ∧ ∀ other rival,
          (∃ value, (other, value) ∈ elements ∧ select (other, value) = some rival) →
            kind rival → ¬before other key := by
  rw [List.findSome?_eq_some_iff]
  constructor
  · rintro ⟨earlier, ⟨key, value⟩, later, rfl, here, none⟩
    obtain ⟨selected, counts⟩ := Option.filter_eq_some_iff.mp here
    refine ⟨key, ⟨value, List.mem_append_right _ List.mem_cons_self, selected⟩, counts, ?_⟩
    rintro other rival ⟨another, member, selected⟩ alike less
    obtain ⟨-, behind, -⟩ := List.pairwise_append.mp ordered
    rcases List.mem_append.mp member with front | back
    · have skipped := none _ front
      simp [selected, alike] at skipped
    · rcases List.mem_cons.mp back with same | back
      · cases same
        exact irreflexive key less
      · exact irreflexive key (transitive ((List.pairwise_cons.mp behind).1 _ back) less)
  · rintro ⟨key, ⟨value, member, selected⟩, counts, rest⟩
    obtain ⟨earlier, later, rfl⟩ := List.append_of_mem member
    refine ⟨earlier, _, later, rfl, Option.filter_eq_some_iff.mpr ⟨selected, counts⟩, ?_⟩
    intro other front
    obtain ⟨-, -, across⟩ := List.pairwise_append.mp ordered
    rw [Option.filter_eq_none_iff]
    intro rival selected alike
    exact rest other.1 rival ⟨other.2, List.mem_append_left _ front, selected⟩ alike
      (across other front _ List.mem_cons_self)

namespace Catalog

/-- The keys stand in strictly ascending order. -/
def Ascending (catalog : Catalog α) : Prop :=
  catalog.Pairwise fun first second => first.1 < second.1

theorem ascending_nil : Ascending ([] : Catalog α) := List.Pairwise.nil

/-- Smaller keys stand in front of an entry, and greater ones behind it. -/
theorem Ascending.around {catalog earlier later : Catalog α} {entry : String × α}
    (ascending : catalog.Ascending) (split : catalog = earlier ++ entry :: later) :
    (∀ before ∈ earlier, before.1 < entry.1) ∧ ∀ after ∈ later, entry.1 < after.1 := by
  rw [Ascending, split, List.pairwise_append, List.pairwise_cons] at ascending
  obtain ⟨-, ⟨behind, -⟩, across⟩ := ascending
  exact ⟨fun before member => across before member entry List.mem_cons_self, behind⟩

theorem mem_insert {catalog : Catalog α} {key : String} {value : α} {entry : String × α}
    (member : entry ∈ catalog.insert key value) : entry = (key, value) ∨ entry ∈ catalog := by
  induction catalog with
  | nil => exact Or.inl (List.mem_singleton.mp member)
  | cons head rest induction =>
      rcases head with ⟨name, old⟩
      unfold insert at member
      split at member
      · rcases List.mem_cons.mp member with same | later
        · exact Or.inl same
        · exact Or.inr (List.mem_cons_of_mem _ later)
      · split at member
        · exact List.mem_cons.mp member
        · rcases List.mem_cons.mp member with same | later
          · exact Or.inr (same ▸ List.mem_cons_self)
          · rcases induction later with same | older
            · exact Or.inl same
            · exact Or.inr (List.mem_cons_of_mem _ older)

theorem Ascending.insert {catalog : Catalog α} (ascending : catalog.Ascending) (key : String)
    (value : α) : Ascending (Catalog.insert catalog key value) := by
  induction catalog with
  | nil => exact List.pairwise_singleton _ _
  | cons head rest induction =>
      rcases head with ⟨name, old⟩
      have parts := List.pairwise_cons.mp ascending
      unfold Catalog.insert
      split
      · rename_i same
        subst same
        exact List.pairwise_cons.mpr ⟨parts.1, parts.2⟩
      · rename_i different
        split
        · rename_i less
          refine List.pairwise_cons.mpr ⟨?_, ascending⟩
          intro entry member
          rcases List.mem_cons.mp member with same | later
          · exact same ▸ less
          · exact String.lt_trans less (parts.1 entry later)
        · rename_i notLess
          refine List.pairwise_cons.mpr ⟨?_, induction parts.2⟩
          intro entry member
          rcases mem_insert member with same | older
          · have greater : name < key :=
              Decidable.byContradiction fun reverse =>
                different (String.le_antisymm notLess reverse)
            exact same ▸ greater
          · exact parts.1 entry older

theorem Ascending.insertNew {catalog : Catalog α} (ascending : catalog.Ascending) (key : String)
    (value : α) : Ascending (Catalog.insertNew catalog key value) := by
  unfold Catalog.insertNew
  split
  · exact ascending
  · exact ascending.insert key value

theorem Ascending.erase {catalog : Catalog α} (ascending : catalog.Ascending) (key : String) :
    Ascending (Catalog.erase catalog key) :=
  List.Pairwise.filter _ ascending

theorem Ascending.mapValues {catalog : Catalog α} (ascending : catalog.Ascending)
    (transform : α → β) : Ascending (Catalog.mapValues transform catalog) :=
  List.pairwise_map.mpr ascending

theorem Ascending.keys_nodup {catalog : Catalog α} (ascending : catalog.Ascending) :
    catalog.keys.Nodup := by
  refine List.pairwise_map.mpr (ascending.imp ?_)
  intro first second less equal
  exact String.lt_irrefl _ (equal ▸ less)

theorem find?_cons_of_ne {name key : String} (different : name ≠ key) (value : α)
    (rest : Catalog α) : find? ((name, value) :: rest) key = find? rest key :=
  if_neg different

/-- Values may be changed under their keys. -/
theorem find?_mapEntries (transform : String → α → β) (catalog : Catalog α) (key : String) :
    find? (catalog.map fun entry => (entry.1, transform entry.1 entry.2)) key =
      (catalog.find? key).map (transform key) := by
  induction catalog with
  | nil => rfl
  | cons head rest induction =>
      rcases head with ⟨name, value⟩
      rw [List.map_cons]
      by_cases same : name = key
      · simp [find?, same]
      · rw [find?_cons_of_ne same, find?_cons_of_ne same, induction]

theorem find?_mapValues (transform : α → β) (catalog : Catalog α) (key : String) :
    (mapValues transform catalog).find? key = (catalog.find? key).map transform :=
  find?_mapEntries (fun _ => transform) catalog key

/-- A new entry is added to those that are there. -/
theorem perm_insert_of_absent {catalog : Catalog α} {key : String}
    (absent : catalog.find? key = none) (value : α) :
    (catalog.insert key value).Perm ((key, value) :: catalog) := by
  induction catalog with
  | nil => exact .refl _
  | cons head rest induction =>
      rcases head with ⟨name, old⟩
      have different : name ≠ key := by
        rintro rfl
        simp [find?] at absent
      rw [find?_cons_of_ne different] at absent
      unfold insert
      rw [if_neg different]
      split
      · exact .refl _
      · exact ((induction absent).cons _).trans (.swap _ _ _)

theorem perm_values_insert {catalog : Catalog α} {key : String}
    (absent : catalog.find? key = none) (value : α) :
    (catalog.insert key value).values.Perm (value :: catalog.values) :=
  (perm_insert_of_absent absent value).map _

theorem mem_of_find? {catalog : Catalog α} {key : String} {value : α}
    (found : catalog.find? key = some value) : (key, value) ∈ catalog := by
  induction catalog with
  | nil => cases found
  | cons head rest induction =>
      rcases head with ⟨name, other⟩
      by_cases same : name = key
      · subst same
        cases (show some other = some value by simpa [find?] using found)
        exact List.mem_cons_self
      · rw [find?_cons_of_ne same] at found
        exact List.mem_cons_of_mem _ (induction found)

theorem mem_keys_of_find? {catalog : Catalog α} {key : String} {value : α}
    (found : catalog.find? key = some value) : key ∈ catalog.keys :=
  List.mem_map_of_mem (mem_of_find? found)

/-- A catalog has the keys under which something is found. -/
theorem mem_keys_iff {catalog : Catalog α} {key : String} :
    key ∈ catalog.keys ↔ (catalog.find? key).isSome := by
  induction catalog with
  | nil => simp [keys]
  | cons head rest induction =>
      rcases head with ⟨name, value⟩
      by_cases same : name = key
      · simp [keys, find?, same]
      · rw [find?_cons_of_ne same, ← induction]
        simp [keys, Ne.symm same]

theorem mem_values_of_find? {catalog : Catalog α} {key : String} {value : α}
    (found : catalog.find? key = some value) : value ∈ catalog.values :=
  List.mem_map_of_mem (mem_of_find? found)

theorem find?_of_mem {catalog : Catalog α} (nodup : catalog.keys.Nodup) {key : String} {value : α}
    (member : (key, value) ∈ catalog) : catalog.find? key = some value := by
  induction catalog with
  | nil => cases member
  | cons head rest induction =>
      rcases head with ⟨name, other⟩
      have parts := List.nodup_cons.mp nodup
      rcases List.mem_cons.mp member with same | later
      · cases same
        exact if_pos rfl
      · have different : name ≠ key := by
          rintro rfl
          exact parts.1 (List.mem_map.mpr ⟨_, later, rfl⟩)
        rw [find?_cons_of_ne different]
        exact induction parts.2 later

theorem Ascending.find?_eq_some_iff {catalog : Catalog α} (ascending : catalog.Ascending)
    {key : String} {value : α} : catalog.find? key = some value ↔ (key, value) ∈ catalog :=
  ⟨mem_of_find?, find?_of_mem ascending.keys_nodup⟩

/-- Catalogs in which the same is found are the same. -/
theorem Ascending.ext {first second : Catalog α} (one : first.Ascending) (other : second.Ascending)
    (same : ∀ key, first.find? key = second.find? key) : first = second := by
  have members (entry : String × α) : entry ∈ first ↔ entry ∈ second := by
    rw [← one.find?_eq_some_iff, ← other.find?_eq_some_iff, same]
  have perm : first.Perm second :=
    (List.perm_ext_iff_of_nodup one.keys_nodup.of_map other.keys_nodup.of_map).mpr members
  apply perm.eq_of_pairwise _ one other
  intro before after _ _ less greater
  exact absurd (String.lt_trans less greater) (String.lt_irrefl _)

theorem erase_of_absent {catalog : Catalog α} {key : String}
    (absent : catalog.find? key = none) : catalog.erase key = catalog := by
  apply List.filter_eq_self.mpr
  intro entry member
  induction catalog with
  | nil => cases member
  | cons head rest induction =>
      unfold find? at absent
      split at absent
      · cases absent
      · rename_i different
        rcases List.mem_cons.mp member with rfl | later
        · simpa using different
        · exact induction absent later

/-- An entry and the other ones are all there is. -/
theorem perm_erase {catalog : Catalog α} {key : String} {value : α}
    (nodup : catalog.keys.Nodup) (found : catalog.find? key = some value) :
    catalog.Perm ((key, value) :: catalog.erase key) := by
  induction catalog with
  | nil => cases found
  | cons head rest induction =>
      rcases head with ⟨name, old⟩
      have parts := List.nodup_cons.mp nodup
      by_cases same : name = key
      · subst same
        cases (show some old = some value by simpa [find?] using found)
        have absent : find? rest name = none := by
          cases present : find? rest name with
          | none => rfl
          | some other => exact absurd (mem_keys_of_find? present) parts.1
        have erased : erase ((name, value) :: rest) name = rest := by
          unfold erase
          rw [List.filter_cons_of_neg (by simp)]
          exact erase_of_absent absent
        rw [erased]
      · rw [find?_cons_of_ne same] at found
        have erased : erase ((name, old) :: rest) key = (name, old) :: erase rest key :=
          List.filter_cons_of_pos (by simpa using same)
        rw [erased]
        exact ((induction parts.2 found).cons _).trans (.swap _ _ _)

theorem erase_insert (catalog : Catalog α) (key : String) (value : α) :
    (catalog.insert key value).erase key = catalog.erase key := by
  induction catalog with
  | nil => simp [insert, erase]
  | cons head rest induction =>
      rcases head with ⟨name, old⟩
      unfold insert
      split
      · rename_i same
        simp [erase, same]
      · split
        · simp [erase]
        · rename_i different _
          unfold erase at induction ⊢
          rw [List.filter_cons_of_pos (by simpa using different),
            List.filter_cons_of_pos (by simpa using different), induction]

/-- An entry takes the place of the one with its key. -/
theorem Ascending.perm_insert {catalog : Catalog α} (ascending : catalog.Ascending) (key : String)
    (value : α) : (Catalog.insert catalog key value).Perm ((key, value) :: catalog.erase key) := by
  have whole := perm_erase (ascending.insert key value).keys_nodup
    (find?_insert_self catalog key value)
  rwa [erase_insert] at whole

/-- Looking up every key yields every value, in the same order. -/
theorem filterMap_find?_keys (catalog : Catalog α) (nodup : catalog.keys.Nodup)
    (select : α → Option β) :
    catalog.keys.filterMap (fun key => (catalog.find? key).bind select) =
      catalog.filterMap fun entry => select entry.2 := by
  induction catalog with
  | nil => rfl
  | cons head rest induction =>
      rcases head with ⟨name, value⟩
      have parts := List.nodup_cons.mp nodup
      have later : (keys rest).filterMap
            (fun key => (find? ((name, value) :: rest) key).bind select) =
          (keys rest).filterMap fun key => (find? rest key).bind select := by
        apply List.filterMap_congr
        intro key member
        have different : name ≠ key := fun same => parts.1 (same ▸ member)
        rw [find?_cons_of_ne different]
      have first : (find? ((name, value) :: rest) name).bind select = select value := by
        simp [find?]
      change List.filterMap _ (name :: keys rest) = _
      rw [List.filterMap_cons, List.filterMap_cons, first, later, induction parts.2]

/-- An entry stays as it is unless its key is new. -/
theorem find?_insertNew (catalog : Catalog α) (key other : String) (value : α) :
    (catalog.insertNew key value).find? other =
      (catalog.find? other).or (if key = other then some value else none) := by
  unfold insertNew contains
  cases present : catalog.find? key with
  | none =>
      simp only [Option.isSome_none, Bool.false_eq_true, if_false, find?_insert]
      by_cases same : key = other
      · subst same
        simp [present]
      · simp [same]
  | some old =>
      simp only [Option.isSome_some, if_true]
      by_cases same : key = other
      · subst same
        simp [present]
      · simp [same]

/-- Of several entries with one key the last one counts. -/
theorem find?_ofList (entries : List (String × α)) (key : String) :
    (ofList entries).find? key = (entries.reverse.find? (·.1 = key)).map (·.2) := by
  induction entries using List.reverseRecOn with
  | nil => rfl
  | append_singleton entries entry induction =>
      have last : ofList (entries ++ [entry]) = (ofList entries).insert entry.1 entry.2 :=
        List.foldl_append
      rw [last, find?_insert, List.reverse_append, List.reverse_singleton, List.singleton_append,
        List.find?_cons, induction]
      by_cases same : entry.1 = key <;> simp [same]

theorem insert_of_greater {catalog : Catalog α} {key : String}
    (greater : ∀ entry ∈ catalog, entry.1 < key) (value : α) :
    catalog.insert key value = catalog ++ [(key, value)] := by
  induction catalog with
  | nil => rfl
  | cons head rest induction =>
      rcases head with ⟨name, old⟩
      have less : name < key := greater _ List.mem_cons_self
      have different : name ≠ key := fun same => String.lt_irrefl key (same ▸ less)
      have notBefore : ¬key < name := fun before =>
        String.lt_irrefl key (String.lt_trans before less)
      unfold insert
      rw [if_neg different, if_neg notBefore,
        induction fun entry member => greater entry (List.mem_cons_of_mem _ member)]
      rfl

/-- The catalog of entries that stand in order already. -/
theorem Ascending.ofList_eq {catalog : Catalog α} (ascending : catalog.Ascending) :
    ofList catalog = catalog := by
  induction catalog using List.reverseRecOn with
  | nil => rfl
  | append_singleton entries entry induction =>
      obtain ⟨front, -, before⟩ := List.pairwise_append.mp ascending
      have last : ofList (entries ++ [entry]) = (ofList entries).insert entry.1 entry.2 :=
        List.foldl_append
      rw [last, induction front]
      exact insert_of_greater (fun other member => before other member entry
        List.mem_cons_self) entry.2

theorem Ascending.foldl_insert {catalog : Catalog α} (ascending : catalog.Ascending)
    (entries : List (String × α)) :
    Ascending (entries.foldl (fun values entry => values.insert entry.1 entry.2) catalog) := by
  induction entries generalizing catalog with
  | nil => exact ascending
  | cons entry rest induction => exact induction (ascending.insert entry.1 entry.2)

theorem ascending_ofList (entries : List (String × α)) : Ascending (ofList entries) :=
  ascending_nil.foldl_insert entries

theorem mem_of_mem_ofList {entries : List (String × α)} {entry : String × α}
    (member : entry ∈ ofList entries) : entry ∈ entries := by
  induction entries using List.reverseRecOn with
  | nil => exact member
  | append_singleton entries other induction =>
      have last : ofList (entries ++ [other]) = (ofList entries).insert other.1 other.2 :=
        List.foldl_append
      rw [last] at member
      rcases mem_insert member with same | earlier
      · exact List.mem_append_right _ (List.mem_singleton.mpr same)
      · exact List.mem_append_left _ (induction earlier)

/-- Of the entries whose keys are of a kind. -/
theorem find?_filter (kind : String → Bool) (catalog : Catalog α) (key : String) :
    find? (catalog.filter fun entry => kind entry.1) key =
      if kind key then catalog.find? key else none := by
  induction catalog with
  | nil => simp
  | cons head rest induction =>
      rcases head with ⟨name, value⟩
      by_cases same : name = key
      · subst same
        cases wanted : kind name with
        | true =>
            rw [List.filter_cons_of_pos (by simpa using wanted)]
            simp [find?]
        | false =>
            rw [List.filter_cons_of_neg (by simpa using wanted), induction]
            simp [wanted]
      · rw [find?_cons_of_ne same, ← induction, List.filter_cons]
        split
        · exact find?_cons_of_ne same value _
        · rfl

/-- Entries that are added count, and else what was there before. -/
theorem find?_foldl_insert {entries : Catalog α} (nodup : entries.keys.Nodup)
    (catalog : Catalog α) (key : String) :
    (entries.foldl (fun values entry => values.insert entry.1 entry.2) catalog).find? key =
      (entries.find? key).or (catalog.find? key) := by
  induction entries generalizing catalog with
  | nil => rfl
  | cons head rest induction =>
      rcases head with ⟨name, value⟩
      obtain ⟨fresh, nodup⟩ := List.nodup_cons.mp nodup
      rw [List.foldl_cons, induction nodup, find?_insert]
      by_cases same : name = key
      · subst same
        have absent : find? rest name = none := by
          rw [← Option.not_isSome_iff_eq_none, ← mem_keys_iff]
          exact fresh
        simp [find?, absent]
      · rw [find?_cons_of_ne same, if_neg same]

end Catalog

end AssistantEngine
