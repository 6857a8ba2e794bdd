/-!
Catalogs: finite maps from names to values, held as a list in ascending key order with
one entry per key. The order of names is the order of their code points, which is also
the order of their encoded bytes.
-/

namespace AssistantEngine

abbrev Catalog (α : Type) := List (String × α)

namespace Catalog

def find? {α : Type} : Catalog α → String → Option α
  | [], _ => none
  | (name, value) :: rest, key => if name = key then some value else find? rest key

def contains {α : Type} (catalog : Catalog α) (key : String) : Bool :=
  (catalog.find? key).isSome

/-- Adds an entry, or replaces the one that has the key. -/
def insert {α : Type} : Catalog α → String → α → Catalog α
  | [], key, value => [(key, value)]
  | (name, old) :: rest, key, value =>
    if name = key then (key, value) :: rest
    else if key < name then (key, value) :: (name, old) :: rest
    else (name, old) :: insert rest key value

/-- Adds an entry unless the key is present. -/
def insertNew {α : Type} (catalog : Catalog α) (key : String) (value : α) : Catalog α :=
  if catalog.contains key then catalog else catalog.insert key value

def erase {α : Type} (catalog : Catalog α) (key : String) : Catalog α :=
  catalog.filter (·.1 ≠ key)

def keys {α : Type} (catalog : Catalog α) : List String := catalog.map (·.1)

def values {α : Type} (catalog : Catalog α) : List α := catalog.map (·.2)

def mapValues {α β : Type} (transform : α → β) (catalog : Catalog α) : Catalog β :=
  catalog.map fun entry => (entry.1, transform entry.2)

/-- Later entries replace earlier ones of the same key. -/
def ofList {α : Type} (entries : List (String × α)) : Catalog α :=
  entries.foldl (fun catalog entry => catalog.insert entry.1 entry.2) []

@[simp] theorem find?_nil {α : Type} (key : String) : find? ([] : Catalog α) key = none := rfl

theorem find?_insert {α : Type} (catalog : Catalog α) (key other : String) (value : α) :
    (catalog.insert key value).find? other =
      if key = other then some value else catalog.find? other := by
  induction catalog with
  | nil => simp [insert, find?]
  | cons entry rest induction =>
      obtain ⟨name, old⟩ := entry
      unfold insert
      split
      · rename_i same
        subst same
        simp only [find?]
        split <;> rfl
      · split
        · simp only [find?]
        · simp only [find?, induction]
          split
          · rename_i different _ here
            subst here
            simp [Ne.symm different]
          · rfl

theorem find?_insert_self {α : Type} (catalog : Catalog α) (key : String) (value : α) :
    (catalog.insert key value).find? key = some value := by
  simp [find?_insert]

theorem find?_erase {α : Type} (catalog : Catalog α) (key other : String) :
    (catalog.erase key).find? other = if key = other then none else catalog.find? other := by
  induction catalog with
  | nil => simp [erase]
  | cons entry rest induction =>
      obtain ⟨name, value⟩ := entry
      unfold erase at induction ⊢
      by_cases same : name = key
      · subst same
        rw [List.filter_cons_of_neg (by simp)]
        rw [induction]
        simp only [find?]
        split <;> rfl
      · rw [List.filter_cons_of_pos (by simp [same])]
        simp only [find?, induction]
        split
        · rename_i here
          subst here
          simp [Ne.symm same]
        · rfl

end Catalog

end AssistantEngine
