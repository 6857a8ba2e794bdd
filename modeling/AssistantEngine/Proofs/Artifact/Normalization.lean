import Mathlib.Data.List.Basic
import Mathlib.Data.List.Induction
import AssistantEngine.Artifact.Record
import AssistantEngine.Proofs.Catalog

/-!
What the record of a tool's output keeps. The value of the output, or its text where it denotes
none, is displayed as a whole; a table also lists the keys of its rows in the order in which they
appear. What the model sees is one text, which is cut if it is too long. To cut a part of it before
makes no difference.
-/

namespace AssistantEngine

namespace Record

variable {raw : RawOutput} {rows : List Json}

/-! ## Texts for the model -/

/-- A text that is cut to so many characters: if it has more, three dots take the place of the last
ones. -/
structure Cut (whole text : String) : Prop where
  fits : whole.length ≤ 2000 → text = whole
  exceeds : 2000 < whole.length → text = String.ofList (whole.toList.take 1997) ++ "..."

theorem shorten_cut (text : String) : Cut text (shorten text) where
  fits fits := by
    rw [← String.length_toList] at fits
    exact if_pos fits
  exceeds exceeds := by
    have many : ¬text.toList.length ≤ longestModelText := by
      rw [String.length_toList]
      exact Nat.not_le.mpr exceeds
    exact (if_neg many).trans String.ofList_append

theorem Cut.toList {whole text : String} (cut : Cut whole text) (exceeds : 2000 < whole.length) :
    text.toList = whole.toList.take 1997 ++ ['.', '.', '.'] := by
  rw [cut.exceeds exceeds, String.toList_append, String.toList_ofList]
  rfl

theorem Cut.length_eq {whole text : String} (cut : Cut whole text) (exceeds : 2000 < whole.length) :
    text.length = 2000 := by
  rw [← String.length_toList, cut.toList exceeds, List.length_append, List.length_take,
    String.length_toList]
  simp only [List.length_cons, List.length_nil]
  omega

theorem Cut.length_le {whole text : String} (cut : Cut whole text) : text.length ≤ 2000 := by
  by_cases fits : whole.length ≤ 2000
  · rw [cut.fits fits]
    exact fits
  · exact Nat.le_of_eq (cut.length_eq (by omega))

theorem Cut.unique {whole first second : String} (one : Cut whole first)
    (other : Cut whole second) : first = second := by
  by_cases fits : whole.length ≤ 2000
  · rw [one.fits fits, other.fits fits]
  · rw [one.exceeds (by omega), other.exceeds (by omega)]

/-- What begins a text begins what it is cut to. -/
theorem Cut.begins {whole text : String} (cut : Cut whole text) {front : List Char}
    (begins : front <+: whole.toList) (few : front.length ≤ 1997) : front <+: text.toList := by
  by_cases fits : whole.length ≤ 2000
  · rw [cut.fits fits]
    exact begins
  · rw [cut.toList (by omega)]
    exact (List.prefix_take_iff.mpr ⟨begins, few⟩).trans (List.prefix_append _ _)

/-- The first characters of a text are the same if what follows them is cut. -/
theorem take_append_cut {count : Nat} {rest : List Char} (long : count ≤ rest.length)
    (front dots : List Char) :
    (front ++ (rest.take count ++ dots)).take count = (front ++ rest).take count := by
  have room : count - front.length ≤ (rest.take count).length := by
    rw [List.length_take]
    omega
  rw [List.take_append, List.take_append_of_le_length room, List.take_take,
    Nat.min_eq_left (Nat.sub_le _ _), ← List.take_append]

/-- To cut the end of a text first makes no difference. -/
theorem Cut.append {front rest text : String} (cut : Cut (front ++ shorten rest) text) :
    Cut (front ++ rest) text := by
  have inner := shorten_cut rest
  by_cases short : rest.length ≤ 2000
  · rwa [inner.fits short] at cut
  by_cases nothing : front = ""
  · subst nothing
    rw [String.empty_append] at cut ⊢
    rw [cut.fits inner.length_le]
    exact inner
  -- What stands in front pushes the dots of the first cut over the limit.
  have long : 2000 < rest.length := by omega
  have some_front : 0 < front.length := Nat.pos_of_ne_zero (by simpa using nothing)
  have longer : 2000 < (front ++ shorten rest).length := by
    rw [String.length_append, inner.length_eq long]
    omega
  constructor
  · intro few
    rw [String.length_append] at few
    omega
  · intro _
    have enough : 1997 ≤ rest.toList.length := by
      rw [String.length_toList]
      omega
    rw [cut.exceeds longer, String.toList_append, inner.toList long, take_append_cut enough,
      ← String.toList_append]

/-! ## Columns -/

/-- The keys that appear, each once, in the order in which they first appear. -/
structure FirstSeen (keys columns : List String) : Prop where
  complete : ∀ key, key ∈ columns ↔ key ∈ keys
  ordered : columns.Pairwise fun first second => keys.idxOf first < keys.idxOf second

/-- Adds a key unless it is there. -/
def addKey (columns : List String) (key : String) : List String :=
  if columns.contains key then columns else columns ++ [key]

theorem FirstSeen.addKey {keys columns : List String} (seen : FirstSeen keys columns)
    (key : String) : FirstSeen (keys ++ [key]) (Record.addKey columns key) := by
  have ordered : columns.Pairwise fun first second =>
      (keys ++ [key]).idxOf first < (keys ++ [key]).idxOf second := by
    refine seen.ordered.imp_of_mem fun firstListed secondListed before => ?_
    rw [List.idxOf_append_of_mem ((seen.complete _).mp firstListed),
      List.idxOf_append_of_mem ((seen.complete _).mp secondListed)]
    exact before
  unfold Record.addKey
  by_cases listed : key ∈ columns
  · have known : key ∈ keys := (seen.complete key).mp listed
    rw [if_pos (by simpa using listed)]
    refine ⟨fun other => ?_, ordered⟩
    rw [seen.complete, List.mem_append, List.mem_singleton]
    constructor
    · exact Or.inl
    · rintro (earlier | rfl)
      · exact earlier
      · exact known
  · have fresh : key ∉ keys := fun known => listed ((seen.complete key).mpr known)
    rw [if_neg (by simpa using listed)]
    refine ⟨fun other => ?_, ?_⟩
    · rw [List.mem_append, List.mem_append, seen.complete]
    · refine List.pairwise_append.mpr ⟨ordered, List.pairwise_singleton _ _, ?_⟩
      intro first firstListed second last
      cases List.mem_singleton.mp last
      have known : first ∈ keys := (seen.complete first).mp firstListed
      rw [List.idxOf_append_of_mem known, List.idxOf_append_of_notMem fresh]
      exact Nat.lt_add_right _ (List.idxOf_lt_length_of_mem known)

theorem firstSeen_foldl (keys : List String) : FirstSeen keys (keys.foldl addKey []) := by
  induction keys using List.reverseRecOn with
  | nil => exact ⟨fun key => Iff.rfl, List.Pairwise.nil⟩
  | append_singleton keys key induction =>
      rw [List.foldl_append]
      exact induction.addKey key

/-- The columns of a table are the keys of all rows. -/
theorem columnsOf_firstSeen (rows : List Json) :
    FirstSeen (rows.flatMap keysOf) (columnsOf rows) := by
  have folded : columnsOf rows = (rows.flatMap keysOf).foldl addKey [] :=
    List.foldl_flatMap.symm
  rw [folded]
  exact firstSeen_foldl _

example :
    columnsOf [.obj [("id", .int 1), ("name", .str "a")],
      .obj [("city", .str "b"), ("id", .int 2)]] = ["id", "name", "city"] := by decide

/-! ## Values and texts -/

/-- The rows of a table: objects, and at least one. -/
def IsTable (rows : List Json) : Prop := rows ≠ [] ∧ ∀ row ∈ rows, row.isObject = true

instance (rows : List Json) : Decidable (IsTable rows) := inferInstanceAs (Decidable (_ ∧ _))

theorem ofData_of_table (table : IsTable rows) : ofData (.arr rows) = ofRows rows := by
  have rowsOnly : (!rows.isEmpty && rows.all Json.isObject) = true := by
    simpa [IsTable] using table
  exact if_pos rowsOnly

theorem ofData_of_no_table {value : Json} (noTable : ∀ rows, value = .arr rows → ¬IsTable rows) :
    ofData value = ofValue value := by
  cases value with
  | arr rows =>
      have others : ¬(!rows.isEmpty && rows.all Json.isObject) = true := by
        simpa [IsTable] using noTable rows rfl
      exact if_neg others
  | _ => rfl

/-- The text of an output, block by block. -/
def textOf (raw : RawOutput) : String := Text.join "\n" raw.text

/-- What is said of a value. -/
def describe : Json → String
  | .arr rows => if IsTable rows then summary rows else (Json.arr rows).compact
  | value => value.compact

theorem describe_of_no_table {value : Json}
    (noTable : ∀ rows, value = .arr rows → ¬IsTable rows) : describe value = value.compact := by
  cases value with
  | arr rows => exact if_neg (noTable rows rfl)
  | _ => rfl

/-- What is said of an output if there is no limit to it. -/
def account (raw : RawOutput) (failed : Bool) : String :=
  (if failed then "Tool error: " else "") ++ ((dataOf raw).map describe).getD (textOf raw)

/-- How an output of some value is displayed. -/
inductive Displays (raw : RawOutput) : Option Json → Display → Prop where
  | text : Displays raw none (.markdown (textOf raw))
  | table {rows : List Json} {columns : List String} (table : IsTable rows)
      (listed : FirstSeen (rows.flatMap keysOf) columns) :
      Displays raw (some (.arr rows)) (.table columns rows)
  | value {value : Json} (noTable : ∀ rows, value = .arr rows → ¬IsTable rows) :
      Displays raw (some value) (.json value)

theorem ofRows_modelText (rows : List Json) : (ofRows rows).modelText = shorten (summary rows) := by
  -- The summary is kept from being evaluated.
  generalize written : summary rows = text
  rw [ofRows, written]

theorem markError_modelText (record : Record) :
    (markError record).modelText = shorten ("Tool error: " ++ record.modelText) := by
  generalize written : "Tool error: " ++ record.modelText = text
  rw [markError, written]

/-- A record that keeps all of an output. -/
structure Keeps (raw : RawOutput) (failed : Bool) (record : Record) : Prop where
  data : record.data = dataOf raw
  display : ∃ display, record.display = [display] ∧ Displays raw record.data display
  rowCount : ∀ rows, record.data = some (.arr rows) → IsTable rows →
    record.metadata.find? "row_count" = some (.int rows.length)
  flag : record.metadata.find? "is_error" = if failed then some (.bool true) else none
  modelText : Cut (account raw failed) record.modelText

theorem keeps_ofText (absent : dataOf raw = none) : Keeps raw false (ofText (textOf raw)) where
  data := absent.symm
  display := ⟨_, rfl, .text⟩
  rowCount := nofun
  flag := rfl
  modelText := by
    have told : account raw false = textOf raw := by
      simp [account, absent]
    rw [told]
    exact shorten_cut (textOf raw)

theorem keeps_ofData {value : Json} (present : dataOf raw = some value) :
    Keeps raw false (ofData value) := by
  have told : account raw false = describe value := by
    simp [account, present]
  by_cases tabular : ∃ rows, value = .arr rows ∧ IsTable rows
  · obtain ⟨rows, rfl, table⟩ := tabular
    rw [ofData_of_table table]
    refine ⟨present.symm, ⟨_, rfl, .table table (columnsOf_firstSeen rows)⟩, ?_, rfl, ?_⟩
    · intro others same _
      cases same
      rfl
    · rw [told, describe, if_pos table, ofRows_modelText]
      exact shorten_cut (summary rows)
  · have noTable : ∀ rows, value = .arr rows → ¬IsTable rows := fun rows same table =>
      tabular ⟨rows, same, table⟩
    rw [ofData_of_no_table noTable]
    refine ⟨present.symm, ⟨_, rfl, .value noTable⟩, ?_, rfl, ?_⟩
    · intro rows same table
      exact absurd table (noTable rows (Option.some.inj same))
    · rw [told, describe_of_no_table noTable]
      exact shorten_cut value.compact

/-- The record of a failure keeps as much. -/
theorem Keeps.markError {record : Record} (keeps : Keeps raw false record) :
    Keeps raw true (Record.markError record) where
  data := keeps.data
  display := keeps.display
  rowCount rows same table := by
    rw [Record.markError, Catalog.find?_insert, if_neg (by decide)]
    exact keeps.rowCount rows same table
  flag := Catalog.find?_insert_self _ _ _
  modelText := by
    have told : account raw true = "Tool error: " ++ account raw false := by
      simp [account]
    have shortened : record.modelText = shorten (account raw false) :=
      keeps.modelText.unique (shorten_cut _)
    rw [told, markError_modelText, shortened]
    exact (shorten_cut ("Tool error: " ++ shorten (account raw false))).append

theorem Keeps.marked {record : Record} (keeps : Keeps raw false record) :
    Keeps raw raw.isError (if raw.isError then Record.markError record else record) := by
  cases raw.isError with
  | false => exact keeps
  | true => exact keeps.markError

theorem ofRaw_keeps (raw : RawOutput) : Keeps raw raw.isError (ofRaw raw) := by
  apply Keeps.marked
  split
  · rename_i value present
    exact keeps_ofData present
  · rename_i absent
    exact keeps_ofText absent

/-- A record keeps all of an output but for its text for the model, which is brief, and tells of a
failure at its beginning. -/
theorem ofRaw_bounded_lossless (raw : RawOutput) :
    Keeps raw raw.isError (ofRaw raw) ∧
    dataOf raw = raw.structured.or ((Json.parse (Text.trim (textOf raw))).filter fun value =>
      value.isObject || value.isArray) ∧
    (ofRaw raw).modelText.length ≤ 2000 ∧
    (raw.isError = true → "Tool error: ".toList <+: (ofRaw raw).modelText.toList) := by
  have keeps := ofRaw_keeps raw
  refine ⟨keeps, ?_, keeps.modelText.length_le, fun failed => ?_⟩
  · rw [dataOf]
    cases raw.structured with
    | some value => exact Option.some_or.symm
    | none => exact Option.none_or.symm
  · apply keeps.modelText.begins
    · rw [account, if_pos failed, String.toList_append]
      exact List.prefix_append _ _
    · decide

end Record

end AssistantEngine
