import Mathlib.Data.List.Forall2
import AssistantEngine.Proofs.Yaml.Respelling
import AssistantEngine.Reading.Field

/-!
Readers of two documents that differ only in how their quoted scalars are spelled.
-/

namespace AssistantEngine

def Surroundings.respelled (respell : String → String) (surroundings : Surroundings) :
    Surroundings :=
  { surroundings with anchors := surroundings.anchors.respelled respell }

namespace Reading

/-- Two ways to spell what stands between quotes, and which texts may stand for one another. -/
structure Spellings where
  first : String → String
  second : String → String
  Same : String → String → Prop
  same : ∀ text, Same (first text) (second text)
  refl : ∀ text, Same text text

variable {α β γ δ : Type} {spellings : Spellings} {Same : α → β → Prop}

namespace Spellings

/-- Where the first document is read, the second one is read to something alike. -/
def Imitates (spellings : Spellings) (Same : α → β → Prop) (reading : Reading α)
    (other : Reading β) : Prop :=
  ∀ (surroundings : Surroundings) (left : Nat) (value : α) (rest : Nat),
    reading (surroundings.respelled spellings.first) left = some (value, rest) →
      ∃ result, other (surroundings.respelled spellings.second) left = some (result, rest) ∧
        Same value result

namespace Imitates

theorem pure {value : α} {result : β} (same : Same value result) :
    spellings.Imitates Same (Pure.pure value) (Pure.pure result) := by
  rintro surroundings left _ _ ⟨⟩
  exact ⟨result, rfl, same⟩

theorem failure (other : Reading β) : spellings.Imitates Same failure other := nofun

theorem bind {Next : γ → δ → Prop} {reading : Reading α} {other : Reading β}
    {next : α → Reading γ} {further : β → Reading δ} (first : spellings.Imitates Same reading other)
    (later : ∀ value result, Same value result →
      spellings.Imitates Next (next value) (further result)) :
    spellings.Imitates Next (reading >>= next) (other >>= further) := by
  intro surroundings left last rest found
  obtain ⟨⟨value, middle⟩, begun, found⟩ := Option.bind_eq_some_iff.mp found
  obtain ⟨result, begins, same⟩ := first surroundings left value middle begun
  obtain ⟨final, ends, alike⟩ := later value result same surroundings middle last rest found
  refine ⟨final, ?_, alike⟩
  exact Option.bind_eq_some_iff.mpr ⟨_, begins, ends⟩

theorem ofOption {found : Option α} {other : Option β}
    (same : ∀ value ∈ found, ∃ result ∈ other, Same value result) :
    spellings.Imitates Same (Reading.ofOption found) (Reading.ofOption other) := by
  cases found with
  | none => exact failure _
  | some value =>
      obtain ⟨result, member, alike⟩ := same value rfl
      cases member
      exact pure alike

/-- What comes out of nowhere else is the same. -/
theorem ofOption_self (found : Option α) :
    spellings.Imitates Eq (Reading.ofOption found) (Reading.ofOption found) :=
  ofOption fun value member => ⟨value, member, rfl⟩

theorem inside {reading : Reading α} {other : Reading β}
    (imitates : spellings.Imitates Same reading other) :
    spellings.Imitates Same (Reading.inside reading) (Reading.inside other) := by
  rintro ⟨anchors, room, empty⟩ left value rest found
  cases room with
  | zero => cases found
  | succ room => exact imitates ⟨anchors, room, empty⟩ left value rest found

theorem mapM {reader : γ → Reading α} {other : δ → Reading β} {Given : γ → δ → Prop}
    {items : List γ} {others : List δ} (given : List.Forall₂ Given items others)
    (each : ∀ item another, Given item another →
      spellings.Imitates Same (reader item) (other another)) :
    spellings.Imitates (List.Forall₂ Same) (items.mapM reader) (others.mapM other) := by
  induction given with
  | nil => exact pure .nil
  | cons here later induction =>
      rw [List.mapM_cons, List.mapM_cons]
      exact bind (each _ _ here) fun _ _ same =>
        bind induction fun _ _ more => pure (.cons same more)

theorem foldlM {step : α → γ → Reading α} {other : β → δ → Reading β} {Given : γ → δ → Prop}
    {items : List γ} {others : List δ} (given : List.Forall₂ Given items others)
    (each : ∀ value result item another, Same value result → Given item another →
      spellings.Imitates Same (step value item) (other result another))
    {value : α} {result : β} (same : Same value result) :
    spellings.Imitates Same (items.foldlM step value) (others.foldlM other result) := by
  induction given generalizing value result with
  | nil => exact pure same
  | cons here later induction =>
      rw [List.foldlM_cons, List.foldlM_cons]
      exact bind (each _ _ _ _ same here) fun _ _ same => induction same

end Imitates

/-! ## Readers of nodes -/

/-- The two spellings of one node. -/
def Nodes (spellings : Spellings) (node other : Yaml.Node) : Prop :=
  ∃ written : Yaml.Node, node = written.respelled spellings.first ∧
    other = written.respelled spellings.second

def Data (spellings : Spellings) (datum other : Datum) : Prop :=
  ∃ written : Yaml.Node, datum = .node (written.respelled spellings.first) ∧
    other = .node (written.respelled spellings.second)

theorem follow_alias (number : Nat) (surroundings : Surroundings) (left : Nat) :
    follow (.alias number) surroundings (left + 1) =
      Reading.ofOption (surroundings.anchors.node? number) surroundings left := by
  conv => lhs; whnf
  cases surroundings.anchors.node? number <;> rfl

theorem imitates_follow (node : Yaml.Node) :
    spellings.Imitates spellings.Nodes (follow (node.respelled spellings.first))
      (follow (node.respelled spellings.second)) := by
  cases node with
  | «alias» number =>
      intro surroundings left value rest found
      cases left with
      | zero => cases found
      | succ left =>
          have named (respell : String → String) :
              (surroundings.respelled respell).anchors.node? number =
                (surroundings.anchors.node? number).map (Yaml.Node.respelled respell) :=
            Yaml.Anchors.node?_respelled surroundings.anchors number
          rw [Yaml.Node.respelled, follow_alias] at found ⊢
          refine Imitates.ofOption (fun node member => ?_) surroundings left value rest found
          rw [named] at member ⊢
          obtain ⟨written, stands, rfl⟩ := Option.map_eq_some_iff.mp member
          exact ⟨_, Option.map_eq_some_iff.mpr ⟨written, stands, rfl⟩, written, rfl, rfl⟩
  | _ => exact .pure ⟨_, rfl, rfl⟩

theorem imitates_opened {datum other : Datum} (data : spellings.Data datum other) :
    spellings.Imitates spellings.Data (opened datum) (opened other) := by
  obtain ⟨written, rfl, rfl⟩ := data
  refine .bind (imitates_follow written) ?_
  rintro _ _ ⟨found, rfl, rfl⟩
  exact .pure ⟨found, rfl, rfl⟩

theorem imitates_asText {datum other : Datum} (data : spellings.Data datum other) :
    spellings.Imitates spellings.Same (asText datum) (asText other) := by
  refine .bind (imitates_opened data) ?_
  rintro _ _ ⟨found, rfl, rfl⟩
  cases found with
  | scalar written style tag =>
      refine .pure ?_
      unfold Yaml.respelled
      split
      · exact spellings.same written
      · exact spellings.refl written
  | _ => exact .failure _

/-- What stands between quotes denotes nothing but its text. -/
theorem imitates_denoted (kind written : String) (style : Yaml.ScalarStyle)
    (tag : Option Yaml.Tag) (denoted : String → Option α) :
    spellings.Imitates Eq
      (if Datum.mayDenote kind style tag then
        Reading.ofOption (denoted (Yaml.respelled spellings.first style written)) else failure)
      (if Datum.mayDenote kind style tag then
        Reading.ofOption (denoted (Yaml.respelled spellings.second style written))
      else failure) := by
  cases style with
  | quoted => exact .failure _
  | plain => exact .ofOption_self _
  | literal =>
      split
      · exact .ofOption_self _
      · exact .failure _

theorem imitates_asBool {datum other : Datum} (data : spellings.Data datum other) :
    spellings.Imitates Eq (asBool datum) (asBool other) := by
  refine .bind (imitates_opened data) ?_
  rintro _ _ ⟨found, rfl, rfl⟩
  cases found with
  | scalar written style tag => exact imitates_denoted "bool" written style tag Yaml.bool?
  | _ => exact .failure _

theorem imitates_asReal {datum other : Datum} (data : spellings.Data datum other) :
    spellings.Imitates Eq (asReal datum) (asReal other) := by
  refine .bind (imitates_opened data) ?_
  rintro _ _ ⟨found, rfl, rfl⟩
  cases found with
  | scalar written style tag => exact imitates_denoted "float" written style tag Yaml.real?
  | _ => exact .failure _

theorem imitates_asNatural (greatest : Nat) {datum other : Datum}
    (data : spellings.Data datum other) :
    spellings.Imitates Eq (asNatural greatest datum) (asNatural greatest other) := by
  have bounded (found : Nat) : spellings.Imitates Eq
      (if found ≤ greatest then Pure.pure found else failure : Reading Nat)
      (if found ≤ greatest then Pure.pure found else failure) := by
    split
    · exact .pure rfl
    · exact .failure _
  refine .bind (imitates_opened data) ?_
  rintro _ _ ⟨found, rfl, rfl⟩
  cases found with
  | scalar written style tag =>
      have denoted (written : String) : spellings.Imitates Eq
          (Reading.ofOption (Yaml.natural? written) >>= fun found =>
            if found ≤ greatest then Pure.pure found else failure : Reading Nat)
          (Reading.ofOption (Yaml.natural? written) >>= fun found =>
            if found ≤ greatest then Pure.pure found else failure) :=
        .bind (.ofOption_self _) fun found _ same => same ▸ bounded found
      cases style with
      | quoted => exact .failure _
      | plain => exact denoted written
      | literal =>
          dsimp only [Yaml.Node.respelled]
          split
          · exact denoted written
          · exact .failure _
  | _ => exact .failure _

theorem isNone?_respelled (written : Yaml.Node) (respell : String → String) :
    isNone? (.node (written.respelled respell)) = isNone? (.node written) := by
  cases written with
  | scalar written style tag => cases style <;> rfl
  | _ => rfl

theorem isVacant_respelled (written : Yaml.Node) (respell : String → String) :
    Datum.isVacant (written.respelled respell) = Datum.isVacant written := by
  cases written with
  | scalar written style tag =>
      cases style with
      | plain => rfl
      | literal => exact (Bool.and_false _).trans (Bool.and_false _).symm
      | quoted => exact (Bool.and_false _).trans (Bool.and_false _).symm
  | _ => rfl

theorem imitates_asOption {reader : Datum → Reading α} {other : Datum → Reading β}
    (each : ∀ datum another, spellings.Data datum another →
      spellings.Imitates Same (reader datum) (other another))
    {datum another : Datum} (data : spellings.Data datum another) :
    spellings.Imitates (Option.Rel Same) (asOption reader datum) (asOption other another) := by
  refine .bind (imitates_opened data) ?_
  rintro _ _ ⟨found, rfl, rfl⟩
  rw [isNone?_respelled, isNone?_respelled]
  refine .bind (.ofOption_self _) ?_
  rintro missing _ rfl
  cases missing with
  | true => exact .pure .none
  | false => exact .bind (each _ _ ⟨found, rfl, rfl⟩) fun _ _ same => .pure (.some same)

theorem nodes_items (spellings : Spellings) (items : List Yaml.Node) :
    List.Forall₂ spellings.Nodes (items.map (Yaml.Node.respelled spellings.first))
      (items.map (Yaml.Node.respelled spellings.second)) := by
  induction items with
  | nil => exact .nil
  | cons item items induction => exact .cons ⟨item, rfl, rfl⟩ induction

theorem imitates_asList {reader : Datum → Reading α} {other : Datum → Reading β}
    (each : ∀ datum another, spellings.Data datum another →
      spellings.Imitates Same (reader datum) (other another))
    {datum another : Datum} (data : spellings.Data datum another) :
    spellings.Imitates (List.Forall₂ Same) (asList reader datum) (asList other another) := by
  refine .bind (imitates_opened data) ?_
  rintro _ _ ⟨found, rfl, rfl⟩
  dsimp only
  rw [isVacant_respelled, isVacant_respelled]
  split
  · exact .pure .nil
  · cases found with
    | sequence tag items =>
        rw [Yaml.Node.respelled, Yaml.Node.respelled, Yaml.Node.respelledItems_eq,
          Yaml.Node.respelledItems_eq]
        refine .inside (.mapM (spellings.nodes_items items) ?_)
        rintro _ _ ⟨item, rfl, rfl⟩
        exact each _ _ ⟨item, rfl, rfl⟩
    | _ => exact .failure _

/-! ## Structures -/

/-- Both spellings of an entry. -/
def Entries (spellings : Spellings) (entry other : Datum × Datum) : Prop :=
  spellings.Data entry.1 other.1 ∧ spellings.Data entry.2 other.2

theorem data_entries (spellings : Spellings) (entries : List (Yaml.Node × Yaml.Node)) :
    List.Forall₂ spellings.Entries
      ((Yaml.Node.respelledEntries spellings.first entries).map fun (key, value) =>
        (Datum.node key, Datum.node value))
      ((Yaml.Node.respelledEntries spellings.second entries).map fun (key, value) =>
        (Datum.node key, Datum.node value)) := by
  induction entries with
  | nil => exact .nil
  | cons entry entries induction =>
      rcases entry with ⟨key, value⟩
      exact .cons ⟨⟨key, rfl, rfl⟩, value, rfl, rfl⟩ induction

theorem imitates_withEntries {use : List (Datum × Datum) → Reading α}
    {other : List (Datum × Datum) → Reading β}
    (uses : ∀ entries others, List.Forall₂ spellings.Entries entries others →
      spellings.Imitates Same (use entries) (other others))
    {datum another : Datum} (data : spellings.Data datum another) :
    spellings.Imitates Same (withEntries datum use) (withEntries another other) := by
  refine .bind (imitates_opened data) ?_
  rintro _ _ ⟨found, rfl, rfl⟩
  dsimp only
  rw [isVacant_respelled, isVacant_respelled]
  split
  · exact uses _ _ .nil
  · cases found with
    | mapping tag entries => exact .inside (uses _ _ (spellings.data_entries entries))
    | _ => exact .failure _

/-- The fields of a structure, where both documents give the same ones. -/
abbrev Rows (spellings : Spellings) : List (Option Datum) → List (Option Datum) → Prop :=
  List.Forall₂ (Option.Rel spellings.Data)

theorem rows_at {row other : List (Option Datum)} (rows : spellings.Rows row other)
    (position : Nat) :
    Option.Rel (Option.Rel spellings.Data) row[position]? other[position]? ∧
      ∀ value another, spellings.Data value another →
        spellings.Rows (row.set position (some value)) (other.set position (some another)) := by
  induction rows generalizing position with
  | nil => exact ⟨.none, fun _ _ _ => .nil⟩
  | cons here later induction =>
      cases position with
      | zero => exact ⟨.some here, fun _ _ data => .cons (.some data) later⟩
      | succ position =>
          obtain ⟨found, placed⟩ := induction position
          exact ⟨found, fun value another data => .cons here (placed value another data)⟩

theorem rows_placeField {row other : List (Option Datum)} (rows : spellings.Rows row other)
    (position : Option Nat) {value another : Datum} (data : spellings.Data value another) :
    ∀ placed ∈ placeField row position value,
      ∃ result ∈ placeField other position another, spellings.Rows placed result := by
  cases position with
  | none =>
      rintro _ ⟨⟩
      exact ⟨other, rfl, rows⟩
  | some position =>
      obtain ⟨found, placed⟩ := rows_at rows position
      unfold placeField
      dsimp only
      revert found
      cases row[position]? <;> cases other[position]? <;> rintro ⟨⟩
      · rintro _ ⟨⟩
        exact ⟨other, rfl, rows⟩
      · rename_i field
        cases field with
        | none =>
            rintro _ ⟨⟩
            exact ⟨_, rfl, placed value another data⟩
        | some => rintro _ ⟨⟩

theorem imitates_placeEntry {names : List (List String)}
    (unnamed : ∀ text other, spellings.Same text other →
      fieldPosition? names text = fieldPosition? names other)
    {row another : List (Option Datum)} (rows : spellings.Rows row another)
    {entry other : Datum × Datum} (entries : spellings.Entries entry other) :
    spellings.Imitates spellings.Rows (placeEntry names row entry)
      (placeEntry names another other) := by
  rcases entry with ⟨key, value⟩
  rcases other with ⟨second, further⟩
  obtain ⟨⟨found, rfl, rfl⟩, values⟩ := entries
  refine .bind (imitates_asText ⟨found, rfl, rfl⟩) fun text other same => ?_
  rw [unnamed text other same]
  exact .ofOption (rows_placeField rows _ values)

theorem imitates_fields {names : List (List String)}
    (unnamed : ∀ text other, spellings.Same text other →
      fieldPosition? names text = fieldPosition? names other)
    {use : List (Option Datum) → Reading α} {other : List (Option Datum) → Reading β}
    (uses : ∀ row another, spellings.Rows row another →
      spellings.Imitates Same (use row) (other another))
    {datum another : Datum} (data : spellings.Data datum another) :
    spellings.Imitates Same (fields names datum use) (fields names another other) := by
  have vacant : spellings.Rows (List.replicate names.length none)
      (List.replicate names.length none) := by
    refine List.forall₂_same.mpr fun field member => ?_
    rw [List.eq_of_mem_replicate member]
    exact .none
  refine .bind (imitates_opened data) ?_
  rintro _ _ ⟨found, rfl, rfl⟩
  refine imitates_withEntries (fun entries others given => ?_) ⟨found, rfl, rfl⟩
  refine .bind (.foldlM given (fun _ _ _ _ rows entry => ?_) vacant) uses
  exact imitates_placeEntry unnamed rows entry

theorem imitates_defaulted {reader : Datum → Reading α} {other : Datum → Reading β}
    (each : ∀ datum another, spellings.Data datum another →
      spellings.Imitates Same (reader datum) (other another))
    {otherwise : α} {fallback : β} (same : Same otherwise fallback)
    {field another : Option Datum} (given : Option.Rel spellings.Data field another) :
    spellings.Imitates Same (defaulted otherwise reader field)
      (defaulted fallback other another) := by
  cases given with
  | none => exact .pure same
  | some data => exact each _ _ data

theorem imitates_nullable {reader : Datum → Reading α} {other : Datum → Reading β}
    (each : ∀ datum another, spellings.Data datum another →
      spellings.Imitates Same (reader datum) (other another))
    {field another : Option Datum} (given : Option.Rel spellings.Data field another) :
    spellings.Imitates (Option.Rel Same) (nullable reader field) (nullable other another) :=
  imitates_defaulted (fun _ _ => imitates_asOption each) .none given

end Spellings

/-! ## Documents -/

/-- What a reader makes of a document. -/
def ofDocument? (read : Datum → Reading α) (document : Yaml.Document) : Option α :=
  ((read (.node document.root)).run
    { anchors := document.anchors, room := deepestDocument, emptyIsNothing := true }).run'
      (aliasesPerMark * document.root.size)

theorem ofYaml?_eq (read : Datum → Reading α) (text : String) :
    ofYaml? read text = (Yaml.Document.ofChars? text.toList).bind (ofDocument? read) := rfl

theorem Spellings.Imitates.ofDocument? {reader : Datum → Reading α} {other : Datum → Reading β}
    (imitates : ∀ datum another, spellings.Data datum another →
      spellings.Imitates Same (reader datum) (other another)) (document : Yaml.Document) :
    ∀ value ∈ Reading.ofDocument? reader (document.respelled spellings.first),
      ∃ result ∈ Reading.ofDocument? other (document.respelled spellings.second),
        Same value result := by
  intro value found
  obtain ⟨⟨_, rest⟩, read, rfl⟩ := Option.map_eq_some_iff.mp found
  obtain ⟨result, reads, same⟩ := imitates _ _ ⟨document.root, rfl, rfl⟩
    { anchors := document.anchors, room := deepestDocument, emptyIsNothing := true } _ _ rest read
  refine ⟨result, Option.map_eq_some_iff.mpr ⟨(result, rest), ?_, rfl⟩, same⟩
  have sizes : (document.respelled spellings.second).root.size =
      (document.respelled spellings.first).root.size :=
    (Yaml.Node.size_respelled _).trans (Yaml.Node.size_respelled _).symm
  rw [sizes]
  exact reads

end Reading

end AssistantEngine
