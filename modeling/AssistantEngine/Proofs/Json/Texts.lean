import AssistantEngine.Proofs.Catalog
import AssistantEngine.Proofs.Json.Numerals
import AssistantEngine.Proofs.Json.Quotations

/-!
Values read back from their texts. A value that is nested no deeper than the reader goes is read as
it was written; of a deeper one the collections at that depth have lost their meaning, and the value
has with them.
-/

namespace AssistantEngine

namespace Json

/-! A value such as texts denote: its integers are within the ranges, its reals have numerals that
read back, and its objects hold their members in ascending order. -/

mutual
def Proper : Json → Prop
  | .null => True
  | .bool _ => True
  | .int value => Representable value
  | .real value => Legible value
  | .str _ => True
  | .arr items => ProperItems items
  | .obj members => Catalog.Ascending members ∧ ProperMembers members

def ProperItems : List Json → Prop
  | [] => True
  | item :: rest => Proper item ∧ ProperItems rest

def ProperMembers : List (String × Json) → Prop
  | [] => True
  | (_, value) :: rest => Proper value ∧ ProperMembers rest
end

theorem properItems_iff {items : List Json} :
    ProperItems items ↔ ∀ item ∈ items, item.Proper := by
  induction items with
  | nil => simp [ProperItems]
  | cons item items induction => simp [ProperItems, induction]

theorem properMembers_iff {members : List (String × Json)} :
    ProperMembers members ↔ ∀ member ∈ members, member.2.Proper := by
  induction members with
  | nil => simp [ProperMembers]
  | cons member members induction => simp [ProperMembers, induction]

theorem proper_object {members : List (String × Json)}
    (each : ∀ member ∈ members, member.2.Proper) : (object members).Proper := by
  refine ⟨Catalog.ascending_ofList members, properMembers_iff.mpr ?_⟩
  intro member present
  exact each member (Catalog.mem_of_mem_ofList present)

theorem depthItems_le_iff {items : List Json} {limit : Nat} :
    depthItems items ≤ limit ↔ ∀ item ∈ items, item.depth ≤ limit := by
  induction items with
  | nil => simp [depthItems]
  | cons item items induction => rw [depthItems, Nat.max_le, induction, List.forall_mem_cons]

theorem depthMembers_le_iff {members : List (String × Json)} {limit : Nat} :
    depthMembers members ≤ limit ↔ ∀ member ∈ members, member.2.depth ≤ limit := by
  induction members with
  | nil => simp [depthMembers]
  | cons member members induction =>
      rw [depthMembers, Nat.max_le, induction, List.forall_mem_cons]

theorem depth_object_le {members : List (String × Json)} {limit : Nat}
    (each : ∀ member ∈ members, member.2.depth ≤ limit) :
    (object members).depth ≤ limit + 1 := by
  apply Nat.succ_le_succ
  apply depthMembers_le_iff.mpr
  intro member present
  exact each member (Catalog.mem_of_mem_ofList present)

/-! What a reader makes of a value's text where so many more collections may be opened. -/

mutual
def writtenWithin : Nat → Json → Written
  | room, .arr items => if room = 0 then .meaningless else .array (writtenItems (room - 1) items)
  | room, .obj members =>
    if room = 0 then .meaningless else .object (writtenMembers (room - 1) members)
  | _, .null => .scalar .null
  | _, .bool value => .scalar (.bool value)
  | _, .int value => .scalar (.int value)
  | _, .real value => .scalar (.real value)
  | _, .str value => .scalar (.str value)

def writtenItems : Nat → List Json → List Written
  | _, [] => []
  | room, item :: rest => writtenWithin room item :: writtenItems room rest

def writtenMembers : Nat → List (String × Json) → List (Option String × Written)
  | _, [] => []
  | room, (key, value) :: rest => (some key, writtenWithin room value) :: writtenMembers room rest
end

/-! ## Texts of collections -/

theorem compactItems_single (item : Json) (rest : List Char) :
    compactItems [item] true rest = compactInto item rest := rfl

theorem compactItems_cons (item next : Json) (items : List Json) (rest : List Char) :
    compactItems (item :: next :: items) true rest =
      compactInto item (',' :: compactItems (next :: items) true rest) := rfl

theorem compactMembers_single (key : String) (value : Json) (rest : List Char) :
    compactMembers [(key, value)] true rest = quoted key (':' :: compactInto value rest) := rfl

theorem compactMembers_cons (key : String) (value : Json) (next : String × Json)
    (members : List (String × Json)) (rest : List Char) :
    compactMembers ((key, value) :: next :: members) true rest =
      quoted key (':' :: compactInto value (',' :: compactMembers (next :: members) true rest)) :=
  rfl

/-! ## How texts begin -/

/-- What the text of a value may begin with. -/
def Opening (character : Char) : Prop :=
  isSpace character = false ∧ character ≠ ']'

theorem Opening.skipSpaces {character : Char} (opening : Opening character) (rest : List Char) :
    skipSpaces (character :: rest) = character :: rest := by
  simp [Json.skipSpaces, opening.1]

theorem opening_of_numeral {first : Char} (numeral : first = '-' ∨ isDigit first = true) :
    Opening first ∧ first ≠ '"' ∧ first ≠ '[' ∧ first ≠ '\x7b' ∧ first ≠ 'n' ∧ first ≠ 't' ∧
      first ≠ 'f' := by
  have opening : Opening first := by
    rcases numeral with rfl | digit
    · exact ⟨rfl, by decide⟩
    · constructor
      · simp only [isSpace, Bool.or_eq_false_iff, decide_eq_false_iff_not]
        refine ⟨⟨⟨?_, ?_⟩, ?_⟩, ?_⟩ <;>
        · rintro rfl
          contradiction
      · rintro rfl
        contradiction
  refine ⟨opening, ?_, ?_, ?_, ?_, ?_, ?_⟩ <;>
  · rintro rfl
    revert numeral
    decide

/-- The text of a numeral as it stands in front of more text. -/
theorem readValue_numeral {written rest : List Char} {value : Json} {fuel : Nat} (room : Nat)
    (read : readNumeral written = some (some value, [])) (delimited : Delimited rest)
    (enough : 0 < fuel) :
    readValue fuel room (written ++ rest) = some (.scalar value, rest) := by
  obtain ⟨first, others, rfl, numeral⟩ := head_of_readNumeral read
  obtain ⟨opening, quote, bracket, brace, n, t, f⟩ := opening_of_numeral numeral
  cases fuel with
  | zero => contradiction
  | succ fuel =>
      have whole := readNumeral_append delimited (first :: others)
      rw [read] at whole
      rw [List.cons_append] at whole ⊢
      simp [readValue, opening.skipSpaces, quote, bracket, brace, n, t, f, whole, extend,
        Written.ofOption]

theorem writtenInt_ne_nil (value : Int) : writtenInt value ≠ [] := by
  unfold writtenInt
  split
  · exact List.cons_ne_nil _ _
  · exact Nat.toDigits_ne_nil

theorem Legible.writtenReal_ne_nil {value : Binary64} (legible : Legible value) :
    writtenReal value ≠ [] := by
  obtain ⟨first, others, written, -⟩ := head_of_readNumeral legible
  simp [written]

/-- The text of a value does not begin with a blank or with the end of an array. -/
theorem compactInto_opening {value : Json} (proper : value.Proper) (rest : List Char) :
    ∃ first others, compactInto value rest = first :: others ∧ Opening first := by
  cases value with
  | null => exact ⟨_, _, rfl, rfl, by decide⟩
  | bool value => cases value <;> exact ⟨_, _, rfl, rfl, by decide⟩
  | int value =>
      have read := readNumeral_writtenInt proper
      obtain ⟨first, others, written, numeral⟩ := head_of_readNumeral read
      refine ⟨first, others ++ rest, ?_, (opening_of_numeral numeral).1⟩
      simp [compactInto, written]
  | real value =>
      obtain ⟨first, others, written, numeral⟩ := head_of_readNumeral proper
      refine ⟨first, others ++ rest, ?_, (opening_of_numeral numeral).1⟩
      simp [compactInto, written]
  | str value => exact ⟨_, _, rfl, rfl, by decide⟩
  | arr items => exact ⟨_, _, rfl, rfl, by decide⟩
  | obj members => exact ⟨_, _, rfl, rfl, by decide⟩

/-! ## How long texts are -/

mutual
theorem length_compactInto : (value : Json) → value.Proper → ∀ rest : List Char,
    rest.length < (compactInto value rest).length
  | .null, _, rest => by simp +arith [compactInto]
  | .bool true, _, rest => by simp +arith [compactInto]
  | .bool false, _, rest => by simp +arith [compactInto]
  | .int value, _, rest => by
      have nonempty := List.length_pos_iff.mpr (writtenInt_ne_nil value)
      simp only [compactInto, List.length_append]
      omega
  | .real value, proper, rest => by
      have nonempty := List.length_pos_iff.mpr (Legible.writtenReal_ne_nil proper)
      simp only [compactInto, List.length_append]
      omega
  | .str value, _, rest => by
      have inner := length_quoted value rest
      simp only [compactInto]
      omega
  | .arr items, proper, rest => by
      have inner := length_compactItems items proper true (']' :: rest)
      simp only [compactInto, List.length_cons] at inner ⊢
      omega
  | .obj members, proper, rest => by
      have inner := length_compactMembers members proper.2 true ('\x7d' :: rest)
      simp only [compactInto, List.length_cons] at inner ⊢
      omega

theorem length_compactItems : (items : List Json) → ProperItems items →
    ∀ (first : Bool) (rest : List Char), rest.length ≤ (compactItems items first rest).length
  | [], _, _, _ => Nat.le_refl _
  | item :: items, proper, first, rest => by
      have later := length_compactItems items proper.2 false rest
      have here := length_compactInto item proper.1 (compactItems items false rest)
      cases first <;> simp only [compactItems] <;> grind

theorem length_compactMembers : (members : List (String × Json)) → ProperMembers members →
    ∀ (first : Bool) (rest : List Char), rest.length ≤ (compactMembers members first rest).length
  | [], _, _, _ => Nat.le_refl _
  | (key, value) :: members, proper, first, rest => by
      have later := length_compactMembers members proper.2 false rest
      have here := length_compactInto value proper.1 (compactMembers members false rest)
      have named := length_quoted key (':' :: compactInto value (compactMembers members false rest))
      cases first <;> simp only [compactMembers] <;> grind
end

/-! ## What is read -/

theorem skipSpaces_bracket (rest : List Char) : skipSpaces ('[' :: rest) = '[' :: rest := rfl

theorem skipSpaces_end (rest : List Char) : skipSpaces (']' :: rest) = ']' :: rest := rfl

theorem skipSpaces_brace (rest : List Char) : skipSpaces ('\x7d' :: rest) = '\x7d' :: rest := rfl

theorem skipSpaces_comma (rest : List Char) : skipSpaces (',' :: rest) = ',' :: rest := rfl

/-- The name of a member is read first. -/
theorem readMembers_quoted {key : String} {text : List Char} {fuel room : Nat}
    (read : List (Option String × Written)) (enough : (quoted key (':' :: text)).length ≤ fuel) :
    readMembers (fuel + 1) room read (quoted key (':' :: text)) =
      match readValue fuel room text with
      | none => none
      | some (value, rest) =>
        match skipSpaces rest with
        | ',' :: rest => readMembers fuel room ((some key, value) :: read) rest
        | '\x7d' :: rest => some (.object ((some key, value) :: read).reverse, rest)
        | _ => none := by
  have named := readQuoted_quoted key (':' :: text) enough
  have begun : skipSpaces (quoted key (':' :: text)) =
      '"' :: (quoted key (':' :: text)).tail := rfl
  rw [readMembers, begun]
  simp only [named]
  rfl

-- A value takes one call for itself and one for its place in a collection, and its text has a
-- character at least, so that calls for twice the length of a text are enough.
mutual
theorem readValue_compactInto : (value : Json) → value.Proper →
    ∀ (fuel room : Nat) (rest : List Char), Delimited rest →
      2 * (compactInto value rest).length < fuel →
      readValue fuel room (compactInto value rest) = some (writtenWithin room value, rest)
  | .null, _, fuel + 1, room, rest, _, _ => rfl
  | .bool true, _, fuel + 1, room, rest, _, _ => rfl
  | .bool false, _, fuel + 1, room, rest, _, _ => rfl
  | .int value, proper, fuel + 1, room, rest, delimited, _ =>
      readValue_numeral room (readNumeral_writtenInt proper) delimited (Nat.succ_pos fuel)
  | .real value, proper, fuel + 1, room, rest, delimited, _ =>
      readValue_numeral room proper delimited (Nat.succ_pos fuel)
  | .str value, _, fuel + 1, room, rest, _, enough => by
      have within : (quoted value rest).length ≤ fuel := by
        simp only [compactInto] at enough
        omega
      change (readQuoted fuel (some []) (quoted value rest).tail).map _ = _
      rw [readQuoted_quoted value rest within]
      rfl
  | .arr [], _, fuel + 1, room, rest, _, _ => rfl
  | .arr (item :: items), proper, fuel + 1, room, rest, _, enough => by
      -- The reader looks at the first character to tell whether the array is empty.
      obtain ⟨first, others, written, opening⟩ :=
        compactInto_opening proper.1 (compactItems items false (']' :: rest))
      have text : compactItems (item :: items) true (']' :: rest) = first :: others := written
      have read := readItems_compactItems (item :: items) proper (List.cons_ne_nil _ _) fuel
        (room - 1) [] rest (by
          simp only [compactInto, List.length_cons] at enough
          omega)
      rw [text] at read
      have skipped := opening.skipSpaces others
      change readValue (fuel + 1) room ('[' :: compactItems (item :: items) true (']' :: rest)) = _
      rw [text]
      simp [readValue, skipSpaces_bracket, skipped, read, opening.2, enclosed, writtenWithin]
  | .obj [], _, fuel + 1, room, rest, _, _ => rfl
  | .obj ((key, value) :: members), proper, fuel + 1, room, rest, _, enough => by
      have read := readMembers_compactMembers ((key, value) :: members) proper.2
        (List.cons_ne_nil _ _) fuel (room - 1) [] rest (by
          simp only [compactInto, List.length_cons] at enough
          omega)
      change (readMembers fuel (room - 1) []
        (compactMembers ((key, value) :: members) true ('\x7d' :: rest))).map (enclosed room) = _
      rw [read]
      rfl

theorem readItems_compactItems : (items : List Json) → ProperItems items → items ≠ [] →
    ∀ (fuel room : Nat) (read : List Written) (rest : List Char),
    2 * (compactItems items true (']' :: rest)).length + 1 < fuel →
      readItems fuel room read (compactItems items true (']' :: rest)) =
        some (.array (read.reverse ++ writtenItems room items), rest)
  | [item], proper, _, fuel + 1, room, read, rest, enough => by
      rw [compactItems_single] at enough ⊢
      have here := readValue_compactInto item proper.1 fuel room (']' :: rest)
        (.bracket rest) (by omega)
      rw [readItems, here]
      simp [writtenItems, skipSpaces_end]
  | item :: next :: items, proper, _, fuel + 1, room, read, rest, enough => by
      rw [compactItems_cons] at enough ⊢
      have longer := length_compactInto item proper.1
        (',' :: compactItems (next :: items) true (']' :: rest))
      rw [List.length_cons] at longer
      have here := readValue_compactInto item proper.1 fuel room
        (',' :: compactItems (next :: items) true (']' :: rest)) (.comma _) (by omega)
      have others := readItems_compactItems (next :: items) proper.2 (List.cons_ne_nil _ _) fuel
        room (writtenWithin room item :: read) rest (by omega)
      rw [readItems, here]
      simp only [skipSpaces_comma]
      rw [others]
      simp [writtenItems]

theorem readMembers_compactMembers : (members : List (String × Json)) → ProperMembers members →
    members ≠ [] → ∀ (fuel room : Nat) (read : List (Option String × Written)) (rest : List Char),
    2 * (compactMembers members true ('\x7d' :: rest)).length + 1 < fuel →
      readMembers fuel room read (compactMembers members true ('\x7d' :: rest)) =
        some (.object (read.reverse ++ writtenMembers room members), rest)
  | [(key, value)], proper, _, fuel + 1, room, read, rest, enough => by
      rw [compactMembers_single] at enough ⊢
      have longer := length_quoted key (':' :: compactInto value ('\x7d' :: rest))
      rw [List.length_cons] at longer
      have here := readValue_compactInto value proper.1 fuel room ('\x7d' :: rest)
        (.brace rest) (by omega)
      rw [readMembers_quoted _ (by omega), here]
      simp [writtenMembers, skipSpaces_brace]
  | (key, value) :: next :: members, proper, _, fuel + 1, room, read, rest, enough => by
      rw [compactMembers_cons] at enough ⊢
      have named := length_quoted key
        (':' :: compactInto value (',' :: compactMembers (next :: members) true ('\x7d' :: rest)))
      have longer := length_compactInto value proper.1
        (',' :: compactMembers (next :: members) true ('\x7d' :: rest))
      rw [List.length_cons] at named longer
      have here := readValue_compactInto value proper.1 fuel room
        (',' :: compactMembers (next :: members) true ('\x7d' :: rest)) (.comma _)
        (by omega)
      have others := readMembers_compactMembers (next :: members) proper.2 (List.cons_ne_nil _ _)
        fuel room ((some key, writtenWithin room value) :: read) rest (by omega)
      rw [readMembers_quoted _ (by omega), here]
      simp only [skipSpaces_comma]
      rw [others]
      simp [writtenMembers]
end

/-! ## What texts denote -/

mutual
/-- What a value was read as denotes the value, unless it is nested too deep. -/
theorem value?_writtenWithin : (value : Json) → value.Proper → ∀ room : Nat,
    (writtenWithin room value).value? = if value.depth ≤ room then some value else none
  | .null, _, _ => rfl
  | .bool _, _, _ => rfl
  | .int _, _, _ => rfl
  | .real _, _, _ => rfl
  | .str _, _, _ => rfl
  | .arr items, proper, 0 => rfl
  | .arr items, proper, room + 1 => by
      have inner := valuesOfItems?_writtenItems items proper room
      change (Written.valuesOfItems? (writtenItems room items)).map Json.arr = _
      rw [inner, depth]
      by_cases fits : depthItems items ≤ room <;> simp [fits]
  | .obj members, proper, 0 => rfl
  | .obj members, proper, room + 1 => by
      have inner := valuesOfMembers?_writtenMembers members proper.2 room
      change (Written.valuesOfMembers? (writtenMembers room members)).map object = _
      rw [inner, depth]
      by_cases fits : depthMembers members ≤ room <;> simp [fits, object, proper.1.ofList_eq]

theorem valuesOfItems?_writtenItems : (items : List Json) → ProperItems items → ∀ room : Nat,
    Written.valuesOfItems? (writtenItems room items) =
      if depthItems items ≤ room then some items else none
  | [], _, _ => rfl
  | item :: items, proper, room => by
      have here := value?_writtenWithin item proper.1 room
      have later := valuesOfItems?_writtenItems items proper.2 room
      simp only [writtenItems, Written.valuesOfItems?, here, later, depthItems, Nat.max_le]
      by_cases first : item.depth ≤ room <;> by_cases others : depthItems items ≤ room <;>
        simp [first, others]

theorem valuesOfMembers?_writtenMembers : (members : List (String × Json)) →
    ProperMembers members → ∀ room : Nat,
    Written.valuesOfMembers? (writtenMembers room members) =
      if depthMembers members ≤ room then some members else none
  | [], _, _ => rfl
  | (key, value) :: members, proper, room => by
      have here := value?_writtenWithin value proper.1 room
      have later := valuesOfMembers?_writtenMembers members proper.2 room
      simp only [writtenMembers, Written.valuesOfMembers?, here, later, depthMembers, Nat.max_le]
      by_cases first : value.depth ≤ room <;> by_cases others : depthMembers members ≤ room <;>
        simp [first, others]
end

/-- The text of a value is read as far down as readers go. -/
theorem ofText?_compact {value : Json} (proper : value.Proper) :
    Written.ofText? value.compact = some (writtenWithin deepest value) := by
  have read := readValue_compactInto value proper (2 * (compactInto value []).length + 2) deepest []
    .nil (by omega)
  unfold Written.ofText? Written.ofChars? compact
  rw [String.toList_ofList, read]
  rfl

/-- The text of a value denotes the value if it is nested as deep as readers go at most, and nothing
otherwise. -/
theorem parse_compact {value : Json} (proper : value.Proper) :
    parse value.compact = if value.depth ≤ deepest then some value else none := by
  unfold parse
  rw [ofText?_compact proper]
  exact value?_writtenWithin value proper deepest

end Json

end AssistantEngine
