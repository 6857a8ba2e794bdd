import AssistantEngine.Proofs.Assistant.HandoffNames

/-!
The search for the names of handoff tools as a machine goes about it: texts are cut by bytes, which
fails inside a character, and a counter of 32 bits goes from number to number. The search may fail, or
never end; that it does neither, and that it finds the names of `forDestinations`, is the main
statement, together with what these names are like.
-/

namespace AssistantEngine.HandoffTool

variable {used taken destinations : List String} {destination name found : String}
  {base characters : List Char} {number last : Nat}

/-! ## Cutting texts by bytes -/

/-- How many bytes characters take up. -/
def byteLength : List Char → Nat
  | [] => 0
  | character :: rest => character.utf8Size + byteLength rest

/-- The characters that make up the first bytes. There is nothing to answer where the cut would part a
character or lies behind the end. -/
def cutBytes? : List Char → Nat → Option (List Char)
  | _, 0 => some []
  | [], _ + 1 => none
  | character :: rest, bytes + 1 =>
    if character.utf8Size ≤ bytes + 1 then
      (cutBytes? rest (bytes + 1 - character.utf8Size)).map (character :: ·)
    else none

/-- The base for a destination. -/
def cutBase? (destination : String) : Option (List Char) :=
  let whole := nameStart ++ slug destination
  if byteLength whole ≤ longestName then some whole else cutBytes? whole longestName

/-- The base with a number. The ending must not be longer than a name. -/
def cutNumbered? (base : List Char) (number : Nat) : Option String :=
  let ending := '_' :: Json.decimalDigits number
  if byteLength ending ≤ longestName then
    (cutBytes? base (min (byteLength base) (longestName - byteLength ending))).map fun front =>
      String.ofList (front ++ ending)
  else none

/-! ## The search -/

/-- The greatest signed number of 32 bits. -/
def lastNumber : Nat := 2147483647

/-- The search for a free name that has come to a name and a number. If the name is used, the next one
is that with the number, and the counter goes on; the search stands still where the one or the other
fails. -/
inductive Search (used : List String) (base : List Char) : Nat → String → String → Prop where
  | free {number : Nat} {name : String} (unused : name ∉ used) : Search used base number name name
  | next {number : Nat} {name later found : String} (taken : name ∈ used)
      (cut : cutNumbered? base number = some later) (counted : number + 1 ≤ lastNumber)
      (rest : Search used base (number + 1) later found) : Search used base number name found

/-- The making of handoff tools, one after the other. -/
inductive Making : List String → List String → List HandoffTool → Prop where
  | nil {used : List String} : Making used [] []
  | cons {used rest : List String} {destination name : String} {base : List Char}
      {tools : List HandoffTool} (based : cutBase? destination = some base)
      (search : Search used base 2 (String.ofList base) name)
      (making : Making (name :: used) rest tools) :
      Making used (destination :: rest) (⟨name, destination⟩ :: tools)

theorem Search.unique {again : String} (search : Search used base number name found)
    (too : Search used base number name again) : found = again := by
  induction search with
  | free unused =>
      cases too with
      | free => rfl
      | next taken => exact absurd taken unused
  | next taken cut counted rest induction =>
      cases too with
      | free unused => exact absurd taken unused
      | next _ same _ onward =>
          obtain rfl := Option.some.inj (cut.symm.trans same)
          exact induction onward

theorem Making.unique {tools again : List HandoffTool} (making : Making used destinations tools)
    (too : Making used destinations again) : tools = again := by
  induction making generalizing again with
  | nil =>
      cases too
      rfl
  | cons based search making induction =>
      cases too with
      | cons same searched made =>
          obtain rfl := Option.some.inj (based.symm.trans same)
          obtain rfl := search.unique searched
          rw [induction made]

/-! ## Names are cut where they may be -/

theorem utf8Size_of_isNameChar {character : Char} (plain : isNameChar character = true) :
    character.utf8Size = 1 := by
  have oneByte : character.val ≤ 127 :=
    UInt32.le_iff_toNat_le.mpr (Nat.le_of_lt_succ (toNat_lt_of_isNameChar plain))
  exact if_pos oneByte

section
variable (plain : ∀ character ∈ characters, isNameChar character = true)
include plain

theorem byteLength_eq : byteLength characters = characters.length := by
  induction characters with
  | nil => rfl
  | cons character rest induction =>
      obtain ⟨first, later⟩ := List.forall_mem_cons.mp plain
      rw [byteLength, induction later, utf8Size_of_isNameChar first, List.length_cons, Nat.add_comm]

theorem cutBytes?_eq {bytes : Nat} (within : bytes ≤ characters.length) :
    cutBytes? characters bytes = some (characters.take bytes) := by
  induction characters generalizing bytes with
  | nil =>
      obtain rfl := Nat.le_zero.mp within
      rfl
  | cons character rest induction =>
      cases bytes with
      | zero => rfl
      | succ bytes =>
          obtain ⟨first, later⟩ := List.forall_mem_cons.mp plain
          unfold cutBytes?
          rw [utf8Size_of_isNameChar first, if_pos (Nat.le_add_left 1 bytes), Nat.add_sub_cancel,
            induction later (Nat.le_of_succ_le_succ within)]
          rfl

end

theorem cutBase?_eq (destination : String) : cutBase? destination = some (baseChars destination) := by
  have plain : ∀ character ∈ nameStart ++ slug destination, isNameChar character = true :=
    fun _ member => isNameChar_of_mem_whole member
  unfold cutBase? baseChars
  dsimp only
  rw [byteLength_eq plain]
  split
  · rename_i fits
    rw [List.take_of_length_le fits]
  · rename_i longer
    exact cutBytes?_eq plain (Nat.le_of_not_le longer)

theorem cutNumbered?_eq (destination : String) (digits : (Json.decimalDigits number).length ≤ 10) :
    cutNumbered? (baseChars destination) number =
      some (numberedName (baseChars destination) number) := by
  have ending : byteLength ('_' :: Json.decimalDigits number) =
      ('_' :: Json.decimalDigits number).length := by
    apply byteLength_eq
    intro character member
    rcases List.mem_cons.mp member with underscore | digit
    · exact underscore ▸ rfl
    · exact isNameChar_of_mem_decimalDigits digit
  have plain : ∀ character ∈ baseChars destination, isNameChar character = true :=
    fun _ member => isNameChar_of_mem_baseChars member
  have fits : ('_' :: Json.decimalDigits number).length ≤ longestName := by
    rw [List.length_cons, longestName]
    omega
  unfold cutNumbered? numberedName
  dsimp only
  rw [ending, byteLength_eq plain, if_pos fits, cutBytes?_eq plain (Nat.min_le_left _ _),
    Option.map_some, Nat.min_comm, ← List.take_eq_take_min]

/-! ## The search ends -/

/-- A number that the counter can count has ten digits at most. -/
theorem length_decimalDigits_of_counted (counted : number ≤ lastNumber) :
    (Json.decimalDigits number).length ≤ 10 := by
  apply length_decimalDigits_le
  unfold lastNumber at counted
  omega

/-- From a used name on, the search goes from number to number until the last one makes a free name. -/
theorem search_numbered (taken : name ∈ used) (within : number ≤ last)
    (passed : ∀ smaller, number ≤ smaller → smaller < last →
      numberedName (baseChars destination) smaller ∈ used)
    (free : numberedName (baseChars destination) last ∉ used) (counted : last + 1 ≤ lastNumber) :
    Search used (baseChars destination) number name
      (numberedName (baseChars destination) last) := by
  obtain ⟨step, rfl⟩ := Nat.exists_eq_add_of_le within
  have cut : cutNumbered? (baseChars destination) number =
      some (numberedName (baseChars destination) number) :=
    cutNumbered?_eq destination (length_decimalDigits_of_counted (by omega))
  induction step generalizing number name with
  | zero => exact .next taken cut counted (.free free)
  | succ step induction =>
      have here := passed number (Nat.le_refl number) (by omega)
      have same : number + 1 + step = number + (step + 1) := by omega
      refine .next taken cut (by omega) ?_
      rw [← same] at passed free counted ⊢
      refine induction here (Nat.le_add_right _ _) (fun smaller after => ?_) free counted ?_
      · exact passed smaller (Nat.le_of_succ_le after)
      · exact cutNumbered?_eq destination (length_decimalDigits_of_counted (by omega))

theorem search_of_named (named : Named used destination name)
    (few : used.toFinset.card + 3 ≤ lastNumber) :
    Search used (baseChars destination) 2 (baseName destination) name := by
  cases named with
  | unchanged free => exact .free free
  | numbered taken several free least =>
      have counted := number_le_of_taken least
      exact search_numbered taken several least free (by omega)

/-- Every handoff tool gets its name. -/
theorem making_forDestinations
    (few : used.toFinset.card + destinations.length + 2 ≤ lastNumber) :
    Making used destinations (forDestinations used destinations) := by
  induction destinations generalizing used with
  | nil => exact .nil
  | cons destination rest induction =>
      rw [List.length_cons] at few
      refine .cons (cutBase?_eq destination) ?_ (induction ?_)
      · exact search_of_named (freeName_named used destination) (by omega)
      · have more : (freeName used destination :: used).toFinset.card ≤ used.toFinset.card + 1 := by
          rw [List.toFinset_cons]
          exact Finset.card_insert_le _ _
        omega

/-- A named tool has a proper name, if there are not too many used ones. -/
theorem proper_of_named (named : Named used destination name)
    (few : used.toFinset.card + 3 ≤ lastNumber) : ProperName name := by
  cases named with
  | unchanged free => exact baseName_proper destination
  | numbered taken several free least =>
      have counted := number_le_of_taken least
      exact numberedName_proper destination (length_decimalDigits_of_counted (by omega))

/-- While used names and destinations together are fewer than 2^30, the search answers, and only with
these tools: one for each destination, in order, under proper names that are distinct and not taken. A
destination keeps its base where that is free, and otherwise gets the least number whose name is free;
of the taken names only the set counts. -/
theorem forDestinations_names (taken destinations : List String)
    (few : taken.toFinset.card + destinations.length < 2 ^ 30) :
    (∀ tools, Making taken destinations tools ↔ tools = forDestinations taken destinations) ∧
      (forDestinations taken destinations).map (·.destination) = destinations ∧
      ((forDestinations taken destinations).map (·.name)).Nodup ∧
      (∀ tool ∈ forDestinations taken destinations, tool.name ∉ taken ∧ ProperName tool.name) ∧
      (∀ earlier tool later, forDestinations taken destinations = earlier ++ tool :: later →
        Named (earlier.map (·.name) ++ taken) tool.destination tool.name) ∧
      ∀ other, (∀ name, name ∈ other ↔ name ∈ taken) →
        forDestinations other destinations = forDestinations taken destinations := by
  have counted : taken.toFinset.card + destinations.length + 3 ≤ lastNumber := by
    unfold lastNumber
    omega
  have made : Making taken destinations (forDestinations taken destinations) :=
    making_forDestinations (by omega)
  refine ⟨fun tools => ⟨fun making => making.unique made, fun same => same ▸ made⟩,
    destination_forDestinations taken destinations, names_nodup_forDestinations taken destinations,
    fun tool member => ⟨name_not_mem_of_forDestinations member, ?_⟩,
    fun earlier tool later split => named_of_forDestinations split,
    fun other same => forDestinations_congr same destinations⟩
  obtain ⟨earlier, later, split⟩ := List.append_of_mem member
  have fewer : earlier.length ≤ destinations.length := by
    rw [← destination_forDestinations taken destinations, split, List.length_map,
      List.length_append]
    exact Nat.le_add_right _ _
  have used : (earlier.map (·.name) ++ taken).toFinset.card ≤
      earlier.length + taken.toFinset.card := by
    have named : (earlier.map (·.name)).length = earlier.length := List.length_map _
    rw [List.toFinset_append, ← named]
    exact (Finset.card_union_le _ _).trans
      (Nat.add_le_add_right (List.toFinset_card_le _) _)
  exact proper_of_named (named_of_forDestinations split) (by omega)

/-- Two destinations with one base, and a third one whose base is taken. -/
theorem forDestinations_names_desk :
    ["transfer_to_cafue9"].toFinset.card + ["Billing Desk", "billing-desk", "Café"].length <
        2 ^ 30 ∧
      Making ["transfer_to_cafue9"] ["Billing Desk", "billing-desk", "Café"]
        [⟨"transfer_to_billing_desk", "Billing Desk"⟩,
          ⟨"transfer_to_billing_desk_2", "billing-desk"⟩, ⟨"transfer_to_cafue9_2", "Café"⟩] := by
  have few : ["transfer_to_cafue9"].toFinset.card +
      ["Billing Desk", "billing-desk", "Café"].length < 2 ^ 30 := by decide
  have tools : [⟨"transfer_to_billing_desk", "Billing Desk"⟩,
      ⟨"transfer_to_billing_desk_2", "billing-desk"⟩, ⟨"transfer_to_cafue9_2", "Café"⟩] =
      forDestinations ["transfer_to_cafue9"] ["Billing Desk", "billing-desk", "Café"] := by
    decide +kernel
  exact ⟨few, ((forDestinations_names _ _ few).1 _).mpr tools⟩

end AssistantEngine.HandoffTool
