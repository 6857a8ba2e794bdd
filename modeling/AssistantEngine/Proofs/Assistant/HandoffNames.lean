import Mathlib.Order.Interval.Finset.Nat
import AssistantEngine.Proofs.Assistant.Handoffs

/-!
What handoff tools are called. A destination gets its base where that is free, and otherwise the base
with the least number, from two on, that makes a free name. So the names depend on the used ones as a
set only, and no number is greater than there are used names for. All names are short, begin alike
and consist of lower-case letters, digits and underscores.
-/

namespace AssistantEngine.HandoffTool

variable {used other destinations : List String} {destination name : String} {number : Nat}

/-! ## Characters -/

/-- A letter in lower case, a digit or an underscore. -/
def isNameChar (character : Char) : Bool :=
  character.isLower || character.isDigit || character = '_'

theorem toNat_lt_of_isAlphanum {character : Char} (letter : character.isAlphanum = true) :
    character.toNat < 128 := by
  have below : ∀ last : Char, character.val ≤ last.val → last.toNat < 128 → character.toNat < 128 :=
    fun last within small => (UInt32.le_iff_toNat_le.mp within).trans_lt small
  rcases Bool.or_eq_true_iff.mp letter with alphabetic | digit
  · rcases Bool.or_eq_true_iff.mp alphabetic with upper | lower
    · exact below 'Z' (of_decide_eq_true upper).2 (by decide)
    · exact below 'z' (of_decide_eq_true (Bool.and_eq_true_iff.mp lower).2) (by decide)
  · exact below '9' (of_decide_eq_true (Bool.and_eq_true_iff.mp digit).2) (by decide)

theorem toNat_lt_of_isNameChar {character : Char} (plain : isNameChar character = true) :
    character.toNat < 128 := by
  rcases Bool.or_eq_true_iff.mp plain with letter | underscore
  · apply toNat_lt_of_isAlphanum
    rcases Bool.or_eq_true_iff.mp letter with lower | digit
    · exact Bool.or_eq_true_iff.mpr (.inl (Bool.or_eq_true_iff.mpr (.inr lower)))
    · exact Bool.or_eq_true_iff.mpr (.inr digit)
  · obtain rfl := of_decide_eq_true underscore
    decide

theorem isNameChar_toLower {character : Char} (letter : character.isAlphanum = true) :
    isNameChar character.toLower = true := by
  have table : ∀ code < 128, (Char.ofNat code).isAlphanum = true →
      isNameChar (Char.ofNat code).toLower = true := by decide +kernel
  have found := table character.toNat (toNat_lt_of_isAlphanum letter)
  rw [Char.ofNat_toNat] at found
  exact found letter

theorem isNameChar_of_mem_hexDigits {value : Nat} {character : Char}
    (member : character ∈ Text.hexDigits value) : isNameChar character = true := by
  have digit : ∀ value < 16, isNameChar (Nat.digitChar value) = true := by decide
  unfold Text.hexDigits at member
  induction value using Nat.strongRecOn with
  | ind value induction =>
      rw [Nat.toDigits_eq_if (by decide)] at member
      split at member
      · rename_i small
        exact List.mem_singleton.mp member ▸ digit value small
      · rename_i large
        rcases List.mem_append.mp member with front | last
        · exact induction (value / 16) (by omega) front
        · exact List.mem_singleton.mp last ▸ digit _ (Nat.mod_lt _ (by decide))

theorem isNameChar_of_mem_decimalDigits {character : Char}
    (member : character ∈ Json.decimalDigits number) : isNameChar character = true := by
  have digit : character.isDigit = true :=
    Nat.isDigit_of_mem_toDigits (by decide) (by decide) member
  simp [isNameChar, digit]

theorem isNameChar_of_mem_slugChar {character letter : Char} (member : letter ∈ slugChar character) :
    isNameChar letter = true := by
  unfold slugChar at member
  split at member
  · rename_i plain
    exact List.mem_singleton.mp member ▸ isNameChar_toLower plain
  · split at member
    · exact List.mem_singleton.mp member ▸ rfl
    · rcases List.mem_cons.mp member with first | digit
      · exact first ▸ rfl
      · exact isNameChar_of_mem_hexDigits digit

theorem isNameChar_of_mem_slug {letter : Char} (member : letter ∈ slug destination) :
    isNameChar letter = true := by
  unfold slug at member
  dsimp only at member
  split at member
  · have assistant : "assistant".toList.all isNameChar = true := by decide
    exact List.all_eq_true.mp assistant letter member
  · rcases List.mem_flatMap.mp member with ⟨character, -, part⟩
    exact isNameChar_of_mem_slugChar part

theorem isNameChar_of_mem_whole {letter : Char} (member : letter ∈ nameStart ++ slug destination) :
    isNameChar letter = true := by
  have start : nameStart.all isNameChar = true := by decide
  rcases List.mem_append.mp member with front | back
  · exact List.all_eq_true.mp start letter front
  · exact isNameChar_of_mem_slug back

theorem isNameChar_of_mem_baseChars {letter : Char} (member : letter ∈ baseChars destination) :
    isNameChar letter = true :=
  isNameChar_of_mem_whole (List.mem_of_mem_take member)

/-! ## Proper names -/

/-- What chat providers accept, and what tells a handoff by its name. -/
structure ProperName (name : String) : Prop where
  short : name.length ≤ 64
  characters : ∀ character ∈ name.toList, isNameChar character = true
  start : nameStart <+: name.toList

theorem nameStart_prefix_take {base : List Char} {kept : Nat} (starts : nameStart <+: base)
    (enough : 12 ≤ kept) : nameStart <+: base.take kept := by
  have length : nameStart.length ≤ kept := enough
  exact List.prefix_take_iff.mpr ⟨starts, length⟩

theorem nameStart_prefix_baseChars (destination : String) : nameStart <+: baseChars destination :=
  nameStart_prefix_take (List.prefix_append _ _) (by rw [longestName]; decide)

theorem baseName_proper (destination : String) : ProperName (baseName destination) where
  short := by
    rw [baseName, String.length_ofList, baseChars]
    exact List.length_take_le longestName _
  characters character member := by
    rw [baseName, String.toList_ofList] at member
    exact isNameChar_of_mem_baseChars member
  start := by
    rw [baseName, String.toList_ofList]
    exact nameStart_prefix_baseChars destination

/-- A number of the counter has ten digits at most. -/
theorem length_decimalDigits_le (small : number < 10 ^ 10) :
    (Json.decimalDigits number).length ≤ 10 :=
  (Nat.length_toDigits_le_iff (by decide) (by decide)).mpr small

theorem numberedName_proper (destination : String)
    (digits : (Json.decimalDigits number).length ≤ 10) :
    ProperName (numberedName (baseChars destination) number) where
  short := by
    simp only [numberedName, String.length_ofList, List.length_append, List.length_take,
      List.length_cons, longestName]
    omega
  characters character member := by
    rw [numberedName, String.toList_ofList] at member
    rcases List.mem_append.mp member with front | ending
    · exact isNameChar_of_mem_baseChars (List.mem_of_mem_take front)
    · rcases List.mem_cons.mp ending with underscore | digit
      · exact underscore ▸ rfl
      · exact isNameChar_of_mem_decimalDigits digit
  start := by
    rw [numberedName, String.toList_ofList]
    have kept : nameStart <+: (baseChars destination).take
        (longestName - ('_' :: Json.decimalDigits number).length) := by
      apply nameStart_prefix_take (nameStart_prefix_baseChars destination)
      rw [List.length_cons, longestName]
      omega
    exact kept.trans (List.prefix_append _ _)

/-! ## The first free name -/

/-- Which name a destination gets where others are used: its base if that is free, and otherwise the
base with the least number, from two on, that makes a free name. -/
inductive Named (used : List String) (destination : String) : String → Prop where
  | unchanged (free : baseName destination ∉ used) : Named used destination (baseName destination)
  | numbered {number : Nat} (taken : baseName destination ∈ used) (several : 2 ≤ number)
      (free : numberedName (baseChars destination) number ∉ used)
      (least : ∀ smaller, 2 ≤ smaller → smaller < number →
        numberedName (baseChars destination) smaller ∈ used) :
      Named used destination (numberedName (baseChars destination) number)

namespace Named

theorem unique {again : String} (named : Named used destination name)
    (too : Named used destination again) : name = again := by
  cases named with
  | unchanged free =>
      cases too with
      | unchanged => rfl
      | numbered taken => exact absurd taken free
  | @numbered number taken several free least =>
      cases too with
      | unchanged unused => exact absurd taken unused
      | @numbered second _ enough unused smallest =>
          rcases Nat.lt_trichotomy number second with below | same | above
          · exact absurd (smallest number several below) free
          · rw [same]
          · exact absurd (least second enough above) unused

/-- Only the set of used names matters. -/
theorem congr (same : ∀ name, name ∈ other ↔ name ∈ used) (named : Named used destination name) :
    Named other destination name := by
  cases named with
  | unchanged free => exact .unchanged fun member => free ((same _).mp member)
  | numbered taken several free least =>
      refine .numbered ((same _).mpr taken) several (fun member => free ((same _).mp member)) ?_
      exact fun smaller enough below => (same _).mpr (least smaller enough below)

end Named

/-- A search stops at the first number whose name is free, or else at the last one that it tries. -/
theorem freeNumbered_eq (used : List String) (base : List Char) (fuel number : Nat) :
    ∃ step ≤ fuel, freeNumbered used base fuel number = numberedName base (number + step) ∧
      ∀ earlier < step, numberedName base (number + earlier) ∈ used := by
  induction fuel generalizing number with
  | zero => exact ⟨0, Nat.le_refl 0, rfl, fun _ none => absurd none (Nat.not_lt_zero _)⟩
  | succ fuel induction =>
      unfold freeNumbered
      dsimp only
      split
      · rename_i taken
        obtain ⟨step, within, found, passed⟩ := induction (number + 1)
        refine ⟨step + 1, Nat.succ_le_succ within, ?_, fun earlier below => ?_⟩
        · rw [found, Nat.add_assoc, Nat.add_comm 1]
        · cases earlier with
          | zero => exact List.contains_iff_mem.mp taken
          | succ earlier =>
              have later := passed earlier (Nat.lt_of_succ_lt_succ below)
              rwa [Nat.add_assoc, Nat.add_comm 1] at later
      · exact ⟨0, Nat.zero_le _, rfl, fun _ none => absurd none (Nat.not_lt_zero _)⟩

theorem freeName_named (used : List String) (destination : String) :
    Named used destination (freeName used destination) := by
  have free := freeName_not_mem used destination
  unfold freeName at free ⊢
  dsimp only at free ⊢
  split at free
  · rename_i taken
    rw [if_pos taken]
    obtain ⟨step, -, found, passed⟩ :=
      freeNumbered_eq used (baseChars destination) used.length 2
    rw [found] at free ⊢
    refine .numbered (List.contains_iff_mem.mp taken) (Nat.le_add_right 2 step) free ?_
    intro smaller enough below
    have earlier := passed (smaller - 2) (by omega)
    rwa [Nat.add_sub_cancel' enough] at earlier
  · rename_i unused
    rw [if_neg unused]
    exact .unchanged free

/-- The numbers that are passed over make as many used names. -/
theorem number_le_of_taken {base : List Char} {last : Nat}
    (passed : ∀ smaller, 2 ≤ smaller → smaller < last → numberedName base smaller ∈ used) :
    last ≤ used.toFinset.card + 2 := by
  have many : (Finset.Ico 2 last).card ≤ used.toFinset.card := by
    apply Finset.card_le_card_of_injOn (numberedName base)
    · intro smaller member
      obtain ⟨enough, below⟩ := Finset.mem_Ico.mp member
      exact List.mem_toFinset.mpr (passed smaller enough below)
    · exact (numberedName_injective base).injOn
  rw [Nat.card_Ico] at many
  omega

/-! ## All names of an assistant -/

theorem freeName_congr (same : ∀ name, name ∈ other ↔ name ∈ used) (destination : String) :
    freeName other destination = freeName used destination :=
  (freeName_named other destination).unique ((freeName_named used destination).congr same)

theorem forDestinations_congr (same : ∀ name, name ∈ other ↔ name ∈ used)
    (destinations : List String) :
    forDestinations other destinations = forDestinations used destinations := by
  induction destinations generalizing other used with
  | nil => rfl
  | cons destination rest induction =>
      have first := freeName_congr same destination
      have later : forDestinations (freeName used destination :: other) rest =
          forDestinations (freeName used destination :: used) rest :=
        induction fun name => by rw [List.mem_cons, List.mem_cons, same]
      unfold forDestinations
      dsimp only
      rw [first, later]

theorem destination_forDestinations (used destinations : List String) :
    (forDestinations used destinations).map (·.destination) = destinations := by
  induction destinations generalizing used with
  | nil => rfl
  | cons destination rest induction => exact congrArg (List.cons destination) (induction _)

/-- Each tool has the first name that neither is used nor belongs to an earlier tool. -/
theorem named_of_forDestinations {earlier later : List HandoffTool} {tool : HandoffTool}
    (split : forDestinations used destinations = earlier ++ tool :: later) :
    Named (earlier.map (·.name) ++ used) tool.destination tool.name := by
  induction destinations generalizing used earlier with
  | nil => exact absurd split (by simp [forDestinations])
  | cons destination rest induction =>
      unfold forDestinations at split
      cases earlier with
      | nil =>
          obtain ⟨same, -⟩ := List.cons.inj split
          exact same ▸ freeName_named used destination
      | cons first earlier =>
          obtain ⟨same, remaining⟩ := List.cons.inj split
          refine (induction remaining).congr fun name => ?_
          simp [← same, or_left_comm]

end AssistantEngine.HandoffTool
