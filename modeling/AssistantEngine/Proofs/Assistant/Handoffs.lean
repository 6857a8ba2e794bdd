import AssistantEngine.Assistant.Handoff
import AssistantEngine.Proofs.Json.Numerals
import Mathlib.Data.List.Nodup
import Mathlib.Data.List.Perm.Subperm

/-!
Names of handoff tools. A number at the end of a name can be read back, so one more numbers than
there are used names give a name that is free. Hence no handoff tool has a name that is used, or
that another one has.
-/

namespace AssistantEngine

namespace HandoffTool

/-- The digits at the end of a numbered name are those of its number. -/
theorem digits_of_numberedName (base : List Char) (number : Nat) :
    (numberedName base number).toList.reverse.takeWhile Json.isDigit =
      (Json.decimalDigits number).reverse := by
  have digits : ∀ digit ∈ (Json.decimalDigits number).reverse, Json.isDigit digit = true :=
    fun digit member => Json.isDigit_of_mem_decimalDigits (List.mem_reverse.mp member)
  have underscore : Json.isDigit '_' = false := by decide
  unfold numberedName
  rw [String.toList_ofList, List.reverse_append, List.reverse_cons, List.append_assoc,
    List.takeWhile_append_of_pos digits, List.singleton_append, List.takeWhile_cons, underscore]
  simp

theorem numberedName_injective (base : List Char) : Function.Injective (numberedName base) := by
  intro number other same
  have digits : Json.decimalDigits number = Json.decimalDigits other := by
    apply List.reverse_injective
    rw [← digits_of_numberedName base number, same, digits_of_numberedName]
  have read := congrArg (fun digits => Nat.ofDigitChars 10 digits 0) digits
  simpa [Json.decimalDigits] using read

/-- A search that ends with a used name has met used names only. -/
theorem all_used_of_freeNumbered {used : List String} {base : List Char} {fuel number : Nat}
    (found : freeNumbered used base fuel number ∈ used) :
    ∀ step ≤ fuel, numberedName base (number + step) ∈ used := by
  induction fuel generalizing number with
  | zero =>
      intro step within
      rw [Nat.le_zero.mp within]
      exact found
  | succ fuel induction =>
      unfold freeNumbered at found
      dsimp only at found
      split at found
      · rename_i first
        intro step within
        cases step with
        | zero => exact List.contains_iff_mem.mp first
        | succ step =>
            have later := induction found step (Nat.le_of_succ_le_succ within)
            rwa [Nat.add_assoc, Nat.add_comm 1] at later
      · rename_i free
        exact absurd (List.contains_iff_mem.mpr found) free

theorem freeName_not_mem (used : List String) (destination : String) :
    freeName used destination ∉ used := by
  unfold freeName
  dsimp only
  split
  · intro found
    -- All the names that were tried are used, and they are one more than the used ones.
    have tried := all_used_of_freeNumbered found
    let names := (List.range (used.length + 1)).map fun step =>
      numberedName (baseChars destination) (2 + step)
    have distinct : names.Nodup := by
      apply List.nodup_range.map
      exact (numberedName_injective _).comp fun _ _ => Nat.add_left_cancel
    have within : names ⊆ used := by
      intro name member
      rcases List.mem_map.mp member with ⟨step, small, rfl⟩
      exact tried step (Nat.le_of_lt_succ (List.mem_range.mp small))
    have fewer := (List.subperm_of_subset distinct within).length_le
    rw [List.length_map, List.length_range] at fewer
    omega
  · rename_i free
    exact fun member => free (List.contains_iff_mem.mpr member)

/-- No handoff tool has a name that is used already. -/
theorem name_not_mem_of_forDestinations {used destinations : List String} {tool : HandoffTool}
    (member : tool ∈ forDestinations used destinations) : tool.name ∉ used := by
  induction destinations generalizing used with
  | nil => exact absurd member List.not_mem_nil
  | cons destination rest induction =>
      rcases List.mem_cons.mp member with rfl | later
      · exact freeName_not_mem used destination
      · exact fun taken => induction later (List.mem_cons_of_mem _ taken)

/-- The names of the handoff tools of one assistant are distinct. -/
theorem names_nodup_forDestinations (used destinations : List String) :
    ((forDestinations used destinations).map (·.name)).Nodup := by
  induction destinations generalizing used with
  | nil => exact List.nodup_nil
  | cons destination rest induction =>
      refine List.nodup_cons.mpr ⟨?_, induction _⟩
      intro again
      rcases List.mem_map.mp again with ⟨tool, member, same⟩
      exact name_not_mem_of_forDestinations member (same ▸ List.mem_cons_self)

end HandoffTool

end AssistantEngine
