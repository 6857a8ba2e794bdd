import AssistantEngine.Json.Parser
import AssistantEngine.Json.Printer

/-!
Strings read back from between their quotes, whatever characters they have.
-/

namespace AssistantEngine

namespace Json

/-- Every control character comes back from its digits. -/
theorem readEscape_control {value : Nat} (control : value < 32) (rest : List Char) :
    readEscape ('u' :: '0' :: '0' :: hexDigit (value / 16) :: hexDigit (value % 16) :: rest) =
      some (some (Char.ofNat value), rest) := by
  have digits : ∀ value < 32,
      Text.hexValue? ['0', '0', hexDigit (value / 16), hexDigit (value % 16)] = some value := by
    decide
  have high : isHighSurrogate value = false := by
    simp only [isHighSurrogate, Bool.and_eq_false_iff, decide_eq_false_iff_not]
    omega
  have low : isLowSurrogate value = false := by
    simp only [isLowSurrogate, Bool.and_eq_false_iff, decide_eq_false_iff_not]
    omega
  change readEscapedWord _ = _
  simp [readEscapedWord, readHexWord, digits value control, high, low]

/-- A character is written as an escape that stands for it, or as it is. -/
theorem escapeChar_cases (character : Char) (rest : List Char) :
    (∃ escape, escapeChar character rest = '\\' :: escape ∧ rest.length < escape.length ∧
        readEscape escape = some (some character, rest)) ∨
      escapeChar character rest = character :: rest ∧ character ≠ '"' ∧ character ≠ '\\' ∧
        ¬character.toNat < 32 := by
  have named {value : Nat} (same : character.toNat = value) : Char.ofNat value = character := by
    rw [← same, Char.ofNat_toNat]
  have longer (letter : Char) : rest.length < (letter :: rest).length := Nat.lt_succ_self _
  unfold escapeChar
  by_cases quote : character = '"'
  · subst quote
    exact .inl ⟨_, if_pos rfl, longer _, rfl⟩
  rw [if_neg quote]
  by_cases backslash : character = '\\'
  · subst backslash
    exact .inl ⟨_, if_pos rfl, longer _, rfl⟩
  rw [if_neg backslash]
  by_cases back : character.toNat = 8
  · exact .inl ⟨_, if_pos back, longer _, named back ▸ rfl⟩
  rw [if_neg back]
  by_cases tab : character.toNat = 9
  · exact .inl ⟨_, if_pos tab, longer _, named tab ▸ rfl⟩
  rw [if_neg tab]
  by_cases line : character.toNat = 10
  · exact .inl ⟨_, if_pos line, longer _, named line ▸ rfl⟩
  rw [if_neg line]
  by_cases feed : character.toNat = 12
  · exact .inl ⟨_, if_pos feed, longer _, named feed ▸ rfl⟩
  rw [if_neg feed]
  by_cases carriage : character.toNat = 13
  · exact .inl ⟨_, if_pos carriage, longer _, named carriage ▸ rfl⟩
  rw [if_neg carriage]
  by_cases control : character.toNat < 32
  · have read := readEscape_control control rest
    rw [Char.ofNat_toNat] at read
    exact .inl ⟨_, if_pos control, by simp +arith, read⟩
  · exact .inr ⟨if_neg control, quote, backslash, control⟩

/-- A character is read as it was written, with one call. -/
theorem readQuoted_escapeChar (fuel : Nat) (read : Option (List Char)) (character : Char)
    (rest : List Char) :
    readQuoted (fuel + 1) read (escapeChar character rest) =
      readQuoted fuel (read.map (character :: ·)) rest := by
  rcases escapeChar_cases character rest with ⟨escape, written, -, meant⟩ | ⟨written, plain⟩
  · rw [written, readQuoted]
    simp [meant]
  · obtain ⟨quote, backslash, control⟩ := plain
    rw [written, readQuoted]
    simp [quote, backslash, control]

theorem readQuoted_written (characters read rest : List Char) {fuel : Nat}
    (enough : characters.length < fuel) :
    readQuoted fuel (some read) (characters.foldr escapeChar ('"' :: rest)) =
      some (some (String.ofList (read.reverse ++ characters)), rest) := by
  induction characters generalizing read fuel with
  | nil =>
      cases fuel with
      | zero => exact absurd enough (Nat.not_lt_zero _)
      | succ fuel =>
          rw [List.append_nil]
          rfl
  | cons character characters induction =>
      cases fuel with
      | zero => exact absurd enough (Nat.not_lt_zero _)
      | succ fuel =>
          rw [List.foldr_cons, readQuoted_escapeChar, Option.map_some,
            induction _ (Nat.lt_of_succ_lt_succ enough)]
          simp

theorem length_foldr_escapeChar (characters rest : List Char) :
    characters.length + rest.length ≤ (characters.foldr escapeChar rest).length := by
  induction characters with
  | nil => simp
  | cons character characters induction =>
      have longer (rest : List Char) : rest.length < (escapeChar character rest).length := by
        rcases escapeChar_cases character rest with ⟨escape, written, longer, -⟩ | ⟨written, -⟩
        · rw [written]
          exact Nat.lt_succ_of_lt longer
        · rw [written]
          exact Nat.lt_succ_self _
      have here := longer (characters.foldr escapeChar rest)
      simp only [List.length_cons, List.foldr_cons]
      omega

theorem length_quoted (value : String) (rest : List Char) :
    value.toList.length + rest.length + 2 ≤ (quoted value rest).length := by
  have inner := length_foldr_escapeChar value.toList ('"' :: rest)
  simp only [quoted, List.length_cons] at inner ⊢
  omega

/-- A string is read as it was written. -/
theorem readQuoted_quoted (value : String) (rest : List Char) {fuel : Nat}
    (enough : (quoted value rest).length ≤ fuel) :
    readQuoted fuel (some []) (quoted value rest).tail = some (some value, rest) := by
  have lengths := length_quoted value rest
  unfold quoted
  rw [List.tail_cons, readQuoted_written _ _ _ (by omega)]
  simp

end Json

end AssistantEngine
