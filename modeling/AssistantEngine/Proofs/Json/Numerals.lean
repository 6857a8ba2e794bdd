import Mathlib.Tactic.SplitIfs
import AssistantEngine.Json.Numeral
import AssistantEngine.Json.Printer

/-!
Numerals read back. What is read does not depend on what stands behind a numeral, so long as that
does not go on with it, and every integer within the ranges is read as it was written.
-/

namespace AssistantEngine

namespace Json

/-- What stands behind a value in a text: nothing, or the next item or member, or the end of a
collection. -/
inductive Delimited : List Char → Prop where
  | nil : Delimited []
  | comma (rest : List Char) : Delimited (',' :: rest)
  | bracket (rest : List Char) : Delimited (']' :: rest)
  | brace (rest : List Char) : Delimited ('\x7d' :: rest)

/-! ## What stands behind a numeral -/

section
variable {rest : List Char} (delimited : Delimited rest)

include delimited

theorem takeWhile_delimited : rest.takeWhile isDigit = [] := by
  cases delimited <;> rfl

theorem takeWord_delimited (significand taken : Nat) :
    takeWord significand taken rest = (significand, taken, rest) := by
  cases delimited <;> rfl

theorem takeWord_append (significand taken : Nat) (characters : List Char) :
    takeWord significand taken (characters ++ rest) =
      ((takeWord significand taken characters).1, (takeWord significand taken characters).2.1,
        (takeWord significand taken characters).2.2 ++ rest) := by
  induction characters generalizing significand taken with
  | nil => exact takeWord_delimited delimited significand taken
  | cons character characters induction =>
      rw [List.cons_append]
      unfold takeWord
      split
      · exact induction _ _
      · rfl

theorem takeWhile_append (characters : List Char) :
    (characters ++ rest).takeWhile isDigit = characters.takeWhile isDigit := by
  induction characters with
  | nil => exact takeWhile_delimited delimited
  | cons character characters induction =>
      rw [List.cons_append, List.takeWhile_cons, List.takeWhile_cons, induction]

theorem dropWhile_append (characters : List Char) :
    (characters ++ rest).dropWhile isDigit = characters.dropWhile isDigit ++ rest := by
  induction characters with
  | nil =>
      have none_taken := takeWhile_delimited delimited
      have whole := List.takeWhile_append_dropWhile (p := isDigit) (l := rest)
      rw [none_taken] at whole
      exact whole
  | cons character characters induction =>
      rw [List.cons_append, List.dropWhile_cons, List.dropWhile_cons, induction]
      split <;> rfl

/-- What is left of a reading when more stands behind it. -/
def extend {Value : Type} (rest : List Char) (read : Value × List Char) : Value × List Char :=
  (read.1, read.2 ++ rest)

/-- Whether an exponent raises a significand, and its digits with all that follows. -/
def takeSign : List Char → Bool × List Char
  | '+' :: rest => (true, rest)
  | '-' :: rest => (false, rest)
  | characters => (true, characters)

theorem takeSign_append (characters : List Char) :
    takeSign (characters ++ rest) = extend rest (takeSign characters) := by
  cases characters with
  | nil => cases delimited <;> rfl
  | cons character characters =>
      by_cases raises : character = '+'
      · subst raises
        rfl
      · by_cases lowers : character = '-'
        · subst lowers
          rfl
        · simp [takeSign, extend, raises, lowers]

/-- A significand with an exponent whose digits were found. -/
def finishExponent (negative : Bool) (scaled : Scaled) (raises : Bool) (digits rest : List Char) :
    Option (Option Json × List Char) :=
  if digits.isEmpty then none
  else
    let power := digits.foldl (fun value digit => value * 10 + digitValue digit) 0
    if power < exponentLimit then
      let exponent := if raises then scaled.exponent + power else scaled.exponent - power
      some (real? negative { scaled with exponent := exponent }, rest)
    else if scaled.significand ≠ 0 && raises then some (none, rest)
    else some (some (.real (Binary64.zero negative)), rest)

omit delimited in
theorem readExponent_eq (negative : Bool) (scaled : Scaled) (characters : List Char) :
    readExponent negative scaled characters =
      finishExponent negative scaled (takeSign characters).1
        ((takeSign characters).2.takeWhile isDigit)
        ((takeSign characters).2.dropWhile isDigit) := by
  unfold readExponent
  rfl

theorem readExponent_append (negative : Bool) (scaled : Scaled) (characters : List Char) :
    readExponent negative scaled (characters ++ rest) =
      (readExponent negative scaled characters).map (extend rest) := by
  rw [readExponent_eq, readExponent_eq, takeSign_append delimited]
  dsimp only [extend]
  rw [takeWhile_append delimited, dropWhile_append delimited]
  unfold finishExponent
  dsimp only
  split_ifs <;> rfl

theorem readExponentOrEnd_append (negative : Bool) (scaled : Scaled) (characters : List Char) :
    readExponentOrEnd negative scaled (characters ++ rest) =
      (readExponentOrEnd negative scaled characters).map (extend rest) := by
  cases characters with
  | nil => cases delimited <;> rfl
  | cons character characters =>
      by_cases announced : character = 'e' ∨ character = 'E'
      · rcases announced with rfl | rfl <;> exact readExponent_append delimited _ _ _
      · rw [not_or] at announced
        simp [readExponentOrEnd, extend, announced]

theorem readFraction_append (negative : Bool) (scaled : Scaled) (characters : List Char) :
    readFraction negative scaled (characters ++ rest) =
      (readFraction negative scaled characters).map (extend rest) := by
  unfold readFraction countDigits
  rw [takeWord_append delimited]
  dsimp only
  rw [takeWhile_append delimited, dropWhile_append delimited]
  simp only [readExponentOrEnd_append delimited]
  split_ifs <;> rfl

/-- What follows on the digits in front of the point; `whole` is what they denote by themselves. -/
def readTail (negative : Bool) (scaled : Scaled) (whole : Option Json) :
    List Char → Option (Option Json × List Char)
  | '.' :: rest => readFraction negative scaled rest
  | 'e' :: rest => readExponent negative scaled rest
  | 'E' :: rest => readExponent negative scaled rest
  | rest => some (whole, rest)

theorem readTail_append (negative : Bool) (scaled : Scaled) (whole : Option Json)
    (characters : List Char) :
    readTail negative scaled whole (characters ++ rest) =
      (readTail negative scaled whole characters).map (extend rest) := by
  cases characters with
  | nil => cases delimited <;> rfl
  | cons character characters =>
      by_cases goesOn : character = '.' ∨ character = 'e' ∨ character = 'E'
      · rcases goesOn with rfl | rfl | rfl
        · exact readFraction_append delimited _ _ _
        · exact readExponent_append delimited _ _ _
        · exact readExponent_append delimited _ _ _
      · rw [not_or, not_or] at goesOn
        simp [readTail, extend, goesOn]

omit delimited in
theorem readUnsigned_zero (negative : Bool) (characters : List Char) :
    readUnsigned negative ('0' :: characters) =
      if characters.head?.any isDigit then none
      else readTail negative ⟨0, 0⟩ (some (integer negative 0)) characters := by
  cases characters with
  | nil => rfl
  | cons next characters => rfl

omit delimited in
theorem readUnsigned_digits (negative : Bool) {first : Char} (positive : first ≠ '0')
    (digit : isDigit first = true) (characters : List Char) :
    readUnsigned negative (first :: characters) =
      let word := takeWord (digitValue first) 1 characters
      let excess := (word.2.2.takeWhile isDigit).length
      let scaled : Scaled := ⟨word.1, excess⟩
      readTail negative scaled
        (if excess = 0 then some (integer negative word.1) else real? negative scaled)
        (word.2.2.dropWhile isDigit) := by
  unfold readUnsigned
  split
  · rename_i same
    exact absurd (List.cons.inj same).1 positive
  · rename_i other rest same
    obtain ⟨rfl, rfl⟩ := List.cons.inj same
    rw [if_pos digit]
    obtain ⟨value, taken, left⟩ := takeWord (digitValue first) 1 characters
    dsimp only [countDigits]
    generalize (left.takeWhile isDigit).length = excess
    cases excess with
    | zero => rfl
    | succ excess => rfl
  · contradiction

omit delimited in
theorem readUnsigned_other (negative : Bool) {first : Char} (other : isDigit first = false)
    (characters : List Char) : readUnsigned negative (first :: characters) = none := by
  unfold readUnsigned
  split
  · rename_i same
    cases (List.cons.inj same).1
    contradiction
  · rename_i same
    obtain ⟨rfl, rfl⟩ := List.cons.inj same
    rw [other]
    rfl
  · rfl

theorem readUnsigned_append (negative : Bool) (characters : List Char) :
    readUnsigned negative (characters ++ rest) =
      (readUnsigned negative characters).map (extend rest) := by
  cases characters with
  | nil => cases delimited <;> rfl
  | cons first characters =>
      rw [List.cons_append]
      by_cases zero : first = '0'
      · subst zero
        rw [readUnsigned_zero, readUnsigned_zero, readTail_append delimited]
        have next : (characters ++ rest).head?.any isDigit = characters.head?.any isDigit := by
          cases characters with
          | nil => cases delimited <;> rfl
          | cons character characters => rfl
        rw [next]
        split <;> rfl
      · cases digit : isDigit first with
        | true =>
            rw [readUnsigned_digits negative zero digit, readUnsigned_digits negative zero digit,
              takeWord_append delimited]
            dsimp only
            rw [takeWhile_append delimited, dropWhile_append delimited,
              readTail_append delimited]
        | false =>
            rw [readUnsigned_other negative digit, readUnsigned_other negative digit]
            rfl

/-- What a numeral denotes does not depend on what stands behind it. -/
theorem readNumeral_append (characters : List Char) :
    readNumeral (characters ++ rest) = (readNumeral characters).map (extend rest) := by
  cases characters with
  | nil => cases delimited <;> rfl
  | cons first characters =>
      by_cases signed : first = '-'
      · subst signed
        exact readUnsigned_append delimited true characters
      · have unsigned (characters : List Char) :
            readNumeral (first :: characters) = readUnsigned false (first :: characters) := by
          simp [readNumeral, signed]
        rw [List.cons_append, unsigned, unsigned]
        exact readUnsigned_append delimited false (first :: characters)

end

/-! ## Integers -/

/-- The integers that a numeral keeps as they are. -/
def Representable (value : Int) : Prop := -(twoTo 63 : Int) ≤ value ∧ value < wordLimit

theorem isDigit_of_mem_decimalDigits {value : Nat} {digit : Char}
    (member : digit ∈ decimalDigits value) : isDigit digit = true :=
  Nat.isDigit_of_mem_toDigits (by decide) (by decide) member

/-- Only the numeral of zero begins with a zero. -/
theorem head?_decimalDigits {value : Nat} (positive : 0 < value) :
    (decimalDigits value).head? ≠ some '0' := by
  unfold decimalDigits
  induction value using Nat.strongRecOn with
  | ind value induction =>
      by_cases small : value < 10
      · rw [Nat.toDigits_of_lt_base small, List.head?_cons]
        intro zero
        rw [Option.some.injEq, Nat.digitChar_eq_zero] at zero
        omega
      · have shorter : value / 10 < value := by omega
        rw [Nat.toDigits_of_base_le (by decide) (Nat.not_lt.mp small)]
        have front := induction (value / 10) shorter (by omega)
        cases digits : Nat.toDigits 10 (value / 10) with
        | nil => exact absurd digits Nat.toDigits_ne_nil
        | cons first rest =>
            rw [digits] at front
            exact front

theorem takeWord_digits {digits : List Char} (allDigits : ∀ digit ∈ digits, isDigit digit = true)
    {significand : Nat} (taken : Nat)
    (within : Nat.ofDigitChars 10 digits significand < wordLimit) :
    takeWord significand taken digits =
      (Nat.ofDigitChars 10 digits significand, taken + digits.length, []) := by
  induction digits generalizing significand taken with
  | nil => rfl
  | cons digit digits induction =>
      have goesOn : Nat.ofDigitChars 10 (digit :: digits) significand =
          Nat.ofDigitChars 10 digits (significand * 10 + digitValue digit) := by
        rw [Nat.ofDigitChars_cons, Nat.mul_comm]
        rfl
      rw [goesOn] at within ⊢
      -- What is read so far is never more than all the digits denote.
      have upTo : significand * 10 + digitValue digit < wordLimit := by
        rw [Nat.ofDigitChars_eq_ofDigitChars_zero] at within
        have grows : significand * 10 + digitValue digit ≤
            10 ^ digits.length * (significand * 10 + digitValue digit) :=
          Nat.le_mul_of_pos_left _ (Nat.pow_pos (by decide))
        exact Nat.lt_of_le_of_lt (Nat.le_trans grows (Nat.le_add_right _ _)) within
      unfold takeWord
      rw [allDigits digit List.mem_cons_self, Bool.true_and, if_pos (decide_eq_true upTo),
        induction (fun other member => allDigits other (List.mem_cons_of_mem _ member)) _ within,
        List.length_cons]
      congr 2
      omega

theorem readUnsigned_decimalDigits (negative : Bool) {value : Nat} (within : value < wordLimit) :
    readUnsigned negative (decimalDigits value) = some (some (integer negative value), []) := by
  rcases Nat.eq_zero_or_pos value with rfl | positive
  · rfl
  · have digits := @isDigit_of_mem_decimalDigits value
    have head := head?_decimalDigits positive
    have denoted : Nat.ofDigitChars 10 (decimalDigits value) 0 = value :=
      Nat.ofDigitChars_ten_toDigits
    cases written : decimalDigits value with
    | nil => exact absurd written Nat.toDigits_ne_nil
    | cons first rest =>
        rw [written] at digits head denoted
        have nonzero : first ≠ '0' := fun zero => head (congrArg some zero)
        have denotedByRest : Nat.ofDigitChars 10 rest (digitValue first) = value := by
          rw [Nat.ofDigitChars_cons, Nat.mul_zero, Nat.zero_add] at denoted
          exact denoted
        have word := takeWord_digits (fun digit member => digits (List.mem_cons_of_mem _ member)) 1
          (denotedByRest.symm ▸ within)
        rw [readUnsigned_digits negative nonzero (digits List.mem_cons_self), word, denotedByRest]
        rfl

/-- Every integer within the ranges is read as it was written. -/
theorem readNumeral_writtenInt {value : Int} (representable : Representable value) :
    readNumeral (writtenInt value) = some (some (.int value), []) := by
  obtain ⟨lower, upper⟩ := representable
  unfold writtenInt
  split
  · rename_i below
    have size : value.natAbs ≤ twoTo 63 := by omega
    have within : value.natAbs < wordLimit := Nat.lt_of_le_of_lt size (by decide)
    have nonzero : value.natAbs ≠ 0 := by omega
    have restored : -(value.natAbs : Int) = value := by omega
    change readUnsigned true (decimalDigits value.natAbs) = _
    rw [readUnsigned_decimalDigits true within]
    simp only [integer, if_true, if_neg nonzero, if_pos size, restored]
  · rename_i natural
    have within : value.natAbs < wordLimit := by omega
    have restored : (value.natAbs : Int) = value := by omega
    have unsigned : readNumeral (decimalDigits value.natAbs) =
        readUnsigned false (decimalDigits value.natAbs) := by
      cases written : decimalDigits value.natAbs with
      | nil => rfl
      | cons first rest =>
          have digit : isDigit first = true :=
            isDigit_of_mem_decimalDigits (written ▸ List.mem_cons_self)
          have signed : first ≠ '-' := by
            rintro rfl
            contradiction
          simp [readNumeral, signed]
    rw [unsigned, readUnsigned_decimalDigits false within]
    simp [integer, restored]

/-! ## Reals -/

/-- A number whose numeral reads back. Numerals of more than 53 bits are rounded twice when they are
read, so that not every number is one. -/
def Legible (value : Binary64) : Prop :=
  readNumeral (writtenReal value) = some (some (.real value), [])

instance (value : Binary64) : Decidable (Legible value) := inferInstanceAs (Decidable (_ = _))

theorem Legible.isFinite {value : Binary64} (legible : Legible value) : value.isFinite = true := by
  cases value with
  | finite negative significand exponent => rfl
  | infinite negative => cases legible
  | notANumber => cases legible

/-- A numeral begins with its sign or with a digit. -/
theorem head_of_readNumeral {characters : List Char} {read : Option Json × List Char}
    (found : readNumeral characters = some read) :
    ∃ first rest, characters = first :: rest ∧ (first = '-' ∨ isDigit first = true) := by
  cases characters with
  | nil => cases found
  | cons first rest =>
      refine ⟨first, rest, rfl, ?_⟩
      by_cases signed : first = '-'
      · exact .inl signed
      · cases digit : isDigit first with
        | true => exact .inr rfl
        | false =>
            have unsigned : readNumeral (first :: rest) = readUnsigned false (first :: rest) := by
              simp [readNumeral, signed]
            rw [unsigned, readUnsigned_other false digit] at found
            cases found

end Json

end AssistantEngine
