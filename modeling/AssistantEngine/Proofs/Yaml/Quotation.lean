import AssistantEngine.Proofs.Yaml.Respelling
import AssistantEngine.Proofs.Yaml.Tokens

/-!
Texts that stand for themselves between double quotes: those on one line, without quotes and
backslashes.
-/

namespace AssistantEngine

namespace Yaml

/-- What may stand between double quotes just as it is meant. -/
def isVerbatim (character : Char) : Bool :=
  isAllowedChar character && !isBreakChar character && character != '"' && character != '\\'

/-- How many bytes a text takes up. -/
def byteCount (text : List Char) : Nat := (text.map Char.utf8Size).foldr (· + ·) 0

@[simp] theorem byteCount_nil : byteCount [] = 0 := rfl

@[simp] theorem byteCount_cons (character : Char) (text : List Char) :
    byteCount (character :: text) = character.utf8Size + byteCount text := rfl

@[simp] theorem byteCount_append (text more : List Char) :
    byteCount (text ++ more) = byteCount text + byteCount more := by
  induction text with
  | nil => simp
  | cons character text induction =>
      rw [List.cons_append, byteCount_cons, byteCount_cons, induction, Nat.add_assoc]

/-! ## Places on a line -/

namespace Cursor

/-- The place behind a text without line ends. -/
def behind (cursor : Cursor) (text rest : List Char) : Cursor :=
  ⟨rest, cursor.offset + byteCount text, cursor.line, cursor.column + text.length⟩

theorem skip_eq {cursor : Cursor} {first : Char} {rest : List Char}
    (here : cursor.rest = first :: rest) : cursor.skip = cursor.behind [first] rest := by
  simp [skip, behind, here]

theorem behind_behind (cursor : Cursor) (text more rest other : List Char) :
    (cursor.behind text other).behind more rest = cursor.behind (text ++ more) rest := by
  simp [behind, Nat.add_assoc]

end Cursor

variable {read text rest : List Char} {cursor : Cursor} {stop : Char} {fuel : Nat}

theorem Cursor.behind_nil (here : cursor.rest = rest) : cursor.behind [] rest = cursor := by
  cases cursor
  cases here
  rfl

/-! ## Between double quotes -/

/-- Solid characters are read up to the next blank or the closing quote. -/
theorem readQuotedRun_eq (enough : text.length < fuel)
    (verbatim : ∀ character ∈ text, isVerbatim character)
    (solid : ∀ character ∈ text, isBlankChar character = false)
    (stops : isBlankChar stop ∨ stop = '"') (here : cursor.rest = text ++ stop :: rest) :
    readQuotedRun true fuel read cursor =
      some ({}, text.reverse ++ read, cursor.behind text (stop :: rest)) := by
  induction text generalizing fuel read cursor with
  | nil =>
      cases fuel with
      | zero => cases enough
      | succ fuel =>
          have seen : cursor.peek? = some stop := congrArg List.head? here
          rw [List.nil_append] at here
          rw [Cursor.behind_nil here, readQuotedRun, seen]
          rcases stops with blank | rfl
          · simp [blank]
          · simp [isBlankChar, isBreakChar]
  | cons character text induction =>
      cases fuel with
      | zero => cases enough
      | succ fuel =>
          obtain ⟨plain, verbatim⟩ := List.forall_mem_cons.mp verbatim
          obtain ⟨dense, solid⟩ := List.forall_mem_cons.mp solid
          have seen : cursor.peek? = some character := congrArg List.head? here
          have step : readQuotedRun true (fuel + 1) read cursor =
              readQuotedRun true fuel (character :: read) cursor.skip := by
            simp only [isVerbatim, Bool.and_eq_true, bne_iff_ne, Bool.not_eq_true'] at plain
            rw [readQuotedRun, seen]
            simp [dense, plain]
          rw [step, Cursor.skip_eq here,
            induction (Nat.lt_of_succ_lt_succ enough) verbatim solid rfl, Cursor.behind_behind,
            List.reverse_cons, List.append_assoc]
          rfl

/-- Blanks on the line are kept as they are. -/
theorem readGap_eq {gap : Gap} (enough : text.length < fuel)
    (blank : ∀ character ∈ text, isBlankChar character) (same : gap.onNewLine = false)
    (solid : isBlankChar stop = false) (stays : isBreakChar stop = false)
    (here : cursor.rest = text ++ stop :: rest) :
    readGap none fuel gap cursor =
      some ({ gap with blanks := text.reverse ++ gap.blanks },
        cursor.behind text (stop :: rest)) := by
  induction text generalizing fuel gap cursor with
  | nil =>
      cases fuel with
      | zero => cases enough
      | succ fuel =>
          have seen : cursor.peek? = some stop := congrArg List.head? here
          rw [List.nil_append] at here
          rw [Cursor.behind_nil here, readGap, seen]
          simp [solid, stays]
  | cons character text induction =>
      cases fuel with
      | zero => cases enough
      | succ fuel =>
          obtain ⟨white, blank⟩ := List.forall_mem_cons.mp blank
          have seen : cursor.peek? = some character := congrArg List.head? here
          have step : readGap none (fuel + 1) gap cursor =
              readGap none fuel { gap with blanks := character :: gap.blanks } cursor.skip := by
            rw [readGap, seen]
            simp [white, same]
          rw [step, Cursor.skip_eq here]
          have unbroken : Gap.onNewLine { gap with blanks := character :: gap.blanks } = false :=
            same
          refine (induction (Nat.lt_of_succ_lt_succ enough) blank unbroken rfl).trans ?_
          rw [Cursor.behind_behind, List.reverse_cons, List.append_assoc]
          rfl

/-- A text begins with solid characters, and then it has blanks until it goes on. -/
theorem exists_word (text : List Char) :
    ∃ word blanks later, text = word ++ (blanks ++ later) ∧
      (∀ character ∈ word, isBlankChar character = false) ∧
      (∀ character ∈ blanks, isBlankChar character) ∧ (blanks = [] → later = []) ∧
      ∀ character ∈ later.head?, isBlankChar character = false := by
  refine ⟨text.takeWhile (!isBlankChar ·), (text.dropWhile (!isBlankChar ·)).takeWhile isBlankChar,
    (text.dropWhile (!isBlankChar ·)).dropWhile isBlankChar, ?_, ?_, ?_, ?_, ?_⟩
  · rw [List.takeWhile_append_dropWhile, List.takeWhile_append_dropWhile]
  · intro character member
    simpa using List.all_eq_true.mp List.all_takeWhile character member
  · exact List.all_eq_true.mp List.all_takeWhile
  · intro none
    have begins := List.head?_dropWhile_not (!isBlankChar ·) text
    cases same : text.dropWhile (!isBlankChar ·) with
    | nil => rfl
    | cons character others =>
        rw [same] at begins none
        simp at begins
        simp [begins] at none
  · intro character first
    have begins := List.head?_dropWhile_not isBlankChar (text.dropWhile (!isBlankChar ·))
    rwa [Option.mem_def.mp first] at begins

/-- Behind blanks something solid goes on, if only the closing quote. -/
theorem exists_stop (verbatim : ∀ character ∈ read ++ text, isVerbatim character)
    (dense : ∀ character ∈ text.head?, isBlankChar character = false) (rest : List Char) :
    ∃ stop more, text ++ '"' :: rest = stop :: more ∧ isBlankChar stop = false ∧
      isBreakChar stop = false := by
  cases text with
  | nil => exact ⟨'"', rest, rfl, rfl, by decide⟩
  | cons stop text =>
      refine ⟨stop, text ++ '"' :: rest, rfl, dense stop rfl, ?_⟩
      have plain := verbatim stop (by simp)
      simp only [isVerbatim, Bool.and_eq_true, Bool.not_eq_true'] at plain
      exact plain.1.1.2

/-- Within a line no document begins or ends. -/
theorem Cursor.not_ended (within : cursor.column ≠ 0) (here : cursor.rest = text ++ stop :: rest) :
    (cursor.atAnyDocumentMarker || cursor.atEnd) = false := by
  have unmarked : cursor.atAnyDocumentMarker = false := by
    simp [atAnyDocumentMarker, atDocumentMarker, within]
  have unended : cursor.atEnd = false := by
    unfold atEnd
    rw [here]
    cases text <;> rfl
  rw [unmarked, unended]
  rfl

/-- A word is read up to the closing quote. -/
theorem readQuoted_word (enough : text.length < fuel)
    (verbatim : ∀ character ∈ text, isVerbatim character)
    (solid : ∀ character ∈ text, isBlankChar character = false) (within : cursor.column ≠ 0)
    (here : cursor.rest = text ++ '"' :: rest) :
    readQuoted true (fuel + 1) read cursor =
      some (text.reverse ++ read, cursor.behind (text ++ ['"']) rest) := by
  have closes : (cursor.behind text ('"' :: rest)).sees '"' = true := rfl
  have past : (cursor.behind text ('"' :: rest)).skip = cursor.behind (text ++ ['"']) rest := by
    rw [Cursor.skip_eq rfl, Cursor.behind_behind]
  rw [readQuoted, Cursor.not_ended within here,
    readQuotedRun_eq enough verbatim solid (.inr rfl) here]
  simp [closes, past]

/-- A word and the blanks behind it are read, and then what follows them. -/
theorem readQuoted_blanks {word blanks : List Char} {blank : Char}
    (enough : word.length < fuel) (more : (blank :: blanks).length < fuel)
    (verbatim : ∀ character ∈ word, isVerbatim character)
    (solid : ∀ character ∈ word, isBlankChar character = false)
    (white : ∀ character ∈ blank :: blanks, isBlankChar character)
    (dense : isBlankChar stop = false) (stays : isBreakChar stop = false)
    (within : cursor.column ≠ 0) (here : cursor.rest = word ++ blank :: (blanks ++ stop :: rest)) :
    readQuoted true (fuel + 1) read cursor =
      readQuoted true fuel ((blank :: blanks).reverse ++ (word.reverse ++ read))
        (cursor.behind (word ++ blank :: blanks) (stop :: rest)) := by
  have first : isBlankChar blank := white blank List.mem_cons_self
  have different : blank ≠ '"' := by
    rintro rfl
    cases first
  have other : (cursor.behind word (blank :: (blanks ++ stop :: rest))).sees '"' = false := by
    simpa [Cursor.sees, Cursor.peek?, Cursor.behind] using different
  have gap := @readGap_eq (blank :: blanks) rest
    (cursor.behind word (blank :: (blanks ++ stop :: rest))) stop fuel {} more white rfl dense
    stays rfl
  rw [Cursor.behind_behind] at gap
  rw [readQuoted, Cursor.not_ended within here,
    readQuotedRun_eq enough verbatim solid (.inl first) here]
  simp only [Bool.false_eq_true, if_false, if_true, other, gap, Gap.fold, List.append_nil]

/-- Between double quotes a verbatim text is read as it is. -/
theorem readQuoted_eq (enough : text.length + 1 < fuel)
    (verbatim : ∀ character ∈ text, isVerbatim character) (within : cursor.column ≠ 0)
    (here : cursor.rest = text ++ '"' :: rest) :
    readQuoted true fuel read cursor =
      some (text.reverse ++ read, cursor.behind (text ++ ['"']) rest) := by
  -- Each round reads a word and the blanks behind it.
  induction size : text.length using Nat.strongRecOn generalizing text fuel read cursor with
  | ind size induction =>
      subst size
      obtain _ | fuel := fuel
      · cases enough
      obtain ⟨word, blanks, later, rfl, solid, white, ends, dense⟩ := exists_word text
      obtain ⟨plain, verbatim⟩ := List.forall_mem_append.mp verbatim
      cases blanks with
      | nil =>
          rw [ends rfl, List.append_nil, List.append_nil] at enough here ⊢
          exact readQuoted_word (Nat.lt_of_succ_lt_succ enough) plain solid within here
      | cons blank blanks =>
          obtain ⟨stop, more, following, dense, stays⟩ := exists_stop verbatim dense rest
          simp only [List.length_append, List.length_cons] at enough induction
          rw [List.append_assoc, List.append_assoc, following, List.cons_append] at here
          have further := @induction later.length (by omega)
            ((blank :: blanks).reverse ++ (word.reverse ++ read)) later
            (cursor.behind (word ++ blank :: blanks) (stop :: more)) fuel (by omega)
            (List.forall_mem_append.mp verbatim).2 (by simp [Cursor.behind]) following.symm rfl
          rw [readQuoted_blanks (by omega) (by simp only [List.length_cons]; omega) plain solid
            white dense stays within here, further, Cursor.behind_behind]
          simp

/-! ## Where a quotation may begin -/

namespace Scan

/-- The scan at the same place of another text, which goes on in another way. -/
def facing (scan : Scan) (rest : List Char) : Scan :=
  { scan with cursor := { scan.cursor with rest := rest } }

theorem facing_saveKey (scan : Scan) (rest : List Char) :
    (scan.facing rest).saveKey = scan.saveKey.map (·.facing rest) := by
  have same : (scan.facing rest).dropKey = scan.dropKey.map (·.facing rest) := by
    have kept : (scan.facing rest).currentKey = scan.currentKey := rfl
    unfold dropKey
    rw [kept]
    cases scan.currentKey with
    | none => rfl
    | some possible =>
        dsimp only
        split <;> rfl
  unfold saveKey
  rw [same]
  by_cases allowed : scan.keyAllowed = true
  · rw [if_pos allowed]
    refine (if_pos allowed).trans ?_
    cases scan.dropKey <;> rfl
  · rw [if_neg allowed]
    exact if_neg allowed

/-- A double quote in front of the scan begins a quotation. -/
theorem takeNext_quote (fuel : Nat) (scan : Scan) (rest : List Char) :
    (scan.facing ('"' :: rest)).takeNext fuel '"' =
      (scan.facing ('"' :: rest)).takeQuoted fuel true := by
  simp [takeNext, facing, Cursor.atDocumentMarker, Cursor.seesAt, Cursor.at?]

/-- The scan behind a quotation of so many characters and bytes. -/
def pastQuotation (scan : Scan) (length bytes : Nat) (rest : List Char) (token : Token) : Scan :=
  Scan.push { scan with
    keyAllowed := false
    cursor := ⟨rest, scan.cursor.offset + (bytes + 2), scan.cursor.line,
      scan.cursor.column + (length + 2)⟩ } token

theorem takeQuoted_eq {text rest : List Char} {fuel : Nat} (enough : text.length + 1 < fuel)
    (verbatim : ∀ character ∈ text, isVerbatim character) (scan : Scan) :
    (scan.facing ('"' :: (text ++ '"' :: rest))).takeQuoted fuel true =
      scan.saveKey.map fun scan =>
        scan.pastQuotation text.length (byteCount text) rest
          (.scalar (String.ofList text) .quoted) := by
  unfold takeQuoted
  rw [facing_saveKey]
  cases scan.saveKey with
  | none => rfl
  | some scan =>
      have one : '"'.utf8Size = 1 := rfl
      have read := @readQuoted_eq [] text rest
        (scan.facing ('"' :: (text ++ '"' :: rest))).cursor.skip fuel enough verbatim
        (by simp [facing, Cursor.skip]) rfl
      simp only [Option.map_some, Option.bind_eq_bind, Option.bind_some, read]
      simp only [facing, pastQuotation, Cursor.skip, Cursor.behind, byteCount_append,
        byteCount_cons, byteCount_nil, one, List.length_append, List.length_cons, List.length_nil,
        List.append_nil, List.reverse_reverse]
      congr 4 <;> omega

end Scan

/-- A token begins behind the text if a double quote follows, whatever comes then. -/
def Opens (before : List Char) : Prop :=
  ∃ number ≤ before.length, ∃ there : Scan, ∀ rest : List Char,
    Scan.atToken number (rest.length + (before.length + 3)) (Scan.ofChars (before ++ '"' :: rest)) =
      some (there.facing ('"' :: rest))

/-- Puts a quotation in place of the token that no text has. -/
def Token.fill (text : List Char) (token : Token) : Token :=
  if token = .blank then .scalar (String.ofList text) .quoted else token

theorem Token.spares_fill (text : List Char) : Spares (fill text) := fun _ other => if_neg other

namespace Scan

theorem pastQuotation_fill (text : List Char) {scan : Scan}
    (kept : scan.replaced (Token.fill text) = scan) (length bytes : Nat) (rest : List Char) :
    scan.pastQuotation length bytes rest (.scalar (String.ofList text) .quoted) =
      (scan.pastQuotation length bytes rest .blank).replaced (Token.fill text) := by
  have tokens : scan.tokens.map (Token.fill text) = scan.tokens := congrArg Scan.tokens kept
  unfold pastQuotation push replaced
  simp [tokens, Token.fill]

/-- Behind the quotation the text is read in the same way, whatever was quoted. -/
theorem runNext_quote {text rest : List Char} {fuel : Nat} (enough : text.length < fuel)
    (verbatim : ∀ character ∈ text, isVerbatim character) {scan : Scan}
    (kept : scan.replaced (Token.fill text) = scan) :
    runNext fuel (scan.facing ('"' :: (text ++ '"' :: rest))) =
      (scan.saveKey.bind fun scan => run fuel (scan.pastQuotation text.length
        (byteCount text) rest .blank)).map (·.map (Token.fill text)) := by
  have seen : (scan.facing ('"' :: (text ++ '"' :: rest))).cursor.peek? = some '"' := rfl
  have saved : (scan.replaced (Token.fill text)).saveKey = _ := replaced_saveKey scan
  rw [kept] at saved
  unfold runNext
  rw [seen]
  dsimp only
  rw [takeNext_quote, takeQuoted_eq (Nat.succ_lt_succ enough) verbatim, Option.bind_map]
  cases found : scan.saveKey with
  | none => rfl
  | some scan =>
      rw [found] at saved
      change run fuel (scan.pastQuotation _ _ _ _) = _
      rw [pastQuotation_fill text (Option.some.inj saved).symm]
      exact run_replaced (Token.spares_fill text) fuel _

end Scan

/-- A verbatim quotation is allowed wherever the text around it is. -/
theorem all_isAllowedChar_quotation {text : List Char}
    (verbatim : ∀ character ∈ text, isVerbatim character) (before behind : List Char) :
    (before ++ '"' :: (text ++ '"' :: behind)).all isAllowedChar =
      (before ++ behind).all isAllowedChar := by
  have fine : text.all isAllowedChar := by
    refine List.all_eq_true.mpr fun character member => ?_
    have plain := verbatim character member
    simp only [isVerbatim, Bool.and_eq_true] at plain
    exact plain.1.1.1
  have quote : isAllowedChar '"' = true := by decide
  simp only [List.all_append, List.all_cons, fine, quote, Bool.true_and]

/-- The tokens of a text with a quotation are those that are read where the quotation stands, with
the quotation in place of the token that no text has. -/
theorem Token.ofChars?_quotation {before text : List Char} {number : Nat} {there : Scan}
    (within : number ≤ before.length)
    (comes : ∀ rest : List Char,
      Scan.atToken number (rest.length + (before.length + 3))
          (Scan.ofChars (before ++ '"' :: rest)) =
        some (there.facing ('"' :: rest)))
    (verbatim : ∀ character ∈ text, isVerbatim character) {behind : List Char}
    (allowed : (before ++ behind).all isAllowedChar) :
    Token.ofChars? (before ++ '"' :: (text ++ '"' :: behind)) =
      (there.saveKey.bind fun scan =>
        Scan.run (before.length - number + (text.length + behind.length + 3))
          (scan.pastQuotation text.length (byteCount text) behind .blank)).map
        (·.map (Token.fill text)) := by
  have here := comes (text ++ '"' :: behind)
  have kept : there.replaced (Token.fill text) = there := by
    have still := Scan.replaced_of_atToken (Token.spares_fill text) here
    have tokens : there.tokens.map (Token.fill text) = there.tokens := congrArg Scan.tokens still
    unfold Scan.replaced
    rw [tokens]
  have steps : (text ++ '"' :: behind).length + (before.length + 3) =
      before.length - number + (text.length + behind.length + 3) + 1 + number := by
    simp only [List.length_append, List.length_cons]
    omega
  have size : (before ++ '"' :: (text ++ '"' :: behind)).length + 2 =
      (text ++ '"' :: behind).length + (before.length + 3) := by
    simp only [List.length_append, List.length_cons]
    omega
  rw [steps] at here
  rw [Token.ofChars?, all_isAllowedChar_quotation verbatim, if_pos allowed, size, steps,
    Scan.run_eq_of_atToken here, Scan.runNext_quote (by omega) verbatim kept]

/-- The tokens of a text differ only by the quotation in it, as long as the quotation has so many
characters and bytes. -/
theorem Opens.tokens {before : List Char} (opens : Opens before) (behind : List Char)
    (length bytes : Nat) :
    ∃ tokens : Option (List Token), ∀ text : List Char,
      (∀ character ∈ text, isVerbatim character) → text.length = length →
      byteCount text = bytes →
      Token.ofChars? (before ++ '"' :: (text ++ '"' :: behind)) =
        tokens.map (·.map (Token.fill text)) := by
  obtain ⟨number, within, there, comes⟩ := opens
  cases allowed : (before ++ behind).all isAllowedChar with
  | false =>
      refine ⟨none, fun text verbatim _ _ => ?_⟩
      rw [Token.ofChars?, all_isAllowedChar_quotation verbatim, allowed]
      rfl
  | true =>
      refine ⟨there.saveKey.bind fun scan =>
        Scan.run (before.length - number + (length + behind.length + 3))
          (scan.pastQuotation length bytes behind .blank), ?_⟩
      rintro text verbatim rfl rfl
      exact Token.ofChars?_quotation within comes verbatim allowed

/-! ## Documents around a quotation -/

/-- Spells one text in another way. -/
def instead (mark text written : String) : String := if written = mark then text else written

/-- No quotation among the tokens is as long as this. -/
theorem exists_unquoted (tokens : List Token) :
    ∃ bound : Nat, ∀ mark : List Char, bound ≤ mark.length →
      .scalar (String.ofList mark) .quoted ∉ tokens := by
  induction tokens with
  | nil => exact ⟨0, fun _ _ => List.not_mem_nil⟩
  | cons token tokens induction =>
      obtain ⟨bound, fresh⟩ := induction
      cases token with
      | scalar text style =>
          refine ⟨max bound (text.toList.length + 1), fun mark long member => ?_⟩
          rcases List.mem_cons.mp member with here | later
          · injection here with same
            rw [← same, String.toList_ofList] at long
            omega
          · exact fresh mark (by omega) later
      | _ =>
          refine ⟨bound, fun mark long member => ?_⟩
          rcases List.mem_cons.mp member with here | later
          · cases here
          · exact fresh mark long later

theorem Token.fill_eq_respelled {mark : List Char} {token : Token}
    (other : token ≠ .scalar (String.ofList mark) .quoted) (text : List Char) :
    token.fill text =
      (token.fill mark).respelled (instead (String.ofList mark) (String.ofList text)) := by
  by_cases blank : token = .blank
  · simp [fill, blank, respelled, Yaml.respelled, instead]
  · rw [fill, fill, if_neg blank, if_neg blank]
    cases token with
    | scalar written style =>
        cases style with
        | quoted =>
            have different : written ≠ String.ofList mark := fun same => other (same ▸ rfl)
            simp [respelled, Yaml.respelled, instead, different]
        | _ => rfl
    | _ => rfl

/-- The document around a quotation does not depend on what is quoted, as long as that has so many
characters and bytes. -/
theorem Opens.document {before : List Char} (opens : Opens before) (behind : List Char)
    (length bytes : Nat) :
    ∃ (document : Option Document) (mark : String), ∀ text : List Char,
      (∀ character ∈ text, isVerbatim character) → text.length = length →
      byteCount text = bytes →
      Document.ofChars? (before ++ '"' :: (text ++ '"' :: behind)) =
        document.map (Document.respelled (instead mark (String.ofList text))) := by
  obtain ⟨tokens, found⟩ := opens.tokens behind length bytes
  cases tokens with
  | none =>
      refine ⟨none, "", fun text verbatim longs large => ?_⟩
      rw [Document.ofChars?, found text verbatim longs large]
      rfl
  | some tokens =>
      obtain ⟨bound, fresh⟩ := exists_unquoted tokens
      obtain ⟨mark, long⟩ : ∃ mark : List Char, bound ≤ mark.length :=
        ⟨List.replicate bound 'x', Nat.le_of_eq List.length_replicate.symm⟩
      refine ⟨Document.ofTokens? (tokens.map (Token.fill mark)), String.ofList mark,
        fun text verbatim longs large => ?_⟩
      have same : tokens.map (Token.fill text) = (tokens.map (Token.fill mark)).map
          (Token.respelled (instead (String.ofList mark) (String.ofList text))) := by
        rw [List.map_map]
        refine List.map_congr_left fun token member => Token.fill_eq_respelled ?_ text
        rintro rfl
        exact fresh mark long member
      rw [Document.ofChars?, found text verbatim longs large, Option.map_some, Option.bind_some,
        same, Document.ofTokens?_respelled]

end Yaml

end AssistantEngine
