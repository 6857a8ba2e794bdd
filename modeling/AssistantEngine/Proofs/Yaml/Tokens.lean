import AssistantEngine.Yaml.Token

/-!
The tokens that have been read play no part in which ones are read next. So a token may be put in
place of one that no text has, before the rest is read or after it.
-/

namespace AssistantEngine

namespace Yaml

variable {replace : Token → Token}

/-- An anchor without a name, which no text has. -/
def Token.blank : Token := .anchor ""

/-- Nothing that a text has is replaced. -/
def Token.Spares (replace : Token → Token) : Prop :=
  ∀ token : Token, token ≠ .blank → replace token = token

/-! ## Tokens that a text can have -/

/-- A token that is read here is one that a text can have. -/
def Written (found : Option (Token × Cursor)) : Prop := ∀ read ∈ found, read.1 ≠ .blank

namespace Written

theorem none : Written none := nofun

theorem bind {α : Type} {next : α → Option (Token × Cursor)} (found : Option α)
    (written : ∀ result, Written (next result)) : Written (found >>= next) := by
  cases found with
  | none => exact none
  | some result => exact written result

theorem ite {condition : Prop} [Decidable condition] {found other : Option (Token × Cursor)}
    (first : Written found) (second : Written other) :
    Written (if condition then found else other) := by
  split
  · exact first
  · exact second

end Written

theorem Scan.written_readDirective (cursor : Cursor) : Written (readDirective cursor) := by
  have finished {token : Token} (named : token ≠ .blank) (cursor : Cursor) :
      Written (do let cursor ← finishLine cursor; some (token, cursor)) :=
    .bind _ fun cursor read same => by
      cases same
      exact named
  unfold readDirective
  dsimp only
  refine .ite .none (.ite ?_ (.ite ?_ .none))
  · exact .bind _ fun major => .ite .none (.bind _ fun minor =>
      @finished (.versionDirective major.1 minor.1) nofun minor.2)
  · exact .bind _ fun handle => .ite .none (.bind _ fun start => .ite .none
      (@finished (.tagDirective (String.ofList handle.1) (upToZero start.1)) nofun start.2))

theorem Scan.written_readTag (inFlow : Bool) (cursor : Cursor) :
    Written (readTag inFlow cursor) := by
  have finished (handle : String) (suffix : List UInt8) (cursor : Cursor) :
      Written (if isBlankOrEnd cursor.peek? || (inFlow && cursor.sees ',') then
        some (.tag handle suffix, cursor) else .none) :=
    .ite (fun read same => by
      cases same
      exact nofun) .none
  unfold readTag
  dsimp only
  refine .ite ?_ ?_
  · exact .bind _ fun suffix => .ite .none (finished _ _ _)
  · refine .bind _ fun handle => .bind _ fun suffix => .ite ?_ ?_
    · exact .ite .none (finished _ _ _)
    · exact .ite (finished _ _ _) (finished _ _ _)

theorem Scan.readAnchor_named {cursor : Cursor} {read : String × Cursor}
    (found : readAnchor cursor = some read) : read.1 ≠ "" := by
  unfold readAnchor at found
  obtain ⟨named, same⟩ := Option.ite_none_left_eq_some.mp found
  cases same
  rw [Bool.not_eq_true, Bool.or_eq_false_iff] at named
  intro empty
  have nothing : cursor.skip.rest.takeWhile isWordChar = [] := by simpa using empty
  rw [nothing] at named
  cases named.1

namespace Scan

/-- The tokens read so far, replaced. -/
def replaced (replace : Token → Token) (scan : Scan) : Scan :=
  { scan with tokens := scan.tokens.map replace }

/-! ## Steps that do not look at tokens -/

theorem replaced_push {token : Token} (spared : replace token = token) (scan : Scan) :
    (scan.replaced replace).push token = (scan.push token).replaced replace := by
  simp [replaced, push, spared]

theorem replaced_insertAt {token : Token} (spared : replace token = token) (scan : Scan)
    (number : Nat) :
    (scan.replaced replace).insertAt number token =
      (scan.insertAt number token).replaced replace := by
  simp [replaced, insertAt, spared]

theorem replaced_indentTo {token : Token} (spared : replace token = token) (scan : Scan)
    (column : Nat) (number : Option Nat) :
    (scan.replaced replace).indentTo column number token =
      (scan.indentTo column number token).replaced replace := by
  unfold indentTo
  by_cases shallow : (scan.inFlow || decide (scan.indent ≥ column)) = true
  · rw [if_pos shallow]
    exact if_pos shallow
  · rw [if_neg shallow]
    refine (if_neg shallow).trans ?_
    cases number with
    | none =>
        exact replaced_push spared
          { scan with outerIndents := scan.indent :: scan.outerIndents, indent := column }
    | some number =>
        exact replaced_insertAt spared
          { scan with outerIndents := scan.indent :: scan.outerIndents, indent := column } number

theorem replaced_closeBlocks (spares : Token.Spares replace) (column : Int) (fuel : Nat)
    (scan : Scan) :
    closeBlocks column fuel (scan.replaced replace) =
      (closeBlocks column fuel scan).replaced replace := by
  induction fuel generalizing scan with
  | zero => rfl
  | succ fuel induction =>
      have ends : (scan.replaced replace).push .blockEnd =
          (scan.push .blockEnd).replaced replace := replaced_push (spares .blockEnd nofun) scan
      unfold closeBlocks
      rw [ends]
      by_cases deeper : scan.indent > column
      · rw [if_pos deeper]
        refine (if_pos deeper).trans ?_
        dsimp only [replaced, push]
        cases scan.outerIndents with
        | nil => rfl
        | cons indent others =>
            exact induction { scan.push .blockEnd with indent := indent, outerIndents := others }
      · rw [if_neg deeper]
        exact if_neg deeper

theorem replaced_dedentTo (spares : Token.Spares replace) (scan : Scan) (column : Int) :
    (scan.replaced replace).dedentTo column = (scan.dedentTo column).replaced replace := by
  unfold dedentTo
  by_cases flow : scan.inFlow = true
  · rw [if_pos flow]
    exact if_pos flow
  · rw [if_neg flow]
    exact (if_neg flow).trans (replaced_closeBlocks spares column _ scan)

theorem replaced_dropKey (scan : Scan) :
    (scan.replaced replace).dropKey = scan.dropKey.map (·.replaced replace) := by
  unfold dropKey
  have same : (scan.replaced replace).currentKey = scan.currentKey := rfl
  rw [same]
  cases scan.currentKey with
  | none => rfl
  | some possible =>
      cases required : possible.required with
      | false => simp [required, replaced]
      | true => simp [required]

theorem replaced_saveKey (scan : Scan) :
    (scan.replaced replace).saveKey = scan.saveKey.map (·.replaced replace) := by
  unfold saveKey
  by_cases allowed : scan.keyAllowed = true
  · rw [if_pos allowed, replaced_dropKey]
    refine (if_pos allowed).trans ?_
    cases scan.dropKey <;> rfl
  · rw [if_neg allowed]
    exact if_neg allowed

theorem replaced_refreshKeys (scan : Scan) :
    (scan.replaced replace).refreshKeys = scan.refreshKeys.map (·.replaced replace) := by
  unfold refreshKeys
  change (freshKey scan.cursor scan.currentKey).bind _ = _
  cases freshKey scan.cursor scan.currentKey with
  | none => rfl
  | some current =>
      change (scan.enclosingKeys.mapM (freshKey scan.cursor)).bind _ =
        ((scan.enclosingKeys.mapM (freshKey scan.cursor)).bind _).map _
      cases scan.enclosingKeys.mapM (freshKey scan.cursor) <;> rfl

/-- The place behind blanks and a comment. -/
def pastComment (scan : Scan) : Cursor :=
  let cursor :=
    if scan.cursor.column == 0 && scan.cursor.sees byteOrderMark then scan.cursor.skip
    else scan.cursor
  let cursor := cursor.skipWhile fun character =>
    character == ' ' || ((scan.inFlow || !scan.keyAllowed) && character == '\t')
  if cursor.sees '#' then cursor.skipWhile fun character => !isBreakChar character else cursor

theorem toNextToken_succ (fuel : Nat) (scan : Scan) :
    toNextToken (fuel + 1) scan =
      if isBreak scan.pastComment.peek? then
        toNextToken fuel
          { scan with
            cursor := scan.pastComment.skipBreak
            keyAllowed := if scan.inFlow then scan.keyAllowed else true }
      else scan.moveTo scan.pastComment := rfl

theorem replaced_toNextToken (fuel : Nat) (scan : Scan) :
    toNextToken fuel (scan.replaced replace) = (toNextToken fuel scan).replaced replace := by
  induction fuel generalizing scan with
  | zero => rfl
  | succ fuel induction =>
      rw [toNextToken_succ, toNextToken_succ]
      by_cases breaks : isBreak scan.pastComment.peek? = true
      · rw [if_pos breaks]
        exact (if_pos breaks).trans (induction
          { scan with
            cursor := scan.pastComment.skipBreak
            keyAllowed := if scan.inFlow then scan.keyAllowed else true })
      · rw [if_neg breaks]
        exact if_neg breaks

/-! ## Tokens that are taken -/

theorem replaced_bind {next other : Scan → Option Scan}
    (same : ∀ scan, other (scan.replaced replace) = (next scan).map (·.replaced replace))
    (found : Option Scan) :
    (found.map (·.replaced replace)).bind other = (found.bind next).map (·.replaced replace) := by
  cases found with
  | none => rfl
  | some scan => exact same scan

theorem some_replaced_push (spares : Token.Spares replace) (token : Token)
    (written : token ≠ .blank) (scan : Scan) :
    some ((scan.replaced replace).push token) =
      (some (scan.push token)).map (·.replaced replace) :=
  congrArg some (replaced_push (spares token written) scan)

theorem replaced_takeDocumentMarker (spares : Token.Spares replace) (token : Token)
    (written : token ≠ .blank) (scan : Scan) :
    (scan.replaced replace).takeDocumentMarker token =
      (scan.takeDocumentMarker token).map (·.replaced replace) := by
  unfold takeDocumentMarker
  rw [replaced_dedentTo spares, replaced_dropKey]
  exact replaced_bind (fun scan => some_replaced_push spares token written
    { scan with keyAllowed := false, cursor := scan.cursor.skipMany 3 }) _

theorem replaced_takeFlowStart (spares : Token.Spares replace) (token : Token)
    (written : token ≠ .blank) (scan : Scan) :
    (scan.replaced replace).takeFlowStart token =
      (scan.takeFlowStart token).map (·.replaced replace) := by
  unfold takeFlowStart
  rw [replaced_saveKey]
  exact replaced_bind (fun scan => some_replaced_push spares token written
    { scan with
      enclosingKeys := scan.currentKey :: scan.enclosingKeys
      currentKey := none
      keyAllowed := true
      cursor := scan.cursor.skip }) _

theorem replaced_takeFlowEnd (spares : Token.Spares replace) (token : Token)
    (written : token ≠ .blank) (scan : Scan) :
    (scan.replaced replace).takeFlowEnd token =
      (scan.takeFlowEnd token).map (·.replaced replace) := by
  unfold takeFlowEnd
  rw [replaced_dropKey]
  refine replaced_bind (fun scan => ?_) _
  have same : (scan.replaced replace).enclosingKeys = scan.enclosingKeys := rfl
  rw [same]
  cases scan.enclosingKeys with
  | nil =>
      exact some_replaced_push spares token written
        { scan with keyAllowed := false, cursor := scan.cursor.skip }
  | cons outer others =>
      exact some_replaced_push spares token written
        { scan with
          currentKey := outer
          enclosingKeys := others
          keyAllowed := false
          cursor := scan.cursor.skip }

theorem replaced_takeFlowEntry (spares : Token.Spares replace) (scan : Scan) :
    (scan.replaced replace).takeFlowEntry = scan.takeFlowEntry.map (·.replaced replace) := by
  unfold takeFlowEntry
  rw [replaced_dropKey]
  exact replaced_bind (fun scan => some_replaced_push spares .flowEntry nofun
    { scan with keyAllowed := true, cursor := scan.cursor.skip }) _

theorem replaced_takeBlockEntry (spares : Token.Spares replace) (scan : Scan) :
    (scan.replaced replace).takeBlockEntry = scan.takeBlockEntry.map (·.replaced replace) := by
  unfold takeBlockEntry
  by_cases misplaced : (!scan.inFlow && !scan.keyAllowed) = true
  · rw [if_pos misplaced]
    exact if_pos misplaced
  · rw [if_neg misplaced]
    refine (if_neg misplaced).trans ?_
    rw [replaced_indentTo (spares .blockSequenceStart nofun), replaced_dropKey]
    exact replaced_bind (fun scan => some_replaced_push spares .blockEntry nofun
      { scan with keyAllowed := true, cursor := scan.cursor.skip }) _

theorem replaced_takeKey (spares : Token.Spares replace) (scan : Scan) :
    (scan.replaced replace).takeKey = scan.takeKey.map (·.replaced replace) := by
  unfold takeKey
  by_cases misplaced : (!scan.inFlow && !scan.keyAllowed) = true
  · rw [if_pos misplaced]
    exact if_pos misplaced
  · rw [if_neg misplaced]
    refine (if_neg misplaced).trans ?_
    rw [replaced_indentTo (spares .blockMappingStart nofun), replaced_dropKey]
    exact replaced_bind (fun scan => some_replaced_push spares .key nofun
      { scan with keyAllowed := !scan.inFlow, cursor := scan.cursor.skip }) _

theorem replaced_takeValue (spares : Token.Spares replace) (scan : Scan) :
    (scan.replaced replace).takeValue = scan.takeValue.map (·.replaced replace) := by
  have same : (scan.replaced replace).currentKey = scan.currentKey := rfl
  unfold takeValue
  rw [same]
  cases scan.currentKey with
  | some possible =>
      dsimp only
      rw [replaced_insertAt (spares .key nofun),
        replaced_indentTo (spares .blockMappingStart nofun)]
      exact some_replaced_push spares .value nofun
        { (scan.insertAt possible.tokenNumber .key).indentTo possible.column
            (some possible.tokenNumber) .blockMappingStart with
          currentKey := none
          keyAllowed := false
          cursor := Cursor.skip _ }
  | none =>
      dsimp only
      by_cases misplaced : (!scan.inFlow && !scan.keyAllowed) = true
      · rw [if_pos misplaced]
        exact if_pos misplaced
      · rw [if_neg misplaced]
        refine (if_neg misplaced).trans ?_
        rw [replaced_indentTo (spares .blockMappingStart nofun)]
        exact some_replaced_push spares .value nofun
          { scan.indentTo scan.cursor.column none .blockMappingStart with
            keyAllowed := !Scan.inFlow _
            cursor := Cursor.skip _ }

/-- What was read becomes a token. -/
theorem replaced_found {α : Type} {found : Option α} (spares : Token.Spares replace)
    (ready : α → Scan) (token : α → Token) (written : ∀ read ∈ found, token read ≠ .blank) :
    (found.bind fun read => some (((ready read).replaced replace).push (token read))) =
      (found.bind fun read => some ((ready read).push (token read))).map (·.replaced replace) := by
  cases found with
  | none => rfl
  | some read => exact some_replaced_push spares (token read) (written read rfl) (ready read)

theorem replaced_takeDirective (spares : Token.Spares replace) (scan : Scan) :
    (scan.replaced replace).takeDirective = scan.takeDirective.map (·.replaced replace) := by
  unfold takeDirective
  rw [replaced_dedentTo spares, replaced_dropKey]
  exact replaced_bind (fun scan => replaced_found spares
    (fun read => { scan with keyAllowed := false, cursor := read.2 }) _
    (written_readDirective scan.cursor)) _

theorem replaced_takeTag (spares : Token.Spares replace) (scan : Scan) :
    (scan.replaced replace).takeTag = scan.takeTag.map (·.replaced replace) := by
  unfold takeTag
  rw [replaced_saveKey]
  exact replaced_bind (fun scan => replaced_found spares
    (fun read => { scan with keyAllowed := false, cursor := read.2 }) _
    (written_readTag scan.inFlow scan.cursor)) _

theorem replaced_takeAnchor (spares : Token.Spares replace) (token : String → Token)
    (written : ∀ name, name ≠ "" → token name ≠ .blank) (scan : Scan) :
    (scan.replaced replace).takeAnchor token =
      (scan.takeAnchor token).map (·.replaced replace) := by
  unfold takeAnchor
  rw [replaced_saveKey]
  exact replaced_bind (fun scan => replaced_found spares
    (fun read => { scan with keyAllowed := false, cursor := read.2 }) (fun read => token read.1)
    fun read found => written read.1 (readAnchor_named found)) _

theorem replaced_takeBlockScalar (spares : Token.Spares replace) (fuel : Nat) (scan : Scan)
    (folded : Bool) :
    (scan.replaced replace).takeBlockScalar fuel folded =
      (scan.takeBlockScalar fuel folded).map (·.replaced replace) := by
  unfold takeBlockScalar
  rw [replaced_dropKey]
  exact replaced_bind (fun scan => replaced_found spares
    (fun read : List Char × Cursor => { scan with keyAllowed := true, cursor := read.2 })
    (fun read => .scalar (String.ofList read.1.reverse) (if folded then .quoted else .literal))
    fun _ _ => nofun) _

theorem replaced_takeQuoted (spares : Token.Spares replace) (fuel : Nat) (scan : Scan)
    (double : Bool) :
    (scan.replaced replace).takeQuoted fuel double =
      (scan.takeQuoted fuel double).map (·.replaced replace) := by
  unfold takeQuoted
  rw [replaced_saveKey]
  exact replaced_bind (fun scan => replaced_found spares
    (fun read : List Char × Cursor => { scan with keyAllowed := false, cursor := read.2 })
    (fun read => .scalar (String.ofList read.1.reverse) .quoted) fun _ _ => nofun) _

theorem replaced_takePlain (spares : Token.Spares replace) (fuel : Nat) (scan : Scan) :
    (scan.replaced replace).takePlain fuel = (scan.takePlain fuel).map (·.replaced replace) := by
  unfold takePlain
  rw [replaced_saveKey]
  exact replaced_bind (fun scan => replaced_found spares
    (fun read : List Char × Bool × Cursor =>
      { scan with keyAllowed := read.2.1, cursor := read.2.2 })
    (fun read => .scalar (String.ofList read.1.reverse) .plain) fun _ _ => nofun) _

/-! ## Going on -/

theorem replaced_takeNext (spares : Token.Spares replace) (fuel : Nat) (scan : Scan)
    (first : Char) :
    (scan.replaced replace).takeNext fuel first =
      (scan.takeNext fuel first).map (·.replaced replace) := by
  have mapped {condition : Prop} [Decidable condition] {one other found next : Option Scan}
      (first : one = found.map (·.replaced replace))
      (second : other = next.map (·.replaced replace)) :
      (if condition then one else other) =
        (if condition then found else next).map (·.replaced replace) := by
    split
    · exact first
    · exact second
  unfold takeNext
  dsimp only
  refine mapped (replaced_takeDirective spares scan) ?_
  refine mapped (replaced_takeDocumentMarker spares .documentStart nofun scan) ?_
  refine mapped (replaced_takeDocumentMarker spares .documentEnd nofun scan) ?_
  refine mapped (replaced_takeFlowStart spares .flowSequenceStart nofun scan) ?_
  refine mapped (replaced_takeFlowStart spares .flowMappingStart nofun scan) ?_
  refine mapped (replaced_takeFlowEnd spares .flowSequenceEnd nofun scan) ?_
  refine mapped (replaced_takeFlowEnd spares .flowMappingEnd nofun scan) ?_
  refine mapped (replaced_takeFlowEntry spares scan) ?_
  refine mapped (replaced_takeBlockEntry spares scan) ?_
  refine mapped (replaced_takeKey spares scan) ?_
  refine mapped (replaced_takeValue spares scan) ?_
  refine mapped (replaced_takeAnchor spares .alias (fun _ _ => nofun) scan) ?_
  refine mapped (replaced_takeAnchor spares .anchor (fun _ named => by simpa [Token.blank]) scan) ?_
  refine mapped (replaced_takeTag spares scan) ?_
  refine mapped (replaced_takeBlockScalar spares fuel scan false) ?_
  refine mapped (replaced_takeBlockScalar spares fuel scan true) ?_
  refine mapped (replaced_takeQuoted spares fuel scan false) ?_
  refine mapped (replaced_takeQuoted spares fuel scan true) ?_
  exact mapped (replaced_takePlain spares fuel scan) rfl

/-- In front of the next token, if there is one: blanks are skipped, keys that are too far away
forgotten and blocks closed. -/
def atNext (fuel : Nat) (scan : Scan) : Option Scan :=
  (toNextToken fuel scan).refreshKeys.map fun scan => scan.dedentTo scan.cursor.column

/-- The token in front of which the scan is, and all that follow. -/
def runNext (fuel : Nat) (scan : Scan) : Option (List Token) :=
  match scan.cursor.peek? with
  | some first => (scan.takeNext (fuel + 1) first).bind (run fuel)
  | none => (scan.dedentTo (-1)).dropKey.bind fun scan => some scan.tokens.reverse

theorem run_succ (fuel : Nat) (scan : Scan) :
    run (fuel + 1) scan = (scan.atNext (fuel + 1)).bind (runNext fuel) := by
  unfold run atNext
  rw [Option.bind_map]
  rfl

theorem replaced_atNext (spares : Token.Spares replace) (fuel : Nat) (scan : Scan) :
    (scan.replaced replace).atNext fuel = (scan.atNext fuel).map (·.replaced replace) := by
  unfold atNext
  rw [replaced_toNextToken, replaced_refreshKeys]
  cases (toNextToken fuel scan).refreshKeys with
  | none => rfl
  | some ready => exact congrArg some (replaced_dedentTo spares ready ready.cursor.column)

/-- What has been read plays no part in what is read next. -/
theorem run_replaced (spares : Token.Spares replace) (fuel : Nat) (scan : Scan) :
    run fuel (scan.replaced replace) = (run fuel scan).map (·.map replace) := by
  induction fuel generalizing scan with
  | zero => rfl
  | succ fuel induction =>
      rw [run_succ, run_succ, replaced_atNext spares]
      cases scan.atNext (fuel + 1) with
      | none => rfl
      | some ready =>
          change runNext fuel (ready.replaced replace) = (runNext fuel ready).map _
          have same : (ready.replaced replace).cursor = ready.cursor := rfl
          unfold runNext
          rw [same]
          cases ready.cursor.peek? with
          | some first =>
              dsimp only
              rw [replaced_takeNext spares]
              cases ready.takeNext (fuel + 1) first with
              | none => rfl
              | some later => exact induction later
          | none =>
              dsimp only
              rw [replaced_dedentTo spares, replaced_dropKey]
              cases (ready.dedentTo (-1)).dropKey with
              | none => rfl
              | some last => exact congrArg some List.map_reverse.symm

/-- The scan in front of the token of this number from here on. -/
def atToken : Nat → Nat → Scan → Option Scan
  | 0, fuel, scan => scan.atNext fuel
  | _ + 1, 0, _ => none
  | number + 1, fuel + 1, scan => do
    let scan ← scan.atNext (fuel + 1)
    let first ← scan.cursor.peek?
    let scan ← scan.takeNext (fuel + 1) first
    atToken number fuel scan

theorem run_eq_of_atToken {number fuel : Nat} {scan there : Scan}
    (comes : atToken number (fuel + 1 + number) scan = some there) :
    run (fuel + 1 + number) scan = runNext fuel there := by
  induction number generalizing scan with
  | zero =>
      change scan.atNext (fuel + 1) = some there at comes
      rw [Nat.add_zero, run_succ, comes]
      rfl
  | succ number induction =>
      rw [← Nat.add_assoc] at comes ⊢
      obtain ⟨ready, found, comes⟩ := Option.bind_eq_some_iff.mp comes
      obtain ⟨first, seen, comes⟩ := Option.bind_eq_some_iff.mp comes
      obtain ⟨later, taken, comes⟩ := Option.bind_eq_some_iff.mp comes
      rw [run_succ, found]
      change runNext _ ready = _
      unfold runNext
      rw [seen]
      dsimp only
      rw [taken]
      exact induction comes

theorem replaced_atToken (spares : Token.Spares replace) (number fuel : Nat) (scan : Scan) :
    atToken number fuel (scan.replaced replace) =
      (atToken number fuel scan).map (·.replaced replace) := by
  induction number generalizing fuel scan with
  | zero => exact replaced_atNext spares fuel scan
  | succ number induction =>
      cases fuel with
      | zero => rfl
      | succ fuel =>
          unfold atToken
          rw [replaced_atNext spares]
          refine replaced_bind (fun ready => ?_) _
          change ready.cursor.peek?.bind _ = (ready.cursor.peek?.bind _).map _
          cases ready.cursor.peek? with
          | none => rfl
          | some first =>
              change ((ready.replaced replace).takeNext (fuel + 1) first).bind _ = _
              rw [replaced_takeNext spares]
              exact replaced_bind (fun later => induction fuel later) _

/-- No text has tokens that would be replaced. -/
theorem replaced_of_atToken (spares : Token.Spares replace) {number fuel : Nat}
    {text : List Char} {there : Scan} (comes : atToken number fuel (ofChars text) = some there) :
    there.replaced replace = there := by
  have same := replaced_atToken spares number fuel (ofChars text)
  rw [comes] at same
  exact Option.some.inj (same.symm.trans comes)

end Scan

end Yaml

end AssistantEngine
