import AssistantEngine.Text.Hexadecimal
import AssistantEngine.Yaml.Cursor

/-!
The five ways to write a scalar: plain, in single or double quotes, and as a literal or
folded block. Line ends inside a scalar are folded: one alone reads as a blank, of
several the first is dropped. Each loop takes fuel, more than the rest of the text is long,
since every round consumes a character or ends.
-/

namespace AssistantEngine

namespace Yaml

/-- How a scalar is written, as far as its meaning depends on it. -/
inductive ScalarStyle where
  | plain
  | quoted
  | literal
deriving DecidableEq, Repr

/-- Blanks met inside a scalar: those on the line, or the first and the further ends of
lines. Texts are held newest first. -/
structure Gap where
  blanks : List Char := []
  onNewLine : Bool := false
  firstBreak : List Char := []
  furtherBreaks : List Char := []

/-- Puts a gap behind the text read so far, newest first. -/
def Gap.fold (gap : Gap) (read : List Char) : List Char :=
  if gap.onNewLine then
    if gap.firstBreak.getLast? = some '\n' then
      if gap.furtherBreaks.isEmpty then ' ' :: read else gap.furtherBreaks ++ read
    else gap.furtherBreaks ++ (gap.firstBreak ++ read)
  else gap.blanks ++ read

/-- The blanks and line ends from here on. A tab left of `indent` on a fresh line is
refused when `indent` is given. -/
def readGap (indent : Option Nat) : Nat → Gap → Cursor → Option (Gap × Cursor)
  | 0, _, _ => none
  | fuel + 1, gap, cursor =>
    match cursor.peek? with
    | some character =>
      if isBlankChar character then
        if gap.onNewLine && character == '\t' && indent.any (cursor.column < ·) then none
        else if gap.onNewLine then readGap indent fuel gap cursor.skip
        else readGap indent fuel { gap with blanks := character :: gap.blanks } cursor.skip
      else if isBreakChar character then
        let (ending, next) := cursor.readBreak
        if gap.onNewLine then
          readGap indent fuel { gap with furtherBreaks := ending.reverse ++ gap.furtherBreaks } next
        else
          readGap indent fuel
            { gap with blanks := [], onNewLine := true, firstBreak := ending.reverse } next
      else some (gap, cursor)
    | none => some (gap, cursor)

/-! Plain scalars. -/

def isFlowIndicator (character : Char) : Bool :=
  character = ',' || character = '[' || character = ']' || character = '\x7b' || character = '\x7d'

/-- Whether a plain scalar ends before this character; `none` if it may not stand here. -/
def plainEnds? (inFlow : Bool) (cursor : Cursor) : Option Bool :=
  match cursor.peek? with
  | none => some true
  | some ':' =>
    if inFlow && (cursor.at? 1).any fun next => isFlowIndicator next || next == '?' then none
    else some (isBlankOrEnd (cursor.at? 1))
  | some character => some (inFlow && isFlowIndicator character)

/-- The characters up to the next blank or the scalar's end, in front of `read`. The gap
is put in before the first of them. -/
def readPlainRun (inFlow : Bool) : Nat → Gap → List Char → Cursor →
    Option (Gap × List Char × Cursor)
  | 0, _, _, _ => none
  | fuel + 1, gap, read, cursor =>
    if isBlankOrEnd cursor.peek? then some (gap, read, cursor)
    else
      match plainEnds? inFlow cursor, cursor.peek? with
      | some false, some character =>
        readPlainRun inFlow fuel {} (character :: gap.fold read) cursor.skip
      | some _, _ => some (gap, read, cursor)
      | none, _ => none

/-- A plain scalar; also whether it ended on a fresh line. -/
def readPlain (inFlow : Bool) (indent : Nat) : Nat → Gap → List Char → Cursor →
    Option (List Char × Bool × Cursor)
  | 0, _, _, _ => none
  | fuel + 1, gap, read, cursor =>
    if cursor.atAnyDocumentMarker || cursor.sees '#' then some (read, gap.onNewLine, cursor)
    else
      match readPlainRun inFlow fuel gap read cursor with
      | none => none
      | some (gap, read, cursor) =>
        if isBlank cursor.peek? || isBreak cursor.peek? then
          match readGap (some indent) fuel gap cursor with
          | none => none
          | some (gap, cursor) =>
            if !inFlow && cursor.column < indent then some (read, gap.onNewLine, cursor)
            else readPlain inFlow indent fuel gap read cursor
        else some (read, gap.onNewLine, cursor)

/-! Quoted scalars. -/

/-- Escapes that stand for one fixed character. -/
def simpleEscape? (character : Char) : Option Char :=
  match character with
  | '0' => some (Char.ofNat 0)
  | 'a' => some (Char.ofNat 7)
  | 'b' => some (Char.ofNat 8)
  | 't' => some '\t'
  | '\t' => some '\t'
  | 'n' => some '\n'
  | 'v' => some (Char.ofNat 11)
  | 'f' => some (Char.ofNat 12)
  | 'r' => some '\r'
  | 'e' => some (Char.ofNat 27)
  | ' ' => some ' '
  | '"' => some '"'
  | '/' => some '/'
  | '\\' => some '\\'
  | 'N' => some (Char.ofNat 0x85)
  | '_' => some (Char.ofNat 0xA0)
  | 'L' => some (Char.ofNat 0x2028)
  | 'P' => some (Char.ofNat 0x2029)
  | _ => none

def escapeLength? (character : Char) : Option Nat :=
  match character with
  | 'x' => some 2
  | 'u' => some 4
  | 'U' => some 8
  | _ => none

/-- The escape after a backslash, for a cursor at that backslash. -/
def readEscape (cursor : Cursor) : Option (Char × Cursor) := do
  let letter ← cursor.at? 1
  match simpleEscape? letter with
  | some character => some (character, cursor.skipMany 2)
  | none =>
    let length ← escapeLength? letter
    let digits := (cursor.rest.drop 2).take length
    if digits.length ≠ length then none
    else
      let code ← Text.hexValue? digits
      if (0xD800 ≤ code && code ≤ 0xDFFF) || code > 0x10FFFF then none
      else some (Char.ofNat code, cursor.skipMany (2 + length))

/-- The characters up to the next blank or the closing quote. The gap that comes back is
an escaped line end, which joins two lines without a blank. -/
def readQuotedRun (double : Bool) : Nat → List Char → Cursor → Option (Gap × List Char × Cursor)
  | 0, _, _ => none
  | fuel + 1, read, cursor =>
    match cursor.peek? with
    | none => some ({}, read, cursor)
    | some character =>
      if isBlankChar character || isBreakChar character then some ({}, read, cursor)
      else if !double && character == '\'' && cursor.seesAt 1 '\'' then
        readQuotedRun double fuel ('\'' :: read) (cursor.skipMany 2)
      else if character == (if double then '"' else '\'') then some ({}, read, cursor)
      else if double && character == '\\' then
        if isBreak (cursor.at? 1) then
          some ({ onNewLine := true }, read, cursor.skip.skipBreak)
        else
          match readEscape cursor with
          | some (escaped, cursor) => readQuotedRun double fuel (escaped :: read) cursor
          | none => none
      else readQuotedRun double fuel (character :: read) cursor.skip

/-- A quoted scalar after its opening quote, up to and with its closing one. -/
def readQuoted (double : Bool) : Nat → List Char → Cursor → Option (List Char × Cursor)
  | 0, _, _ => none
  | fuel + 1, read, cursor =>
    if cursor.atAnyDocumentMarker || cursor.atEnd then none
    else
      match readQuotedRun double fuel read cursor with
      | none => none
      | some (gap, read, cursor) =>
        if cursor.sees (if double then '"' else '\'') then some (read, cursor.skip)
        else
          match readGap none fuel gap cursor with
          | none => none
          | some (gap, cursor) => readQuoted double fuel (gap.fold read) cursor

/-! Block scalars. -/

/-- What becomes of the line ends behind a block scalar. -/
inductive Chomping where
  | clip
  | strip
  | keep
deriving DecidableEq

/-- Skips indentation; `indent = 0` means it is not known yet. -/
def skipIndentation (indent : Nat) (cursor : Cursor) : Cursor :=
  let blanks := (cursor.rest.takeWhile (· == ' ')).length
  cursor.skipMany (if indent = 0 then blanks else min blanks (indent - cursor.column))

/-- The empty lines from here on, newest first, and the deepest indentation among them. -/
def readEmptyLines (indent : Nat) : Nat → Nat → List Char → Cursor →
    Option (Nat × List Char × Cursor)
  | 0, _, _, _ => none
  | fuel + 1, deepest, breaks, cursor =>
    let cursor := skipIndentation indent cursor
    let deepest := max deepest cursor.column
    if (indent == 0 || cursor.column < indent) && cursor.sees '\t' then none
    else if isBreak cursor.peek? then
      let (ending, next) := cursor.readBreak
      readEmptyLines indent fuel deepest (ending.reverse ++ breaks) next
    else some (deepest, breaks, cursor)

/-- The empty lines from here on, and the block's indentation if it was not known. -/
def readBlockBreaks (outer : Int) (indent fuel : Nat) (cursor : Cursor) :
    Option (Nat × List Char × Cursor) :=
  match readEmptyLines indent fuel 0 [] cursor with
  | none => none
  | some (deepest, breaks, cursor) =>
    let found := if indent = 0 then max (max deepest (outer + 1).toNat) 1 else indent
    some (found, breaks, cursor)

/-- The lines of a block scalar. `ending` is the end of the line before, `breaks` are the
empty lines after it, and `indented` says that it began with a blank. -/
def readBlockLines (folded : Bool) (outer : Int) (indent : Nat) (chomping : Chomping) :
    Nat → List Char → List Char → List Char → Bool → Cursor → Option (List Char × Cursor)
  | 0, _, _, _, _, _ => none
  | fuel + 1, read, ending, breaks, indented, cursor =>
    if cursor.column == indent && !cursor.atEnd then
      let startsBlank := isBlank cursor.peek?
      let read :=
        if folded && ending == ['\n'] && !indented && !startsBlank then
          if breaks.isEmpty then ' ' :: read else read
        else ending ++ read
      let read := breaks ++ read
      let line := cursor.rest.takeWhile fun character => !isBreakChar character
      let cursor := cursor.skipMany line.length
      let (ending, cursor) := cursor.readBreak
      match readBlockBreaks outer indent fuel cursor with
      | none => none
      | some (_, breaks, cursor) =>
        readBlockLines folded outer indent chomping fuel (line.reverse ++ read) ending breaks
          startsBlank cursor
    else
      let read := if chomping = .strip then read else ending ++ read
      some (if chomping = .keep then breaks ++ read else read, cursor)

def readChomping? (cursor : Cursor) : Option Chomping :=
  if cursor.sees '+' then some .keep else if cursor.sees '-' then some .strip else none

/-- An explicit indentation is a digit from 1 to 9; `none` for the refused 0. -/
def readIncrement (cursor : Cursor) : Option (Nat × Cursor) :=
  match cursor.peek? with
  | some character =>
    if character == '0' then none
    else if '1' ≤ character && character ≤ '9' then some (character.toNat - 48, cursor.skip)
    else some (0, cursor)
  | none => some (0, cursor)

/-- The indicators after the opening one: chomping and indentation, in either order. -/
def readBlockHeader (cursor : Cursor) : Option (Chomping × Nat × Cursor) :=
  match readChomping? cursor with
  | some chomping => (readIncrement cursor.skip).map fun read => (chomping, read.1, read.2)
  | none => do
    let (increment, cursor) ← readIncrement cursor
    if increment = 0 then some (.clip, 0, cursor)
    else
      match readChomping? cursor with
      | some chomping => some (chomping, increment, cursor.skip)
      | none => some (.clip, increment, cursor)

/-- Blanks and a comment up to the end of the line; `none` if anything else follows. -/
def finishLine (cursor : Cursor) : Option Cursor :=
  let cursor := cursor.skipWhile isBlankChar
  let cursor :=
    if cursor.sees '#' then cursor.skipWhile fun character => !isBreakChar character else cursor
  if isBreakOrEnd cursor.peek? then some cursor.skipBreak else none

/-- A block scalar after its opening indicator. -/
def readBlock (folded : Bool) (outer : Int) (fuel : Nat) (cursor : Cursor) :
    Option (List Char × Cursor) := do
  let (chomping, increment, cursor) ← readBlockHeader cursor
  let cursor ← finishLine cursor
  let known := if increment = 0 then 0 else (max outer 0).toNat + increment
  let (indent, breaks, cursor) ← readBlockBreaks outer known fuel cursor
  readBlockLines folded outer indent chomping fuel [] [] breaks false cursor

end Yaml

end AssistantEngine
