/-
This file reads the scalars of a YAML text: plain ones, ones in single or double
quotes, and ones that fill the lines of a block. Where a plain or quoted scalar
goes on in another line the break is folded: one line feed becomes a blank, and
of several the first is dropped.
-/

import ControlPlane.Text.Number
import ControlPlane.Yaml.Cursor

namespace ControlPlane.Yaml

/-! ### Gaps -/

/-- The blanks and line breaks between two words of a scalar: the blanks, or once the line is
broken the letters of the first break and those of the further ones. -/
structure Gap where
  blanks : List Char
  first : List Char
  further : List Char
  isBroken : Bool

namespace Gap

/-- The gap without letters. -/
def empty : Gap :=
  ⟨[], [], [], false⟩

/-- The gap behind a line break that counts for nothing. -/
def joined : Gap :=
  ⟨[], [], [], true⟩

/-- The letters that a gap stands for. -/
def letters (gap : Gap) : List Char :=
  if !gap.isBroken then gap.blanks
  else if gap.first = ['\n'] then if gap.further.isEmpty then [' '] else gap.further
  else gap.first ++ gap.further

/-- Puts the letters of a line break behind a gap. -/
def putBreak (gap : Gap) (letters : List Char) : Gap :=
  if gap.isBroken then { gap with further := gap.further ++ letters }
  else ⟨[], letters, [], true⟩

/-- Reads on in a gap. Further lines are not indented by tabs up to the given column. -/
def read? (indent : Nat) : Nat → Gap → Cursor → Option (Gap × Cursor)
  | 0, _, _ => none
  | fuel + 1, gap, cursor =>
    match cursor.rest with
    | [] => some (gap, cursor)
    | letter :: _ =>
      if isBreak letter then
        let (letters, cursor) := cursor.takeBreak
        read? indent fuel (gap.putBreak letters) cursor
      else if !isSpace letter then some (gap, cursor)
      else if !gap.isBroken then
        read? indent fuel { gap with blanks := gap.blanks ++ [letter] } (cursor.skip 1)
      else if letter = '\t' && cursor.column < indent then none
      else read? indent fuel gap (cursor.skip 1)

end Gap

/-- Reads the gap that starts here. -/
def readGap? (indent : Nat) (gap : Gap) (cursor : Cursor) : Option (Gap × Cursor) :=
  Gap.read? indent (cursor.rest.length + 1) gap cursor

/-! ### Plain scalars -/

/-- Whether a colon that is followed by these letters stands in a plain scalar where a flow
collection allows none. -/
def isMisplacedColon : List Char → Bool
  | [] => false
  | letter :: _ => letter = '?' || isFlowIndicator letter

/-- Reads a word of a plain scalar. It ends in front of a separator, of a colon and a separator,
and inside a flow collection of its indicators. -/
def readWord? (inFlow : Bool) : List Char → Option (List Char)
  | [] => some []
  | letter :: rest =>
    if isSeparator letter then some []
    else if inFlow && letter = ':' && isMisplacedColon rest then none
    else if letter = ':' && (rest.isEmpty || (rest.head?.map isSeparator).getD false) then some []
    else if inFlow && isFlowIndicator letter then some []
    else (readWord? inFlow rest).map fun word => letter :: word

/-- A plain scalar: its letters, the gap behind it and the place behind the gap. -/
structure PlainScalar where
  letters : List Char
  gap : Gap
  cursor : Cursor

/-- Reads the words of a plain scalar. A further line belongs to it if it does not start with a
document marker or a comment, and outside of flow collections if it is indented. -/
def readWords? (inFlow : Bool) (indent : Nat) :
    Nat → List Char → Gap → Cursor → Option PlainScalar
  | 0, _, _, _ => none
  | fuel + 1, letters, gap, cursor =>
    if cursor.isAtDocumentMarker || cursor.isAt '#' then some ⟨letters, gap, cursor⟩
    else
      match readWord? inFlow cursor.rest with
      | none => none
      | some [] => some ⟨letters, gap, cursor⟩
      | some word =>
        let letters := letters ++ gap.letters ++ word
        let cursor := cursor.skip word.length
        if !cursor.sees 0 isSeparator then some ⟨letters, Gap.empty, cursor⟩
        else
          match readGap? indent Gap.empty cursor with
          | none => none
          | some (gap, cursor) =>
            if !inFlow && cursor.column < indent then some ⟨letters, gap, cursor⟩
            else readWords? inFlow indent fuel letters gap cursor

/-- Reads the plain scalar that starts here. -/
def readPlain? (inFlow : Bool) (indent : Nat) (cursor : Cursor) : Option PlainScalar :=
  readWords? inFlow indent (cursor.rest.length + 1) [] Gap.empty cursor

/-- Whether a plain scalar may start here. -/
def startsPlain (inFlow : Bool) (cursor : Cursor) : Bool :=
  let mayStart := fun letter =>
    !(isSeparator letter || isFlowIndicator letter ||
      ['-', '?', ':', '#', '&', '*', '!', '|', '>', '\'', '"', '%', '@', '`'].contains letter)
  cursor.sees 0 mayStart || (cursor.isAt '-' && !cursor.sees 1 isSpace) ||
    (!inFlow && (cursor.isAt '?' || cursor.isAt ':') && !cursor.isSeparated 1)

/-! ### Escapes -/

/-- The character that an escape of one letter stands for. -/
def escaped? : Char → Option Char
  | '0' => some (Char.ofNat 0x00)
  | 'a' => some (Char.ofNat 0x07)
  | 'b' => some (Char.ofNat 0x08)
  | 't' => some '\t'
  | '\t' => some '\t'
  | 'n' => some '\n'
  | 'v' => some (Char.ofNat 0x0B)
  | 'f' => some (Char.ofNat 0x0C)
  | 'r' => some (Char.ofNat 0x0D)
  | 'e' => some (Char.ofNat 0x1B)
  | ' ' => some ' '
  | '"' => some '"'
  | '/' => some '/'
  | '\\' => some '\\'
  | 'N' => some (Char.ofNat 0x85)
  | '_' => some (Char.ofNat 0xA0)
  | 'L' => some (Char.ofNat 0x2028)
  | 'P' => some (Char.ofNat 0x2029)
  | _ => none

/-- The number of hexadecimal digits after the letter of a numeric escape. -/
def escapeDigits? : Char → Option Nat
  | 'x' => some 2
  | 'u' => some 4
  | 'U' => some 8
  | _ => none

/-- The character of a code point, if there is one. -/
def character? (point : Nat) : Option Char :=
  if point.isValidChar then some (Char.ofNat point) else none

/-- Reads an escape after its backslash. -/
def readEscape? : List Char → Option (Char × List Char)
  | [] => none
  | letter :: rest =>
    match escaped? letter with
    | some character => some (character, rest)
    | none =>
      match escapeDigits? letter with
      | none => none
      | some count =>
        let digits := rest.take count
        if digits.length = count then
          ((Text.unsignedValue? 16 digits).bind character?).map fun character =>
            (character, rest.drop count)
        else none

/-! ### Quoted scalars -/

/-- Reads a word in single quotes, where a quote is written twice, and answers what follows. -/
def readSingleQuoted : List Char → List Char × List Char
  | [] => ([], [])
  | '\'' :: '\'' :: rest =>
    let read := readSingleQuoted rest
    ('\'' :: read.1, read.2)
  | letter :: rest =>
    if letter = '\'' || isSeparator letter then ([], letter :: rest)
    else
      let read := readSingleQuoted rest
      (letter :: read.1, read.2)

/-- Whether a backslash stands in front of a line break. -/
def isJoint : List Char → Bool
  | '\\' :: letter :: _ => isBreak letter
  | _ => false

/-- Reads a word in double quotes and answers what follows: a separator, a quote, a backslash in
front of a line break, or the end. -/
def readDoubleQuoted? : Nat → List Char → Option (List Char × List Char)
  | 0, _ => none
  | _, [] => some ([], [])
  | fuel + 1, letter :: rest =>
    if letter = '"' || isSeparator letter || isJoint (letter :: rest) then
      some ([], letter :: rest)
    else if letter = '\\' then
      match readEscape? rest with
      | some (character, rest) =>
        (readDoubleQuoted? fuel rest).map fun read => (character :: read.1, read.2)
      | none => none
    else (readDoubleQuoted? fuel rest).map fun read => (letter :: read.1, read.2)

/-- Reads a word in the given quotes. -/
def readQuotedWord? (quote : Char) (input : List Char) : Option (List Char × List Char) :=
  if quote = '\'' then some (readSingleQuoted input)
  else readDoubleQuoted? (input.length + 1) input

/-- Reads the words of a scalar up to its closing quote. No line of it starts with a document
marker. -/
def readQuotedWords? (quote : Char) : Nat → List Char → Cursor → Option (List Char × Cursor)
  | 0, _, _ => none
  | fuel + 1, letters, cursor =>
    if cursor.isAtDocumentMarker || cursor.isAtEnd then none
    else
      match readQuotedWord? quote cursor.rest with
      | none => none
      | some (word, rest) =>
        let letters := letters ++ word
        let cursor := cursor.skip (cursor.rest.length - rest.length)
        let isJoined := quote = '"' && isJoint rest
        let cursor := if isJoined then (cursor.skip 1).takeBreak.2 else cursor
        if cursor.isAt quote then some (letters, cursor.skip 1)
        else
          match readGap? 0 (if isJoined then Gap.joined else Gap.empty) cursor with
          | none => none
          | some (gap, cursor) => readQuotedWords? quote fuel (letters ++ gap.letters) cursor

/-- Reads the quoted scalar that starts here. -/
def readQuoted? (quote : Char) (cursor : Cursor) : Option (List Char × Cursor) :=
  readQuotedWords? quote (cursor.rest.length + 1) [] (cursor.skip 1)

/-! ### Block scalars -/

/-- What becomes of the line breaks behind the last line of a block scalar. -/
inductive Chomping
  | strip
  | clip
  | keep
  deriving DecidableEq

/-- The header of a block scalar. Without an indentation the first line decides it. -/
structure BlockHeader where
  chomping : Chomping
  indentation : Option Nat
  cursor : Cursor

def chomping? (cursor : Cursor) : Option Chomping :=
  if cursor.isAt '+' then some .keep else if cursor.isAt '-' then some .strip else none

/-- Reads an indentation of one digit, if there is one; it is not zero. -/
def readIndentation? (cursor : Cursor) : Option (Option Nat × Cursor) :=
  match cursor.rest with
  | letter :: _ =>
    if !letter.isDigit then some (none, cursor)
    else if letter = '0' then none
    else some (some (letter.toNat - '0'.toNat), cursor.skip 1)
  | [] => some (none, cursor)

/-- Reads the header of a block scalar after its indicator. -/
def readBlockHeader? (cursor : Cursor) : Option BlockHeader := do
  match chomping? cursor with
  | some chomping =>
    let (indentation, cursor) ← readIndentation? (cursor.skip 1)
    return { chomping, indentation, cursor }
  | none =>
    let (indentation, cursor) ← readIndentation? cursor
    match indentation, chomping? cursor with
    | some _, some chomping => return { chomping, indentation, cursor := cursor.skip 1 }
    | _, _ => return { chomping := .clip, indentation, cursor }

/-- The empty lines in front of a line of a block scalar: the letters of their breaks, and the
widest indentation among them. -/
structure EmptyLines where
  breaks : List Char
  widest : Nat
  cursor : Cursor

/-- Reads empty lines and the indentation of the line behind them, which has no tabs. -/
def readEmptyLines? (indent : Option Nat) : Nat → EmptyLines → Option EmptyLines
  | 0, _ => none
  | fuel + 1, lines =>
    let blanks := (lines.cursor.rest.takeWhile fun letter => letter == ' ').length
    let cursor := lines.cursor.skip <|
      match indent with
      | some column => min blanks (column - lines.cursor.column)
      | none => blanks
    let widest := max lines.widest cursor.column
    let isShort := (indent.map fun column => decide (cursor.column < column)).getD true
    if isShort && cursor.isAt '\t' then none
    else if cursor.isAtBreak then
      let (letters, cursor) := cursor.takeBreak
      readEmptyLines? indent fuel ⟨lines.breaks ++ letters, widest, cursor⟩
    else some { lines with widest, cursor }

/-- The text of a block scalar so far, with the letters of the break behind its last line and of
those behind it, and whether that line started with a blank. -/
structure BlockLines where
  letters : List Char
  lineBreak : List Char
  breaks : List Char
  startedBlank : Bool
  cursor : Cursor

/-- Reads the lines of a block scalar. The break between two lines of a folded one that do not
start with blanks is folded. -/
def readBlockLines? (isLiteral : Bool) (indent : Nat) : Nat → BlockLines → Option BlockLines
  | 0, _ => none
  | fuel + 1, lines =>
    if lines.cursor.column ≠ indent || lines.cursor.isAtEnd then some lines
    else
      let startsBlank := lines.cursor.sees 0 isSpace
      let isFolded :=
        !isLiteral && lines.lineBreak = ['\n'] && !lines.startedBlank && !startsBlank
      let joint :=
        if isFolded then if lines.breaks.isEmpty then [' '] else [] else lines.lineBreak
      let line := lines.cursor.rest.takeWhile fun letter => !isBreak letter
      let (lineBreak, cursor) := (lines.cursor.skip line.length).takeBreak
      match readEmptyLines? (some indent) (cursor.rest.length + 1) ⟨[], 0, cursor⟩ with
      | none => none
      | some read =>
        readBlockLines? isLiteral indent fuel
          { letters := lines.letters ++ joint ++ lines.breaks ++ line
            lineBreak
            breaks := read.breaks
            startedBlank := startsBlank
            cursor := read.cursor }

/-- Reads the block scalar whose indicator stands here inside a block collection at a column, if
there is one. -/
def readBlock? (isLiteral : Bool) (column : Option Nat) (cursor : Cursor) :
    Option (List Char × Cursor) := do
  let header ← readBlockHeader? (cursor.skip 1)
  let cursor := header.cursor.skipTrailer
  if !cursor.isAtLineEnd then none
  else
    let given := header.indentation.map fun indentation => column.getD 0 + indentation
    let cursor := cursor.takeBreak.2
    let lines ← readEmptyLines? given (cursor.rest.length + 1) ⟨[], 0, cursor⟩
    let least := (column.map fun column => column + 1).getD 0
    let indent := given.getD (max 1 (max lines.widest least))
    let read ←
      readBlockLines? isLiteral indent (cursor.rest.length + 1)
        { letters := [], lineBreak := [], breaks := lines.breaks, startedBlank := false,
          cursor := lines.cursor }
    let letters :=
      match header.chomping with
      | .strip => read.letters
      | .clip => read.letters ++ read.lineBreak
      | .keep => read.letters ++ read.lineBreak ++ read.breaks
    return (letters, read.cursor)

end ControlPlane.Yaml
