/-
This file cuts a YAML text into tokens. Blocks are made visible: a token opens a
block collection where a line is indented further than the ones around it, and
another closes it where a line is indented less. A key is known as one only at
the colon behind it, which stands on its line and not too far away; the token in
front of a key is put in then.
-/

import ControlPlane.Yaml.Scalar

namespace ControlPlane.Yaml

/-! ### Tokens -/

/-- How a scalar is written. -/
inductive ScalarStyle
  | plain
  | quoted
  | literal
  | folded
  deriving DecidableEq

/-- A part of a text. -/
inductive Token
  | version (major minor : Nat)
  | tagHandle (handle expansion : List Char)
  | documentStart
  | documentEnd
  | blockSequence
  | blockMapping
  | blockEnd
  | flowSequence
  | flowSequenceEnd
  | flowMapping
  | flowMappingEnd
  | flowEntry
  | blockEntry
  | key
  | value
  | anchor (name : List Char)
  | reference (name : List Char)
  | tag (handle suffix : List Char)
  | scalar (style : ScalarStyle) (letters : List Char)
  deriving DecidableEq

/-! ### Scanners -/

/-- A place where a key may have started: the number of tokens in front of it, and whether it has
to be one. -/
structure PendingKey where
  isRequired : Bool
  position : Nat
  place : Cursor

/-- The state of reading tokens: the tokens so far, the columns of the open block collections
from the innermost one, the pending key here and those around the open flow collections, and
whether a key may start here. -/
structure Scanner where
  cursor : Cursor
  tokens : Array Token
  columns : List Nat
  pending : Option PendingKey
  outer : List (Option PendingKey)
  allowsKey : Bool

namespace Scanner

/-- The state in front of a text. -/
def start (letters : List Char) : Scanner where
  cursor := Cursor.start letters
  tokens := #[]
  columns := []
  pending := none
  outer := []
  allowsKey := true

/-- Whether a flow collection is open. -/
def inFlow (scanner : Scanner) : Bool :=
  !scanner.outer.isEmpty

/-- The column that further lines of a plain scalar reach. -/
def indent (scanner : Scanner) : Nat :=
  (scanner.columns.head?.map fun column => column + 1).getD 0

def emit (scanner : Scanner) (token : Token) : Scanner :=
  { scanner with tokens := scanner.tokens.push token }

/-- Takes letters of the line as a token. -/
def take (scanner : Scanner) (count : Nat) (token : Token) : Scanner :=
  { scanner.emit token with cursor := scanner.cursor.skip count }

def allowKey (scanner : Scanner) (allowsKey : Bool) : Scanner :=
  { scanner with allowsKey }

/-! ### Pending keys -/

/-- Gives up the pending key, which must not be a required one. -/
def dropKey? (scanner : Scanner) : Option Scanner :=
  match scanner.pending with
  | some key => if key.isRequired then none else some { scanner with pending := none }
  | none => some scanner

/-- Notes that a key may start here. What stands at the column of the innermost block collection
has to be a key. -/
def saveKey? (scanner : Scanner) : Option Scanner :=
  if scanner.allowsKey then do
    let scanner ← scanner.dropKey?
    return { scanner with
      pending := some
        { isRequired := !scanner.inFlow && scanner.columns.head? = some scanner.cursor.column
          position := scanner.tokens.size
          place := scanner.cursor } }
  else some scanner

/-- The greatest number of bytes of a key up to its colon. -/
def keyLimit : Nat := 1024

/-- Gives up a pending key from which a place is too far away. -/
def expire? (cursor : Cursor) : Option PendingKey → Option (Option PendingKey)
  | some key =>
    if key.place.line < cursor.line || key.place.index + keyLimit < cursor.index then
      if key.isRequired then none else some none
    else some (some key)
  | none => some none

/-- Gives up all pending keys that are too far away. -/
def expireKeys? (scanner : Scanner) : Option Scanner := do
  let pending ← expire? scanner.cursor scanner.pending
  let outer ← scanner.outer.mapM (expire? scanner.cursor)
  return { scanner with pending, outer }

/-! ### Block collections -/

/-- Puts in a token at a position. -/
def insertToken (scanner : Scanner) (position : Nat) (token : Token) : Scanner :=
  { scanner with tokens := scanner.tokens.insertIdxIfInBounds position token }

/-- Opens a block collection at a column that lies further inside than the ones around it. -/
def openBlock (scanner : Scanner) (column position : Nat) (token : Token) : Scanner :=
  let isInside := (scanner.columns.head?.map fun outer => decide (outer < column)).getD true
  if !scanner.inFlow && isInside then
    { scanner.insertToken position token with columns := column :: scanner.columns }
  else scanner

/-- Closes the block collections at the given columns. -/
def closeColumns (scanner : Scanner) (closes : Nat → Bool) : Scanner :=
  if scanner.inFlow then scanner
  else
    { scanner with
      columns := scanner.columns.dropWhile closes
      tokens := scanner.tokens ++
        ((scanner.columns.takeWhile closes).map fun _ => Token.blockEnd).toArray }

/-- Closes the block collections that lie further inside than this place. -/
def closeBlocks (scanner : Scanner) : Scanner :=
  scanner.closeColumns fun column => scanner.cursor.column < column

/-- Closes all block collections in front of a directive, a document marker or the end. -/
def closeAll? (scanner : Scanner) : Option Scanner := do
  let scanner ← (scanner.closeColumns fun _ => true).dropKey?
  return scanner.allowKey false

/-! ### Separation -/

/-- Goes over blanks, line breaks and comments. A tab counts as a blank where no key may start.
A new line outside of flow collections may start with a key. -/
def separate : Nat → Scanner → Scanner
  | 0, scanner => scanner
  | fuel + 1, scanner =>
    let cursor := scanner.cursor
    let cursor :=
      if cursor.column == 0 && cursor.sees 0 isByteOrderMark then cursor.skip 1 else cursor
    let cursor := cursor.skipWhile fun letter =>
      letter == ' ' || (letter == '\t' && (scanner.inFlow || !scanner.allowsKey))
    let cursor := if cursor.isAt '#' then cursor.skipLine else cursor
    if cursor.isAtBreak then
      separate fuel
        { scanner with
          cursor := cursor.takeBreak.2
          allowsKey := scanner.allowsKey || !scanner.inFlow }
    else { scanner with cursor }

/-! ### Directives -/

/-- The greatest number of digits of a version. -/
def versionLimit : Nat := 9

/-- Reads a number of a version. -/
def readVersion? (cursor : Cursor) : Option (Nat × Cursor) :=
  let digits := cursor.rest.takeWhile Char.isDigit
  if versionLimit < digits.length then none
  else (Text.unsignedValue? 10 digits).map fun number => (number, cursor.skip digits.length)

/-- Reads the letters of a tag handle after its exclamation mark: a name, which is closed by
another mark unless the handle is primary. -/
def readHandle (cursor : Cursor) : List Char × Cursor :=
  let name := cursor.rest.takeWhile isWordLetter
  let cursor := cursor.skip name.length
  if cursor.isAt '!' then ('!' :: name ++ ['!'], cursor.skip 1) else ('!' :: name, cursor)

/-- The letters of a tag. Brackets and commas stand only in tags written in full. -/
def isTagLetter (inFull : Bool) (letter : Char) : Bool :=
  isWordLetter letter ||
    [';', '/', '?', ':', '@', '&', '=', '+', '$', '.', '!', '~', '*', '\'', '(', ')'].contains
      letter ||
    (inFull && [',', '[', ']'].contains letter)

/-- Reads bytes that are written as a percent sign and two digits. -/
def readBytes? : List Char → Option (List UInt8 × List Char)
  | '%' :: high :: low :: rest =>
    match Text.unsignedValue? 16 [high, low] with
    | some byte => (readBytes? rest).map fun read => (UInt8.ofNat byte :: read.1, read.2)
    | none => none
  | '%' :: _ => none
  | rest => some ([], rest)

/-- Reads the letters of a tag, where bytes of letters may be written as numbers. -/
def readTag? (inFull : Bool) : Nat → List Char → Option (List Char × List Char)
  | 0, _ => none
  | _, [] => some ([], [])
  | fuel + 1, letter :: rest =>
    if letter = '%' then
      match readBytes? (letter :: rest) with
      | none => none
      | some (bytes, rest) =>
        match String.fromUTF8? ⟨bytes.toArray⟩ with
        | none => none
        | some text =>
          (readTag? inFull fuel rest).map fun read => (text.toList ++ read.1, read.2)
    else if isTagLetter inFull letter then
      (readTag? inFull fuel rest).map fun read => (letter :: read.1, read.2)
    else some ([], letter :: rest)

/-- Reads the letters of a tag at a place. -/
def readTagAt? (inFull : Bool) (cursor : Cursor) : Option (List Char × Cursor) :=
  (readTag? inFull (cursor.rest.length + 1) cursor.rest).map fun (letters, rest) =>
    (letters, cursor.skip (cursor.rest.length - rest.length))

/-- Reads a version of the form major and minor number. -/
def readVersionDirective? (cursor : Cursor) : Option (Token × Cursor) := do
  let (major, cursor) ← readVersion? (cursor.skipWhile isSpace)
  if cursor.isAt '.' then
    let (minor, cursor) ← readVersion? (cursor.skip 1)
    return (.version major minor, cursor)
  else none

/-- Reads a tag handle and what it stands for. -/
def readTagDirective? (cursor : Cursor) : Option (Token × Cursor) := do
  let cursor := cursor.skipWhile isSpace
  if !cursor.isAt '!' then none
  else
    let (handle, cursor) := readHandle (cursor.skip 1)
    if (handle.getLast? ≠ some '!') || !cursor.sees 0 isSpace then none
    else
      let (expansion, cursor) ← readTagAt? true (cursor.skipWhile isSpace)
      if expansion.isEmpty || !cursor.isSeparated 0 then none
      else return (.tagHandle handle expansion, cursor)

/-- Reads the directive whose percent sign stands here. -/
def readDirective? (cursor : Cursor) : Option (Token × Cursor) := do
  let name := (cursor.skip 1).rest.takeWhile isWordLetter
  let cursor := cursor.skip (name.length + 1)
  if !cursor.isSeparated 0 then none
  else
    let (token, cursor) ←
      if name = ['Y', 'A', 'M', 'L'] then readVersionDirective? cursor
      else if name = ['T', 'A', 'G'] then readTagDirective? cursor
      else none
    let cursor := cursor.skipTrailer
    if cursor.isAtLineEnd then return (token, cursor.takeBreak.2) else none

/-! ### Node properties -/

/-- Reads the name behind an ampersand or an asterisk. -/
def readAnchor? (cursor : Cursor) : Option (List Char × Cursor) :=
  let name := (cursor.skip 1).rest.takeWhile isWordLetter
  let cursor := cursor.skip (name.length + 1)
  let mayFollow := fun letter => ['?', ':', ',', ']', '\x7d', '%', '@', '`'].contains letter
  if !name.isEmpty && (cursor.isSeparated 0 || cursor.sees 0 mayFollow) then some (name, cursor)
  else none

/-- Reads a tag that is written in full between angle brackets. -/
def readFullTag? (cursor : Cursor) : Option (Token × Cursor) := do
  let (suffix, cursor) ← readTagAt? true (cursor.skip 2)
  if suffix.isEmpty || !cursor.isAt '>' then none else return (.tag [] suffix, cursor.skip 1)

/-- Reads a tag of a handle and a suffix. A mark alone is a tag without a handle. -/
def readShortTag? (cursor : Cursor) : Option (Token × Cursor) := do
  let (handle, cursor) := readHandle (cursor.skip 1)
  let (suffix, cursor) ← readTagAt? false cursor
  if 1 < handle.length && handle.getLast? = some '!' then
    if suffix.isEmpty then none else return (.tag handle suffix, cursor)
  else
    match handle.drop 1 ++ suffix with
    | [] => return (.tag [] ['!'], cursor)
    | suffix => return (.tag ['!'] suffix, cursor)

/-- Reads the tag whose exclamation mark stands here. -/
def readTagToken? (inFlow : Bool) (cursor : Cursor) : Option (Token × Cursor) := do
  let (token, cursor) ←
    if cursor.sees 1 fun letter => letter == '<' then readFullTag? cursor
    else readShortTag? cursor
  if (inFlow && cursor.isAt ',') || cursor.isSeparated 0 then return (token, cursor) else none

/-! ### Reading one token -/

/-- Takes a token that was read and after which no key starts, as the start of a pending key. -/
def takeNode? (scanner : Scanner) (read : Option (Token × Cursor)) : Option Scanner := do
  let scanner ← scanner.saveKey?
  let (token, cursor) ← read
  return ({ scanner.emit token with cursor } : Scanner).allowKey false

/-- Takes a document marker. -/
def takeMarker? (scanner : Scanner) (token : Token) : Option Scanner := do
  return (← scanner.closeAll?).take 3 token

/-- Takes a directive. -/
def takeDirective? (scanner : Scanner) : Option Scanner := do
  let scanner ← scanner.closeAll?
  let (token, cursor) ← readDirective? scanner.cursor
  return { scanner.emit token with cursor }

/-- Opens a flow collection, which may be a key. -/
def openFlow? (scanner : Scanner) (token : Token) : Option Scanner := do
  let scanner ← scanner.saveKey?
  return ({ scanner with pending := none, outer := scanner.pending :: scanner.outer }.take 1
    token).allowKey true

/-- Closes the innermost flow collection. -/
def closeFlow? (scanner : Scanner) (token : Token) : Option Scanner := do
  let scanner ← scanner.dropKey?
  let scanner :=
    match scanner.outer with
    | pending :: outer => { scanner with pending, outer }
    | [] => scanner
  return (scanner.take 1 token).allowKey false

def takeFlowEntry? (scanner : Scanner) : Option Scanner := do
  return ((← scanner.dropKey?).take 1 .flowEntry).allowKey true

/-- Opens a block collection at this place, if none is open at its column. Outside of flow
collections an indicator stands only where a key may start. -/
def openHere? (scanner : Scanner) (token : Token) : Option Scanner :=
  if !scanner.inFlow && !scanner.allowsKey then none
  else some (scanner.openBlock scanner.cursor.column scanner.tokens.size token)

def takeBlockEntry? (scanner : Scanner) : Option Scanner := do
  let scanner ← (← scanner.openHere? .blockSequence).dropKey?
  return (scanner.take 1 .blockEntry).allowKey true

def takeKey? (scanner : Scanner) : Option Scanner := do
  let scanner ← (← scanner.openHere? .blockMapping).dropKey?
  return (scanner.take 1 .key).allowKey !scanner.inFlow

/-- Takes a colon. What the pending key started at is a key then. -/
def takeValue? (scanner : Scanner) : Option Scanner :=
  match scanner.pending with
  | some key =>
    let scanner := scanner.insertToken key.position .key
    let scanner := scanner.openBlock key.place.column key.position .blockMapping
    some (({ scanner with pending := none }.take 1 .value).allowKey false)
  | none => do
    let scanner ← scanner.openHere? .blockMapping
    return (scanner.take 1 .value).allowKey !scanner.inFlow

/-- Takes a block scalar. A key may start behind it. -/
def takeBlockScalar? (scanner : Scanner) (style : ScalarStyle) : Option Scanner := do
  let scanner ← scanner.dropKey?
  let (letters, cursor) ← readBlock? (style = .literal) scanner.columns.head? scanner.cursor
  return ({ scanner.emit (.scalar style letters) with cursor } : Scanner).allowKey true

/-- Takes a scalar in the given quotes. -/
def takeQuoted? (scanner : Scanner) (quote : Char) : Option Scanner :=
  scanner.takeNode? <| (readQuoted? quote scanner.cursor).map fun (letters, cursor) =>
    (.scalar .quoted letters, cursor)

/-- Takes a plain scalar. A key may start behind it if a line ended there. -/
def takePlain? (scanner : Scanner) : Option Scanner := do
  let scanner ← scanner.saveKey?
  let read ← readPlain? scanner.inFlow scanner.indent scanner.cursor
  return ({ scanner.emit (.scalar .plain read.letters) with cursor := read.cursor } :
    Scanner).allowKey read.gap.isBroken

/-- Takes the token that starts here. -/
def takeToken? (scanner : Scanner) : Option Scanner :=
  let cursor := scanner.cursor
  let inFlow := scanner.inFlow
  if cursor.column == 0 && cursor.isAt '%' then scanner.takeDirective?
  else if cursor.isAtMarker '-' then scanner.takeMarker? .documentStart
  else if cursor.isAtMarker '.' then scanner.takeMarker? .documentEnd
  else if cursor.isAt '[' then scanner.openFlow? .flowSequence
  else if cursor.isAt '\x7b' then scanner.openFlow? .flowMapping
  else if cursor.isAt ']' then scanner.closeFlow? .flowSequenceEnd
  else if cursor.isAt '\x7d' then scanner.closeFlow? .flowMappingEnd
  else if cursor.isAt ',' then scanner.takeFlowEntry?
  else if cursor.isAtIndicator '-' false then scanner.takeBlockEntry?
  else if cursor.isAtIndicator '?' inFlow then scanner.takeKey?
  else if cursor.isAtIndicator ':' inFlow then scanner.takeValue?
  else if cursor.isAt '*' then
    scanner.takeNode? ((readAnchor? cursor).map fun (name, cursor) => (.reference name, cursor))
  else if cursor.isAt '&' then
    scanner.takeNode? ((readAnchor? cursor).map fun (name, cursor) => (.anchor name, cursor))
  else if cursor.isAt '!' then scanner.takeNode? (readTagToken? inFlow cursor)
  else if cursor.isAt '|' && !inFlow then scanner.takeBlockScalar? .literal
  else if cursor.isAt '>' && !inFlow then scanner.takeBlockScalar? .folded
  else if cursor.isAt '\'' then scanner.takeQuoted? '\''
  else if cursor.isAt '"' then scanner.takeQuoted? '"'
  else if startsPlain inFlow cursor then scanner.takePlain?
  else none

/-! ### Reading all tokens -/

def run? : Nat → Scanner → Option (List Token)
  | 0, _ => none
  | fuel + 1, scanner =>
    match (scanner.separate (scanner.cursor.rest.length + 1)).expireKeys? with
    | none => none
    | some scanner =>
      let scanner := scanner.closeBlocks
      if scanner.cursor.isAtEnd then scanner.closeAll?.map fun scanner => scanner.tokens.toList
      else
        match scanner.takeToken? with
        | some scanner => run? fuel scanner
        | none => none

end Scanner

/-- The tokens of a text. -/
def tokens? (letters : List Char) : Option (List Token) :=
  if letters.all isAllowed then Scanner.run? (letters.length + 2) (Scanner.start letters) else none

end ControlPlane.Yaml
