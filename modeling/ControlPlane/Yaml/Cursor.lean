/-
This file walks over the letters of a YAML text and keeps count of the lines and
columns, since columns decide where a block ends. A line ends at a line feed, a
carriage return or both, a next-line character, or a separator of lines or
paragraphs; only the separators are kept as they are.
-/

import ControlPlane.Order

namespace ControlPlane.Yaml

/-! ### Letters -/

/-- The letters a text may hold: tabs, line breaks and printable characters. -/
def isAllowed (letter : Char) : Bool :=
  let point := letter.toNat
  point == 0x09 || point == 0x0A || point == 0x0D || (0x20 ≤ point && point ≤ 0x7E) ||
    point == 0x85 || (0xA0 ≤ point && point ≤ 0xFFFD) || 0x10000 ≤ point

/-- The separators of lines and paragraphs. -/
def isLineSeparator (letter : Char) : Bool :=
  letter.toNat == 0x2028 || letter.toNat == 0x2029

def isBreak (letter : Char) : Bool :=
  letter == '\n' || letter == '\r' || letter.toNat == 0x85 || isLineSeparator letter

def isSpace (letter : Char) : Bool :=
  letter == ' ' || letter == '\t'

def isSeparator (letter : Char) : Bool :=
  isSpace letter || isBreak letter

/-- The letters of names. -/
def isWordLetter (letter : Char) : Bool :=
  letter.isAlphanum || letter == '_' || letter == '-'

/-- The letters that end or separate the parts of flow collections. -/
def isFlowIndicator (letter : Char) : Bool :=
  [',', '[', ']', '\x7b', '\x7d'].contains letter

/-- The mark that tells the order of bytes. It may stand in front of a line. -/
def isByteOrderMark (letter : Char) : Bool :=
  letter.toNat == 0xFEFF

/-! ### Cursors -/

/-- A place in a text: the letters that follow, and the number of bytes, of lines, and of letters
of its line in front of it. -/
structure Cursor where
  rest : List Char
  index : Nat
  line : Nat
  column : Nat

/-- The number of bytes of letters. -/
def byteCount (letters : List Char) : Nat :=
  (letters.map Char.utf8Size).sum

namespace Cursor

/-- The place in front of a text. -/
def start (letters : List Char) : Cursor :=
  ⟨letters, 0, 0, 0⟩

def isAtEnd (cursor : Cursor) : Bool :=
  cursor.rest.isEmpty

/-- Whether the letter some places ahead passes a test. -/
def sees (cursor : Cursor) (ahead : Nat) (test : Char → Bool) : Bool :=
  (cursor.rest[ahead]?.map test).getD false

/-- Whether the next letter is the given one. -/
def isAt (cursor : Cursor) (letter : Char) : Bool :=
  cursor.sees 0 fun next => next == letter

def isAtBreak (cursor : Cursor) : Bool :=
  cursor.sees 0 isBreak

/-- Whether a blank, a line break or the end of the text stands some places ahead. -/
def isSeparated (cursor : Cursor) (ahead : Nat) : Bool :=
  ((cursor.rest.drop ahead).head?.map isSeparator).getD true

/-- Whether the next letter is an indicator: the given one in front of a separator, or inside a
flow collection in front of anything. -/
def isAtIndicator (cursor : Cursor) (letter : Char) (inFlow : Bool) : Bool :=
  cursor.isAt letter && (inFlow || cursor.isSeparated 1)

/-- Whether a marker of three letters stands in front of a line. -/
def isAtMarker (cursor : Cursor) (letter : Char) : Bool :=
  cursor.column == 0 && cursor.rest.take 3 == List.replicate 3 letter && cursor.isSeparated 3

/-- Whether a marker of the start or the end of a document stands here. -/
def isAtDocumentMarker (cursor : Cursor) : Bool :=
  cursor.isAtMarker '-' || cursor.isAtMarker '.'

/-- Goes over letters of a line. -/
def skip (cursor : Cursor) (count : Nat) : Cursor where
  rest := cursor.rest.drop count
  index := cursor.index + byteCount (cursor.rest.take count)
  line := cursor.line
  column := cursor.column + count

/-- Goes over the letters of a line that pass a test. -/
def skipWhile (cursor : Cursor) (test : Char → Bool) : Cursor :=
  cursor.skip (cursor.rest.takeWhile test).length

/-- Goes over the rest of the line. -/
def skipLine (cursor : Cursor) : Cursor :=
  cursor.skipWhile fun letter => !isBreak letter

/-- Goes over the blanks and the comment at the end of a line. -/
def skipTrailer (cursor : Cursor) : Cursor :=
  let cursor := cursor.skipWhile isSpace
  if cursor.isAt '#' then cursor.skipLine else cursor

/-- Whether a line ends here. -/
def isAtLineEnd (cursor : Cursor) : Bool :=
  cursor.isAtEnd || cursor.isAtBreak

/-- Goes over a line break, if there is one, and answers the letters it stands for. -/
def takeBreak (cursor : Cursor) : List Char × Cursor :=
  match cursor.rest with
  | '\r' :: '\n' :: rest => (['\n'], ⟨rest, cursor.index + 2, cursor.line + 1, 0⟩)
  | letter :: rest =>
    if isBreak letter then
      ([if isLineSeparator letter then letter else '\n'],
        ⟨rest, cursor.index + letter.utf8Size, cursor.line + 1, 0⟩)
    else ([], cursor)
  | [] => ([], cursor)

end Cursor

end ControlPlane.Yaml
