/-
This file tells which characters are blank and cuts texts at them. A character
is blank when it has the Unicode property White_Space. Trimming drops the blanks
at both ends of a text, and the words of a text are its longest runs without
blanks.
-/

namespace ControlPlane.Text

/-- The characters of the Unicode property White_Space. -/
def isBlank (letter : Char) : Bool :=
  let point := letter.toNat
  (9 ≤ point && point ≤ 13) || point == 0x20 || point == 0x85 || point == 0xA0 ||
    point == 0x1680 || (0x2000 ≤ point && point ≤ 0x200A) || point == 0x2028 ||
    point == 0x2029 || point == 0x202F || point == 0x205F || point == 0x3000

/-- The text without its leading blanks. -/
def dropBlanks (letters : List Char) : List Char :=
  letters.dropWhile isBlank

/-- The text without the blanks at its ends. -/
def trim (letters : List Char) : List Char :=
  (dropBlanks (dropBlanks letters).reverse).reverse

/-- The pieces of a text between the letters that a test picks. -/
def split (separates : Char → Bool) : List Char → List (List Char)
  | [] => [[]]
  | letter :: letters =>
    if separates letter then [] :: split separates letters
    else
      match split separates letters with
      | [] => [[letter]]
      | piece :: pieces => (letter :: piece) :: pieces

/-- The longest runs of a text without blanks, from left to right. -/
def words (letters : List Char) : List (List Char) :=
  (split isBlank letters).filter fun piece => !piece.isEmpty

/-- The parts of a text before and after the first occurrence of a letter. -/
def splitAtFirst? (separator : Char) : List Char → Option (List Char × List Char)
  | [] => none
  | letter :: letters =>
    if letter = separator then some ([], letters)
    else (splitAtFirst? separator letters).map fun parts => (letter :: parts.1, parts.2)

end ControlPlane.Text
