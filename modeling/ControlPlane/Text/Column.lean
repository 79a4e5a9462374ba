/-
This file sets texts into columns and draws the rules of headings. Widths of
columns count characters; a rule is never shorter than one character.
-/

namespace ControlPlane.Text

/-- The text followed by blanks up to a width. -/
def padRight (width : Nat) (text : String) : String :=
  text ++ String.ofList (List.replicate (width - text.length) ' ')

/-- The text preceded by blanks up to a width. -/
def padLeft (width : Nat) (text : String) : String :=
  String.ofList (List.replicate (width - text.length) ' ') ++ text

/-- A line of one repeated character, at least one long. -/
def rule (letter : Char) (width : Nat) : String :=
  String.ofList (List.replicate (max 1 width) letter)

/-- The lines, each closed by a line feed. -/
def lines (texts : List String) : String :=
  String.join (texts.map (· ++ "\n"))

/-- A boxed title. The box is as wide as the UTF-8 form of the title and two more. -/
def frame (title : String) : String :=
  let width := title.utf8ByteSize + 2
  lines ["", "┏" ++ rule '━' width ++ "┓", "┃ " ++ title ++ " ┃", "┗" ++ rule '━' width ++ "┛"]

/-- The number of characters of a line with a heading. -/
def headingWidth : Nat := 81

/-- A title between two rules of equal length. -/
def heading (title : String) : String :=
  let width := (headingWidth - (title.utf8ByteSize + 2)) / 2
  lines [" " ++ rule '─' width ++ " " ++ title ++ "  " ++ rule '─' width]

end ControlPlane.Text
