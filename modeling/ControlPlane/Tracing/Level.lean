/-
This file defines log levels and lists of levels by tag. A list is written
`tag=level,tag=level`; blanks around items, tags and levels do not count, and
neither do empty items. A tag that is repeated keeps its first place in the list
and takes its last level.
-/

import ControlPlane.Text.Blank
import ControlPlane.Text.Number

namespace ControlPlane.Tracing

open Text

/-- How much a target logs, from nothing to everything. -/
inductive Level
  | off
  | error
  | warn
  | info
  | debug
  | trace
  deriving DecidableEq

namespace Level

def all : List Level := [off, error, warn, info, debug, trace]

def name : Level → String
  | off => "off"
  | error => "error"
  | warn => "warn"
  | info => "info"
  | debug => "debug"
  | trace => "trace"

/-- The level of targets without one of their own. -/
def standard : Level := info

def lowerAscii (letter : Char) : Char :=
  if 'A' ≤ letter ∧ letter ≤ 'Z' then Char.ofNat (letter.toNat + 32) else letter

/-- Reads a level: its number from zero to five, its name in any case, or nothing for `error`. -/
def ofLetters? (letters : List Char) : Option Level :=
  match (decimalBelow? (2 ^ 64) letters).bind fun number => all[number]? with
  | some level => some level
  | none =>
    if letters.isEmpty then some error
    else all.find? fun level => level.name.toList = letters.map lowerAscii

end Level

/-- Why levels could not be read or set. -/
inductive TraceError
  | malformedItem (item : String)
  | unknownLevel (level : String)
  | unknownTag (tag : String)
  deriving DecidableEq

def TraceError.message : TraceError → String
  | malformedItem item => "Invalid syntax '" ++ item ++ "': expected tag=level"
  | unknownLevel level => "Invalid log level '" ++ level ++ "'"
  | unknownTag tag => "Unknown tag '" ++ tag ++ "'"

/-- Levels by tag, in the order in which the tags first came. -/
abbrev TagLevels : Type :=
  List (String × Level)

namespace TagLevels

/-- Gives a tag a level, in its place if it is listed and at the end otherwise. -/
def assign (tag : String) (level : Level) : TagLevels → TagLevels
  | [] => [(tag, level)]
  | entry :: rest =>
    if entry.1 = tag then (tag, level) :: rest else entry :: assign tag level rest

/-- The level of a tag, if it is listed. -/
def levelOf? (levels : TagLevels) (tag : String) : Option Level :=
  (List.find? (fun entry => entry.1 = tag) levels).map Prod.snd

/-- The list without a tag. -/
def without (levels : TagLevels) (tag : String) : TagLevels :=
  List.filter (fun entry => entry.1 ≠ tag) levels

/-- Reads one item, already trimmed. -/
def readItem (item : List Char) : Except TraceError (String × Level) :=
  match splitAtFirst? '=' item with
  | none => .error (.malformedItem (String.ofList item))
  | some (tag, level) =>
    match Level.ofLetters? (trim level) with
    | some level => .ok (String.ofList (trim tag), level)
    | none => .error (.unknownLevel (String.ofList (trim level)))

/-- The items of a list of levels, trimmed, without the empty ones. -/
def items (text : String) : List (List Char) :=
  ((split (· == ',') text.toList).map trim).filter fun item => !item.isEmpty

def readItems (levels : TagLevels) : List (List Char) → Except TraceError TagLevels
  | [] => .ok levels
  | item :: rest =>
    match readItem item with
    | .ok (tag, level) => readItems (levels.assign tag level) rest
    | .error error => .error error

/-- Reads a list of levels; the first item that cannot be read is the error. -/
def ofText (text : String) : Except TraceError TagLevels :=
  readItems [] (items text)

end TagLevels

/-- The text of one level. -/
def itemText (tag : String) (level : Level) : String :=
  tag ++ "=" ++ level.name

end ControlPlane.Tracing
