/-
This file reads and writes configuration data as JSON. Of several fields of a
record with one name the last one counts, and fields are kept in the order of
their names. A number is a whole one if it is written as one and fits into 64
bits, and a floating-point number otherwise. A list may stand for a record.
-/

import ControlPlane.Config.Data
import ControlPlane.SortedMap
import ControlPlane.Text.Float

namespace ControlPlane.Json

open Text

/-! ### Numbers -/

/-- The digits at the front of a text and what follows them. -/
def splitDigits (input : List Char) : List Nat × List Char :=
  ((input.takeWhile Char.isDigit).map fun letter => letter.toNat - '0'.toNat,
    input.dropWhile Char.isDigit)

/-- The number written by digits. -/
def ofDigits (digits : List Nat) : Nat :=
  digits.foldl (fun number digit => number * 10 + digit) 0

/-- Puts digits behind a significand as long as it fits into 64 bits, and counts those that are
left out. -/
def accumulate : Nat → List Nat → Nat × Nat
  | significand, [] => (significand, 0)
  | significand, digit :: rest =>
    if significand * 10 + digit < 2 ^ 64 then accumulate (significand * 10 + digit) rest
    else (significand, rest.length + 1)

/-- The product of a significand and a power of ten, unless it is too large. Both factors are
rounded before they are multiplied. -/
def scaled? (significand : Nat) (exponent : Int) : Option Float :=
  let number := significand.toUInt64.toFloat
  if significand = 0 then some number
  else if 0 ≤ exponent then
    let product := number * Float.ofScientific 1 false exponent.toNat
    if exponent ≤ 308 && product.isFinite then some product else none
  else if -308 ≤ exponent then some (number / Float.ofScientific 1 false (-exponent).toNat)
  else if -616 ≤ exponent then
    some (number / Float.ofScientific 1 false 308 /
      Float.ofScientific 1 false (-exponent - 308).toNat)
  else some 0

/-- The parts of a written number. -/
structure Numeral where
  isNegative : Bool
  whole : List Nat
  fraction : List Nat
  exponent : Option Int

namespace Numeral

/-- The significand of a number and the exponent of the power of ten it is multiplied by. -/
def significand (numeral : Numeral) : Nat × Int :=
  let exponent := numeral.exponent.getD 0
  let (whole, excess) := accumulate 0 numeral.whole
  if excess ≠ 0 then (whole, exponent + excess)
  else
    let (digits, excess) := accumulate whole numeral.fraction
    (digits, exponent - Int.ofNat (numeral.fraction.length - excess))

def toFloat? (numeral : Numeral) : Option Float :=
  let (significand, exponent) := numeral.significand
  (scaled? significand exponent).map fun magnitude =>
    if numeral.isNegative then -magnitude else magnitude

/-- The data of a number. A negative zero is a floating-point number. -/
def data? (numeral : Numeral) : Option Data :=
  let magnitude := ofDigits numeral.whole
  if numeral.fraction.isEmpty && numeral.exponent.isNone && !numeral.isNegative &&
      magnitude < 2 ^ 64 then
    some (.number magnitude)
  else if numeral.fraction.isEmpty && numeral.exponent.isNone && numeral.isNegative &&
      magnitude ≠ 0 && magnitude ≤ 2 ^ 63 then
    some (.number (-magnitude))
  else numeral.toFloat?.map fun number => .float (floatText number)

end Numeral

/-- Reads the digits behind a point, if there is one. -/
def readFraction? : List Char → Option (List Nat × List Char)
  | '.' :: input =>
    match splitDigits input with
    | ([], _) => none
    | (digits, rest) => some (digits, rest)
  | input => some ([], input)

/-- Reads the digits of an exponent. -/
def readExponentDigits? (sign : Int) (input : List Char) : Option (Option Int × List Char) :=
  match splitDigits input with
  | ([], _) => none
  | (digits, rest) => some (some (sign * Int.ofNat (ofDigits digits)), rest)

/-- Reads an exponent, if there is one. -/
def readExponent? : List Char → Option (Option Int × List Char)
  | letter :: input =>
    if letter = 'e' || letter = 'E' then
      match input with
      | '+' :: rest => readExponentDigits? 1 rest
      | '-' :: rest => readExponentDigits? (-1) rest
      | _ => readExponentDigits? 1 input
    else some (none, letter :: input)
  | [] => some (none, [])

/-- Reads a number without its sign. A zero is not followed by further digits. -/
def readMagnitude? (isNegative : Bool) (input : List Char) : Option (Data × List Char) := do
  let (whole, rest) := splitDigits input
  if whole.isEmpty || (whole.head? = some 0 && 1 < whole.length) then none
  else
    let (fraction, rest) ← readFraction? rest
    let (exponent, rest) ← readExponent? rest
    let data ← (Numeral.mk isNegative whole fraction exponent).data?
    return (data, rest)

def readNumber? : List Char → Option (Data × List Char)
  | '-' :: input => readMagnitude? true input
  | input => readMagnitude? false input

/-! ### Texts -/

/-- The character that an escape of one letter stands for. -/
def escaped? : Char → Option Char
  | '"' => some '"'
  | '\\' => some '\\'
  | '/' => some '/'
  | 'b' => some (Char.ofNat 0x08)
  | 'f' => some (Char.ofNat 0x0C)
  | 'n' => some '\n'
  | 'r' => some '\r'
  | 't' => some '\t'
  | _ => none

/-- Reads the rest of a text up to its closing quote as code points, which may be surrogates. -/
def readPoints? : List Char → Option (List Nat × List Char)
  | [] => none
  | '"' :: rest => some ([], rest)
  | '\\' :: 'u' :: a :: b :: c :: d :: rest =>
    match unsignedValue? 16 [a, b, c, d] with
    | some point => (readPoints? rest).map fun read => (point :: read.1, read.2)
    | none => none
  | '\\' :: letter :: rest =>
    match escaped? letter with
    | some letter => (readPoints? rest).map fun read => (letter.toNat :: read.1, read.2)
    | none => none
  | letter :: rest =>
    if letter.toNat < 0x20 then none
    else (readPoints? rest).map fun read => (letter.toNat :: read.1, read.2)

/-- The characters of code points, where a character may be given by two surrogates. -/
def joinSurrogates? : List Nat → Option (List Char)
  | [] => some []
  | high :: low :: rest =>
    if 0xD800 ≤ high && high < 0xDC00 then
      if 0xDC00 ≤ low && low < 0xE000 then
        (joinSurrogates? rest).map fun letters =>
          Char.ofNat (0x10000 + (high - 0xD800) * 0x400 + (low - 0xDC00)) :: letters
      else none
    else if 0xDC00 ≤ high && high < 0xE000 then none
    else (joinSurrogates? (low :: rest)).map fun letters => Char.ofNat high :: letters
  | [point] => if 0xD800 ≤ point && point < 0xE000 then none else some [Char.ofNat point]

/-- Reads the rest of a text up to its closing quote. -/
def readText? (input : List Char) : Option (String × List Char) := do
  let (points, rest) ← readPoints? input
  let letters ← joinSurrogates? points
  return (String.ofList letters, rest)

/-! ### Reading -/

def isBlank (letter : Char) : Bool :=
  letter = ' ' || letter = '\t' || letter = '\n' || letter = '\r'

def dropBlanks (input : List Char) : List Char :=
  input.dropWhile isBlank

/-- Reads a given word. -/
def readWord? (word : String) (data : Data) (input : List Char) : Option (Data × List Char) :=
  let letters := word.toList
  if input.take letters.length = letters then some (data, input.drop letters.length) else none

/-- Reads a name and the colon behind it. -/
def readName? (input : List Char) : Option (String × List Char) :=
  match dropBlanks input with
  | '"' :: rest =>
    match readText? rest with
    | some (name, rest) =>
      match dropBlanks rest with
      | ':' :: rest => some (name, rest)
      | _ => none
    | none => none
  | _ => none

/-- The record of fields in the order they were read. -/
def record (entries : List (String × Data)) : Data :=
  .fields (SortedMap.ofList entries).entries

mutual

/-- Reads one value. The depth of the value is bounded. -/
def readValue? : Nat → List Char → Option (Data × List Char)
  | 0, _ => none
  | fuel + 1, input =>
    match dropBlanks input with
    | '"' :: rest => (readText? rest).map fun read => (.text read.1, read.2)
    | '[' :: rest =>
      match dropBlanks rest with
      | ']' :: rest => some (.tuple [], rest)
      | _ => readItems? fuel [] rest
    | '\x7b' :: rest =>
      match dropBlanks rest with
      | '\x7d' :: rest => some (.fields [], rest)
      | _ => readEntries? fuel [] rest
    | 'n' :: rest => readWord? "null" .null ('n' :: rest)
    | 't' :: rest => readWord? "true" (.flag true) ('t' :: rest)
    | 'f' :: rest => readWord? "false" (.flag false) ('f' :: rest)
    | rest => readNumber? rest

/-- Reads the items of a list up to its closing bracket. -/
def readItems? : Nat → List Data → List Char → Option (Data × List Char)
  | 0, _, _ => none
  | fuel + 1, items, input =>
    match readValue? fuel input with
    | none => none
    | some (item, rest) =>
      match dropBlanks rest with
      | ',' :: rest => readItems? fuel (item :: items) rest
      | ']' :: rest => some (.tuple (item :: items).reverse, rest)
      | _ => none

/-- Reads the fields of a record up to its closing brace. -/
def readEntries? : Nat → List (String × Data) → List Char → Option (Data × List Char)
  | 0, _, _ => none
  | fuel + 1, entries, input =>
    match readName? input with
    | none => none
    | some (name, rest) =>
      match readValue? fuel rest with
      | none => none
      | some (value, rest) =>
        match dropBlanks rest with
        | ',' :: rest => readEntries? fuel ((name, value) :: entries) rest
        | '\x7d' :: rest => some (record ((name, value) :: entries).reverse, rest)
        | _ => none

end

/-- Reads a text that holds one value. -/
def read? (text : String) : Option Data :=
  let letters := text.toList
  match readValue? (letters.length + 1) letters with
  | some (data, rest) => if (dropBlanks rest).isEmpty then some data else none
  | none => none

/-! ### Writing -/

/-- The letters of a character inside a text. -/
def quoted (letter : Char) : List Char :=
  if letter = '"' then ['\\', '"']
  else if letter = '\\' then ['\\', '\\']
  else if letter = '\n' then ['\\', 'n']
  else if letter = '\r' then ['\\', 'r']
  else if letter = '\t' then ['\\', 't']
  else if letter.toNat = 0x08 then ['\\', 'b']
  else if letter.toNat = 0x0C then ['\\', 'f']
  else if letter.toNat < 0x20 then
    '\\' :: 'u' :: '0' :: '0' :: Nat.digitChar (letter.toNat / 16) ::
      [Nat.digitChar (letter.toNat % 16)]
  else [letter]

def writeText (text : String) : String :=
  "\"" ++ String.ofList (text.toList.flatMap quoted) ++ "\""

mutual

/-- Writes a value on one line without blanks. What has no form of its own is null. -/
def write : Data → String
  | .null | .unreadable => "null"
  | .flag value => if value then "true" else "false"
  | .number (.ofNat value) => decimal value
  | .number (.negSucc value) => "-" ++ decimal (value + 1)
  | .float digits => digits
  | .text value => writeText value
  | .plain letters | .literal letters => writeText (String.ofList letters)
  | .list items | .tuple items => "[" ++ String.intercalate "," (writeItems items) ++ "]"
  | .fields entries => "\x7b" ++ String.intercalate "," (writeEntries entries) ++ "\x7d"
  | .tagged _ data => write data

def writeItems : List Data → List String
  | [] => []
  | item :: rest => write item :: writeItems rest

def writeEntries : List (String × Data) → List String
  | [] => []
  | (name, data) :: rest => (writeText name ++ ":" ++ write data) :: writeEntries rest

end

end ControlPlane.Json
