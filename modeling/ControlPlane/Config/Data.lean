/-
This file defines the data that configurations are written as: scalars, lists
and named fields. A plain scalar is one whose type its reader decides: it is a
text where a text is wanted, and a number, a truth value or nothing where its
letters spell one. A tuple is a list that may also stand for a record, whose
fields it gives in their order. Fields that a reader does not know are ignored,
and a field it knows may not be given twice.
-/

import ControlPlane.Network

namespace ControlPlane

open Text

/-- The data of a configuration. No setting takes a floating-point number, which is kept by its
text, or reads what is unreadable, such as records with fields that have no names. -/
inductive Data
  | null
  | flag (value : Bool)
  | number (value : Int)
  | float (digits : String)
  | text (value : String)
  | plain (letters : List Char)
  | literal (letters : List Char)
  | list (items : List Data)
  | tuple (items : List Data)
  | fields (entries : List (String × Data))
  | tagged (tag : String) (data : Data)
  | unreadable
  deriving Inhabited

namespace Data

/-! ### Plain scalars -/

/-- The words for nothing. -/
def isNullWord (letters : List Char) : Bool :=
  [['~'], ['n', 'u', 'l', 'l'], ['N', 'u', 'l', 'l'], ['N', 'U', 'L', 'L']].contains letters

/-- The spellings of nothing: a word for it, or no letters at all. -/
def isNullSpelling (letters : List Char) : Bool :=
  letters.isEmpty || isNullWord letters

/-- The spellings of truth values. -/
def spelledFlag? (letters : List Char) : Option Bool :=
  if [['t', 'r', 'u', 'e'], ['T', 'r', 'u', 'e'], ['T', 'R', 'U', 'E']].contains letters then
    some true
  else if [['f', 'a', 'l', 's', 'e'], ['F', 'a', 'l', 's', 'e'],
      ['F', 'A', 'L', 'S', 'E']].contains letters then
    some false
  else none

/-- Whether a number is written with a zero in front of further digits, which makes it a text. -/
def hasLeadingZero : List Char → Bool
  | '0' :: second :: rest => (second :: rest).all Char.isDigit
  | _ => false

/-- The whole number that a plain scalar spells: decimal, or hexadecimal, octal or binary after
`0x`, `0o` or `0b`, with an optional plus sign. -/
def spelledNumber? (letters : List Char) : Option Nat :=
  let digits :=
    match letters with
    | '+' :: rest => rest
    | _ => letters
  match digits with
  | '0' :: 'x' :: rest => unsignedValue? 16 rest
  | '0' :: 'o' :: rest => unsignedValue? 8 rest
  | '0' :: 'b' :: rest => unsignedValue? 2 rest
  | _ => if hasLeadingZero digits then none else unsignedValue? 10 digits

/-! ### Tags -/

/-- The tag of a standard type. -/
def standardTag (name : String) : String :=
  "tag:yaml.org,2002:" ++ name

/-- The letters of a scalar of a standard type. A plain scalar may have any tag; a literal one is
of the type only if its tag says so. -/
def typedLetters? (typeName : String) : Data → Option (List Char)
  | plain letters => some letters
  | tagged _ (plain letters) => some letters
  | tagged tag (literal letters) => if tag = standardTag typeName then some letters else none
  | _ => none

/-! ### Reading one value -/

def text? : Data → Option String
  | text value => some value
  | plain letters => some (String.ofList letters)
  | literal letters => some (String.ofList letters)
  | tagged _ data => data.text?
  | _ => none

def flag? : Data → Option Bool
  | flag value => some value
  | data => (data.typedLetters? "bool").bind spelledFlag?

/-- A whole number below a bound. -/
def numberBelow? (bound : Nat) : Data → Option Nat
  | number (.ofNat value) => if value < bound then some value else none
  | data =>
    ((data.typedLetters? "int").bind spelledNumber?).filter fun value => value < bound

def uint8? (data : Data) : Option UInt8 :=
  (data.numberBelow? UInt8.size).map UInt8.ofNat

def uint16? (data : Data) : Option UInt16 :=
  (data.numberBelow? UInt16.size).map UInt16.ofNat

def uint32? (data : Data) : Option UInt32 :=
  (data.numberBelow? UInt32.size).map UInt32.ofNat

/-- Whether a value is given, if that can be told: a plain scalar that spells nothing gives none,
unless it has a tag, and one that is tagged as nothing has to be a word for it. -/
def isGiven? : Data → Option Bool
  | null => some false
  | plain letters => some (!isNullSpelling letters)
  | tagged tag (plain letters) =>
    if tag = standardTag "null" then if isNullWord letters then some false else none
    else some true
  | _ => some true

/-- A value or nothing. -/
def optional? {Value : Type} (read : Data → Option Value) (data : Data) :
    Option (Option Value) :=
  match data.isGiven? with
  | some true => (read data).map some
  | some false => some none
  | none => none

def readAll? {Value : Type} (read : Data → Option Value) : List Data → Option (List Value)
  | [] => some []
  | item :: rest =>
    match read item with
    | some value => (readAll? read rest).map fun values => value :: values
    | none => none

/-- A list of values. An empty plain scalar is an empty list. -/
def list? {Value : Type} (read : Data → Option Value) : Data → Option (List Value)
  | list items => readAll? read items
  | tuple items => readAll? read items
  | plain [] => some []
  | tagged _ data => data.list? read
  | _ => none

/-- The named fields of a record. -/
def fields? : Data → Option (List (String × Data))
  | fields entries => some entries
  | _ => none

/-- The fields of a record that may have the given names in this order. An empty plain scalar is
a record without fields. -/
def record? (names : List String) : Data → Option (List (String × Data))
  | fields entries => some entries
  | tuple items => if items.length ≤ names.length then some (names.zip items) else none
  | plain [] => some []
  | tagged _ data => data.record? names
  | _ => none

/-- The name of one of several choices: a text, a private tag of nothing, or the only field of a
record, which is null. -/
def choice? : Data → Option String
  | fields [(name, null)] => some name
  | tagged tag data =>
    match tag.toList with
    | '!' :: name =>
      match data with
      | plain letters => if isNullSpelling letters then some (String.ofList name) else none
      | _ => none
    | _ => data.text?
  | data => data.text?

/-! ### Reading a field -/

/-- What is given for a field: nothing, or one value. -/
def field? (name : String) (entries : List (String × Data)) : Option (Option Data) :=
  match entries.filter fun entry => entry.1 = name with
  | [] => some none
  | [entry] => some (some entry.2)
  | _ => none

/-- A field that has to be given. -/
def required? {Value : Type} (name : String) (read : Data → Option Value)
    (entries : List (String × Data)) : Option Value :=
  match field? name entries with
  | some (some data) => read data
  | _ => none

/-- A field that stands for a default when it is not given. -/
def given? {Value : Type} (name : String) (read : Data → Option Value) (default : Value)
    (entries : List (String × Data)) : Option Value :=
  match field? name entries with
  | some (some data) => read data
  | some none => some default
  | none => none

/-! ### Writing one value -/

/-- A value, or null for none. -/
def ofOption {Value : Type} (write : Value → Data) : Option Value → Data
  | some value => write value
  | none => null

def ofNat (number : Nat) : Data :=
  .number number

def ofAddress (address : Address) : Data :=
  text address.text

def ofNetwork (network : Network) : Data :=
  text network.text

end Data

end ControlPlane
