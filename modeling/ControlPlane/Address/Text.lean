/-
This file writes addresses and reads them back. Version 4 is written as four
decimal octets. Version 6 is written as hexadecimal groups, where the first of
the longest runs of at least two zero groups is left out, and the address of a
mapped version 4 address ends in its octets.

There are two ways to read an address. The strict one refuses octets with
leading zeros and wants the gap of a version 6 address to stand for at least one
group; the lenient one, used inside networks, accepts both.
-/

import ControlPlane.Address
import ControlPlane.Text.Number

namespace ControlPlane

open Text

/-! ### Writing -/

def IPv4.letters (word : IPv4) : List Char :=
  List.intercalate ['.'] (word.octets.map decimalLetters)

/-- A run of zero groups: where it starts and how long it is. -/
structure ZeroRun where
  start : Nat
  length : Nat

/-- The first of the longest runs of zero groups from a position on. -/
def longestZeroRun (position : Nat) : List Nat → ZeroRun
  | [] => ⟨position, 0⟩
  | group :: groups =>
    let here := ((group :: groups).takeWhile (· == 0)).length
    let later := longestZeroRun (position + 1) groups
    if later.length ≤ here then ⟨position, here⟩ else later

/-- The groups in hexadecimal digits, separated by colons. -/
def groupLetters (groups : List Nat) : List Char :=
  List.intercalate [':'] (groups.map (Nat.toDigits 16))

def IPv6.letters (word : IPv6) : List Char :=
  if word.toNat / 2 ^ 32 = 0xFFFF then
    "::ffff:".toList ++ IPv4.letters (BitVec.ofNat 32 word.toNat)
  else
    let run := longestZeroRun 0 (IPv6.groups word)
    if 2 ≤ run.length then
      groupLetters ((IPv6.groups word).take run.start) ++ [':', ':'] ++
        groupLetters ((IPv6.groups word).drop (run.start + run.length))
    else groupLetters (IPv6.groups word)

namespace Address

def letters : Address → List Char
  | v4 word => IPv4.letters word
  | v6 word => IPv6.letters word

def text (address : Address) : String :=
  String.ofList address.letters

/-! ### Reading -/

/-- What a reader of addresses lets pass. -/
structure Leniency where
  leadingZeros : Bool
  emptyGap : Bool

def Leniency.strict : Leniency := ⟨false, false⟩

def Leniency.lenient : Leniency := ⟨true, true⟩

/-- Reads the run of digits in front, of limited length and below a bound. -/
def readNumber (radix limit bound : Nat) (leadingZeros : Bool) (letters : List Char) :
    Option (Nat × List Char) :=
  let isDigit := fun letter => (digitValue? radix letter).isSome
  let digits := letters.takeWhile isDigit
  if digits.length > limit || (!leadingZeros && digits.length > 1 && digits.head? == some '0') then
    none
  else
    match unsignedValue? radix digits with
    | some value => if value < bound then some (value, letters.dropWhile isDigit) else none
    | none => none

def readOctet (leniency : Leniency) : List Char → Option (Nat × List Char) :=
  readNumber 10 3 256 leniency.leadingZeros

def readGroup : List Char → Option (Nat × List Char) :=
  readNumber 16 4 65536 true

/-- Reads as many octets as asked for, each after a dot. -/
def readDottedOctets (leniency : Leniency) : Nat → List Char → Option (List Nat × List Char)
  | 0, letters => some ([], letters)
  | count + 1, letters =>
    match letters with
    | '.' :: rest =>
      match readOctet leniency rest with
      | some (octet, rest) =>
        match readDottedOctets leniency count rest with
        | some (octets, rest) => some (octet :: octets, rest)
        | none => none
      | none => none
    | _ => none

/-- Reads an address of version 4 in front of a text. -/
def readIPv4 (leniency : Leniency) (letters : List Char) : Option (IPv4 × List Char) :=
  match readOctet leniency letters with
  | some (octet, rest) =>
    match readDottedOctets leniency 3 rest with
    | some (octets, rest) => some (IPv4.ofOctets (octet :: octets), rest)
    | none => none
  | none => none

/-- The groups read so far, whether they end in an address of version 4, and the rest. -/
structure GroupRun where
  groups : List Nat
  endsDotted : Bool
  rest : List Char

/-- Drops the colon in front of every group but the first. -/
def afterSeparator? (first : Bool) (letters : List Char) : Option (List Char) :=
  if first then some letters
  else
    match letters with
    | ':' :: rest => some rest
    | _ => none

/-- Reads groups while there are some, at most as many as asked for. Where two groups still
fit, an address of version 4 is read before a group. -/
def readGroups (leniency : Leniency) : Nat → Bool → List Char → GroupRun
  | 0, _, letters => ⟨[], false, letters⟩
  | count + 1, first, letters =>
    match afterSeparator? first letters with
    | none => ⟨[], false, letters⟩
    | some start =>
      match if count = 0 then none else readIPv4 leniency start with
      | some (word, rest) => ⟨[word.toNat / 65536, word.toNat % 65536], true, rest⟩
      | none =>
        match readGroup start with
        | some (group, rest) =>
          let later := readGroups leniency count false rest
          ⟨group :: later.groups, later.endsDotted, later.rest⟩
        | none => ⟨[], false, letters⟩

/-- Reads an address of version 6 in front of a text. -/
def readIPv6 (leniency : Leniency) (letters : List Char) : Option (IPv6 × List Char) :=
  let front := readGroups leniency 8 true letters
  if front.groups.length = 8 then some (IPv6.ofGroups front.groups, front.rest)
  else if front.endsDotted then none
  else
    match front.rest with
    | ':' :: ':' :: rest =>
      let room := 8 - front.groups.length - if leniency.emptyGap then 0 else 1
      let back := readGroups leniency room true rest
      let gap := List.replicate (8 - front.groups.length - back.groups.length) 0
      some (IPv6.ofGroups (front.groups ++ gap ++ back.groups), back.rest)
    | _ => none

/-- Reads an address of either family in front of a text, version 4 first. -/
def read (leniency : Leniency) (letters : List Char) : Option (Address × List Char) :=
  match readIPv4 leniency letters with
  | some (word, rest) => some (v4 word, rest)
  | none => (readIPv6 leniency letters).map fun (word, rest) => (v6 word, rest)

/-- Reads a whole text as an address, strictly. -/
def ofLetters? (letters : List Char) : Option Address :=
  match readIPv4 .strict letters with
  | some (word, []) => some (v4 word)
  | some _ => none
  | none =>
    match readIPv6 .strict letters with
    | some (word, []) => some (v6 word)
    | _ => none

def ofText? (text : String) : Option Address :=
  ofLetters? text.toList

end Address

/-- Reads a whole text as an address of version 4, strictly. -/
def IPv4.ofText? (text : String) : Option IPv4 :=
  match Address.readIPv4 .strict text.toList with
  | some (word, []) => some word
  | _ => none

def IPv4.text (word : IPv4) : String :=
  String.ofList (IPv4.letters word)

end ControlPlane
