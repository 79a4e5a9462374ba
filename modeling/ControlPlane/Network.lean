/-
This file defines networks and prefixes. A network is an address with a mask
length, and the bits behind the mask may be set: it says both where a host is
and which subnet it is in. A prefix is a network whose bits behind the mask are
clear, so that two prefixes are equal exactly when they cover the same addresses
at the same length.
-/

import ControlPlane.Address.Text

namespace ControlPlane

open Text

/-! ### Networks -/

/-- An address with a mask length that fits its family. -/
structure Network where
  address : Address
  length : Nat
  length_le : length ≤ address.family.width
  deriving DecidableEq

namespace Network

def family (network : Network) : Family :=
  network.address.family

/-- The first address of the subnet. -/
def base (network : Network) : Address :=
  network.address.truncate network.length

/-- Whether an address lies in the subnet. -/
def covers (network : Network) (address : Address) : Bool :=
  address.family = network.family ∧ address.truncate network.length = network.base

/-- Networks are ordered by address and then by length. -/
instance : OrderKey Network where
  code network := OrderKey.code network.address ++ [network.length]
  split_code {first second rest rest'} same := by
    rw [List.append_assoc, List.append_assoc] at same
    have addresses := OrderKey.split_code same
    have lengths := List.cons.inj addresses.2
    refine ⟨?_, lengths.2⟩
    cases first
    cases second
    cases addresses.1
    cases lengths.1
    rfl

def letters (network : Network) : List Char :=
  network.address.letters ++ '/' :: decimalLetters network.length

def text (network : Network) : String :=
  String.ofList network.letters

/-- The network of an address and a mask length, if the length fits the family. -/
def ofLength? (address : Address) (length : Nat) : Option Network :=
  if length_le : length ≤ address.family.width then some ⟨address, length, length_le⟩ else none

/-- The number of digits a mask length may have. -/
def lengthDigits : Family → Nat
  | .ipv4 => 2
  | .ipv6 => 3

/-- Reads a mask length up to the end of a text. -/
def ofLengthLetters? (address : Address) (letters : List Char) : Option Network :=
  match letters with
  | '/' :: rest =>
    match Address.readNumber 10 (lengthDigits address.family) (address.family.width + 1) true rest
      with
    | some (length, []) => ofLength? address length
    | _ => none
  | _ => none

/-- Reads a whole text as an address, leniently, with a mask length. -/
def ofLetters? (letters : List Char) : Option Network :=
  match Address.read .lenient letters with
  | some (address, rest) => ofLengthLetters? address rest
  | none => none

def ofText? (text : String) : Option Network :=
  ofLetters? text.toList

end Network

/-! ### Truncation -/

namespace Address

theorem family_truncate (length : Nat) (address : Address) :
    (address.truncate length).family = address.family := by
  simp [truncate]

theorem value_truncate (length : Nat) (address : Address) :
    (address.truncate length).value =
      address.value / 2 ^ (address.family.width - length) *
        2 ^ (address.family.width - length) := by
  simp only [truncate, value_ofValue]
  exact Nat.mod_eq_of_lt (Nat.lt_of_le_of_lt (Nat.div_mul_le_self _ _) address.value_lt)

theorem truncate_truncate (length : Nat) (address : Address) :
    (address.truncate length).truncate length = address.truncate length := by
  refine eq_of_value_eq (family_truncate _ _) ?_
  rw [value_truncate, family_truncate, value_truncate,
    Nat.mul_div_cancel _ (Nat.two_pow_pos _)]

end Address

/-! ### Prefixes -/

/-- A network whose address has no bits behind the mask. -/
structure Prefix where
  network : Network
  canonical : network.address.truncate network.length = network.address
  deriving DecidableEq

/-- Why a prefix could not be made. -/
inductive PrefixError
  | malformed (text : String)
  | badLength (length : Nat)
  deriving DecidableEq

def PrefixError.message : PrefixError → String
  | malformed text => "Invalid prefix: " ++ text
  | badLength length => "Mask length " ++ decimal length ++ " is invalid"

namespace Prefix

/-- The subnet of a network. -/
def ofNetwork (network : Network) : Prefix where
  network :=
    { address := network.base
      length := network.length
      length_le := Nat.le_trans network.length_le
        (Nat.le_of_eq (congrArg Family.width (Address.family_truncate _ _)).symm) }
  canonical := Address.truncate_truncate _ _

/-- The prefix of an address and a mask length. -/
def make (address : Address) (length : Nat) : Except PrefixError Prefix :=
  match Network.ofLength? address length with
  | some network => .ok (ofNetwork network)
  | none => .error (.badLength length)

/-- The prefix that covers one address. -/
def host (address : Address) : Prefix :=
  ofNetwork ⟨address, address.family.width, Nat.le_refl _⟩

/-- The prefix that covers a family. -/
def root (family : Family) : Prefix :=
  ofNetwork ⟨Address.unspecified family, 0, Nat.zero_le _⟩

def family (destination : Prefix) : Family :=
  destination.network.family

def address (destination : Prefix) : Address :=
  destination.network.address

def length (destination : Prefix) : Nat :=
  destination.network.length

def isRoot (destination : Prefix) : Bool :=
  destination.length = 0

def isHost (destination : Prefix) : Bool :=
  destination.length = destination.family.width

def covers (destination : Prefix) (address : Address) : Bool :=
  destination.network.covers address

def text (destination : Prefix) : String :=
  destination.network.text

def ofText (text : String) : Except PrefixError Prefix :=
  match Network.ofText? text with
  | some network => .ok (ofNetwork network)
  | none => .error (.malformed text)

instance : OrderKey Prefix where
  code destination := OrderKey.code destination.network
  split_code {first second rest rest'} same := by
    have networks := OrderKey.split_code same
    refine ⟨?_, networks.2⟩
    cases first
    cases second
    cases networks.1
    rfl

end Prefix

end ControlPlane
