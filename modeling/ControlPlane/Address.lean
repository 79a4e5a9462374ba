/-
This file defines the addresses of the two families of the internet protocol as
words of 32 and 128 bits, their octets and groups, and the operation that keeps
the leading bits of an address and clears the others.
-/

import ControlPlane.Order

namespace ControlPlane

/-- An address of version 4. -/
abbrev IPv4 : Type := BitVec 32

/-- An address of version 6. -/
abbrev IPv6 : Type := BitVec 128

/-- The family of an address, of a route or of a table. -/
inductive Family
  | ipv4
  | ipv6
  deriving DecidableEq

namespace Family

/-- The number of bits of an address. -/
def width : Family → Nat
  | ipv4 => 32
  | ipv6 => 128

def name : Family → String
  | ipv4 => "ipv4"
  | ipv6 => "ipv6"

/-- The place of a family in the order of addresses. -/
def rank : Family → Nat
  | ipv4 => 0
  | ipv6 => 1

theorem rank_injective {first second : Family} (same : first.rank = second.rank) :
    first = second := by
  cases first <;> cases second <;> first | rfl | cases same

end Family

/-- An address of either family. -/
inductive Address
  | v4 (word : IPv4)
  | v6 (word : IPv6)
  deriving DecidableEq

namespace Address

def family : Address → Family
  | v4 _ => .ipv4
  | v6 _ => .ipv6

/-- The bits of an address read as a number. -/
def value : Address → Nat
  | v4 word => word.toNat
  | v6 word => word.toNat

/-- The address of a family with the given bits; bits beyond its width are dropped. -/
def ofValue (family : Family) (value : Nat) : Address :=
  match family with
  | .ipv4 => v4 (BitVec.ofNat 32 value)
  | .ipv6 => v6 (BitVec.ofNat 128 value)

@[simp]
theorem family_ofValue (family : Family) (value : Nat) :
    (ofValue family value).family = family := by
  cases family <;> rfl

@[simp]
theorem value_ofValue (family : Family) (value : Nat) :
    (ofValue family value).value = value % 2 ^ family.width := by
  cases family <;> rfl

theorem value_lt (address : Address) : address.value < 2 ^ address.family.width := by
  cases address with
  | v4 word => exact word.isLt
  | v6 word => exact word.isLt

/-- An address is known by its family and its value. -/
theorem eq_of_value_eq {first second : Address} (sameFamily : first.family = second.family)
    (sameValue : first.value = second.value) : first = second := by
  cases first with
  | v4 word =>
    cases second with
    | v4 word' => exact congrArg v4 (BitVec.eq_of_toNat_eq sameValue)
    | v6 word' => cases sameFamily
  | v6 word =>
    cases second with
    | v4 word' => cases sameFamily
    | v6 word' => exact congrArg v6 (BitVec.eq_of_toNat_eq sameValue)

/-- Addresses are ordered by family, version 4 first, and then by value. -/
instance : OrderKey Address where
  code address := [address.family.rank, address.value]
  split_code same := by
    simp only [List.cons_append, List.nil_append, List.cons.injEq] at same
    exact ⟨eq_of_value_eq (Family.rank_injective same.1) same.2.1, same.2.2⟩

/-- The address with all bits after the first `length` ones cleared. -/
def truncate (length : Nat) (address : Address) : Address :=
  let span := 2 ^ (address.family.width - length)
  ofValue address.family (address.value / span * span)

def isIPv4 (address : Address) : Bool :=
  address.family = .ipv4

/-- The lowest address of a family, which stands for no address at all. -/
def unspecified (family : Family) : Address :=
  ofValue family 0

end Address

/-- The address of version 4 with the given octets. -/
def IPv4.ofOctets (octets : List Nat) : IPv4 :=
  BitVec.ofNat 32 (octets.foldl (fun value octet => value * 256 + octet) 0)

/-- The four octets of an address of version 4. -/
def IPv4.octets (word : IPv4) : List Nat :=
  [word.toNat / 2 ^ 24, word.toNat / 2 ^ 16 % 256, word.toNat / 2 ^ 8 % 256, word.toNat % 256]

/-- The address of version 6 with the given groups of 16 bits. -/
def IPv6.ofGroups (groups : List Nat) : IPv6 :=
  BitVec.ofNat 128 (groups.foldl (fun value group => value * 65536 + group) 0)

/-- The eight groups of 16 bits of an address of version 6. -/
def IPv6.groups (word : IPv6) : List Nat :=
  [7, 6, 5, 4, 3, 2, 1, 0].map fun place => word.toNat / 2 ^ (16 * place) % 65536

end ControlPlane
