/-
This file proves that prefixes are canonical, whatever library of networks they
rest on. A prefix is a network of the library that was cut to its length, and all
that is known of the library is what it documents: a network has an address and a
length that fits it, its masks have the leading or the other bits set, its first
and its last address are made with the masks, and it contains the addresses
between them. This settles the bits of everything: cutting keeps the leading bits,
and the addresses between the first and the last one are those with the same
leading bits. So networks of such a library are the networks of this project, and
what is known of these holds of them.
-/

import ControlPlane.Proofs.Address.Text
import ControlPlane.Proofs.Prefix

namespace ControlPlane

/-! ### Libraries -/

/-- A library of networks, which are addresses with a mask length. -/
structure NetworkLibrary where
  Net : Type
  make? : Address → Nat → Option Net
  host : Address → Net
  address : Net → Address
  length : Net → Nat
  netmask : Net → Address
  hostmask : Net → Address
  first : Net → Address
  last : Net → Address
  cut : Net → Net
  contains : Net → Address → Bool
  read : String → Option Net
  write : Net → String

namespace NetworkLibrary

/-- The family of the address of a network. -/
def family (library : NetworkLibrary) (net : library.Net) : Family :=
  (library.address net).family

/-- The number of bits behind the mask of a network. -/
def rest (library : NetworkLibrary) (net : library.Net) : Nat :=
  (library.family net).width - library.length net

/-- What a library of networks documents. A network is known by its address and its length, which
fits the family. The netmask has as many leading bits as the length says, and the hostmask has the
others. They make the first address of the network, which is that of the network that was cut, and
the last one. What a network is written as is read as this network. -/
structure IsFaithful (library : NetworkLibrary) : Prop where
  length_le : ∀ net, library.length net ≤ (library.family net).width
  eq_of_parts : ∀ net other, library.address net = library.address other →
    library.length net = library.length other → net = other
  make?_of_le : ∀ address length, length ≤ address.family.width →
    ∃ net, library.make? address length = some net ∧ library.address net = address ∧
      library.length net = length
  make?_of_not_le : ∀ address length, ¬ length ≤ address.family.width →
    library.make? address length = none
  address_host : ∀ address, library.address (library.host address) = address
  length_host : ∀ address, library.length (library.host address) = address.family.width
  testBit_netmask : ∀ net place, place < (library.family net).width →
    (library.netmask net).value.testBit place = decide (library.rest net ≤ place)
  testBit_hostmask : ∀ net place, (library.hostmask net).value.testBit place =
    decide (place < library.rest net)
  family_first : ∀ net, (library.first net).family = library.family net
  value_first : ∀ net, (library.first net).value =
    (library.address net).value &&& (library.netmask net).value
  value_last : ∀ net, (library.last net).value =
    (library.address net).value ||| (library.hostmask net).value
  address_cut : ∀ net, library.address (library.cut net) = library.first net
  length_cut : ∀ net, library.length (library.cut net) = library.length net
  contains_iff : ∀ net address, address.family = library.family net →
    (library.contains net address = true ↔
      (library.first net).value ≤ address.value ∧ address.value ≤ (library.last net).value)
  read_write : ∀ net, library.read (library.write net) = some net

end NetworkLibrary

/-! ### Prefixes over a library -/

/-- A prefix is a network of the library. -/
@[ext]
structure PrefixOver (library : NetworkLibrary) where
  net : library.Net

namespace PrefixOver

variable {library : NetworkLibrary}

/-- The prefix of a network: the bits behind the mask are cut. -/
def ofNet (net : library.Net) : PrefixOver library :=
  ⟨library.cut net⟩

/-- The prefix of an address and a mask length. -/
def make (library : NetworkLibrary) (address : Address) (length : Nat) :
    Except PrefixError (PrefixOver library) :=
  match library.make? address length with
  | some net => .ok (ofNet net)
  | none => .error (.badLength length)

/-- The prefix of one address. -/
def host (library : NetworkLibrary) (address : Address) : PrefixOver library :=
  ⟨library.host address⟩

def family (destination : PrefixOver library) : Family :=
  library.family destination.net

def address (destination : PrefixOver library) : Address :=
  library.first destination.net

def length (destination : PrefixOver library) : Nat :=
  library.length destination.net

/-- Whether a prefix covers an address: no address of the other family. -/
def covers (destination : PrefixOver library) (address : Address) : Bool :=
  address.family = destination.family && library.contains destination.net address

def text (destination : PrefixOver library) : String :=
  library.write destination.net

def ofText (library : NetworkLibrary) (text : String) :
    Except PrefixError (PrefixOver library) :=
  match library.read text with
  | some net => .ok (ofNet net)
  | none => .error (.malformed text)

end PrefixOver

/-! ### Masks -/

/-- To set all low bits of a number is to clear them and to add them all. -/
theorem or_two_pow_sub_one (value rest : Nat) :
    value ||| (2 ^ rest - 1) = value / 2 ^ rest * 2 ^ rest + (2 ^ rest - 1) := by
  have small : 2 ^ rest - 1 < 2 ^ rest := Nat.sub_lt (Nat.two_pow_pos _) Nat.one_pos
  rw [Nat.mul_comm, Nat.two_pow_add_eq_or_of_lt small]
  refine Nat.eq_of_testBit_eq fun place => ?_
  rw [Nat.testBit_or, Nat.testBit_or, Nat.testBit_two_pow_sub_one, Nat.testBit_two_pow_mul]
  by_cases low : place < rest
  · rw [decide_eq_true low, Bool.or_true, Bool.or_true]
  · rw [decide_eq_false low, Bool.or_false, Bool.or_false, decide_eq_true (Nat.not_lt.1 low),
      Bool.true_and, Nat.testBit_div_two_pow, Nat.sub_add_cancel (Nat.not_lt.1 low)]

namespace Address

/-- A mask of leading bits cuts an address. -/
theorem value_and_mask {address : Address} {length mask : Nat}
    (isMask : ∀ place, place < address.family.width →
      mask.testBit place = decide (address.family.width - length ≤ place)) :
    address.value &&& mask = (address.truncate length).value := by
  refine Nat.eq_of_testBit_eq fun place => ?_
  rw [Nat.testBit_and, testBit_value_truncate]
  by_cases inside : place < address.family.width
  · rw [isMask place inside, Bool.and_comm]
  · have beyond : address.value.testBit place = false :=
      Nat.testBit_lt_two_pow (Nat.lt_of_lt_of_le address.value_lt
        (Nat.pow_le_pow_right Nat.two_pos (Nat.not_lt.1 inside)))
    rw [beyond, Bool.false_and, Bool.and_false]

/-- The addresses that are cut to the first one of a network are those from it to the last one. -/
theorem truncate_eq_iff {first last address : Address} {length : Nat}
    (sameFamily : address.family = first.family) (isCut : first.truncate length = first)
    (last_eq : last.value = first.value + (2 ^ (first.family.width - length) - 1)) :
    address.truncate length = first ↔
      first.value ≤ address.value ∧ address.value ≤ last.value := by
  have aligned : first.value % 2 ^ (address.family.width - length) = 0 := by
    rw [sameFamily, ← isCut, value_truncate, family_truncate]
    exact Nat.mul_mod_left _ _
  have within : address.value ≤ last.value ↔
      address.value < first.value + 2 ^ (address.family.width - length) := by
    have positive := Nat.two_pow_pos (first.family.width - length)
    rw [last_eq, sameFamily]
    omega
  rw [within, ← value_truncate_eq_iff aligned]
  refine ⟨congrArg value, eq_of_value_eq ?_⟩
  rw [family_truncate, sameFamily]

end Address

namespace NetworkLibrary.IsFaithful

variable {library : NetworkLibrary} (isFaithful : library.IsFaithful)

include isFaithful

/-- The network of the same address and length. -/
def toNetwork (net : library.Net) : Network :=
  ⟨library.address net, library.length net, isFaithful.length_le net⟩

/-- The first address of a network is its address, cut to the length. -/
theorem first_eq (net : library.Net) :
    library.first net = (library.address net).truncate (library.length net) := by
  refine Address.eq_of_value_eq ?_ ?_
  · rw [isFaithful.family_first, Address.family_truncate, family]
  · rw [isFaithful.value_first]
    exact Address.value_and_mask (isFaithful.testBit_netmask net)

theorem value_hostmask (net : library.Net) :
    (library.hostmask net).value = 2 ^ library.rest net - 1 :=
  Nat.eq_of_testBit_eq fun place => by
    rw [isFaithful.testBit_hostmask, Nat.testBit_two_pow_sub_one]

/-- The last address is as far behind the first one as the bits behind the mask reach. -/
theorem value_last_eq (net : library.Net) :
    (library.last net).value = (library.first net).value + (2 ^ library.rest net - 1) := by
  rw [isFaithful.value_last, isFaithful.value_hostmask, or_two_pow_sub_one, isFaithful.first_eq,
    Address.value_truncate]
  rfl

/-- A network contains the addresses of its family with its leading bits. -/
theorem contains_eq_true_iff {net : library.Net} {address : Address}
    (sameFamily : address.family = library.family net) :
    library.contains net address = true ↔
      address.truncate (library.length net) = library.first net := by
  have sameFirst : address.family = (library.first net).family := by
    rw [isFaithful.family_first, sameFamily]
  have isCut : (library.first net).truncate (library.length net) = library.first net := by
    rw [isFaithful.first_eq, Address.truncate_truncate]
  have last_eq := isFaithful.value_last_eq net
  rw [NetworkLibrary.rest, ← isFaithful.family_first] at last_eq
  rw [isFaithful.contains_iff net address sameFamily]
  exact (Address.truncate_eq_iff sameFirst isCut last_eq).symm

end NetworkLibrary.IsFaithful

/-! ### Prefixes are those of this project -/

namespace PrefixOver

variable {library : NetworkLibrary} (isFaithful : library.IsFaithful)
  {destination made : PrefixOver library}

/-- The prefix with the same leading bits. -/
def toPrefix (destination : PrefixOver library) : Prefix :=
  .ofNetwork (isFaithful.toNetwork destination.net)

theorem covers_eq (destination : PrefixOver library) (address : Address) :
    destination.covers address = (destination.toPrefix isFaithful).covers address := by
  have family : (destination.toPrefix isFaithful).family = destination.family :=
    Address.family_truncate _ _
  have base : (destination.toPrefix isFaithful).address = library.first destination.net :=
    (isFaithful.first_eq destination.net).symm
  refine Bool.eq_iff_iff.2 ?_
  rw [covers, Bool.and_eq_true, decide_eq_true_iff, Prefix.covers_iff, family, base]
  exact and_congr_right fun sameFamily => isFaithful.contains_eq_true_iff sameFamily

section Making

include isFaithful

/-- A prefix is made of the address, cut to the length, where the length fits the family. -/
theorem make_eq_ok_iff {address : Address} {length : Nat} :
    make library address length = .ok made ↔ length ≤ address.family.width ∧
      library.address made.net = address.truncate length ∧ made.length = length := by
  by_cases fits : length ≤ address.family.width
  · obtain ⟨net, makes, sameAddress, sameLength⟩ := isFaithful.make?_of_le address length fits
    have cutAddress : library.address (library.cut net) = address.truncate length := by
      rw [isFaithful.address_cut, isFaithful.first_eq, sameAddress, sameLength]
    have cutLength : library.length (library.cut net) = length := by
      rw [isFaithful.length_cut, sameLength]
    rw [make, makes]
    constructor
    · rintro same
      cases same
      exact ⟨fits, cutAddress, cutLength⟩
    · rintro ⟨-, isAddress, isLength⟩
      refine congrArg Except.ok (PrefixOver.ext (isFaithful.eq_of_parts _ _ ?_ ?_))
      · exact cutAddress.trans isAddress.symm
      · exact cutLength.trans isLength.symm
  · rw [make, isFaithful.make?_of_not_le address length fits]
    exact ⟨nofun, fun known => absurd known.1 fits⟩

/-- The address of a prefix is the one of its network, of which nothing is left to be cut. -/
theorem address_eq_of_make {address : Address} {length : Nat}
    (makes : make library address length = .ok made) :
    made.address = address.truncate length := by
  obtain ⟨-, sameAddress, sameLength⟩ := (make_eq_ok_iff isFaithful).1 makes
  rw [PrefixOver.address, isFaithful.first_eq, sameAddress]
  show (address.truncate length).truncate made.length = _
  rw [sameLength, Address.truncate_truncate]

/-- The prefix of one address is made at the full length. -/
theorem make_width (address : Address) :
    make library address address.family.width = .ok (host library address) := by
  refine (make_eq_ok_iff isFaithful).2 ⟨Nat.le_refl _, ?_, isFaithful.length_host address⟩
  exact (isFaithful.address_host address).trans (Prefix.address_host address).symm

/-- What a prefix that was made is written as is read as this prefix. -/
theorem ofText_text_of_make {address : Address} {length : Nat}
    (makes : make library address length = .ok made) :
    ofText library made.text = .ok made := by
  obtain ⟨-, sameAddress, -⟩ := (make_eq_ok_iff isFaithful).1 makes
  have cut : library.cut made.net = made.net := by
    refine isFaithful.eq_of_parts _ _ ?_ (isFaithful.length_cut _)
    rw [isFaithful.address_cut, sameAddress]
    exact address_eq_of_make isFaithful makes
  rw [ofText, text, isFaithful.read_write]
  exact congrArg Except.ok (PrefixOver.ext cut)

/-- Of two prefixes that cover an address, the shorter one covers all that the longer one
covers. -/
theorem covers_of_covers {shorter longer : PrefixOver library}
    (le : shorter.length ≤ longer.length) {common address : Address}
    (shorterCovers : shorter.covers common = true) (longerCovers : longer.covers common = true)
    (covers : longer.covers address = true) : shorter.covers address = true := by
  rw [covers_eq isFaithful] at shorterCovers longerCovers covers ⊢
  have sameLe : (shorter.toPrefix isFaithful).length ≤ (longer.toPrefix isFaithful).length := le
  exact Prefix.covers_of_covers sameLe shorterCovers longerCovers covers

end Making

/-! ### The theorem -/

/-- What a prefix made of an address and a length is: it has the family and the length, the
leading bits of the address and no other bits, is made of its own address as well, and covers
exactly the addresses of its family that give the same prefix, which are those from its own
address to the last one with its leading bits. -/
structure IsMadeOf (made : PrefixOver library) (address : Address) (length : Nat) : Prop where
  family_eq : made.family = address.family
  length_eq : made.length = length
  leading : ∀ place, address.family.width - length ≤ place →
    made.address.value.testBit place = address.value.testBit place
  clear : ∀ place, place < address.family.width - length →
    made.address.value.testBit place = false
  make_address : make library made.address length = .ok made
  covers_iff : ∀ other, made.covers other = true ↔
    other.family = address.family ∧ make library other length = .ok made
  covers_iff_le : ∀ other, made.covers other = true ↔
    other.family = address.family ∧ made.address.value ≤ other.value ∧
      other.value < made.address.value + 2 ^ (address.family.width - length)

include isFaithful in
theorem isMadeOf_of_make {address : Address} {length : Nat}
    (makes : make library address length = .ok made) : made.IsMadeOf address length := by
  obtain ⟨fits, sameAddress, rfl⟩ := (make_eq_ok_iff isFaithful).1 makes
  have isCut := address_eq_of_make isFaithful makes
  have family : made.family = address.family := by
    rw [PrefixOver.family, NetworkLibrary.family, sameAddress, Address.family_truncate]
  refine ⟨family, rfl, fun place leading => ?_, fun place behind => ?_, ?_, fun other => ?_,
    fun other => ?_⟩
  · rw [isCut, Address.testBit_value_truncate, decide_eq_true leading, Bool.true_and]
  · rw [isCut, Address.testBit_value_truncate, decide_eq_false (Nat.not_le.2 behind),
      Bool.false_and]
  · refine (make_eq_ok_iff isFaithful).2 ⟨?_, ?_, rfl⟩
    · rwa [isCut, Address.family_truncate]
    · rw [sameAddress, isCut, Address.truncate_truncate]
  · rw [covers, Bool.and_eq_true, decide_eq_true_iff, family, make_eq_ok_iff isFaithful]
    refine and_congr_right fun sameFamily => ?_
    rw [isFaithful.contains_eq_true_iff (sameFamily.trans family.symm), sameFamily, sameAddress]
    refine ⟨fun same => ⟨fits, ?_, rfl⟩, fun same => ?_⟩
    · rw [← isCut]
      exact same.symm
    · exact same.2.1.symm.trans isCut.symm
  · rw [covers, Bool.and_eq_true, decide_eq_true_iff, ← family]
    refine and_congr_right fun sameFamily => ?_
    have positive := Nat.two_pow_pos (library.rest made.net)
    have last := isFaithful.value_last_eq made.net
    rw [isFaithful.contains_iff made.net other sameFamily]
    refine and_congr_right fun _ => ?_
    rw [last]
    show _ ↔ other.value < (library.first made.net).value + 2 ^ library.rest made.net
    omega

/-- Over any library, prefixes are canonical: a prefix can be made at every length that fits the
family, and at no other one, and of two prefixes with an address in common the shorter one covers
all that the longer one covers. -/
theorem isCanonical_of_isFaithful {library : NetworkLibrary} (isFaithful : library.IsFaithful) :
    (∀ address length, length ≤ address.family.width →
      ∃ made, make library address length = .ok made ∧ made.IsMadeOf address length) ∧
    (∀ address length, ¬ length ≤ address.family.width →
      make library address length = .error (.badLength length)) ∧
    ∀ shorter longer : PrefixOver library, shorter.length ≤ longer.length →
      ∀ common, shorter.covers common = true → longer.covers common = true →
        ∀ address, longer.covers address = true → shorter.covers address = true := by
  refine ⟨fun address length fits => ?_, fun address length unfit => ?_,
    fun _ _ le _ shorterCovers longerCovers _ =>
      covers_of_covers isFaithful le shorterCovers longerCovers⟩
  · obtain ⟨net, made, -, -⟩ := isFaithful.make?_of_le address length fits
    have makes : make library address length = .ok (ofNet net) := by rw [make, made]
    exact ⟨_, makes, isMadeOf_of_make isFaithful makes⟩
  · rw [make, isFaithful.make?_of_not_le address length unfit]

end PrefixOver

/-! ### The library of this project -/

namespace Network

/-- The address of the family of a network whose bits behind the mask are set. -/
def hostmask (network : Network) : Address :=
  .ofValue network.family (2 ^ (network.family.width - network.length) - 1)

/-- The address of the family of a network whose leading bits are set. -/
def netmask (network : Network) : Address :=
  .ofValue network.family
    (2 ^ network.family.width - 2 ^ (network.family.width - network.length))

/-- The last address of a network. -/
def last (network : Network) : Address :=
  .ofValue network.family (network.address.value ||| network.hostmask.value)

/-- The networks of this project as a library. -/
def library : NetworkLibrary where
  Net := Network
  make? := ofLength?
  host address := (Prefix.host address).network
  address := Network.address
  length := Network.length
  netmask := netmask
  hostmask := hostmask
  first := base
  last := last
  cut network := (Prefix.ofNetwork network).network
  contains := covers
  read := ofText?
  write := text

theorem value_hostmask (network : Network) :
    network.hostmask.value = 2 ^ (network.family.width - network.length) - 1 := by
  rw [hostmask, Address.value_ofValue]
  refine Nat.mod_eq_of_lt (Nat.lt_of_lt_of_le (Nat.sub_lt (Nat.two_pow_pos _) Nat.one_pos) ?_)
  exact Nat.pow_le_pow_right Nat.two_pos (Nat.sub_le _ _)

theorem testBit_netmask (network : Network) (place : Nat)
    (inside : place < network.family.width) :
    network.netmask.value.testBit place =
      decide (network.family.width - network.length ≤ place) := by
  have positive := Nat.two_pow_pos (network.family.width - network.length)
  have small : 2 ^ (network.family.width - network.length) - 1 < 2 ^ network.family.width :=
    Nat.lt_of_lt_of_le (Nat.sub_lt positive Nat.one_pos)
      (Nat.pow_le_pow_right Nat.two_pos (Nat.sub_le _ _))
  rw [netmask, Address.value_ofValue,
    Nat.mod_eq_of_lt (Nat.sub_lt (Nat.two_pow_pos network.family.width) positive)]
  have split : 2 ^ (network.family.width - network.length) =
      2 ^ (network.family.width - network.length) - 1 + 1 := (Nat.sub_add_cancel positive).symm
  rw [split, Nat.testBit_two_pow_sub_succ small, Nat.testBit_two_pow_sub_one,
    decide_eq_true inside, Bool.true_and, ← decide_not]
  exact decide_eq_decide.2 Nat.not_lt

theorem value_last (network : Network) :
    network.last.value = network.address.value ||| network.hostmask.value := by
  have small : network.hostmask.value < 2 ^ network.family.width := by
    have bound := network.hostmask.value_lt
    rwa [hostmask, Address.family_ofValue] at bound
  rw [last, Address.value_ofValue]
  exact Nat.mod_eq_of_lt (Nat.or_lt_two_pow network.address.value_lt small)

/-- A network covers the addresses of its family between its first and its last one. -/
theorem covers_iff_between (network : Network) {address : Address}
    (sameFamily : address.family = network.family) :
    network.covers address = true ↔
      network.base.value ≤ address.value ∧ address.value ≤ network.last.value := by
  have sameBase : network.base.family = network.family := Address.family_truncate _ _
  have last_eq : network.last.value = network.base.value +
      (2 ^ (network.base.family.width - network.length) - 1) := by
    rw [value_last, value_hostmask, or_two_pow_sub_one, sameBase, base, Address.value_truncate]
    rfl
  rw [← Address.truncate_eq_iff (sameFamily.trans sameBase.symm) (Address.truncate_truncate _ _)
    last_eq, covers, decide_eq_true_iff]
  exact and_iff_right sameFamily

theorem isFaithful_library : library.IsFaithful where
  length_le net := net.length_le
  eq_of_parts := by
    rintro ⟨address, length, _⟩ ⟨_, _, _⟩ ⟨⟩ ⟨⟩
    rfl
  make?_of_le address length fits := ⟨⟨address, length, fits⟩, dif_pos fits, rfl, rfl⟩
  make?_of_not_le _ _ unfit := dif_neg unfit
  address_host := Prefix.address_host
  length_host _ := rfl
  testBit_netmask := testBit_netmask
  testBit_hostmask net place := by
    rw [← Nat.testBit_two_pow_sub_one]
    exact congrArg (Nat.testBit · place) net.value_hostmask
  family_first net := Address.family_truncate _ _
  value_first net := (Address.value_and_mask net.testBit_netmask).symm
  value_last := value_last
  address_cut _ := rfl
  length_cut _ := rfl
  contains_iff net _ := net.covers_iff_between
  read_write := ofText?_text

end Network

namespace PrefixOver

/-- The prefixes over the networks of this project are its prefixes. -/
theorem make_library (address : Address) (length : Nat) :
    (make Network.library address length).map
        (toPrefix Network.isFaithful_library) = Prefix.make address length := by
  cases found : Network.ofLength? address length with
  | none =>
    have makes : Network.library.make? address length = none := found
    rw [make, makes, Prefix.make, found]
    rfl
  | some network =>
    have makes : Network.library.make? address length = some network := found
    rw [make, makes, Prefix.make, found]
    exact congrArg Except.ok (Prefix.eq_of_address_eq (Address.truncate_truncate _ _) rfl)

theorem isCanonical_of_isFaithful_library :
    let outer : PrefixOver Network.library := .ofNet ⟨.v4 0xC0A80307, 24, by decide⟩
    let inner : PrefixOver Network.library := .ofNet ⟨.v4 0xC0A80307, 25, by decide⟩
    (∃ made, make Network.library (.v6 0x20020000000000000000000000000017) 120 = .ok made ∧
      made.IsMadeOf (.v6 0x20020000000000000000000000000017) 120) ∧
    make Network.library (.v4 0x0A000000) 33 = .error (.badLength 33) ∧
    inner.covers (.v4 0xC0A80305) = true ∧ outer.covers (.v4 0xC0A80305) = true := by
  intro outer inner
  have innerCovers : inner.covers (.v4 0xC0A80305) = true := by decide +kernel
  obtain ⟨makes, refuses, nests⟩ := isCanonical_of_isFaithful Network.isFaithful_library
  exact ⟨makes _ 120 (by decide), refuses _ 33 (by decide), innerCovers,
    nests outer inner (by decide) (.v4 0xC0A80301) (by decide +kernel) (by decide +kernel)
      (.v4 0xC0A80305) innerCovers⟩

end PrefixOver

end ControlPlane
