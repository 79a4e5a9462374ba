/-
This file says which prefixes are made and what they cover. To cut an address to a
length keeps its leading bits and clears the others, at every length from none to
all of them, so a cut address is cut already, and two addresses are cut to the same
one exactly when their leading bits agree. A prefix is the cut of any address that
it covers, and an address that is cut to a length can be cut further, which is why
of two prefixes with a common address the shorter one holds the longer one.
-/

import ControlPlane.Network

namespace ControlPlane

/-! ### Cutting an address -/

namespace Address

/-- The leading bits of an address are kept, the others are cleared. -/
theorem testBit_value_truncate (address : Address) (length place : Nat) :
    (address.truncate length).value.testBit place =
      (decide (address.family.width - length ≤ place) && address.value.testBit place) := by
  rw [value_truncate, Nat.mul_comm, Nat.testBit_two_pow_mul]
  by_cases leading : address.family.width - length ≤ place
  · rw [Nat.testBit_div_two_pow, Nat.sub_add_cancel leading]
  · rw [decide_eq_false leading, Bool.false_and, Bool.false_and]

/-- An address that was cut can be cut further. -/
theorem truncate_truncate_of_le {shorter longer : Nat} (le : shorter ≤ longer)
    (address : Address) :
    (address.truncate longer).truncate shorter = address.truncate shorter := by
  refine eq_of_value_eq (by simp only [family_truncate]) (Nat.eq_of_testBit_eq fun place => ?_)
  simp only [testBit_value_truncate, family_truncate]
  by_cases leading : address.family.width - shorter ≤ place
  · have kept : address.family.width - longer ≤ place :=
      Nat.le_trans (Nat.sub_le_sub_left le _) leading
    simp only [leading, kept, decide_true, Bool.true_and]
  · simp only [leading, decide_false, Bool.false_and]

/-- An address is cut to a given one exactly when it lies in the span that begins there. -/
theorem value_truncate_eq_iff {address : Address} {length start : Nat}
    (aligned : start % 2 ^ (address.family.width - length) = 0) :
    (address.truncate length).value = start ↔
      start ≤ address.value ∧ address.value < start + 2 ^ (address.family.width - length) := by
  rw [value_truncate]
  generalize address.family.width - length = rest at aligned
  have positive : 0 < 2 ^ rest := Nat.two_pow_pos rest
  constructor
  · rintro rfl
    exact ⟨Nat.div_mul_le_self _ _, Nat.lt_div_mul_add positive⟩
  · rintro ⟨low, high⟩
    obtain ⟨quotient, rfl⟩ := Nat.dvd_of_mod_eq_zero aligned
    have same : address.value / 2 ^ rest = quotient :=
      Nat.div_eq_of_lt_le (by rwa [Nat.mul_comm]) (by rwa [Nat.succ_mul, Nat.mul_comm])
    rw [same, Nat.mul_comm]

end Address

namespace Prefix

/-! ### The parts of a prefix -/

theorem address_truncate (destination : Prefix) :
    destination.address.truncate destination.length = destination.address :=
  destination.canonical

/-- The bits behind the mask of a prefix are clear. -/
theorem value_mod_eq_zero (destination : Prefix) :
    destination.address.value % 2 ^ (destination.family.width - destination.length) = 0 := by
  rw [← address_truncate, Address.value_truncate]
  exact Nat.mul_mod_left _ _

theorem length_le (destination : Prefix) : destination.length ≤ 128 := by
  have fits := destination.network.length_le
  cases family : destination.network.address.family <;> rw [family] at fits
  · exact Nat.le_trans fits (by decide)
  · exact fits

/-- A prefix is known by its address and its length. -/
theorem eq_of_address_eq {first second : Prefix} (sameAddress : first.address = second.address)
    (sameLength : first.length = second.length) : first = second := by
  obtain ⟨⟨_, _, _⟩, _⟩ := first
  obtain ⟨⟨_, _, _⟩, _⟩ := second
  cases sameAddress
  cases sameLength
  rfl

theorem address_host (address : Address) : (host address).address = address := by
  refine Address.eq_of_value_eq (Address.family_truncate _ _) ?_
  show (address.truncate address.family.width).value = address.value
  rw [Address.value_truncate, Nat.sub_self, Nat.pow_zero, Nat.div_one, Nat.mul_one]

theorem covers_iff {destination : Prefix} {address : Address} :
    destination.covers address = true ↔ address.family = destination.family ∧
      address.truncate destination.length = destination.address := by
  have base : destination.network.base = destination.address := destination.canonical
  rw [covers, Network.covers, decide_eq_true_iff, base]
  rfl

/-! ### Making prefixes -/

/-- A prefix is made of the address, cut to the length, where the length fits the family. -/
theorem make_eq_ok_iff {address : Address} {length : Nat} {made : Prefix} :
    make address length = .ok made ↔ length ≤ address.family.width ∧
      made.address = address.truncate length ∧ made.length = length := by
  unfold make Network.ofLength?
  by_cases fits : length ≤ address.family.width
  · rw [dif_pos fits]
    constructor
    · rintro same
      cases same
      exact ⟨fits, rfl, rfl⟩
    · rintro ⟨-, sameAddress, sameLength⟩
      exact congrArg Except.ok (eq_of_address_eq sameAddress.symm sameLength.symm)
  · rw [dif_neg fits]
    exact ⟨nofun, fun made => absurd made.1 fits⟩

/-- A prefix is made of its address and its length. -/
theorem make_address_length (destination : Prefix) :
    make destination.address destination.length = .ok destination :=
  make_eq_ok_iff.2 ⟨destination.network.length_le, destination.address_truncate.symm, rfl⟩

/-- Of two prefixes that cover an address, the shorter one covers all that the longer one
covers. -/
theorem covers_of_covers {shorter longer : Prefix} (le : shorter.length ≤ longer.length)
    {common address : Address} (shorterCovers : shorter.covers common = true)
    (longerCovers : longer.covers common = true) (covers : longer.covers address = true) :
    shorter.covers address = true := by
  obtain ⟨shorterFamily, shorterAddress⟩ := covers_iff.1 shorterCovers
  obtain ⟨longerFamily, longerAddress⟩ := covers_iff.1 longerCovers
  obtain ⟨family, cut⟩ := covers_iff.1 covers
  refine covers_iff.2 ⟨family.trans (longerFamily.symm.trans shorterFamily), ?_⟩
  calc address.truncate shorter.length
      = longer.address.truncate shorter.length := by
        rw [← cut, Address.truncate_truncate_of_le le]
    _ = common.truncate shorter.length := by
        rw [← longerAddress, Address.truncate_truncate_of_le le]
    _ = shorter.address := shorterAddress

end Prefix

end ControlPlane
