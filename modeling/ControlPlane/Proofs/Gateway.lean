/-
This file says over which interface a gateway is resolved. Among the usable
interfaces of the VRF that have a subnet which covers the gateway it is the one
with the longest such subnet, and of several with subnets as long the one with the
smallest name. As no two interfaces share a name this is one interface, in whatever
order a table lists them.
-/

import ControlPlane.Proofs.InterfaceHistory

namespace ControlPlane

open OrderKey

/-! ### The longest subnet -/

namespace Interface

variable {interface : Interface} {address : Address}

/-- Some subnet of the interface has the length and covers the address. -/
def Covers (address : Address) (length : Nat) (interface : Interface) : Prop :=
  ∃ network ∈ interface.networks, network.covers address = true ∧ network.length = length

theorem subnetMatch?_eq_some_iff {length : Nat} :
    interface.subnetMatch? address = some length ↔
      interface.Covers address length ∧
        ∀ other, interface.Covers address other → other ≤ length := by
  have mem_lengths : ∀ other, other ∈ (interface.networks.filter fun network =>
      network.covers address).map Network.length ↔ interface.Covers address other := by
    intro other
    simp only [List.mem_map, List.mem_filter, Covers, and_assoc]
  rw [subnetMatch?, List.max?_eq_some_iff]
  simp only [mem_lengths]

theorem isSome_subnetMatch?_iff :
    (interface.subnetMatch? address).isSome = true ↔ ∃ length, interface.Covers address length := by
  constructor
  · intro isSome
    obtain ⟨length, longest⟩ := Option.isSome_iff_exists.1 isSome
    exact ⟨length, (subnetMatch?_eq_some_iff.1 longest).1⟩
  · rintro ⟨length, network, member, covers, rfl⟩
    rw [subnetMatch?, Option.isSome_iff_ne_none, Ne, List.max?_eq_none_iff]
    refine List.ne_nil_of_mem (List.mem_map_of_mem (List.mem_filter.2 ⟨member, covers⟩))

end Interface

namespace InterfaceTable

open Interface

/-! ### Preference -/

/-- The first of two interfaces with matching subnets of the given lengths is not worse than the
second: its subnet is longer, or as long and its name is not larger. -/
def NotWorse (first second : Nat × Interface) : Prop :=
  second.1 < first.1 ∨
    second.1 = first.1 ∧ (second.2.name = first.2.name ∨ Before first.2.name second.2.name)

section Preference

variable {first second third : Nat × Interface}

theorem isPreferred_iff : isPreferred first second = true ↔
    second.1 < first.1 ∨ first.1 = second.1 ∧ Before first.2.name second.2.name := by
  simp [isPreferred]

theorem notWorse_of_isPreferred (preferred : isPreferred first second = true) :
    NotWorse first second :=
  (isPreferred_iff.1 preferred).imp_right fun ⟨same, before⟩ => ⟨same.symm, .inr before⟩

theorem notWorse_of_not_isPreferred (notPreferred : ¬ isPreferred first second = true) :
    NotWorse second first := by
  rw [isPreferred_iff, not_or, not_and] at notPreferred
  obtain ⟨notLonger, notSmaller⟩ := notPreferred
  rcases Nat.lt_or_eq_of_le (Nat.le_of_not_lt notLonger) with longer | same
  · exact .inl longer
  · refine .inr ⟨same, ?_⟩
    by_cases sameName : first.2.name = second.2.name
    · exact .inl sameName
    · exact .inr (before_of_not_before_of_ne (notSmaller same) sameName)

theorem NotWorse.refl (candidate : Nat × Interface) : NotWorse candidate candidate :=
  .inr ⟨rfl, .inl rfl⟩

theorem NotWorse.trans (left : NotWorse first second) (right : NotWorse second third) :
    NotWorse first third := by
  rcases left with longer | ⟨same, name⟩
  · rcases right with longer' | ⟨same', _⟩
    · exact .inl (Nat.lt_trans longer' longer)
    · exact .inl (same' ▸ longer)
  · rcases right with longer' | ⟨same', name'⟩
    · exact .inl (same ▸ longer')
    · refine .inr ⟨same'.trans same, ?_⟩
      rcases name with equal | before
      · rcases name' with equal' | before'
        · exact .inl (equal'.trans equal)
        · exact .inr (equal ▸ before')
      · rcases name' with equal' | before'
        · exact .inr (equal' ▸ before)
        · exact .inr (before.trans before')

/-- Two candidates that are not worse than each other have one name. -/
theorem NotWorse.name_eq (left : NotWorse first second) (right : NotWorse second first) :
    second.2.name = first.2.name := by
  rcases left with longer | ⟨same, name⟩
  · rcases right with longer' | ⟨same', _⟩ <;> omega
  · rcases right with longer' | ⟨_, name'⟩
    · omega
    · rcases name with sameName | before
      · exact sameName
      · exact name'.elim Eq.symm fun before' => absurd before' before.asymm

theorem preferred?_eq_none_iff {candidates : List (Nat × Interface)} :
    preferred? candidates = none ↔ candidates = [] := by
  cases candidates with
  | nil => exact ⟨fun _ => rfl, fun _ => rfl⟩
  | cons candidate rest =>
    simp only [preferred?]
    split <;> simp
    split <;> simp

/-- The preferred candidate is one of the candidates, and it is not worse than any of them. -/
theorem preferred?_eq_some {candidates : List (Nat × Interface)} {best : Nat × Interface}
    (found : preferred? candidates = some best) :
    best ∈ candidates ∧ ∀ candidate ∈ candidates, NotWorse best candidate := by
  induction candidates generalizing best with
  | nil => cases found
  | cons candidate rest inductionHypothesis =>
    rw [preferred?] at found
    cases later : preferred? rest with
    | none =>
      rw [later] at found
      cases found
      rw [preferred?_eq_none_iff.1 later]
      exact ⟨List.mem_singleton_self _, List.forall_mem_singleton.2 (.refl _)⟩
    | some bestLater =>
      obtain ⟨member, notWorse⟩ := inductionHypothesis later
      simp only [later] at found
      split at found
      next preferred =>
        cases found
        exact ⟨List.mem_cons_of_mem _ member,
          List.forall_mem_cons.2 ⟨notWorse_of_isPreferred preferred, notWorse⟩⟩
      next notPreferred =>
        cases found
        have before := notWorse_of_not_isPreferred notPreferred
        exact ⟨List.mem_cons_self, List.forall_mem_cons.2 ⟨.refl _, fun other inRest =>
          before.trans (notWorse other inRest)⟩⟩

end Preference

/-! ### Gateways -/

/-- The interface is a usable one of the VRF and has a subnet of the length that covers the
address. -/
structure Reaches (table : InterfaceTable) (vrf : UInt32) (address : Address) (length : Nat)
    (interface : Interface) : Prop where
  listed : table.find? interface.name = some interface
  attached : interface.vrf = vrf
  usable : interface.isUsable = true
  covers : interface.Covers address length

/-- Of all usable interfaces of the VRF with subnets that cover the address, the interface has the
longest such subnet, and the smallest name of those with subnets as long. -/
def IsClosest (table : InterfaceTable) (vrf : UInt32) (address : Address) (best : Interface) :
    Prop :=
  ∃ length, table.Reaches vrf address length best ∧
    ∀ otherLength other, table.Reaches vrf address otherLength other →
      NotWorse (length, best) (otherLength, other)

/-- The usable interfaces of the VRF that cover an address, with the lengths of their longest
subnets that do. -/
def gatewayCandidates (interfaces : List Interface) (vrf : UInt32) (address : Address) :
    List (Nat × Interface) :=
  interfaces.filterMap fun interface =>
    if interface.vrf = vrf && interface.isUsable then
      (interface.subnetMatch? address).map fun length => (length, interface)
    else none

theorem gatewayEgress?_eq_map (interfaces : List Interface) (vrf : UInt32) (address : Address) :
    gatewayEgress? interfaces vrf address =
      (preferred? (gatewayCandidates interfaces vrf address)).map fun best => best.2.egress :=
  rfl

section Gateways

variable {table : InterfaceTable} {listed : List Interface} {vrf : UInt32} {address : Address}

theorem IsKeyed.mem_interfaces_iff (isKeyed : table.IsKeyed) {interface : Interface} :
    interface ∈ table.interfaces ↔ table.find? interface.name = some interface := by
  refine SortedMap.mem_values_iff.trans ⟨?_, fun found => ⟨interface.name, found⟩⟩
  rintro ⟨name, found⟩
  rwa [isKeyed name interface found]

/-- The candidates are the interfaces that reach the address, in whatever order the interfaces are
listed. -/
theorem mem_gatewayCandidates_iff (isKeyed : table.IsKeyed)
    (sameInterfaces : listed.Perm table.interfaces) {length : Nat} {interface : Interface} :
    (length, interface) ∈ gatewayCandidates listed vrf address ↔
      table.Reaches vrf address length interface ∧
        ∀ other, interface.Covers address other → other ≤ length := by
  rw [gatewayCandidates, List.mem_filterMap]
  constructor
  · rintro ⟨_, member, offered⟩
    split at offered
    next forwards =>
      obtain ⟨_, longest, same⟩ := Option.map_eq_some_iff.1 offered
      cases same
      obtain ⟨attached, usable⟩ := Bool.and_eq_true_iff.1 forwards
      obtain ⟨covers, isLongest⟩ := subnetMatch?_eq_some_iff.1 longest
      exact ⟨⟨isKeyed.mem_interfaces_iff.1 (sameInterfaces.mem_iff.1 member),
        of_decide_eq_true attached, usable, covers⟩, isLongest⟩
    next => cases offered
  · rintro ⟨reaches, isLongest⟩
    have forwards : (interface.vrf = vrf && interface.isUsable) = true :=
      Bool.and_eq_true_iff.2 ⟨decide_eq_true reaches.attached, reaches.usable⟩
    refine ⟨interface, sameInterfaces.mem_iff.2 (isKeyed.mem_interfaces_iff.2 reaches.listed), ?_⟩
    rw [if_pos forwards, subnetMatch?_eq_some_iff.2 ⟨reaches.covers, isLongest⟩, Option.map_some]

/-- An interface that reaches the address is a candidate with its longest subnet. -/
theorem Reaches.exists_mem_gatewayCandidates (isKeyed : table.IsKeyed)
    (sameInterfaces : listed.Perm table.interfaces) {length : Nat} {interface : Interface}
    (reaches : table.Reaches vrf address length interface) :
    ∃ longest, length ≤ longest ∧
      (longest, interface) ∈ gatewayCandidates listed vrf address := by
  obtain ⟨longest, found⟩ := Option.isSome_iff_exists.1
    (isSome_subnetMatch?_iff.2 ⟨length, reaches.covers⟩)
  obtain ⟨covers, isLongest⟩ := subnetMatch?_eq_some_iff.1 found
  refine ⟨longest, isLongest length reaches.covers, ?_⟩
  exact (mem_gatewayCandidates_iff isKeyed sameInterfaces).2
    ⟨⟨reaches.listed, reaches.attached, reaches.usable, covers⟩, isLongest⟩

theorem gatewayEgress?_eq_none_iff (isKeyed : table.IsKeyed)
    (sameInterfaces : listed.Perm table.interfaces) :
    gatewayEgress? listed vrf address = none ↔
      ∀ length interface, ¬ table.Reaches vrf address length interface := by
  rw [gatewayEgress?_eq_map, Option.map_eq_none_iff, preferred?_eq_none_iff]
  constructor
  · intro noCandidate length interface reaches
    obtain ⟨longest, _, member⟩ := reaches.exists_mem_gatewayCandidates isKeyed sameInterfaces
    rw [noCandidate] at member
    cases member
  · intro unreached
    refine List.eq_nil_iff_forall_not_mem.2 fun ⟨length, interface⟩ member => ?_
    exact unreached length interface
      ((mem_gatewayCandidates_iff isKeyed sameInterfaces).1 member).1

theorem exists_isClosest_of_gatewayEgress? (isKeyed : table.IsKeyed)
    (sameInterfaces : listed.Perm table.interfaces) {egress : Egress}
    (resolved : gatewayEgress? listed vrf address = some egress) :
    ∃ best, table.IsClosest vrf address best ∧ best.egress = egress := by
  obtain ⟨⟨length, best⟩, preferred, rfl⟩ := Option.map_eq_some_iff.1 resolved
  obtain ⟨member, notWorse⟩ := preferred?_eq_some preferred
  obtain ⟨reaches, _⟩ := (mem_gatewayCandidates_iff isKeyed sameInterfaces).1 member
  refine ⟨best, ⟨length, reaches, fun otherLength other reached => ?_⟩, rfl⟩
  obtain ⟨longest, bounded, candidate⟩ :=
    reached.exists_mem_gatewayCandidates isKeyed sameInterfaces
  have own : NotWorse (longest, other) (otherLength, other) :=
    (Nat.lt_or_eq_of_le bounded).imp id fun same => ⟨same, .inl rfl⟩
  exact (notWorse _ candidate).trans own

/-- No two interfaces are closest. -/
theorem IsClosest.eq {first second : Interface} (left : table.IsClosest vrf address first)
    (right : table.IsClosest vrf address second) : second = first := by
  obtain ⟨length, reaches, notWorse⟩ := left
  obtain ⟨length', reaches', notWorse'⟩ := right
  have sameName : second.name = first.name :=
    (notWorse length' second reaches').name_eq (notWorse' length first reaches)
  have found := reaches'.listed
  rw [sameName, reaches.listed] at found
  exact (Option.some.inj found).symm

theorem gatewayEgress?_eq_some_iff (isKeyed : table.IsKeyed)
    (sameInterfaces : listed.Perm table.interfaces) {egress : Egress} :
    gatewayEgress? listed vrf address = some egress ↔
      ∃ best, table.IsClosest vrf address best ∧ best.egress = egress := by
  refine ⟨exists_isClosest_of_gatewayEgress? isKeyed sameInterfaces, ?_⟩
  rintro ⟨best, isClosest, rfl⟩
  cases resolved : gatewayEgress? listed vrf address with
  | none =>
    obtain ⟨length, reaches, _⟩ := isClosest
    exact absurd reaches
      ((gatewayEgress?_eq_none_iff isKeyed sameInterfaces).1 resolved length best)
  | some egress =>
    obtain ⟨other, otherClosest, rfl⟩ :=
      exists_isClosest_of_gatewayEgress? isKeyed sameInterfaces resolved
    rw [isClosest.eq otherClosest]

/-- A pinned gateway is resolved over the interface of the name, if that reaches it. -/
theorem resolver_pinned_eq_some_iff (isKeyed : table.IsKeyed) {name : String} {egress : Egress} :
    table.resolver vrf (.gateway address (some name)) = some egress ↔
      ∃ length interface, table.Reaches vrf address length interface ∧ interface.name = name ∧
        interface.egress = egress := by
  rw [resolver, usable?, Option.map_eq_some_iff]
  constructor
  · rintro ⟨interface, matching, rfl⟩
    obtain ⟨usable, covers⟩ := Option.filter_eq_some_iff.1 matching
    obtain ⟨found, forwards⟩ := Option.filter_eq_some_iff.1 usable
    obtain ⟨attached, usable⟩ := Bool.and_eq_true_iff.1 forwards
    obtain ⟨length, covers⟩ := isSome_subnetMatch?_iff.1 covers
    have named := isKeyed name interface found
    exact ⟨length, interface, ⟨named ▸ found, of_decide_eq_true attached, usable, covers⟩, named,
      rfl⟩
  · rintro ⟨length, interface, reaches, rfl, rfl⟩
    have forwards : (interface.vrf = vrf && interface.isUsable) = true :=
      Bool.and_eq_true_iff.2 ⟨decide_eq_true reaches.attached, reaches.usable⟩
    refine ⟨interface, Option.filter_eq_some_iff.2 ⟨?_, ?_⟩, rfl⟩
    · exact Option.filter_eq_some_iff.2 ⟨reaches.listed, forwards⟩
    · exact isSome_subnetMatch?_iff.2 ⟨length, reaches.covers⟩

/-- Two tables have the same usable interfaces in a VRF. -/
def SameUsable (vrf : UInt32) (first second : InterfaceTable) : Prop :=
  ∀ name interface, interface.vrf = vrf → interface.isUsable = true →
    (first.find? name = some interface ↔ second.find? name = some interface)

theorem SameUsable.forwarding_eq {first second : InterfaceTable}
    (same : SameUsable vrf first second) : second.forwarding vrf = first.forwarding vrf := by
  refine forwarding_ext fun name => Option.ext fun interface => ?_
  rw [Option.filter_eq_some_iff, Option.filter_eq_some_iff]
  refine and_congr_left fun forwards => ?_
  obtain ⟨attached, usable⟩ := Bool.and_eq_true_iff.1 forwards
  exact (same name interface (of_decide_eq_true attached) usable).symm

/-- In every table that has its interfaces under their names, as all tables do that arise from
events, and whatever order the interfaces are listed in: a gateway without a pinned interface is not
resolved if and only if no usable interface of the VRF has a subnet that covers it, and else it is
resolved over the closest of those that do. A pinned gateway is resolved over the interface of that
name if it is a usable one of the VRF and has a subnet that covers the gateway, and else not.
Interfaces of other VRFs and unusable ones make no difference. -/
theorem resolver_gateway (isKeyed : table.IsKeyed) (sameInterfaces : listed.Perm table.interfaces)
    (vrf : UInt32) (address : Address) :
    table.resolver vrf (.gateway address none) = gatewayEgress? listed vrf address ∧
    (gatewayEgress? listed vrf address = none ↔
      ∀ length interface, ¬ table.Reaches vrf address length interface) ∧
    (∀ egress, gatewayEgress? listed vrf address = some egress ↔
      ∃ best, table.IsClosest vrf address best ∧ best.egress = egress) ∧
    (∀ name egress, table.resolver vrf (.gateway address (some name)) = some egress ↔
      ∃ length interface, table.Reaches vrf address length interface ∧ interface.name = name ∧
        interface.egress = egress) ∧
    ∀ other, SameUsable vrf table other → ∀ pinned,
      other.resolver vrf (.gateway address pinned) =
        table.resolver vrf (.gateway address pinned) := by
  refine ⟨?_, gatewayEgress?_eq_none_iff isKeyed sameInterfaces,
    fun egress => gatewayEgress?_eq_some_iff isKeyed sameInterfaces,
    fun name egress => resolver_pinned_eq_some_iff isKeyed,
    fun other same pinned => by rw [resolver_congr same.forwarding_eq]⟩
  refine Option.ext fun egress => ?_
  rw [resolver, gatewayEgress?_eq_some_iff isKeyed sameInterfaces,
    gatewayEgress?_eq_some_iff isKeyed (.refl _)]

end Gateways

/-- Two links into one subnet, and one into a larger subnet around it. -/
def overlappingLinks : List InterfaceConfig :=
  [{ name := "eth2", index := 1, addresses := [⟨.v4 0xC0A80001, 24, by decide⟩] },
    { name := "eth1", index := 2, addresses := [⟨.v4 0xC0A80002, 24, by decide⟩] },
    { name := "eth0", index := 3, addresses := [⟨.v4 0xC0A80003, 16, by decide⟩] }]

/-- The longer subnet wins over the smallest name, which decides between the two links into it. -/
theorem resolver_gateway_of_overlappingLinks :
    let table := appeared overlappingLinks
    let listed := table.interfaces.reverse
    table.IsKeyed ∧ listed.Perm table.interfaces ∧
      table.resolver defaultVrfId (.gateway (.v4 0xC0A80009) none) = some ⟨2, "eth1"⟩ ∧
      gatewayEgress? listed defaultVrfId (.v4 0xC0A80009) = some ⟨2, "eth1"⟩ ∧
      ∃ best, table.IsClosest defaultVrfId (.v4 0xC0A80009) best ∧ best.egress = ⟨2, "eth1"⟩ := by
  have isKeyed : (appeared overlappingLinks).IsKeyed := isKeyed_empty.history _
  have sameInterfaces := (appeared overlappingLinks).interfaces.reverse_perm
  have resolved : (appeared overlappingLinks).resolver defaultVrfId
      (.gateway (.v4 0xC0A80009) none) = some ⟨2, "eth1"⟩ := by
    decide +kernel
  obtain ⟨same, _, closest, _⟩ :=
    resolver_gateway isKeyed sameInterfaces defaultVrfId (.v4 0xC0A80009)
  rw [resolved] at same
  exact ⟨isKeyed, sameInterfaces, resolved, same.symm, (closest _).1 same.symm⟩

end InterfaceTable

end ControlPlane
