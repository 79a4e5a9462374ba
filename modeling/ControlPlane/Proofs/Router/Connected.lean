/-
This file proves that the connected entries of every VRF are those that its
interfaces give. An interface gives entries of its own, told apart from those of
other interfaces by its index, so an event on an interface has to exchange the
entries of one index. The changes that an event answers make the VRFs do that: the
VRF that the interface leaves drops what it gave, and the VRF that it joins takes
what it gives, as the table of interfaces says after the event.
-/

import ControlPlane.Proofs.Router.VrfInvariant

namespace ControlPlane

/-! ### What an interface gives -/

namespace Interface

/-- The interface has an address in the subnet. -/
def hasSubnet (interface : Interface) (destination : Prefix) : Bool :=
  interface.networks.any fun network => Prefix.ofNetwork network = destination

/-- The connected candidate of the interface for a subnet. -/
def connectedTo (interface : Interface) (destination : Prefix) : Candidate :=
  ({ Candidate.create interface.vrf destination .connected with
    inst := interface.index }).addHop (.interface interface.name)

/-- The connected candidate that an interface gives a VRF for a subnet. -/
def connectedAt? (interface : Interface) (vrf : UInt32) (destination : Prefix) :
    Option Candidate :=
  if interface.vrf = vrf ∧ interface.hasSubnet destination then
    some (interface.connectedTo destination)
  else none

theorem connected_eq (interface : Interface) :
    interface.connected = interface.networks.map fun network =>
      interface.connectedTo (Prefix.ofNetwork network) :=
  rfl

theorem connectedAt?_of_ne {interface : Interface} {vrf : UInt32} (elsewhere : interface.vrf ≠ vrf)
    (destination : Prefix) : interface.connectedAt? vrf destination = none :=
  if_neg fun both => elsewhere both.1

theorem connectedAt?_own {interface : Interface} {vrf : UInt32} (own : interface.vrf = vrf)
    (destination : Prefix) : interface.connectedAt? vrf destination =
      if interface.hasSubnet destination then some (interface.connectedTo destination)
      else none := by
  simp only [connectedAt?, own, true_and]

/-- Addresses decide for which subnets an interface gives candidates, and not which. -/
theorem connectedAt?_readdressed {interface : Interface} {vrf : UInt32} (own : interface.vrf = vrf)
    (addresses : SortedSet Network) (destination : Prefix) :
    ({ interface with addresses } : Interface).connectedAt? vrf destination =
      if ({ interface with addresses } : Interface).hasSubnet destination then
        some (interface.connectedTo destination)
      else none := by
  rw [connectedAt?_own (by exact own)]
  rfl

/-- What an interface gives does not depend on its states. -/
theorem SameButState.connectedAt?_eq {first second : Interface} (same : first.SameButState second)
    (vrf : UInt32) (destination : Prefix) :
    second.connectedAt? vrf destination = first.connectedAt? vrf destination := by
  rw [same]
  rfl

theorem hasSubnet_iff {interface : Interface} {destination : Prefix} :
    interface.hasSubnet destination ↔
      ∃ network, interface.addresses.find? network = some () ∧
        Prefix.ofNetwork network = destination := by
  simp only [hasSubnet, List.any_eq_true, networks, SortedMap.mem_keys_iff, decide_eq_true_eq]
  constructor
  · rintro ⟨network, ⟨_, found⟩, here⟩
    exact ⟨network, found, here⟩
  · rintro ⟨network, found, here⟩
    exact ⟨network, ⟨_, found⟩, here⟩

/-- An address adds its own subnet. -/
theorem hasSubnet_insert (interface : Interface) (network : Network) (destination : Prefix) :
    ({ interface with addresses := interface.addresses.insert network () } :
      Interface).hasSubnet destination ↔
        Prefix.ofNetwork network = destination ∨ interface.hasSubnet destination := by
  simp only [hasSubnet_iff, SortedMap.find?_insert]
  constructor
  · rintro ⟨listed, found, here⟩
    split at found
    next own => exact Or.inl (own ▸ here)
    next => exact Or.inr ⟨listed, found, here⟩
  · rintro (here | ⟨listed, found, here⟩)
    · exact ⟨network, if_pos rfl, here⟩
    · exact ⟨listed, by rw [found, ite_self], here⟩

/-- Without an address, the other subnets are as they were. -/
theorem hasSubnet_erase_of_ne (interface : Interface) {network : Network} {destination : Prefix}
    (elsewhere : Prefix.ofNetwork network ≠ destination) :
    ({ interface with addresses := interface.addresses.erase network } :
      Interface).hasSubnet destination ↔ interface.hasSubnet destination := by
  simp only [hasSubnet_iff, SortedMap.find?_erase]
  constructor
  · rintro ⟨listed, found, here⟩
    split at found
    · cases found
    · exact ⟨listed, found, here⟩
  · rintro ⟨listed, found, rfl⟩
    refine ⟨listed, ?_, rfl⟩
    rw [if_neg fun own => elsewhere (congrArg Prefix.ofNetwork own), found]

/-- Among the candidates of an interface the one for a subnet is the first one. -/
theorem find?_connected (interface : Interface) (destination : Prefix) :
    (interface.connected.find? fun candidate => candidate.destination = destination) =
      if interface.hasSubnet destination then some (interface.connectedTo destination)
      else none := by
  rw [connected_eq, hasSubnet]
  induction interface.networks with
  | nil => rfl
  | cons network rest inductionHypothesis =>
    rw [List.map_cons, List.find?_cons, List.any_cons]
    by_cases here : Prefix.ofNetwork network = destination
    · subst here
      simp only [decide_true, Bool.true_or, if_true]
      have own : (interface.connectedTo (Prefix.ofNetwork network)).destination =
        Prefix.ofNetwork network := rfl
      simp only [own, decide_true]
    · have other : (interface.connectedTo (Prefix.ofNetwork network)).destination ≠ destination :=
        here
      simp only [here, other, decide_false, Bool.false_or, inductionHypothesis]

end Interface

/-! ### Connected entries of a VRF under changes -/

namespace Vrf

variable {resolver : Resolver} {vrf : Vrf} {rerouted : Rerouted} {interface : Interface}
  (destination : Prefix) (index : UInt32)

/-- A connected candidate is listed as it is announced, for connected routes have no configured
distance. -/
theorem entryAt?_announce_connected {own : Prefix}
    (announced : vrf.announce resolver (interface.connectedTo own) = .ok rerouted) :
    rerouted.2.entryAt? destination (.connected, index) =
      if index = interface.index ∧ own = destination then some (interface.connectedTo destination)
      else vrf.entryAt? destination (.connected, index) := by
  have erased : { (interface.connectedTo own).erased with
      distance := (vrf.configuredDistance? (interface.connectedTo own)).getD
        (interface.connectedTo own).distance } = interface.connectedTo own := rfl
  rw [entryAt?_announce destination _ announced, erased]
  by_cases here : own = destination
  · subst here
    have sameKey : (interface.connectedTo own).key = (.connected, index) ↔
        index = interface.index := by
      rw [eq_comm]
      exact ⟨fun same => congrArg Prod.snd same, fun same => by rw [same]; rfl⟩
    by_cases ownIndex : index = interface.index
    · rw [if_pos ⟨rfl, sameKey.2 ownIndex⟩, if_pos ⟨ownIndex, rfl⟩]
    · rw [if_neg fun both => ownIndex (sameKey.1 both.2), if_neg fun both => ownIndex both.1]
  · have other : (interface.connectedTo own).destination ≠ destination := here
    rw [if_neg fun both => other both.1, if_neg fun both => here both.2]

/-- A VRF that takes an interface lists what the interface gives. -/
theorem entryAt?_announceAll_connected {networks : List Network}
    (announced : vrf.announceAll resolver (networks.map fun network =>
      interface.connectedTo (Prefix.ofNetwork network)) = .ok rerouted) :
    rerouted.2.entryAt? destination (.connected, index) =
      if index = interface.index ∧ networks.any (fun network =>
        Prefix.ofNetwork network = destination) then some (interface.connectedTo destination)
      else vrf.entryAt? destination (.connected, index) := by
  induction networks generalizing vrf rerouted with
  | nil =>
    cases announced
    exact (if_neg fun both => Bool.false_ne_true both.2).symm
  | cons network rest inductionHypothesis =>
    obtain ⟨one, first, announced⟩ := exists_of_bind_eq_ok announced
    obtain ⟨others, second, announced⟩ := exists_of_bind_eq_ok announced
    cases announced
    show others.2.entryAt? destination (.connected, index) = _
    rw [inductionHypothesis second, entryAt?_announce_connected destination index first,
      List.any_cons]
    by_cases ownIndex : index = interface.index
    · by_cases here : Prefix.ofNetwork network = destination <;> simp [ownIndex, here]
    · simp [ownIndex]

/-- The prefixes to which an index contributes are all found. -/
theorem mem_connectedPrefixes (isFiled : vrf.IsFiled)
    (listed : vrf.entryAt? destination (.connected, index) ≠ none) :
    destination ∈ vrf.connectedPrefixes index := by
  obtain ⟨entry, isListed⟩ := Option.ne_none_iff_exists'.1 listed
  obtain ⟨contents, found, inContents⟩ := Option.bind_eq_some_iff.1 isListed
  rw [Rib.find?_contents] at found
  obtain ⟨set, setFound, rfl⟩ := Option.map_eq_some_iff.1 found
  rw [CandidateSet.find?_contents] at inContents
  obtain ⟨candidate, candidateFound, _⟩ := Option.map_eq_some_iff.1 inContents
  have filed := isFiled.rib_isFiled destination.family destination set setFound
  have ownKey := (filed.candidatesOf _ candidate candidateFound).2
  have isConnected : candidate.origin = .connected := congrArg Prod.fst ownKey
  have ownIndex : candidate.inst = index := congrArg Prod.snd ownKey
  have member : (destination, set) ∈ vrf.rib4.sets.entries ++ vrf.rib6.sets.entries := by
    have inTable : (destination, set) ∈ (vrf.rib destination.family).sets.entries :=
      SortedMap.find?_eq_some_iff.1 setFound
    rw [List.mem_append]
    cases family : destination.family with
    | ipv4 =>
      rw [family] at inTable
      exact Or.inl inTable
    | ipv6 =>
      rw [family] at inTable
      exact Or.inr inTable
  refine List.mem_map.2 ⟨(destination, set), List.mem_filter.2 ⟨member, ?_⟩, rfl⟩
  have inSet : candidate ∈ set.list :=
    List.mem_map.2 ⟨(_, candidate), SortedMap.find?_eq_some_iff.1 candidateFound, rfl⟩
  exact List.any_eq_true.2 ⟨candidate, inSet, by simp [isConnected, ownIndex]⟩

theorem entryAt?_inTurn_withdrawInstance (own : UInt32) (prefixes : List Prefix) (vrf : Vrf) :
    (inTurn (fun listed vrf => vrf.withdrawInstance resolver listed .connected own)
      prefixes vrf).2.entryAt? destination (.connected, index) =
      if destination ∈ prefixes ∧ index = own then none
      else vrf.entryAt? destination (.connected, index) := by
  induction prefixes generalizing vrf with
  | nil => exact (if_neg fun both => List.not_mem_nil both.1).symm
  | cons first rest inductionHypothesis =>
    show (inTurn _ rest (vrf.withdrawInstance resolver first .connected own).2).2.entryAt?
      destination (.connected, index) = _
    rw [inductionHypothesis, entryAt?_withdrawInstance]
    by_cases ownIndex : index = own
    · by_cases here : first = destination
      · simp [ownIndex, here]
      · simp [ownIndex, here, Ne.symm here]
    · simp [ownIndex]

/-- A VRF that an interface leaves lists nothing of it any longer. -/
theorem entryAt?_withdrawConnected (isFiled : vrf.IsFiled) (own : UInt32) :
    (vrf.withdrawConnected resolver own).2.entryAt? destination (.connected, index) =
      if index = own then none else vrf.entryAt? destination (.connected, index) := by
  rw [withdrawConnected, entryAt?_inTurn_withdrawInstance]
  by_cases ownIndex : index = own
  · subst ownIndex
    rw [if_pos rfl]
    by_cases nothing : vrf.entryAt? destination (.connected, index) = none
    · rw [nothing, ite_self]
    · exact if_pos ⟨mem_connectedPrefixes destination index isFiled nothing, rfl⟩
  · rw [if_neg ownIndex, if_neg fun both => ownIndex both.2]

/-! ### What a change makes of the connected entries -/

section Reroute

variable {interfaces : InterfaceTable} {change : InterfaceChange}
  (answered : RouterM.reroute interfaces change vrf = .ok rerouted)
include answered

/-- The VRF that an interface joins takes what the interface gives. -/
theorem entryAt?_reroute_attached (what : change.what = .attached)
    (found : interfaces.find? change.name = some interface) (own : interface.vrf = vrf.id)
    (fresh : vrf.entryAt? destination (.connected, interface.index) = none) :
    rerouted.2.entryAt? destination (.connected, index) =
      if index = interface.index then interface.connectedAt? vrf.id destination
      else vrf.entryAt? destination (.connected, index) := by
  rw [RouterM.reroute, what] at answered
  dsimp only at answered
  rw [found, Option.toList_some, List.flatMap_singleton] at answered
  refine (entryAt?_announceAll_connected destination index answered).trans ?_
  rw [Interface.connectedAt?, Interface.hasSubnet]
  by_cases ownIndex : index = interface.index
  · simp only [ownIndex, own, true_and, if_true, fresh]
  · simp only [ownIndex, false_and, if_false]

/-- The VRF that an interface leaves drops what the interface gave. -/
theorem entryAt?_reroute_detached (what : change.what = .detached) (isFiled : vrf.IsFiled) :
    rerouted.2.entryAt? destination (.connected, index) =
      if index = change.index then none else vrf.entryAt? destination (.connected, index) := by
  rw [RouterM.reroute, what] at answered
  cases answered
  exact entryAt?_withdrawConnected destination index isFiled change.index

theorem entryAt?_reroute_addressAdded {network : Network}
    (what : change.what = .addressAdded network) (own : change = .of interface change.what) :
    rerouted.2.entryAt? destination (.connected, index) =
      if index = interface.index ∧ Prefix.ofNetwork network = destination then
        some (interface.connectedTo destination)
      else vrf.entryAt? destination (.connected, index) := by
  rw [RouterM.reroute, what] at answered
  have announced : vrf.announce (interfaces.resolver change.vrf)
      (interface.connectedTo (Prefix.ofNetwork network)) = .ok rerouted := by
    rw [own] at answered ⊢
    exact answered
  exact entryAt?_announce_connected destination index announced

/-- The entry of a subnet goes when the interface loses its last address in it. -/
theorem entryAt?_reroute_addressRemoved {network : Network}
    (what : change.what = .addressRemoved network)
    (found : interfaces.find? change.name = some interface)
    (sameIndex : change.index = interface.index) :
    rerouted.2.entryAt? destination (.connected, index) =
      if index = interface.index ∧ Prefix.ofNetwork network = destination then
        if interface.hasSubnet destination then some (interface.connectedTo destination) else none
      else vrf.entryAt? destination (.connected, index) := by
  rw [RouterM.reroute, what] at answered
  dsimp only at answered
  have remaining : RouterM.remainingConnected? interfaces change.name (Prefix.ofNetwork network) =
      if interface.hasSubnet (Prefix.ofNetwork network) then
        some (interface.connectedTo (Prefix.ofNetwork network)) else none := by
    rw [RouterM.remainingConnected?, found, Option.toList_some, List.flatMap_singleton,
      Interface.find?_connected]
  rw [remaining] at answered
  by_cases remains : interface.hasSubnet (Prefix.ofNetwork network) = true
  · rw [if_pos remains] at answered
    rw [entryAt?_announce_connected destination index answered]
    by_cases here : Prefix.ofNetwork network = destination
    · rw [← here, if_pos remains]
    · simp only [here, and_false, if_false]
  · rw [if_neg remains] at answered
    cases answered
    rw [entryAt?_withdrawInstance, sameIndex]
    by_cases here : Prefix.ofNetwork network = destination
    · rw [← here, if_neg remains]
      simp
    · simp only [here, and_false, false_and, if_false]

end Reroute

/-! ### Derived connected entries -/

/-- The connected entries of a VRF are those that the interfaces give it. -/
structure DerivesConnected (interfaces : InterfaceTable) (vrf : Vrf) : Prop where
  listed : ∀ name interface, interfaces.find? name = some interface → ∀ destination,
    vrf.entryAt? destination (.connected, interface.index) =
      interface.connectedAt? vrf.id destination
  unlisted : ∀ index, (∀ name interface, interfaces.find? name = some interface →
    interface.index ≠ index) → ∀ destination, vrf.entryAt? destination (.connected, index) = none

namespace DerivesConnected

variable {before after : InterfaceTable} {first second : Vrf}

theorem congr (derives : DerivesConnected before first) (sameId : second.id = first.id)
    (sameEntries : ∀ destination index, second.entryAt? destination (.connected, index) =
      first.entryAt? destination (.connected, index)) : DerivesConnected before second where
  listed name interface found destination := by
    rw [sameEntries, sameId, derives.listed name interface found]
  unlisted index free destination := by rw [sameEntries, derives.unlisted index free]

theorem restated (derives : DerivesConnected before first)
    (restated : InterfaceTable.Restated before after) : DerivesConnected after first where
  listed name interface found destination := by
    obtain ⟨earlier, foundEarlier, same⟩ := restated.exists_before found
    have sameIndex : interface.index = earlier.index := by rw [same]
    rw [same.connectedAt?_eq, sameIndex, derives.listed name earlier foundEarlier]
  unlisted index free := derives.unlisted index fun name earlier found sameIndex => by
    obtain ⟨change, same, image⟩ := restated name
    rw [found, Option.map_some] at image
    have kept : (change earlier).index = earlier.index := by rw [same earlier]
    exact free name (change earlier) image (kept.trans sameIndex)

/-- An index has no entries in a VRF that its interface is not attached to. -/
theorem entryAt?_eq_none (derives : DerivesConnected before first) {index : UInt32}
    (elsewhere : ∀ name interface, before.find? name = some interface → interface.index = index →
      interface.vrf ≠ first.id) (destination : Prefix) :
    first.entryAt? destination (.connected, index) = none := by
  by_cases used : ∃ name interface, before.find? name = some interface ∧ interface.index = index
  · obtain ⟨name, interface, found, rfl⟩ := used
    rw [derives.listed name interface found]
    exact Interface.connectedAt?_of_ne (elsewhere name interface found rfl) destination
  · exact derives.unlisted index
      (fun name interface found own => used ⟨name, interface, found, own⟩) destination

/-- What an event does to the interface of a name, the VRF does to the entries of its index. -/
theorem exchanged (derives : DerivesConnected before first) {name : String} {index : UInt32}
    {replaced : Option Interface}
    (ownIndex : ∀ listed interface, before.find? listed = some interface →
      (interface.index = index ↔ name = listed))
    (found : ∀ listed, after.find? listed = if name = listed then replaced else before.find? listed)
    (sameIndex : ∀ interface, replaced = some interface → interface.index = index)
    (sameId : second.id = first.id)
    (entries : ∀ destination listed, second.entryAt? destination (.connected, listed) =
      if listed = index then replaced.bind (Interface.connectedAt? · first.id destination)
      else first.entryAt? destination (.connected, listed)) : DerivesConnected after second where
  listed listed interface isFound destination := by
    rw [found] at isFound
    rw [entries, sameId]
    by_cases here : name = listed
    · rw [if_pos here] at isFound
      rw [if_pos (sameIndex interface isFound), isFound, Option.bind_some]
    · rw [if_neg here] at isFound
      rw [if_neg fun own => here ((ownIndex listed interface isFound).1 own),
        derives.listed listed interface isFound]
  unlisted unused free destination := by
    rw [entries]
    by_cases own : unused = index
    · rw [if_pos own]
      cases gone : replaced with
      | none => rfl
      | some interface =>
        have isFound : after.find? name = some interface := by rw [found, if_pos rfl, gone]
        exact absurd ((sameIndex interface gone).trans own.symm) (free name interface isFound)
    · rw [if_neg own]
      refine derives.unlisted unused (fun listed interface isFound sameUnused => ?_) destination
      by_cases here : name = listed
      · exact own (sameUnused.symm.trans ((ownIndex listed interface isFound).2 here))
      · refine free listed interface ?_ sameUnused
        rw [found, if_neg here, isFound]

end DerivesConnected

/-! ### Following events -/

namespace Follows

variable {interfaces : InterfaceTable} {changes : List InterfaceChange} {after : Vrf}

/-- Changes of states leave the connected entries alone. -/
theorem entryAt?_of_silent (follows : Follows interfaces changes vrf after)
    (silent : InterfaceTable.AreSilent changes) :
    after.entryAt? destination (.connected, index) = vrf.entryAt? destination (.connected, index) :=
  follows.edits.entryAt?_eq (fun ⟨change, member, touched⟩ => silent change member touched)
    destination

/-- The one change that is not silent makes the connected entries what they are. -/
theorem exists_rerouted {change : InterfaceChange} (follows : Follows interfaces (change :: changes)
    vrf after) (silent : InterfaceTable.AreSilent changes) :
    ∃ rerouted, RouterM.reroute interfaces change vrf = .ok rerouted ∧
      ∀ destination index, after.entryAt? destination (.connected, index) =
        rerouted.2.entryAt? destination (.connected, index) := by
  cases follows with
  | rerouted answered programmed later =>
    refine ⟨_, answered, fun destination index => ?_⟩
    rw [later.entryAt?_of_silent destination index silent]
    exact (sameContents_of_programmed programmed).entryAt?_eq destination _

end Follows

namespace DerivesConnected

variable {before after : InterfaceTable} {first second : Vrf} {changes : List InterfaceChange}
  {name : String} {interface : Interface}

/-- An index belongs to one interface. -/
theorem index_eq_iff (isIndexed : before.IsIndexed) (found : before.find? name = some interface)
    (listed : String) (other : Interface) (isFound : before.find? listed = some other) :
    other.index = interface.index ↔ name = listed := by
  constructor
  · exact fun same => isIndexed name listed interface other found isFound same.symm
  · rintro rfl
    rw [found] at isFound
    cases isFound
    rfl

theorem areSilent_changesOf (silent : InterfaceTable.AreSilent changes) (id : UInt32) :
    InterfaceTable.AreSilent (changesOf id changes) :=
  fun change member => silent change (List.mem_filter.1 member).1

theorem appeared (derives : DerivesConnected before first) {between : InterfaceTable}
    (added : before.add interface = .ok between) (silent : InterfaceTable.AreSilent changes)
    (restated : InterfaceTable.Restated between after)
    (follows : Follows after (changesOf first.id (.of interface .attached :: changes)) first
      second) : DerivesConnected after second := by
  obtain ⟨free, found⟩ := InterfaceTable.find?_of_add added
  have unused : ∀ listed other, before.find? listed = some other →
      (other.index = interface.index ↔ interface.name = listed) := by
    intro listed other isFound
    have fresh := InterfaceTable.index_ne_of_add added isFound
    refine iff_of_false fresh fun here => ?_
    rw [← here, free] at isFound
    cases isFound
  have nothing : ∀ destination, first.entryAt? destination (.connected, interface.index) = none :=
    derives.entryAt?_eq_none fun listed other isFound same =>
      absurd same (InterfaceTable.index_ne_of_add added isFound)
  have silentRest := areSilent_changesOf silent first.id
  refine DerivesConnected.restated (derives.exchanged unused found
    (fun _ same => by cases same; rfl) follows.edits.id_eq fun destination index => ?_) restated
  rw [Option.bind_some]
  by_cases own : interface.vrf = first.id
  · rw [changesOf_cons_own own] at follows
    obtain ⟨rerouted, answered, same⟩ := follows.exists_rerouted silentRest
    obtain ⟨change, sameButState, image⟩ := restated interface.name
    rw [found, if_pos rfl, Option.map_some] at image
    have sameIndex : (change interface).index = interface.index := by rw [sameButState interface]
    have sameVrf : (change interface).vrf = first.id := (sameButState interface).vrf_eq.trans own
    rw [same, entryAt?_reroute_attached destination index answered rfl image sameVrf
      (sameIndex ▸ nothing destination), sameIndex, (sameButState interface).connectedAt?_eq]
  · rw [changesOf_cons_other own] at follows
    rw [follows.entryAt?_of_silent destination index silentRest, Interface.connectedAt?_of_ne own]
    split
    next here => rw [here, nothing]
    next => rfl

theorem disappeared (derives : DerivesConnected before first) (isFiled : first.IsFiled)
    (isIndexed : before.IsIndexed) (found : before.find? name = some interface)
    (silent : InterfaceTable.AreSilent changes)
    (restated : InterfaceTable.Restated (before.without name) after)
    (follows : Follows after (changesOf first.id (.of interface .detached :: changes)) first
      second) : DerivesConnected after second := by
  have ownIndex := index_eq_iff isIndexed found
  have silentRest := areSilent_changesOf silent first.id
  refine DerivesConnected.restated (derives.exchanged ownIndex (before.find?_without name)
    nofun follows.edits.id_eq fun destination index => ?_) restated
  rw [Option.bind_none]
  by_cases own : interface.vrf = first.id
  · rw [changesOf_cons_own own] at follows
    obtain ⟨rerouted, answered, same⟩ := follows.exists_rerouted silentRest
    rw [same, entryAt?_reroute_detached destination index answered rfl isFiled]
    rfl
  · rw [changesOf_cons_other own] at follows
    rw [follows.entryAt?_of_silent destination index silentRest]
    split
    next here => rw [here, derives.listed name interface found, Interface.connectedAt?_of_ne own]
    next => rfl

/-- The interface of a name changes, but for its index. -/
theorem modified (derives : DerivesConnected before first) (isIndexed : before.IsIndexed)
    (found : before.find? name = some interface) {change : Interface → Interface}
    (sameIndex : (change interface).index = interface.index) (sameId : second.id = first.id)
    (here : ∀ destination, second.entryAt? destination (.connected, interface.index) =
      (change interface).connectedAt? first.id destination)
    (others : ∀ destination index, index ≠ interface.index →
      second.entryAt? destination (.connected, index) =
        first.entryAt? destination (.connected, index)) :
    DerivesConnected (before.modify name change) second := by
  have changed : ∀ listed, (before.modify name change).find? listed =
      if name = listed then some (change interface) else before.find? listed := by
    intro listed
    rw [InterfaceTable.find?_modify]
    split
    next own => rw [← own, found, Option.map_some]
    next => rfl
  refine derives.exchanged (index_eq_iff isIndexed found) changed
    (fun _ same => by cases same; exact sameIndex) sameId fun destination index => ?_
  split
  next own => rw [own, here, Option.bind_some]
  next other => exact others destination index other

/-- The interface of a name wins or loses an address. -/
theorem readdressed (derives : DerivesConnected before first) (isIndexed : before.IsIndexed)
    (found : before.find? name = some interface) (readdress : SortedSet Network → SortedSet Network)
    {what : InterfaceEvent}
    (follows : Follows (before.modify name fun interface =>
        { interface with addresses := readdress interface.addresses })
      (changesOf first.id [.of interface what]) first second)
    (entries : interface.vrf = first.id → ∀ rerouted, RouterM.reroute (before.modify name
        fun interface => { interface with addresses := readdress interface.addresses })
        (.of interface what) first = .ok rerouted → ∀ destination index,
      rerouted.2.entryAt? destination (.connected, index) =
        if index = interface.index then
          ({ interface with addresses := readdress interface.addresses } :
            Interface).connectedAt? first.id destination
        else first.entryAt? destination (.connected, index)) :
    DerivesConnected (before.modify name fun interface =>
      { interface with addresses := readdress interface.addresses }) second := by
  have sameId := follows.edits.id_eq
  by_cases own : interface.vrf = first.id
  · rw [changesOf_cons_own own] at follows
    obtain ⟨rerouted, answered, same⟩ := follows.exists_rerouted InterfaceTable.areSilent_nil
    refine derives.modified isIndexed found rfl sameId (fun destination => ?_)
      fun destination index other => ?_
    · rw [same, entries own rerouted answered, if_pos rfl]
    · rw [same, entries own rerouted answered, if_neg other]
  · rw [changesOf_cons_other own] at follows
    have same := fun destination index =>
      follows.entryAt?_of_silent destination index InterfaceTable.areSilent_nil
    refine derives.modified isIndexed found rfl sameId (fun destination => ?_)
      fun destination index _ => same destination index
    rw [same, derives.listed name interface found, Interface.connectedAt?_of_ne own,
      Interface.connectedAt?_of_ne (by exact own)]

theorem addressAdded (derives : DerivesConnected before first) (isIndexed : before.IsIndexed)
    (found : before.find? name = some interface) {network : Network}
    (follows : Follows (before.modify name fun interface =>
        { interface with addresses := interface.addresses.insert network () })
      (changesOf first.id [.of interface (.addressAdded network)]) first second) :
    DerivesConnected (before.modify name fun interface =>
      { interface with addresses := interface.addresses.insert network () }) second := by
  refine derives.readdressed isIndexed found (·.insert network ()) follows
    fun own rerouted answered destination index => ?_
  rw [entryAt?_reroute_addressAdded destination index answered rfl rfl]
  by_cases ownIndex : index = interface.index
  · rw [ownIndex, if_pos rfl, derives.listed name interface found, Interface.connectedAt?_own own,
      Interface.connectedAt?_readdressed own]
    simp only [true_and, Interface.hasSubnet_insert]
    by_cases here : Prefix.ofNetwork network = destination
    · simp only [here, true_or, if_true]
    · simp only [here, false_or, if_false]
  · simp only [ownIndex, false_and, if_false]

theorem addressRemoved (derives : DerivesConnected before first) (isKeyed : before.IsKeyed)
    (isIndexed : before.IsIndexed) (found : before.find? name = some interface) {network : Network}
    (follows : Follows (before.modify name fun interface =>
        { interface with addresses := interface.addresses.erase network })
      (changesOf first.id [.of interface (.addressRemoved network)]) first second) :
    DerivesConnected (before.modify name fun interface =>
      { interface with addresses := interface.addresses.erase network }) second := by
  refine derives.readdressed isIndexed found (·.erase network) follows
    fun own rerouted answered destination index => ?_
  have changed := InterfaceTable.find?_modify_own isKeyed found fun interface =>
    { interface with addresses := interface.addresses.erase network }
  rw [entryAt?_reroute_addressRemoved destination index answered rfl changed rfl]
  by_cases ownIndex : index = interface.index
  · rw [ownIndex, if_pos rfl, derives.listed name interface found, Interface.connectedAt?_own own,
      Interface.connectedAt?_readdressed own]
    by_cases here : Prefix.ofNetwork network = destination
    · simp only [here, and_self, if_true]
      rfl
    · simp only [here, and_false, if_false, Interface.hasSubnet_erase_of_ne interface here]
  · rw [if_neg ownIndex]
    exact if_neg fun both => ownIndex both.1

theorem moved (derives : DerivesConnected before first) (isFiled : first.IsFiled)
    (isKeyed : before.IsKeyed) (isIndexed : before.IsIndexed)
    (found : before.find? name = some interface) {id : UInt32} (elsewhere : interface.vrf ≠ id)
    (follows : Follows (before.modify name fun interface => { interface with vrf := id })
      (changesOf first.id [.of interface .detached, .of { interface with vrf := id } .attached])
      first second) :
    DerivesConnected (before.modify name fun interface => { interface with vrf := id }) second := by
  have sameId := follows.edits.id_eq
  have derived := derives.listed name interface found
  have silent := InterfaceTable.areSilent_nil
  have changed := InterfaceTable.find?_modify_own isKeyed found fun interface =>
    { interface with vrf := id }
  by_cases wasOwn : interface.vrf = first.id
  · have isOther : id ≠ first.id := fun own => elsewhere (wasOwn.trans own.symm)
    rw [changesOf_cons_own wasOwn, changesOf_cons_other isOther] at follows
    obtain ⟨rerouted, answered, same⟩ := follows.exists_rerouted silent
    have entries := fun destination index => (same destination index).trans
      (entryAt?_reroute_detached destination index answered rfl isFiled)
    refine derives.modified isIndexed found rfl sameId (fun destination => ?_)
      fun destination index other => (entries destination index).trans (if_neg other)
    rw [entries, Interface.connectedAt?_of_ne (by exact isOther)]
    exact if_pos rfl
  · have nothing : ∀ destination, first.entryAt? destination (.connected, interface.index) = none :=
      fun destination => (derived destination).trans
        (Interface.connectedAt?_of_ne wasOwn destination)
    rw [changesOf_cons_other wasOwn] at follows
    by_cases isOwn : id = first.id
    · rw [changesOf_cons_own isOwn] at follows
      obtain ⟨rerouted, answered, same⟩ := follows.exists_rerouted silent
      have entries := fun destination index => (same destination index).trans
        (entryAt?_reroute_attached destination index answered rfl changed isOwn
          (nothing destination))
      exact derives.modified isIndexed found rfl sameId
        (fun destination => (entries destination _).trans (if_pos rfl))
        fun destination index other => (entries destination index).trans (if_neg other)
    · rw [changesOf_cons_other isOwn] at follows
      have same := fun destination index => follows.entryAt?_of_silent destination index silent
      refine derives.modified isIndexed found rfl sameId (fun destination => ?_)
        fun destination index _ => same destination index
      rw [same, nothing, Interface.connectedAt?_of_ne (by exact isOwn)]

/-- Whatever event is followed, the connected entries stay derived. -/
theorem followed (derives : DerivesConnected before first) (isFiled : first.IsFiled)
    (isKeyed : before.IsKeyed) (isIndexed : before.IsIndexed) {vrfs : VrfTable}
    (evolves : InterfaceTable.Evolves vrfs before changes after)
    (follows : Follows after (changesOf first.id changes) first second) :
    DerivesConnected after second := by
  cases evolves with
  | restated silent restated =>
    refine DerivesConnected.restated (derives.congr follows.edits.id_eq fun destination index => ?_)
      restated
    exact follows.entryAt?_of_silent destination index (areSilent_changesOf silent first.id)
  | appeared _ added silent restated => exact derives.appeared added silent restated follows
  | disappeared found silent restated =>
    exact derives.disappeared isFiled isIndexed found silent restated follows
  | addressAdded network found => exact derives.addressAdded isIndexed found follows
  | addressRemoved network found => exact derives.addressRemoved isKeyed isIndexed found follows
  | moved _ found elsewhere => exact derives.moved isFiled isKeyed isIndexed found elsewhere follows

end DerivesConnected

/-- An entry is listed if an interface gives it. -/
theorem DerivesConnected.entryAt?_eq_some_iff {interfaces : InterfaceTable}
    (derives : DerivesConnected interfaces vrf) {entry : Candidate} :
    vrf.entryAt? destination (.connected, index) = some entry ↔
      ∃ name interface, interfaces.find? name = some interface ∧ interface.index = index ∧
        interface.connectedAt? vrf.id destination = some entry := by
  constructor
  · intro isListed
    by_cases used : ∃ name interface, interfaces.find? name = some interface ∧
        interface.index = index
    · obtain ⟨name, interface, found, rfl⟩ := used
      rw [derives.listed name interface found] at isListed
      exact ⟨name, interface, found, rfl, isListed⟩
    · rw [derives.unlisted index fun name interface found own =>
        used ⟨name, interface, found, own⟩] at isListed
      cases isListed
  · rintro ⟨name, interface, found, rfl, gives⟩
    rw [derives.listed name interface found, gives]

end Vrf

/-! ### The invariant -/

/-- The connected entries of a VRF are derived, whatever happens to it. -/
theorem isVrfInvariant_derivesConnected :
    IsVrfInvariant Origin.IsDynamic fun interfaces vrf =>
      vrf.IsFiled ∧ vrf.DerivesConnected interfaces where
  created interfaces name id netns attempts idle := by
    have nothing : ∀ destination index,
        (Vrf.create name id netns attempts).entryAt? destination (.connected, index) = none := by
      intro destination index
      unfold Vrf.entryAt?
      cases destination.family <;> rfl
    refine ⟨Vrf.isFiled_create name id netns attempts, fun own interface found destination => ?_,
      fun index _ destination => nothing destination index⟩
    have elsewhere := RoutingState.IsReferential.vrf_ne_of_idle idle found
    exact (nothing destination _).trans (Interface.connectedAt?_of_ne elsewhere destination).symm
  edited _ _ _ edits held :=
    ⟨edits.isFiled held.1, held.2.congr edits.id_eq fun destination _ =>
      edits.entryAt?_eq (fun isDynamic => by cases isDynamic <;> contradiction) destination⟩
  staticAdded _ vrf _ route held :=
    have edits : Vrf.Edits (· = .static) vrf _ := Vrf.edits_addStatic (by exact rfl) route vrf
    ⟨edits.isFiled held.1, held.2.congr edits.id_eq fun destination _ =>
      edits.entryAt?_eq Origin.noConfusion destination⟩
  staticRemoved _ vrf _ _ rerouted removed held :=
    have edits : Vrf.Edits (· = .static) vrf rerouted.2 :=
      Vrf.edits_removeStatic (by exact rfl) removed
    ⟨edits.isFiled held.1, held.2.congr edits.id_eq fun destination _ =>
      edits.entryAt?_eq Origin.noConfusion destination⟩
  followed _ _ _ _ _ _ isKeyed isIndexed evolves follows held :=
    ⟨follows.edits.isFiled held.1, held.2.followed held.1 isKeyed isIndexed evolves follows⟩

/-! ### The connected entries of a router -/

variable {Kernel : Type} [KernelBackend Kernel]

/-- In every router that can be reached while routes are announced and withdrawn for dynamic
protocols only, a VRF has a connected entry for a prefix with an index as instance if and only if
an interface with the index is attached to the VRF and has an address in the prefix. The entry has
distance zero and the interface as its one next hop. Prefixes are listed in the table of their
family only. -/
theorem connected_entries_of_reachable {router : Router Kernel}
    (reachable : Reachable Surroundings.dynamic router) (id : UInt32) (vrf : Vrf)
    (found : router.vrf id = .ok vrf) (destination : Prefix) (index : UInt32) :
    ((∃ candidate ∈ vrf.candidatesAt destination, candidate.key = (.connected, index)) ↔
      ∃ name interface network, router.state.interfaces.find? name = some interface ∧
        interface.index = index ∧ interface.vrf = id ∧ network ∈ interface.networks ∧
        Prefix.ofNetwork network = destination) ∧
      (∀ candidate ∈ vrf.candidatesAt destination, candidate.key = (.connected, index) →
        candidate.distance = 0 ∧
          ∀ name interface, router.state.interfaces.find? name = some interface →
            interface.index = index → candidate.hops.map Hop.nextHop = [.interface name]) ∧
      ∀ family set, (vrf.rib family).find? destination = some set →
        destination.family = family := by
  obtain ⟨isKeyed, allVrfs⟩ :=
    isVrfInvariant_derivesConnected.isInvariant.good_of_reachable reachable
  have isFound : router.state.vrfs.byId.find? id = some vrf := VrfTable.get_eq_ok_iff.1 found
  have own : vrf.id = id := isKeyed.vrfs id vrf isFound
  obtain ⟨isFiled, derives⟩ := allVrfs.held id vrf isFound
  have given : ∀ candidate ∈ vrf.candidatesAt destination, candidate.key = (.connected, index) →
      ∃ name interface, router.state.interfaces.find? name = some interface ∧
        interface.index = index ∧
          interface.connectedAt? id destination = some candidate.erased := by
    intro candidate member ownKey
    have listed := isFiled.mem_candidatesAt_iff.1 ⟨member, ownKey⟩
    have entry : vrf.entryAt? destination (.connected, index) = some candidate.erased := by
      rw [Vrf.entryAt?, Rib.entryAt?_eq, listed, Option.map_some]
    rw [← own]
    exact (derives.entryAt?_eq_some_iff destination index).1 entry
  refine ⟨⟨?_, ?_⟩, fun candidate member ownKey => ?_,
    fun family set => isFiled.family_eq family destination set⟩
  · rintro ⟨candidate, member, ownKey⟩
    obtain ⟨name, interface, isListed, ownIndex, gives⟩ := given candidate member ownKey
    obtain ⟨⟨attached, hasSubnet⟩, _⟩ := Option.ite_none_right_eq_some.1 gives
    obtain ⟨network, inNetworks, here⟩ := List.any_eq_true.1 hasSubnet
    exact ⟨name, interface, network, isListed, ownIndex, attached, inNetworks,
      of_decide_eq_true here⟩
  · rintro ⟨name, interface, network, isListed, rfl, rfl, inNetworks, here⟩
    have hasSubnet : interface.hasSubnet destination = true :=
      List.any_eq_true.2 ⟨network, inNetworks, decide_eq_true here⟩
    have entry := derives.listed name interface isListed destination
    rw [Vrf.entryAt?, Rib.entryAt?_eq, Interface.connectedAt?_own own.symm, if_pos hasSubnet,
      Option.map_eq_some_iff] at entry
    obtain ⟨candidate, inTable, _⟩ := entry
    exact ⟨candidate, isFiled.mem_candidatesAt_iff.2 inTable⟩
  · obtain ⟨name, interface, isListed, ownIndex, gives⟩ := given candidate member ownKey
    have erased := (Option.ite_none_right_eq_some.1 gives).2
    have isEntry : candidate.erased = interface.connectedTo destination :=
      (Option.some.inj erased).symm
    refine ⟨congrArg Candidate.distance isEntry,
      fun other otherInterface otherListed sameIndex => ?_⟩
    have sameName : other = interface.name := by
      rw [isKeyed.interfaces name interface isListed]
      exact allVrfs.isReferential.isIndexed other name otherInterface interface otherListed isListed
        (sameIndex.trans ownIndex.symm)
    have hops := congrArg (fun entry : Candidate => entry.hops.map Hop.nextHop) isEntry
    simp only [Candidate.erased, List.map_map] at hops
    rw [sameName]
    exact hops

theorem connected_entries_of_sampleRouter : ∃ (router : Router MemoryKernel) (vrf : Vrf)
    (candidate : Candidate), router.vrf defaultVrfId = .ok vrf ∧
      candidate ∈ vrf.candidatesAt (Prefix.ofNetwork sampleNetwork) ∧
      candidate.key = (.connected, 1) ∧ candidate.distance = 0 := by
  have connected : (sampleRouter?.bind fun router =>
      (router.vrf defaultVrfId).toOption.bind fun vrf =>
        (vrf.candidatesAt (Prefix.ofNetwork sampleNetwork)).find? fun candidate =>
          candidate.key = (.connected, 1)).isSome = true := by
    decide +kernel
  obtain ⟨candidate, isConnected⟩ := Option.isSome_iff_exists.1 connected
  obtain ⟨router, built, inRouter⟩ := Option.bind_eq_some_iff.1 isConnected
  obtain ⟨vrf, found, listed⟩ := Option.bind_eq_some_iff.1 inRouter
  have reachable : Reachable Surroundings.dynamic router :=
    reachable_sampleRouter trivial trivial built
  have isFound := eq_ok_of_toOption found
  have member := List.mem_of_find?_eq_some listed
  have accepted := List.find?_some listed
  have ownKey : candidate.key = (.connected, 1) := of_decide_eq_true accepted
  have entries := connected_entries_of_reachable reachable defaultVrfId vrf isFound
    (Prefix.ofNetwork sampleNetwork) 1
  exact ⟨router, vrf, candidate, isFound, member, ownKey, (entries.2.1 candidate member ownKey).1⟩

end ControlPlane
