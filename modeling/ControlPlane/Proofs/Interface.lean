/-
This file proves that the changes that an event on an interface answers account
for all that the event does to routing. Next hops of a VRF are resolved over its
usable interfaces, and these stay what they were in every VRF that no change
names. It is not enough to look at the interface of the event: the state of a LAG
follows its members, and an interface that moves leaves one VRF and joins another.
-/

import ControlPlane.Proofs.InterfaceEvents

namespace ControlPlane

namespace Interface

/-- Whether an interface resolves next hops of a VRF. -/
def forwards (vrf : UInt32) (interface : Interface) : Bool :=
  interface.vrf = vrf && interface.isUsable

variable {first second : Interface}

theorem isUsable_iff {interface : Interface} : interface.isUsable ↔
    interface.admin = .up ∧ interface.oper = .up ∧ interface.mode = .routing := by
  simp [isUsable, isUp, and_assoc]

/-- All usable interfaces are in one state. -/
theorem SameButState.eq_of_isUsable (same : first.SameButState second)
    (firstUsable : first.isUsable) (secondUsable : second.isUsable) : second = first := by
  obtain ⟨admin, oper, mode⟩ := isUsable_iff.1 firstUsable
  obtain ⟨admin', oper', mode'⟩ := isUsable_iff.1 secondUsable
  rw [same, admin', oper', mode']
  cases first
  cases admin
  cases oper
  cases mode
  rfl

/-- An interface that stays usable, or stays unusable, resolves what it resolved. -/
theorem SameButState.filter_forwards (same : first.SameButState second)
    (sameUse : second.isUsable = first.isUsable) (vrf : UInt32) :
    (some second).filter (forwards vrf) = (some first).filter (forwards vrf) := by
  cases usable : first.isUsable with
  | true => rw [same.eq_of_isUsable usable (sameUse.trans usable)]
  | false =>
    rw [Option.filter_some_neg (by simp [forwards, sameUse, usable]),
      Option.filter_some_neg (by simp [forwards, usable])]

/-- An interface of another VRF resolves nothing. -/
theorem filter_forwards_other {interface : Interface} {vrf : UInt32} (other : interface.vrf ≠ vrf) :
    (some interface).filter (forwards vrf) = none := by
  refine Option.filter_some_neg ?_
  simp [forwards, other]

end Interface

namespace InterfaceTable

open Interface

/-! ### Resolution -/

/-- The interfaces that resolve next hops of a VRF. -/
def forwarding (table : InterfaceTable) (vrf : UInt32) : SortedMap String Interface :=
  table.byName.filter fun _ interface => interface.forwards vrf

theorem find?_forwarding (table : InterfaceTable) (vrf : UInt32) (name : String) :
    (table.forwarding vrf).find? name = (table.find? name).filter (forwards vrf) :=
  SortedMap.find?_filter _ _ _

/-- Tables whose interfaces forward alike at every name forward alike. -/
theorem forwarding_ext {first second : InterfaceTable} {vrf : UInt32}
    (alike : ∀ name, (second.find? name).filter (forwards vrf) =
      (first.find? name).filter (forwards vrf)) : second.forwarding vrf = first.forwarding vrf := by
  refine SortedMap.ext_find? fun name => ?_
  rw [find?_forwarding, find?_forwarding, alike name]

theorem usable?_eq (table : InterfaceTable) (vrf : UInt32) (name : String) :
    table.usable? vrf name = (table.forwarding vrf).find? name :=
  (find?_forwarding table vrf name).symm

theorem gatewayEgress?_eq (table : InterfaceTable) (vrf : UInt32) (address : Address) :
    gatewayEgress? table.interfaces vrf address =
      gatewayEgress? (table.forwarding vrf).values vrf address := by
  simp only [gatewayEgress?, interfaces, forwarding, SortedMap.values, SortedMap.filter]
  congr 2
  generalize table.byName.entries = entries
  induction entries with
  | nil => rfl
  | cons entry rest inductionHypothesis =>
    by_cases forwards : entry.2.forwards vrf
    · have keeps : (entry.2.vrf = vrf && entry.2.isUsable) = true := forwards
      simp only [List.map_cons, List.filter_cons, forwards, if_true, List.filterMap_cons, keeps,
        inductionHypothesis]
    · have drops : ¬ (entry.2.vrf = vrf && entry.2.isUsable) = true := forwards
      simp only [List.map_cons, List.filter_cons, forwards, List.filterMap_cons, drops,
        inductionHypothesis]
      rfl

/-- Next hops of a VRF are resolved over its usable interfaces and nothing else. -/
theorem resolver_congr {first second : InterfaceTable} {vrf : UInt32}
    (same : second.forwarding vrf = first.forwarding vrf) :
    second.resolver vrf = first.resolver vrf := by
  funext nextHop
  cases nextHop with
  | interface name => rw [resolver, resolver, usable?_eq, usable?_eq, same]
  | gateway address pinned =>
    cases pinned with
    | none => rw [resolver, resolver, gatewayEgress?_eq, gatewayEgress?_eq, same]
    | some name => rw [resolver, resolver, usable?_eq, usable?_eq, same]

/-- Nothing is resolved in a VRF that has no interfaces. -/
theorem resolver_of_attachedTo_eq_nil {table : InterfaceTable} {vrf : UInt32}
    (idle : table.attachedTo vrf = []) : table.resolver vrf = fun _ => none := by
  have unresolved : empty.resolver vrf = fun _ => none := by
    funext nextHop
    cases nextHop with
    | interface name => rfl
    | gateway address pinned => cases pinned <;> rfl
  rw [← unresolved]
  refine resolver_congr (forwarding_ext fun name => ?_)
  cases found : table.find? name with
  | none => rfl
  | some interface =>
    refine filter_forwards_other fun attached => ?_
    have member : interface ∈ table.attachedTo vrf :=
      List.mem_filter.2 ⟨SortedMap.mem_values_iff.2 ⟨name, found⟩, decide_eq_true attached⟩
    rw [idle] at member
    cases member

/-! ### Changes of state -/

/-- An interface whose VRF no change names is as usable as before. -/
theorem isUsable_of_notMem_usabilityChanges {before after : InterfaceTable} {names : List String}
    {name : String} (listed : name ∈ names) {interface : Interface}
    (found : after.find? name = some interface)
    (silent : interface.vrf ∉ (usabilityChanges before after names).map InterfaceChange.vrf) :
    interface.isUsable = before.isUsable name := by
  refine Decidable.byContradiction fun differs => ?_
  refine silent (List.mem_map.2 ⟨.of interface (.usable interface.isUsable), ?_, rfl⟩)
  exact mem_usabilityChanges_iff.2 ⟨name, listed, interface, found, differs, rfl⟩

/-- At a name that is looked at, the VRFs that no change names forward as before. -/
theorem RestatedAt.filter_forwards {before after : InterfaceTable} {name : String}
    (restated : RestatedAt before after name) {listed : List String} (member : name ∈ listed)
    {vrf : UInt32}
    (silent : vrf ∉ (usabilityChanges before after listed).map InterfaceChange.vrf) :
    (after.find? name).filter (forwards vrf) = (before.find? name).filter (forwards vrf) := by
  obtain ⟨change, same, image⟩ := restated
  cases found : before.find? name with
  | none => rw [image, found, Option.map_none]
  | some interface =>
    rw [found, Option.map_some] at image
    rw [image]
    by_cases here : interface.vrf = vrf
    · have sameUse := isUsable_of_notMem_usabilityChanges member image
        (by rwa [(same interface).vrf_eq, here])
      rw [isUsable, found, Option.any_some] at sameUse
      exact (same interface).filter_forwards sameUse vrf
    · rw [filter_forwards_other here, filter_forwards_other]
      rwa [(same interface).vrf_eq]

/-! ### Accounts -/

/-- Every interface is listed under its name. -/
def IsKeyed (table : InterfaceTable) : Prop :=
  ∀ name interface, table.find? name = some interface → interface.name = name

theorem Restates.isKeyed {names : List String} {before after : InterfaceTable}
    (restates : Restates names before after) (isKeyed : before.IsKeyed) : after.IsKeyed := by
  intro name interface found
  obtain ⟨earlier, foundEarlier, same⟩ := restates.exists_before found
  rw [same.name_eq]
  exact isKeyed name earlier foundEarlier

/-- The changes account for what became of a table: each names the VRF of its interface, unless
the interface left, and a VRF that none of them names forwards as before. -/
structure Accounts (changes : List InterfaceChange) (before after : InterfaceTable) : Prop where
  isKeyed : after.IsKeyed
  attributed : ∀ change ∈ changes, change.what ≠ .detached →
    ∀ interface, after.find? change.name = some interface → interface.vrf = change.vrf
  forwarding_eq : ∀ vrf, vrf ∉ changes.map InterfaceChange.vrf →
    after.forwarding vrf = before.forwarding vrf

/-- A change of the interface of a table names its VRF. -/
theorem vrf_of_find? {table : InterfaceTable} (isKeyed : table.IsKeyed) {name : String}
    {interface found : Interface} (listed : table.find? name = some interface)
    (isFound : table.find? interface.name = some found) : found.vrf = interface.vrf := by
  rw [isKeyed name interface listed, listed] at isFound
  cases isFound
  rfl

theorem attributed_usabilityChanges {before after : InterfaceTable} (isKeyed : after.IsKeyed)
    {names : List String} {change : InterfaceChange}
    (member : change ∈ usabilityChanges before after names) {interface : Interface}
    (found : after.find? change.name = some interface) : interface.vrf = change.vrf := by
  obtain ⟨name, _, changed, listed, _, rfl⟩ := mem_usabilityChanges_iff.1 member
  exact vrf_of_find? isKeyed listed found

/-- If only states change, and only those of listed interfaces, the changes of usability are all
that there is to know. -/
theorem accounts_usabilityChanges {before after : InterfaceTable} (isKeyed : before.IsKeyed)
    {names : List String} (restates : Restates names before after) :
    Accounts (usabilityChanges before after names) before after where
  isKeyed := restates.isKeyed isKeyed
  attributed _ member _ _ found :=
    attributed_usabilityChanges (restates.isKeyed isKeyed) member found
  forwarding_eq vrf silent := by
    refine forwarding_ext fun name => ?_
    by_cases listed : name ∈ names
    · exact (restates.same name).filter_forwards listed silent
    · rw [restates.others name listed]

theorem accounts_refl {table : InterfaceTable} (isKeyed : table.IsKeyed) :
    Accounts [] table table where
  isKeyed := isKeyed
  attributed _ member := nomatch member
  forwarding_eq _ _ := rfl

/-- A further change of an interface of the table does no harm. -/
theorem Accounts.cons {changes : List InterfaceChange} {before after : InterfaceTable}
    (accounts : Accounts changes before after) {change : InterfaceChange}
    (attributed : change.what ≠ .detached →
      ∀ interface, after.find? change.name = some interface → interface.vrf = change.vrf) :
    Accounts (change :: changes) before after where
  isKeyed := accounts.isKeyed
  attributed := List.forall_mem_cons.2 ⟨attributed, accounts.attributed⟩
  forwarding_eq vrf silent :=
    accounts.forwarding_eq vrf fun named => silent (List.mem_cons_of_mem _ named)

/-! ### Events -/

section Events

variable {table after : InterfaceTable} {changes : List InterfaceChange} {name : String}

theorem accounts_setAdmin {isUp : Bool} (isKeyed : table.IsKeyed)
    (answered : table.setAdmin name isUp = .ok (changes, after)) :
    Accounts changes table after := by
  obtain ⟨rfl, rfl⟩ := setAdmin_cases answered
  exact accounts_usabilityChanges isKeyed
    (restates_linkChange table name (sameButState_switched _))

theorem accounts_setOper {isUp : Bool} (isKeyed : table.IsKeyed)
    (answered : table.setOper name isUp = .ok (changes, after)) :
    Accounts changes table after := by
  rcases setOper_cases answered with ⟨rfl, rfl⟩ | ⟨_, _, _, rfl, rfl⟩
  · exact accounts_refl isKeyed
  · exact accounts_usabilityChanges isKeyed
      (restates_linkChange table name (sameButState_linked _))

/-- The changed interface is found under the name that it had. -/
theorem find?_modify_own (isKeyed : table.IsKeyed) {interface : Interface}
    (found : table.find? name = some interface) (change : Interface → Interface) :
    (table.modify name change).find? interface.name = some (change interface) := by
  rw [isKeyed name interface found, find?_modify, if_pos rfl, found, Option.map_some]

theorem isKeyed_modify (isKeyed : table.IsKeyed) {change : Interface → Interface}
    (sameName : ∀ interface, (change interface).name = interface.name) :
    (table.modify name change).IsKeyed := by
  intro listed interface found
  rw [find?_modify] at found
  split at found
  · obtain ⟨earlier, foundEarlier, rfl⟩ := Option.map_eq_some_iff.1 found
    rw [sameName, isKeyed listed earlier foundEarlier]
  · exact isKeyed listed interface found

/-- A change of an interface leaves the VRFs alone in which it neither was nor is. -/
theorem forwarding_modify {interface : Interface} (found : table.find? name = some interface)
    {change : Interface → Interface} {vrf : UInt32} (wasElsewhere : interface.vrf ≠ vrf)
    (isElsewhere : (change interface).vrf ≠ vrf) :
    (table.modify name change).forwarding vrf = table.forwarding vrf := by
  refine forwarding_ext fun listed => ?_
  rw [find?_modify]
  split
  next here =>
    rw [← here, found, Option.map_some, filter_forwards_other isElsewhere,
      filter_forwards_other wasElsewhere]
  next => rfl

theorem accounts_setRouting {routes : Bool} (isKeyed : table.IsKeyed)
    (answered : table.setRouting name routes = .ok (changes, after)) :
    Accounts changes table after := by
  rcases setRouting_cases answered with ⟨rfl, rfl⟩ | ⟨interface, found, _, rfl, rfl⟩
  · exact accounts_refl isKeyed
  · have accounts := accounts_usabilityChanges isKeyed
      (restates_modify table name (sameButState_moded (.ofBool routes)))
    split
    · refine accounts.cons fun _ listed isFound => ?_
      rw [InterfaceChange.of, find?_modify_own isKeyed found] at isFound
      cases isFound
      rfl
    · exact accounts

/-- A change of the addresses of an interface. -/
theorem accounts_readdressed (isKeyed : table.IsKeyed) {interface : Interface}
    (found : table.find? name = some interface) (readdress : SortedSet Network → SortedSet Network)
    (what : InterfaceEvent) :
    Accounts [.of interface what] table (table.modify name fun interface =>
      { interface with addresses := readdress interface.addresses }) where
  isKeyed := isKeyed_modify isKeyed fun _ => rfl
  attributed := by
    refine List.forall_mem_singleton.2 fun _ changed isFound => ?_
    rw [InterfaceChange.of, find?_modify_own isKeyed found] at isFound
    cases isFound
    rfl
  forwarding_eq vrf silent := by
    have elsewhere : interface.vrf ≠ vrf := fun here => silent (List.mem_singleton.2 here.symm)
    exact forwarding_modify found elsewhere elsewhere

theorem accounts_addAddress {network : Network} (isKeyed : table.IsKeyed)
    (answered : table.addAddress name network = .ok (changes, after)) :
    Accounts changes table after := by
  obtain ⟨interface, found, outcome⟩ := addAddress_cases answered
  rcases outcome with ⟨_, rfl, rfl⟩ | ⟨_, rfl, rfl⟩
  · exact accounts_refl isKeyed
  · exact accounts_readdressed isKeyed found (·.insert network ()) _

theorem accounts_removeAddress {network : Network} (isKeyed : table.IsKeyed)
    (answered : table.removeAddress name network = .ok (changes, after)) :
    Accounts changes table after := by
  obtain ⟨interface, found, outcome⟩ := removeAddress_cases answered
  rcases outcome with ⟨_, rfl, rfl⟩ | ⟨_, rfl, rfl⟩
  · exact accounts_refl isKeyed
  · exact accounts_readdressed isKeyed found (·.erase network) _

theorem accounts_moveTo {vrf : UInt32} (isKeyed : table.IsKeyed)
    (answered : table.moveTo name vrf = .ok (changes, after)) :
    Accounts changes table after := by
  obtain ⟨interface, found, outcome⟩ := moveTo_cases answered
  rcases outcome with ⟨_, rfl, rfl⟩ | ⟨_, rfl, rfl⟩
  · exact accounts_refl isKeyed
  · refine ⟨isKeyed_modify isKeyed fun _ => rfl, ?_, fun listed silent => ?_⟩
    · refine List.forall_mem_cons.2 ⟨fun stays => (stays rfl).elim, ?_⟩
      refine List.forall_mem_singleton.2 fun _ moved isFound => ?_
      rw [InterfaceChange.of, find?_modify_own isKeyed found] at isFound
      cases isFound
      rfl
    · simp only [List.map_cons, List.map_nil, List.mem_cons, List.not_mem_nil, or_false,
        not_or] at silent
      exact forwarding_modify found (Ne.symm silent.1) (Ne.symm silent.2)

/-- At other names than that of an interface that comes or goes, states may change. -/
theorem forwarding_eq_of_restates {between : InterfaceTable} {own : String}
    {names listed : List String} {vrf : UInt32}
    (elsewhere : ∀ other, own ≠ other → between.find? other = table.find? other)
    (here : (after.find? own).filter (forwards vrf) = (table.find? own).filter (forwards vrf))
    (restates : Restates names between after)
    (covers : ∀ other ∈ names, own = other ∨ other ∈ listed)
    (silent : vrf ∉ (usabilityChanges table after listed).map InterfaceChange.vrf) :
    after.forwarding vrf = table.forwarding vrf := by
  refine forwarding_ext fun other => ?_
  by_cases isOwn : own = other
  · rw [← isOwn, here]
  · by_cases changed : other ∈ names
    · have restated : RestatedAt table after other := by
        have sinceBetween := restates.same other
        rwa [RestatedAt, elsewhere other isOwn] at sinceBetween
      exact restated.filter_forwards ((covers other changed).resolve_left isOwn) silent
    · rw [restates.others other changed, elsewhere other isOwn]

theorem isKeyed_add {interface : Interface} (isKeyed : table.IsKeyed)
    (added : table.add interface = .ok after) : after.IsKeyed := by
  intro listed known isFound
  rw [(find?_of_add added).2] at isFound
  split at isFound
  next here =>
    cases isFound
    exact here
  next => exact isKeyed listed known isFound

theorem accounts_appear {interface : Interface} (isKeyed : table.IsKeyed)
    (answered : table.appear interface = .ok (changes, after)) :
    Accounts changes table after := by
  obtain ⟨between, added, restates, rfl⟩ := appear_cases answered
  obtain ⟨free, found⟩ := find?_of_add added
  have afterKeyed := restates.isKeyed (isKeyed_add isKeyed added)
  obtain ⟨change, same, image⟩ := restates.same interface.name
  rw [found, if_pos rfl, Option.map_some] at image
  have sameVrf : (change interface).vrf = interface.vrf := (same interface).vrf_eq
  refine ⟨afterKeyed, ?_, fun vrf silent => ?_⟩
  · refine List.forall_mem_cons.2 ⟨fun _ owner isFound => ?_, fun listed member _ owner isFound =>
      attributed_usabilityChanges afterKeyed member isFound⟩
    rw [InterfaceChange.of, image] at isFound
    cases isFound
    exact sameVrf
  · rw [List.map_cons, List.mem_cons, not_or] at silent
    have elsewhere : (change interface).vrf ≠ vrf := sameVrf ▸ Ne.symm silent.1
    have others : ∀ other, interface.name ≠ other → between.find? other = table.find? other :=
      fun other different => by rw [found, if_neg different]
    refine forwarding_eq_of_restates others ?_ restates ?_ silent.2
    · rw [image, free, filter_forwards_other elsewhere, Option.filter_none]
    · intro other member
      exact (List.mem_cons.1 member).imp_left Eq.symm

theorem isKeyed_without (isKeyed : table.IsKeyed) : (table.without name).IsKeyed := by
  intro listed interface found
  rw [find?_without] at found
  split at found
  · cases found
  · exact isKeyed listed interface found

theorem accounts_disappear {interface : Interface} (isKeyed : table.IsKeyed)
    (answered : table.disappear name = .ok (interface, changes, after)) :
    Accounts changes table after := by
  obtain ⟨found, restates, rfl⟩ := disappear_cases answered
  have afterKeyed := restates.isKeyed (isKeyed_without isKeyed)
  refine ⟨afterKeyed, ?_, fun vrf silent => ?_⟩
  · refine List.forall_mem_cons.2 ⟨fun stays => (stays rfl).elim, ?_⟩
    intro change member _ owner isFound
    exact attributed_usabilityChanges afterKeyed member isFound
  · rw [List.map_cons, List.mem_cons, not_or] at silent
    have elsewhere : interface.vrf ≠ vrf := Ne.symm silent.1
    have others : ∀ other, name ≠ other → (table.without name).find? other = table.find? other :=
      fun other different => by rw [find?_without, if_neg different]
    refine forwarding_eq_of_restates others ?_ restates (fun _ member => Or.inr member) silent.2
    obtain ⟨change, _, image⟩ := restates.same name
    rw [find?_without, if_pos rfl, Option.map_none] at image
    rw [found, filter_forwards_other elsewhere]
    exact congrArg (Option.filter (forwards vrf)) image

end Events

/-! ### Changed interfaces -/

/-- Two tables have the same interfaces attached to a VRF. -/
def SameIn (vrf : UInt32) (before after : InterfaceTable) : Prop :=
  ∀ name interface, interface.vrf = vrf →
    (before.find? name = some interface ↔ after.find? name = some interface)

/-- Every change names a VRF of which some interface is another one. -/
def AreFounded (changes : List InterfaceChange) (before after : InterfaceTable) : Prop :=
  ∀ change ∈ changes, ¬ SameIn change.vrf before after

section Founded

variable {table after : InterfaceTable} {changes : List InterfaceChange} {name : String}
  {interface : Interface}

theorem not_sameIn_of_before (found : table.find? name = some interface)
    (lost : after.find? name ≠ some interface) : ¬ SameIn interface.vrf table after :=
  fun same => lost ((same name interface rfl).1 found)

theorem not_sameIn_of_after (found : after.find? name = some interface)
    (fresh : table.find? name ≠ some interface) : ¬ SameIn interface.vrf table after :=
  fun same => fresh ((same name interface rfl).2 found)

/-- Where tables differ in a VRF, an interface is or was attached to it. -/
theorem exists_of_not_sameIn {before after : InterfaceTable} {vrf : UInt32}
    (differ : ¬ SameIn vrf before after) : ∃ name interface, interface.vrf = vrf ∧
      (before.find? name = some interface ∨ after.find? name = some interface) := by
  obtain ⟨name, differ⟩ := Classical.not_forall.1 differ
  obtain ⟨interface, differ⟩ := Classical.not_forall.1 differ
  obtain ⟨attached, differ⟩ := Classical.not_imp.1 differ
  refine ⟨name, interface, attached, Classical.byContradiction fun nowhere => differ ?_⟩
  exact ⟨fun found => absurd (Or.inl found) nowhere, fun found => absurd (Or.inr found) nowhere⟩

theorem areFounded_nil (before after : InterfaceTable) : AreFounded [] before after :=
  fun _ member => nomatch member

/-- An interface that is as usable as it was is not reported. -/
theorem areFounded_usabilityChanges (before after : InterfaceTable) (names : List String) :
    AreFounded (usabilityChanges before after names) before after := by
  intro change member
  obtain ⟨name, _, interface, found, differs, rfl⟩ := mem_usabilityChanges_iff.1 member
  refine not_sameIn_of_after found fun foundBefore => differs ?_
  rw [isUsable, foundBefore, Option.any_some]

theorem AreFounded.cons {change : InterfaceChange} (areFounded : AreFounded changes table after)
    (founded : ¬ SameIn change.vrf table after) : AreFounded (change :: changes) table after :=
  List.forall_mem_cons.2 ⟨founded, areFounded⟩

/-- An interface that is changed in place is another one, if the change is one at all. -/
theorem not_sameIn_modify (found : table.find? name = some interface)
    {change : Interface → Interface} (differs : change interface ≠ interface) :
    ¬ SameIn interface.vrf table (table.modify name change) := by
  refine not_sameIn_of_before found fun foundAfter => differs ?_
  rw [find?_modify, if_pos rfl, found] at foundAfter
  exact Option.some.inj foundAfter

theorem areFounded_setAdmin {isUp : Bool}
    (answered : table.setAdmin name isUp = .ok (changes, after)) :
    AreFounded changes table after := by
  obtain ⟨rfl, rfl⟩ := setAdmin_cases answered
  exact areFounded_usabilityChanges _ _ _

theorem areFounded_setOper {isUp : Bool}
    (answered : table.setOper name isUp = .ok (changes, after)) :
    AreFounded changes table after := by
  rcases setOper_cases answered with ⟨rfl, rfl⟩ | ⟨_, _, _, rfl, rfl⟩
  · exact areFounded_nil _ _
  · exact areFounded_usabilityChanges _ _ _

theorem areFounded_setRouting {routes : Bool}
    (answered : table.setRouting name routes = .ok (changes, after)) :
    AreFounded changes table after := by
  rcases setRouting_cases answered with ⟨rfl, rfl⟩ | ⟨interface, found, differs, rfl, rfl⟩
  · exact areFounded_nil _ _
  · have founded := areFounded_usabilityChanges table
      (table.modify name (moded (.ofBool routes))) [name]
    split
    · refine founded.cons (not_sameIn_modify found fun unchanged => differs ?_)
      exact (congrArg Interface.mode unchanged).symm
    · exact founded

theorem areFounded_addAddress {network : Network}
    (answered : table.addAddress name network = .ok (changes, after)) :
    AreFounded changes table after := by
  obtain ⟨interface, found, outcome⟩ := addAddress_cases answered
  rcases outcome with ⟨_, rfl, rfl⟩ | ⟨lacks, rfl, rfl⟩
  · exact areFounded_nil _ _
  · refine (areFounded_nil _ _).cons (not_sameIn_modify found fun unchanged => ?_)
    rw [← congrArg Interface.addresses unchanged, SortedMap.contains, SortedMap.find?_insert,
      if_pos rfl] at lacks
    cases lacks

theorem areFounded_removeAddress {network : Network}
    (answered : table.removeAddress name network = .ok (changes, after)) :
    AreFounded changes table after := by
  obtain ⟨interface, found, outcome⟩ := removeAddress_cases answered
  rcases outcome with ⟨_, rfl, rfl⟩ | ⟨has, rfl, rfl⟩
  · exact areFounded_nil _ _
  · refine (areFounded_nil _ _).cons (not_sameIn_modify found fun unchanged => ?_)
    rw [← congrArg Interface.addresses unchanged, SortedMap.contains, SortedMap.find?_erase,
      if_pos rfl] at has
    cases has

/-- An interface that moves is another one in both VRFs. -/
theorem areFounded_moveTo {vrf : UInt32}
    (answered : table.moveTo name vrf = .ok (changes, after)) :
    AreFounded changes table after := by
  obtain ⟨interface, found, outcome⟩ := moveTo_cases answered
  rcases outcome with ⟨_, rfl, rfl⟩ | ⟨elsewhere, rfl, rfl⟩
  · exact areFounded_nil _ _
  · have differs : { interface with vrf } ≠ interface := fun unchanged =>
      elsewhere (congrArg Interface.vrf unchanged).symm
    refine ((areFounded_nil _ _).cons ?_).cons (not_sameIn_modify found differs)
    have moved : (table.modify name fun interface => { interface with vrf }).find? name =
        some { interface with vrf } := by
      rw [find?_modify, if_pos rfl, found, Option.map_some]
    exact not_sameIn_of_after moved fun unchanged =>
      differs (Option.some.inj (unchanged.symm.trans found))

/-- An interface that appears was not there before. -/
theorem areFounded_appear (answered : table.appear interface = .ok (changes, after)) :
    AreFounded changes table after := by
  obtain ⟨between, added, restates, rfl⟩ := appear_cases answered
  obtain ⟨free, found⟩ := find?_of_add added
  obtain ⟨change, same, image⟩ := restates.same interface.name
  rw [found, if_pos rfl, Option.map_some] at image
  refine (areFounded_usabilityChanges _ _ _).cons ?_
  have fresh : ¬ SameIn (change interface).vrf table after :=
    not_sameIn_of_after image (by rw [free]; nofun)
  rwa [(same interface).vrf_eq] at fresh

theorem areFounded_disappear (answered : table.disappear name = .ok (interface, changes, after)) :
    AreFounded changes table after := by
  obtain ⟨found, restates, rfl⟩ := disappear_cases answered
  obtain ⟨_, _, image⟩ := restates.same name
  rw [find?_without, if_pos rfl, Option.map_none] at image
  refine (areFounded_usabilityChanges _ _ _).cons (not_sameIn_of_before found ?_)
  exact fun stays => nomatch (image.symm.trans stays)

end Founded

end InterfaceTable

end ControlPlane
