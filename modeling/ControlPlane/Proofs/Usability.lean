/-
This file proves that the answer to an event on an interface reports what the event
did. Which interfaces became usable or unusable is found by comparing the interface
and its LAG with what they were; nothing is missed, as the states of no other
interfaces can have changed, however LAGs are members of each other. Addresses and
VRFs only change by events of their own, which report just the difference that they
made, and nothing if there was none.
-/

import ControlPlane.Proofs.InterfaceHistory
import ControlPlane.Proofs.SortedMap
import Mathlib.Data.List.Nodup

namespace ControlPlane

/-! ### Differences of sets -/

namespace SortedSet

variable {Key : Type} [OrderKey Key] [DecidableEq Key]

/-- What is in the later set and was not in the earlier one. -/
def gained (earlier later : SortedSet Key) : List Key :=
  later.keys.filter fun key => key ∉ earlier.keys

theorem gained_eq_nil {earlier later : SortedSet Key}
    (kept : ∀ key ∈ later.keys, key ∈ earlier.keys) : gained earlier later = [] :=
  List.filter_eq_nil_iff.2 fun key member => by simpa using kept key member

theorem gained_eq_singleton {earlier later : SortedSet Key} {key : Key} (fresh : key ∉ earlier.keys)
    (won : ∀ listed, listed ∈ later.keys ↔ key = listed ∨ listed ∈ earlier.keys) :
    gained earlier later = [key] := by
  have alike : gained earlier later = later.keys.filter (· == key) := by
    refine List.filter_congr fun listed member => ?_
    rcases (won listed).1 member with rfl | kept
    · simpa using fresh
    · have different : listed ≠ key := fun same => fresh (same ▸ kept)
      simp [different, kept]
  rw [alike, List.filter_beq,
    List.count_eq_one_of_mem (SortedMap.nodup_keys later) ((won key).2 (.inl rfl)),
    List.replicate_one]

theorem gained_insert {set : SortedSet Key} {key : Key} (fresh : key ∉ set.keys) :
    gained set (set.insert key ()) = [key] ∧ gained (set.insert key ()) set = [] :=
  ⟨gained_eq_singleton fresh fun _ => SortedMap.mem_keys_insert,
    gained_eq_nil fun _ member => SortedMap.mem_keys_insert.2 (.inr member)⟩

theorem gained_erase {set : SortedSet Key} {key : Key} (listed : key ∈ set.keys) :
    gained set (set.erase key) = [] ∧ gained (set.erase key) set = [key] := by
  refine ⟨gained_eq_nil fun _ member => (SortedMap.mem_keys_erase.1 member).2,
    gained_eq_singleton (fun kept => (SortedMap.mem_keys_erase.1 kept).1 rfl) fun other => ?_⟩
  rw [SortedMap.mem_keys_erase]
  by_cases here : key = other
  · simp [← here, listed]
  · simp [here]

end SortedSet

/-! ### Differences of an interface -/

namespace Interface

open SortedSet

/-- What there is to report of an interface besides its state: the VRF that it left and the one
that it joined, the addresses that it won, and those that it lost. -/
def differences (earlier later : Interface) : List InterfaceChange :=
  (if later.vrf = earlier.vrf then [] else [.of earlier .detached, .of later .attached]) ++
    (gained earlier.addresses later.addresses).map (.of later <| .addressAdded ·) ++
    (gained later.addresses earlier.addresses).map (.of later <| .addressRemoved ·)

variable {interface : Interface}

theorem differences_of_addresses_eq {earlier later : Interface}
    (same : later.addresses = earlier.addresses) :
    earlier.differences later =
      if later.vrf = earlier.vrf then [] else [.of earlier .detached, .of later .attached] := by
  rw [differences, same, gained_eq_nil fun _ => id, List.map_nil, List.map_nil, List.append_nil,
    List.append_nil]

theorem differences_self (interface : Interface) : interface.differences interface = [] := by
  rw [differences_of_addresses_eq rfl, if_pos rfl]

theorem differences_moved {vrf : UInt32} (elsewhere : interface.vrf ≠ vrf) :
    interface.differences { interface with vrf } =
      [.of interface .detached, .of { interface with vrf } .attached] := by
  have sameAddresses : ({ interface with vrf } : Interface).addresses = interface.addresses := rfl
  rw [differences_of_addresses_eq sameAddresses, if_neg (Ne.symm elsewhere)]

theorem differences_addressAdded {network : Network}
    (fresh : interface.addresses.contains network = false) :
    interface.differences
        { interface with addresses := interface.addresses.insert network () } =
      [.of interface (.addressAdded network)] := by
  have unlisted : network ∉ interface.addresses.keys := by
    rw [SortedMap.mem_keys_iff, ← Option.isSome_iff_exists]
    exact Bool.eq_false_iff.1 fresh
  obtain ⟨won, lost⟩ := gained_insert unlisted
  rw [differences, if_pos rfl, won, lost]
  rfl

theorem differences_addressRemoved {network : Network}
    (has : interface.addresses.contains network = true) :
    interface.differences
        { interface with addresses := interface.addresses.erase network } =
      [.of interface (.addressRemoved network)] := by
  obtain ⟨won, lost⟩ := gained_erase
    (SortedMap.mem_keys_iff.2 (Option.isSome_iff_exists.1 has))
  rw [differences, if_pos rfl, won, lost]
  rfl

end Interface

namespace InterfaceTable

open Interface

/-! ### What is to be reported -/

/-- The changes tell which interfaces that stay became usable or unusable, and no other ones, with
the VRF and the index that these have now. -/
structure ReportsUse (changes : List InterfaceChange) (before after : InterfaceTable) : Prop where
  reported : ∀ {name : String} {earlier later : Interface}, before.find? name = some earlier →
    after.find? name = some later → ∀ now,
      (∃ change ∈ changes, change.name = name ∧ change.what = .usable now) ↔
        later.isUsable ≠ earlier.isUsable ∧ later.isUsable = now
  current : ∀ {name : String} {later : Interface}, after.find? name = some later →
    ∀ change ∈ changes, change.name = name → ∀ now, change.what = .usable now →
      change.vrf = later.vrf ∧ change.index = later.index

/-- Interfaces other than the named ones neither come nor go, and those that stay keep their VRFs
and their addresses. -/
structure KeepsAttachments (moved : List String) (before after : InterfaceTable) : Prop where
  present : ∀ name, name ∉ moved → (after.find? name).isSome = (before.find? name).isSome
  kept : ∀ {name : String} {earlier later : Interface}, before.find? name = some earlier →
    after.find? name = some later → later.vrf = earlier.vrf ∧ later.addresses = earlier.addresses

/-- One interface was edited, and the changes are the differences that this made. No interface
became usable or unusable. -/
structure ReportsEdit (name : String) (edit : Interface → Interface)
    (changes : List InterfaceChange) (before after : InterfaceTable) : Prop where
  own : ∃ earlier, before.find? name = some earlier ∧ after.find? name = some (edit earlier) ∧
    changes = earlier.differences (edit earlier)
  others : ∀ other, name ≠ other → after.find? other = before.find? other
  isUsable_eq : ∀ other, after.isUsable other = before.isUsable other
  unchanged : changes = [] ↔ after = before

/-- What the answer to an event reports of the table before and the table after it. -/
def Reports (changes : List InterfaceChange) (before after : InterfaceTable) :
    InterfaceStep → Prop
  | .appear interface =>
    ReportsUse changes before after ∧ KeepsAttachments [interface.name] before after
  | .disappear name => ReportsUse changes before after ∧ KeepsAttachments [name] before after
  | .setAdmin _ _ | .setOper _ _ | .setRouting _ _ =>
    ReportsUse changes before after ∧ KeepsAttachments [] before after
  | .addAddress name network =>
    ReportsEdit name (fun interface =>
      { interface with addresses := interface.addresses.insert network () }) changes before after
  | .removeAddress name network =>
    ReportsEdit name (fun interface =>
      { interface with addresses := interface.addresses.erase network }) changes before after
  | .moveTo name vrf =>
    ReportsEdit name (fun interface => { interface with vrf }) changes before after

/-! ### Changes of states -/

section States

variable {before after : InterfaceTable} {moved listed : List String}

/-- Interfaces of some names came or went. Of all others only the states changed, and only those of
the listed ones. -/
structure RestatesBut (moved listed : List String) (before after : InterfaceTable) : Prop where
  cameOrWent : ∀ name ∈ moved, before.find? name = none ∨ after.find? name = none
  restated : ∀ name, name ∉ moved → RestatedAt before after name
  unlisted : ∀ name, name ∉ moved → name ∉ listed → after.find? name = before.find? name

theorem Restates.but (restates : Restates listed before after) :
    RestatesBut [] listed before after where
  cameOrWent _ member := nomatch member
  restated name _ := restates.same name
  unlisted name _ := restates.others name

/-- The states change after an interface came or went. -/
theorem Restates.but_of_moved {between : InterfaceTable} {own : String} {names : List String}
    (restates : Restates names between after)
    (elsewhere : ∀ other, own ≠ other → between.find? other = before.find? other)
    (here : before.find? own = none ∨ between.find? own = none)
    (covers : ∀ other ∈ names, own = other ∨ other ∈ listed) :
    RestatesBut [own] listed before after where
  cameOrWent := by
    refine List.forall_mem_singleton.2 (here.imp_right fun gone => ?_)
    obtain ⟨change, _, image⟩ := restates.same own
    rw [image, gone, Option.map_none]
  restated name other := by
    have restated := restates.same name
    rwa [RestatedAt, elsewhere name fun same => other (List.mem_singleton.2 same.symm)] at restated
  unlisted name other unlisted := by
    have different : own ≠ name := fun same => other (List.mem_singleton.2 same.symm)
    rw [restates.others name fun member => (covers name member).elim different unlisted,
      elsewhere name different]

theorem RestatesBut.notMem_moved (restates : RestatesBut moved listed before after) {name : String}
    {earlier later : Interface} (found : before.find? name = some earlier)
    (foundLater : after.find? name = some later) : name ∉ moved := by
  intro member
  rcases restates.cameOrWent name member with gone | gone
  · rw [gone] at found
    cases found
  · rw [gone] at foundLater
    cases foundLater

theorem RestatesBut.keepsAttachments (restates : RestatesBut moved listed before after) :
    KeepsAttachments moved before after where
  present name elsewhere := by
    obtain ⟨change, _, image⟩ := restates.restated name elsewhere
    rw [image, Option.isSome_map]
  kept {name earlier later} found foundLater := by
    obtain ⟨change, same, image⟩ :=
      restates.restated name (restates.notMem_moved found foundLater)
    rw [foundLater, found, Option.map_some] at image
    cases image
    rw [same earlier]
    exact ⟨rfl, rfl⟩

/-- It is enough to look at the interfaces whose states may have changed. -/
theorem RestatesBut.reportsUse (restates : RestatesBut moved listed before after)
    (isKeyed : after.IsKeyed) (own : List InterfaceChange)
    (apart : ∀ change ∈ own, ∀ now, change.what ≠ .usable now) :
    ReportsUse (own ++ usabilityChanges before after listed) before after := by
  have compared : ∀ {name later}, after.find? name = some later →
      ∀ change ∈ own ++ usabilityChanges before after listed, change.name = name →
        ∀ now, change.what = .usable now →
          later.isUsable ≠ before.isUsable name ∧
            change = .of later (.usable later.isUsable) := by
    intro name later foundLater change member named now what
    have usability := (List.mem_append.1 member).resolve_left fun isOwn =>
      apart change isOwn now what
    obtain ⟨other, _, interface, found, differs, rfl⟩ := mem_usabilityChanges_iff.1 usability
    obtain rfl : other = name := (isKeyed other interface found).symm.trans named
    rw [foundLater] at found
    cases found
    exact ⟨differs, rfl⟩
  refine ⟨fun {name earlier later} found foundLater now => ?_,
    fun {name later} foundLater change member named now what => ?_⟩
  · have wasUsable : before.isUsable name = earlier.isUsable := by
      rw [isUsable, found, Option.any_some]
    constructor
    · rintro ⟨change, member, named, what⟩
      obtain ⟨differs, rfl⟩ := compared foundLater change member named now what
      cases what
      exact ⟨wasUsable ▸ differs, rfl⟩
    · rintro ⟨differs, rfl⟩
      have isListed : name ∈ listed := by
        refine Decidable.byContradiction fun unlisted => differs ?_
        have same := restates.unlisted name (restates.notMem_moved found foundLater) unlisted
        rw [foundLater, found] at same
        cases same
        rfl
      refine ⟨.of later (.usable later.isUsable), List.mem_append_right own ?_,
        isKeyed name later foundLater, rfl⟩
      exact mem_usabilityChanges_iff.2
        ⟨name, isListed, later, foundLater, wasUsable ▸ differs, rfl⟩
  · obtain ⟨_, rfl⟩ := compared foundLater change member named now what
    exact ⟨rfl, rfl⟩

end States

section Events

variable {table after : InterfaceTable} {changes : List InterfaceChange} {name : String}

/-- Where no interface comes or goes, the changes of usability are all that there is to report. -/
theorem Restates.reports {listed : List String} (restates : Restates listed table after)
    (isKeyed : after.IsKeyed) :
    ReportsUse (usabilityChanges table after listed) table after ∧
      KeepsAttachments [] table after :=
  ⟨restates.but.reportsUse isKeyed [] (List.forall_mem_nil _), restates.but.keepsAttachments⟩

theorem reports_appear {interface : Interface} (isKeyed : after.IsKeyed)
    (answered : table.appear interface = .ok (changes, after)) :
    ReportsUse changes table after ∧ KeepsAttachments [interface.name] table after := by
  obtain ⟨between, added, restates, rfl⟩ := appear_cases answered
  obtain ⟨free, found⟩ := find?_of_add added
  have others : ∀ other, interface.name ≠ other → between.find? other = table.find? other :=
    fun other different => by rw [found, if_neg different]
  have but : RestatesBut [interface.name] interface.lag.toList table after :=
    restates.but_of_moved others (.inl free) fun other member =>
      (List.mem_cons.1 member).imp_left Eq.symm
  refine ⟨but.reportsUse isKeyed [_] (List.forall_mem_singleton.2 fun _ => ?_),
    but.keepsAttachments⟩
  exact InterfaceEvent.noConfusion

theorem reports_disappear {interface : Interface} (isKeyed : after.IsKeyed)
    (answered : table.disappear name = .ok (interface, changes, after)) :
    ReportsUse changes table after ∧ KeepsAttachments [name] table after := by
  obtain ⟨_, restates, rfl⟩ := disappear_cases answered
  have others : ∀ other, name ≠ other → (table.without name).find? other = table.find? other :=
    fun other different => by rw [find?_without, if_neg different]
  have but : RestatesBut [name] interface.lag.toList table after :=
    restates.but_of_moved others (.inr (by rw [find?_without, if_pos rfl])) fun _ => .inr
  refine ⟨but.reportsUse isKeyed [_] (List.forall_mem_singleton.2 fun _ => ?_),
    but.keepsAttachments⟩
  exact InterfaceEvent.noConfusion

/-- Without a change there is nothing to report. -/
theorem reports_nil (isKeyed : table.IsKeyed) :
    ReportsUse [] table table ∧ KeepsAttachments [] table table :=
  (restates_refl table).reports isKeyed

theorem reports_setAdmin {isUp : Bool} (isKeyed : after.IsKeyed)
    (answered : table.setAdmin name isUp = .ok (changes, after)) :
    ReportsUse changes table after ∧ KeepsAttachments [] table after := by
  obtain ⟨rfl, rfl⟩ := setAdmin_cases answered
  exact (restates_linkChange table name (sameButState_switched _)).reports isKeyed

theorem reports_setOper {isUp : Bool} (isKeyed : after.IsKeyed)
    (answered : table.setOper name isUp = .ok (changes, after)) :
    ReportsUse changes table after ∧ KeepsAttachments [] table after := by
  rcases setOper_cases answered with ⟨rfl, rfl⟩ | ⟨_, _, _, rfl, rfl⟩
  · exact reports_nil isKeyed
  · exact (restates_linkChange table name (sameButState_linked _)).reports isKeyed

theorem reports_setRouting {routes : Bool} (isKeyed : after.IsKeyed)
    (answered : table.setRouting name routes = .ok (changes, after)) :
    ReportsUse changes table after ∧ KeepsAttachments [] table after := by
  rcases setRouting_cases answered with ⟨rfl, rfl⟩ | ⟨interface, _, _, rfl, rfl⟩
  · exact reports_nil isKeyed
  · have but := (restates_modify table name (sameButState_moded (.ofBool routes))).but
    refine ⟨but.reportsUse isKeyed _ fun change member now => ?_, but.keepsAttachments⟩
    split at member
    · rw [List.mem_singleton.1 member]
      exact InterfaceEvent.noConfusion
    · cases member

/-! ### Edits -/

/-- An edit that changes nothing is not reported. -/
theorem reportsEdit_nil {interface : Interface} (found : table.find? name = some interface)
    {edit : Interface → Interface} (same : edit interface = interface) :
    ReportsEdit name edit [] table table where
  own := ⟨interface, found, same.symm ▸ found, by rw [same, differences_self]⟩
  others _ _ := rfl
  isUsable_eq _ := rfl
  unchanged := ⟨fun _ => rfl, fun _ => rfl⟩

/-- An edit that leaves the state alone and makes a difference is reported. -/
theorem reportsEdit_modify {interface : Interface} (found : table.find? name = some interface)
    {edit : Interface → Interface}
    (sameUse : (edit interface).isUsable = interface.isUsable)
    (reported : interface.differences (edit interface) = changes) (some : changes ≠ []) :
    ReportsEdit name edit changes table (table.modify name edit) where
  own := ⟨interface, found, by rw [find?_modify, if_pos rfl, found, Option.map_some],
    reported.symm⟩
  others other different := by rw [find?_modify, if_neg different]
  isUsable_eq other := by
    rw [isUsable, isUsable, find?_modify]
    split
    next here =>
      rw [← here, found, Option.map_some, Option.any_some, Option.any_some, sameUse]
    next => rfl
  unchanged := by
    refine ⟨fun none => absurd none some, fun same => absurd reported ?_⟩
    have unedited : (table.modify name edit).find? name = Option.some interface := by
      rw [same, found]
    rw [find?_modify, if_pos rfl, found] at unedited
    rw [Option.some.inj unedited, differences_self]
    exact some.symm

theorem reportsEdit_addAddress {network : Network}
    (answered : table.addAddress name network = .ok (changes, after)) :
    ReportsEdit name (fun interface =>
      { interface with addresses := interface.addresses.insert network () }) changes table
      after := by
  obtain ⟨interface, found, ⟨has, rfl, rfl⟩ | ⟨lacks, rfl, rfl⟩⟩ := addAddress_cases answered
  · refine reportsEdit_nil found ?_
    rw [SortedSet.insert_of_contains has]
  · exact reportsEdit_modify found rfl (differences_addressAdded lacks) (List.cons_ne_nil _ _)

theorem reportsEdit_removeAddress {network : Network}
    (answered : table.removeAddress name network = .ok (changes, after)) :
    ReportsEdit name (fun interface =>
      { interface with addresses := interface.addresses.erase network }) changes table after := by
  obtain ⟨interface, found, ⟨lacks, rfl, rfl⟩ | ⟨has, rfl, rfl⟩⟩ := removeAddress_cases answered
  · refine reportsEdit_nil found ?_
    have absent := Option.not_isSome_iff_eq_none.1 (Bool.eq_false_iff.1 lacks)
    rw [SortedMap.erase_of_find?_eq_none absent]
  · exact reportsEdit_modify found rfl (differences_addressRemoved has) (List.cons_ne_nil _ _)

theorem reportsEdit_moveTo {vrf : UInt32}
    (answered : table.moveTo name vrf = .ok (changes, after)) :
    ReportsEdit name (fun interface => { interface with vrf }) changes table after := by
  obtain ⟨interface, found, ⟨rfl, rfl, rfl⟩ | ⟨elsewhere, rfl, rfl⟩⟩ := moveTo_cases answered
  · exact reportsEdit_nil found rfl
  · exact reportsEdit_modify found rfl (differences_moved elsewhere) (List.cons_ne_nil _ _)

end Events

/-! ### Histories -/

/-- After every sequence of events, the answer to an event reports what the event does. When an
interface appears or disappears, is switched on or off, gains or loses its link, or is switched
between routing and bridging, a change tells that an interface which stays is usable now, or is not,
if and only if it was otherwise before, and no interface that stays changes its VRF or its
addresses. The other three events change nobody's usability and nothing of any other interface.
They answer just the differences of their own interface, and no change at all if and only if the
table is what it was. -/
theorem reports_of_history (steps : List InterfaceStep) (step : InterfaceStep)
    {changes : List InterfaceChange} {after : InterfaceTable}
    (answered : (empty.history steps).answer step = .ok (changes, after)) :
    Reports changes (empty.history steps) after step := by
  have isKeyed := (accounts_answer (isKeyed_empty.history steps) answered).isKeyed
  cases step with
  | appear interface => exact reports_appear isKeyed answered
  | disappear name =>
    obtain ⟨interface, disappeared⟩ := exists_of_answer_disappear answered
    exact reports_disappear isKeyed disappeared
  | setAdmin name isUp => exact reports_setAdmin isKeyed answered
  | setOper name isUp => exact reports_setOper isKeyed answered
  | setRouting name routes => exact reports_setRouting isKeyed answered
  | addAddress name network => exact reportsEdit_addAddress answered
  | removeAddress name network => exact reportsEdit_removeAddress answered
  | moveTo name vrf => exact reportsEdit_moveTo answered

/-- When the only link loses its carrier, the inner LAG is reported along with it. The outer LAG,
which was down, is not. -/
theorem reports_of_nestedLags : ∃ changes after,
    (appeared nestedLags).answer (.setOper "eth0" false) = .ok (changes, after) ∧
      (changes.map fun change => (change.name, change.what)) =
        [("eth0", .usable false), ("bond0", .usable false)] ∧
      Reports changes (appeared nestedLags) after (.setOper "eth0" false) := by
  have told : ((appeared nestedLags).answer (.setOper "eth0" false)).toOption.map (fun tracked =>
      tracked.1.map fun change => (change.name, change.what)) =
        some [("eth0", .usable false), ("bond0", .usable false)] := by
    decide +kernel
  cases answered : (appeared nestedLags).answer (.setOper "eth0" false) with
  | error error =>
    rw [answered] at told
    cases told
  | ok tracked =>
    rw [answered] at told
    exact ⟨tracked.1, tracked.2, rfl, Option.some.inj told, reports_of_history _ _ answered⟩

end InterfaceTable

end ControlPlane
