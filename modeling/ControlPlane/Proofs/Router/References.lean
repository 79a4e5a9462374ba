/-
This file says once what an event does to the interfaces of a router besides their
states: an interface appears or disappears, wins or loses an address, or moves to
another VRF, and the changes that the event answers tell which. From this it
follows that interfaces and VRFs always refer to each other properly: an
interface is attached to a VRF that exists, no two interfaces share an index, and
the index of names lists just the names of the VRFs.
-/

import ControlPlane.Proofs.Router.Following

namespace ControlPlane

namespace InterfaceChange

/-- The change tells which interfaces can be used and nothing else. -/
def IsOfUse (change : InterfaceChange) : Prop :=
  ∃ now, change.what = .usable now

/-- The change says nothing about which interfaces there are, where they are attached, and which
addresses they have. -/
def IsSilent (change : InterfaceChange) : Prop :=
  ¬ change.what.touches .connected

theorem IsOfUse.isSilent {change : InterfaceChange} (isOfUse : change.IsOfUse) :
    change.IsSilent := by
  obtain ⟨now, what⟩ := isOfUse
  rw [IsSilent, what]
  exact id

end InterfaceChange

namespace InterfaceTable

/-! ### What becomes of the interfaces -/

def AreSilent (changes : List InterfaceChange) : Prop :=
  ∀ change ∈ changes, change.IsSilent

/-- Interfaces differ in their states at most. -/
def Restated (before after : InterfaceTable) : Prop :=
  ∀ name, RestatedAt before after name

/-- What an event does to the interfaces besides their states, and which changes it answers. -/
inductive Evolves (vrfs : VrfTable) (before : InterfaceTable) :
    List InterfaceChange → InterfaceTable → Prop
  | restated {changes : List InterfaceChange} {after : InterfaceTable}
      (silent : AreSilent changes) (restated : Restated before after) :
      Evolves vrfs before changes after
  | appeared {vrf : String} {interface : Interface} {between after : InterfaceTable}
      {changes : List InterfaceChange} (named : vrfs.idOf vrf = .ok interface.vrf)
      (added : before.add interface = .ok between) (silent : AreSilent changes)
      (restated : Restated between after) :
      Evolves vrfs before (.of interface .attached :: changes) after
  | disappeared {name : String} {interface : Interface} {after : InterfaceTable}
      {changes : List InterfaceChange} (found : before.find? name = some interface)
      (silent : AreSilent changes) (restated : Restated (before.without name) after) :
      Evolves vrfs before (.of interface .detached :: changes) after
  | addressAdded {name : String} {interface : Interface} (network : Network)
      (found : before.find? name = some interface) :
      Evolves vrfs before [.of interface (.addressAdded network)]
        (before.modify name fun interface =>
          { interface with addresses := interface.addresses.insert network () })
  | addressRemoved {name : String} {interface : Interface} (network : Network)
      (found : before.find? name = some interface) :
      Evolves vrfs before [.of interface (.addressRemoved network)]
        (before.modify name fun interface =>
          { interface with addresses := interface.addresses.erase network })
  | moved {name vrf : String} {interface : Interface} {id : UInt32}
      (named : vrfs.idOf vrf = .ok id) (found : before.find? name = some interface)
      (elsewhere : interface.vrf ≠ id) :
      Evolves vrfs before [.of interface .detached, .of { interface with vrf := id } .attached]
        (before.modify name fun interface => { interface with vrf := id })

theorem isOfUse_of_mem_usabilityChanges {before after : InterfaceTable} {names : List String} :
    ∀ change ∈ usabilityChanges before after names, change.IsOfUse := by
  intro change member
  obtain ⟨_, _, _, _, _, rfl⟩ := mem_usabilityChanges_iff.1 member
  exact ⟨_, rfl⟩

theorem areSilent_usabilityChanges (before after : InterfaceTable) (names : List String) :
    AreSilent (usabilityChanges before after names) :=
  fun change member => (isOfUse_of_mem_usabilityChanges change member).isSilent

theorem areSilent_nil : AreSilent [] :=
  fun _ member => nomatch member

theorem restated_refl (table : InterfaceTable) : Restated table table :=
  (restates_refl table).same

section Events

variable {vrfs : VrfTable} {table after : InterfaceTable} {changes : List InterfaceChange}
  {name : String}

theorem evolves_refl (vrfs : VrfTable) (table : InterfaceTable) : Evolves vrfs table [] table :=
  .restated areSilent_nil (restated_refl table)

theorem restated_setAdmin {isUp : Bool}
    (answered : table.setAdmin name isUp = .ok (changes, after)) :
    AreSilent changes ∧ Restated table after := by
  obtain ⟨rfl, rfl⟩ := setAdmin_cases answered
  exact ⟨areSilent_usabilityChanges _ _ _,
    (restates_linkChange table name (Interface.sameButState_switched _)).same⟩

theorem restated_setOper {isUp : Bool} (answered : table.setOper name isUp = .ok (changes, after)) :
    AreSilent changes ∧ Restated table after := by
  rcases setOper_cases answered with ⟨rfl, rfl⟩ | ⟨_, _, _, rfl, rfl⟩
  · exact ⟨areSilent_nil, restated_refl _⟩
  · exact ⟨areSilent_usabilityChanges _ _ _,
      (restates_linkChange table name (Interface.sameButState_linked _)).same⟩

theorem restated_setRouting {routes : Bool}
    (answered : table.setRouting name routes = .ok (changes, after)) :
    AreSilent changes ∧ Restated table after := by
  rcases setRouting_cases answered with ⟨rfl, rfl⟩ | ⟨interface, _, _, rfl, rfl⟩
  · exact ⟨areSilent_nil, restated_refl _⟩
  · refine ⟨List.forall_mem_append.2 ⟨?_, areSilent_usabilityChanges _ _ _⟩,
      (restates_modify table name (Interface.sameButState_moded _)).same⟩
    split
    · exact List.forall_mem_singleton.2 Origin.noConfusion
    · exact areSilent_nil

theorem evolves_addAddress {network : Network}
    (answered : table.addAddress name network = .ok (changes, after)) :
    Evolves vrfs table changes after := by
  obtain ⟨interface, found, ⟨_, rfl, rfl⟩ | ⟨_, rfl, rfl⟩⟩ := addAddress_cases answered
  · exact evolves_refl vrfs _
  · exact .addressAdded network found

theorem evolves_removeAddress {network : Network}
    (answered : table.removeAddress name network = .ok (changes, after)) :
    Evolves vrfs table changes after := by
  obtain ⟨interface, found, ⟨_, rfl, rfl⟩ | ⟨_, rfl, rfl⟩⟩ := removeAddress_cases answered
  · exact evolves_refl vrfs _
  · exact .addressRemoved network found

theorem evolves_moveTo {vrf : String} {id : UInt32} (named : vrfs.idOf vrf = .ok id)
    (answered : table.moveTo name id = .ok (changes, after)) :
    Evolves vrfs table changes after := by
  obtain ⟨interface, found, ⟨_, rfl, rfl⟩ | ⟨elsewhere, rfl, rfl⟩⟩ := moveTo_cases answered
  · exact evolves_refl vrfs _
  · exact .moved named found elsewhere

theorem evolves_appear {vrf : String} {interface : Interface}
    (named : vrfs.idOf vrf = .ok interface.vrf)
    (answered : table.appear interface = .ok (changes, after)) :
    Evolves vrfs table changes after := by
  obtain ⟨between, added, restates, rfl⟩ := appear_cases answered
  exact .appeared named added (areSilent_usabilityChanges _ _ _) restates.same

theorem evolves_disappear {interface : Interface}
    (answered : table.disappear name = .ok (interface, changes, after)) :
    Evolves vrfs table changes after := by
  obtain ⟨found, restates, rfl⟩ := disappear_cases answered
  exact .disappeared found (areSilent_usabilityChanges _ _ _) restates.same

end Events

/-! ### Indexes and VRFs of interfaces -/

/-- No two interfaces have one index. -/
def IsIndexed (table : InterfaceTable) : Prop :=
  ∀ first second interface other, table.find? first = some interface →
    table.find? second = some other → interface.index = other.index → first = second

section Evolution

variable {vrfs : VrfTable} {before after : InterfaceTable} {changes : List InterfaceChange}

theorem Restated.exists_before (restated : Restated before after) {name : String}
    {interface : Interface} (found : after.find? name = some interface) :
    ∃ earlier, before.find? name = some earlier ∧ earlier.SameButState interface := by
  obtain ⟨change, same, image⟩ := restated name
  rw [found] at image
  obtain ⟨earlier, foundEarlier, rfl⟩ := Option.map_eq_some_iff.1 image.symm
  exact ⟨earlier, foundEarlier, same earlier⟩

theorem IsIndexed.of_earlier (isIndexed : before.IsIndexed)
    (earlier : ∀ name interface, after.find? name = some interface →
      ∃ known, before.find? name = some known ∧ known.index = interface.index) :
    after.IsIndexed := by
  intro first second interface other firstFound secondFound same
  obtain ⟨firstKnown, firstBefore, firstIndex⟩ := earlier first interface firstFound
  obtain ⟨secondKnown, secondBefore, secondIndex⟩ := earlier second other secondFound
  exact isIndexed first second firstKnown secondKnown firstBefore secondBefore
    (firstIndex.trans (same.trans secondIndex.symm))

theorem IsIndexed.restated (isIndexed : before.IsIndexed) (restated : Restated before after) :
    after.IsIndexed :=
  isIndexed.of_earlier fun name interface found => by
    obtain ⟨earlier, foundEarlier, same⟩ := restated.exists_before found
    exact ⟨earlier, foundEarlier, by rw [same]⟩

theorem IsIndexed.modify (isIndexed : before.IsIndexed) (name : String)
    {change : Interface → Interface} (sameIndex : ∀ interface, (change interface).index =
      interface.index) : (before.modify name change).IsIndexed :=
  isIndexed.of_earlier fun listed interface found => by
    rw [find?_modify] at found
    split at found
    · obtain ⟨earlier, foundEarlier, rfl⟩ := Option.map_eq_some_iff.1 found
      exact ⟨earlier, foundEarlier, (sameIndex earlier).symm⟩
    · exact ⟨interface, found, rfl⟩

/-- An interface that is added has an index of its own. -/
theorem index_ne_of_add {interface other : Interface} (added : before.add interface = .ok after)
    {name : String} (found : before.find? name = some other) : other.index ≠ interface.index := by
  unfold add at added
  split at added
  · cases added
  next free =>
    rw [Bool.or_eq_true, not_or, Option.not_isSome_iff_eq_none] at free
    have listed : other ∈ before.interfaces := SortedMap.mem_values_iff.2 ⟨name, found⟩
    exact fun same => List.find?_eq_none.1 free.2 other listed (decide_eq_true same)

theorem IsIndexed.add (isIndexed : before.IsIndexed) {interface : Interface}
    (added : before.add interface = .ok after) : after.IsIndexed := by
  intro first second one other firstFound secondFound same
  rw [(find?_of_add added).2] at firstFound secondFound
  split at firstFound <;> split at secondFound
  next isFirst isSecond => rw [← isFirst, isSecond]
  next =>
    cases firstFound
    exact absurd same.symm (index_ne_of_add added secondFound)
  next =>
    cases secondFound
    exact absurd same (index_ne_of_add added firstFound)
  next => exact isIndexed first second one other firstFound secondFound same

theorem Evolves.isIndexed (evolves : Evolves vrfs before changes after)
    (isIndexed : before.IsIndexed) : after.IsIndexed := by
  cases evolves with
  | restated _ restated => exact isIndexed.restated restated
  | appeared _ added _ restated => exact (isIndexed.add added).restated restated
  | @disappeared name _ _ _ found _ restated =>
    refine IsIndexed.restated (isIndexed.of_earlier fun listed interface found => ?_) restated
    rw [find?_without] at found
    split at found
    · cases found
    · exact ⟨interface, found, rfl⟩
  | addressAdded | addressRemoved | moved => exact isIndexed.modify _ fun _ => rfl

/-- Every interface is attached to a VRF that exists. -/
def IsAttached (vrfs : VrfTable) (table : InterfaceTable) : Prop :=
  ∀ name interface, table.find? name = some interface → (vrfs.byId.find? interface.vrf).isSome

theorem IsAttached.restated (isAttached : IsAttached vrfs before)
    (restated : Restated before after) : IsAttached vrfs after := by
  intro name interface found
  obtain ⟨earlier, foundEarlier, same⟩ := restated.exists_before found
  rw [same.vrf_eq]
  exact isAttached name earlier foundEarlier

theorem IsAttached.modify (isAttached : IsAttached vrfs before) (name : String)
    {change : Interface → Interface}
    (known : ∀ interface, before.find? name = some interface →
      (vrfs.byId.find? (change interface).vrf).isSome) :
    IsAttached vrfs (before.modify name change) := by
  intro listed interface found
  rw [find?_modify] at found
  split at found
  next here =>
    obtain ⟨earlier, foundEarlier, rfl⟩ := Option.map_eq_some_iff.1 found
    exact known earlier (here ▸ foundEarlier)
  next => exact isAttached listed interface found

/-- An interface joins a VRF by the name of the VRF. -/
theorem Evolves.isAttached (evolves : Evolves vrfs before changes after)
    (named : ∀ vrf id, vrfs.idOf vrf = .ok id → (vrfs.byId.find? id).isSome)
    (isAttached : IsAttached vrfs before) : IsAttached vrfs after := by
  cases evolves with
  | restated _ restated => exact isAttached.restated restated
  | appeared isNamed added _ restated =>
    refine IsAttached.restated (fun name interface found => ?_) restated
    rw [(find?_of_add added).2] at found
    split at found
    · cases found
      exact named _ _ isNamed
    · exact isAttached name interface found
  | @disappeared own _ _ _ _ _ restated =>
    refine IsAttached.restated (fun name interface found => ?_) restated
    rw [find?_without] at found
    split at found
    · cases found
    · exact isAttached name interface found
  | addressAdded | addressRemoved =>
    exact isAttached.modify _ fun interface found => isAttached _ interface found
  | moved isNamed => exact isAttached.modify _ fun _ _ => named _ _ isNamed

end Evolution

end InterfaceTable

/-- Every operation on an interface does one of these things. -/
theorem InterfaceOperation.evolves {Kernel : Type} {state : RoutingState Kernel}
    {operation : Operation} {changes : List InterfaceChange} {after : InterfaceTable}
    (performs : InterfaceOperation state operation changes after) :
    InterfaceTable.Evolves state.vrfs state.interfaces changes after := by
  cases performs with
  | added _ named answered => exact InterfaceTable.evolves_appear named answered
  | removed answered => exact InterfaceTable.evolves_disappear answered
  | adminSet answered =>
    obtain ⟨silent, restated⟩ := InterfaceTable.restated_setAdmin answered
    exact .restated silent restated
  | operSet answered =>
    obtain ⟨silent, restated⟩ := InterfaceTable.restated_setOper answered
    exact .restated silent restated
  | routingSet answered =>
    obtain ⟨silent, restated⟩ := InterfaceTable.restated_setRouting answered
    exact .restated silent restated
  | addressAdded _ answered => exact InterfaceTable.evolves_addAddress answered
  | addressRemoved answered => exact InterfaceTable.evolves_removeAddress answered
  | moved named answered => exact InterfaceTable.evolves_moveTo named answered

/-! ### References -/

/-- Interfaces and VRFs refer to each other properly. -/
structure RoutingState.IsReferential {Kernel : Type} (state : RoutingState Kernel) : Prop where
  named : ∀ name id, state.vrfs.idByName.find? name = some id ↔
    (state.vrfs.byId.find? id).map Vrf.name = some name
  isAttached : InterfaceTable.IsAttached state.vrfs state.interfaces
  isIndexed : state.interfaces.IsIndexed

namespace RoutingState.IsReferential

variable {Kernel : Type} {state : RoutingState Kernel}

/-- The references are between VRFs and interfaces only. -/
theorem of_same (isReferential : state.IsReferential) {next : RoutingState Kernel}
    (sameVrfs : next.vrfs = state.vrfs) (sameInterfaces : next.interfaces = state.interfaces) :
    next.IsReferential where
  named := by
    rw [sameVrfs]
    exact isReferential.named
  isAttached := by
    rw [sameVrfs, sameInterfaces]
    exact isReferential.isAttached
  isIndexed := by
    rw [sameInterfaces]
    exact isReferential.isIndexed

/-- A name leads to a VRF. -/
theorem isSome_of_idOf (isReferential : state.IsReferential) {name : String} {id : UInt32}
    (found : state.vrfs.idOf name = .ok id) : (state.vrfs.byId.find? id).isSome := by
  unfold VrfTable.idOf at found
  split at found
  next listed =>
    cases found
    have named := (isReferential.named name _).1 listed
    obtain ⟨vrf, isFound, _⟩ := Option.map_eq_some_iff.1 named
    rw [isFound, Option.isSome_some]
  next => cases found

/-- A VRF without interfaces has none. -/
theorem vrf_ne_of_idle {table : InterfaceTable} {id : UInt32} (idle : table.attachedTo id = [])
    {name : String} {interface : Interface} (found : table.find? name = some interface) :
    interface.vrf ≠ id := by
  intro attached
  have listed : interface ∈ table.attachedTo id := List.mem_filter.2
    ⟨SortedMap.mem_values_iff.2 ⟨name, found⟩, decide_eq_true attached⟩
  rw [idle] at listed
  cases listed

/-- No interface is attached to an id that is free. -/
theorem attachedTo_eq_nil (isReferential : state.IsReferential) {id : UInt32}
    (free : state.vrfs.byId.find? id = none) : state.interfaces.attachedTo id = [] := by
  refine List.filter_eq_nil_iff.2 fun interface member attached => ?_
  obtain ⟨⟨name, _⟩, listed, rfl⟩ := List.mem_map.1 member
  have isSome := isReferential.isAttached name _ (SortedMap.find?_eq_some_iff.2 listed)
  rw [of_decide_eq_true attached, free] at isSome
  cases isSome

end RoutingState.IsReferential

open Session

variable {Kernel : Type} [KernelBackend Kernel]

/-- What a step does to the names of the VRFs and to the interfaces: it changes the VRFs in place
and may change an interface, or it adds a VRF, or it removes one. -/
inductive Session.Relists (before : Session Kernel) : Session Kernel → Prop
  | inPlace {after : Session Kernel} {changes : List InterfaceChange}
      (same : SameNames before after)
      (evolves : InterfaceTable.Evolves before.state.vrfs before.state.interfaces changes
        after.state.interfaces) : Relists before after
  | added {config : VrfConfig} {kernels : KernelSpace Kernel}
      (idFree : before.find? config.id = none)
      (nameFree : before.state.vrfs.idByName.find? config.name = none) :
      Relists before ((before.withKernels kernels).vrfAdded config)
  | removed {name : String} {id : UInt32} {vrf : Vrf} (notDefault : id ≠ defaultVrfId)
      (idle : before.state.interfaces.attachedTo id = []) :
      Relists before (before.vrfRemoved name id vrf)

/-- A step that leaves the interfaces alone and changes VRFs in place. -/
theorem Session.Relists.of_sameNames {before after : Session Kernel} (same : SameNames before after)
    (sameInterfaces : after.state.interfaces = before.state.interfaces) :
    Relists before after := by
  have evolves : InterfaceTable.Evolves before.state.vrfs before.state.interfaces []
      after.state.interfaces := by
    rw [sameInterfaces]
    exact InterfaceTable.evolves_refl _ _
  exact .inPlace same evolves

theorem Changes.relists {before after : Session Kernel} {action : Action}
    (changes : Changes before action after) : Relists before after := by
  cases changes with
  | @rerouted operation id vrf events rerouted found performs =>
    have settled : SameNames (before.recorded events)
        ((before.recorded events).settle id rerouted) :=
      sameNames_settle found performs.reroutes.name_eq
    exact .of_sameNames ⟨settled.idByName_eq, settled.name_eq⟩ rfl
  | @followed operation changes table performs =>
    have same := sameNames_follow (before.withInterfaces table) changes
    have evolves : InterfaceTable.Evolves before.state.vrfs before.state.interfaces changes
        ((before.withInterfaces table).follow changes).state.interfaces := by
      rw [interfaces_follow]
      exact performs.evolves
    exact .inPlace ⟨same.idByName_eq, same.name_eq⟩ evolves
  | vrfAdded idFree nameFree => exact .added idFree nameFree
  | vrfRemoved _ notDefault idle => exact .removed notDefault idle
  | @limited config checked =>
    have keepsNames : ∀ (session : Session Kernel) id,
        SameNames session (session.limitedAt config.maxPaths id) :=
      sameNames_resettledAt fun _ => rfl
    have keepsInterfaces : ∀ (session : Session Kernel) id,
        (session.limitedAt config.maxPaths id).state.interfaces = session.state.interfaces :=
      fun session id => session.interfaces_resettledAt _ id
    have same := sameNames_foldl keepsNames before.state.vrfs.ids before
    have limited : SameNames before (before.limited config) := ⟨same.idByName_eq, same.name_eq⟩
    exact .of_sameNames limited (interfaces_foldl keepsInterfaces before.state.vrfs.ids before)
  | resynced =>
    exact .of_sameNames (sameNames_foldl sameNames_resyncedAt before.state.vrfs.ids before)
      (interfaces_foldl interfaces_resyncedAt before.state.vrfs.ids before)
  | @defaultConfigured config vrf found accepts =>
    have configured : (before.configured config vrf).find? defaultVrfId = some vrf := found
    have stored := sameNames_stored configured (name_configuredVrf config vrf before)
    exact .of_sameNames ⟨stored.idByName_eq, stored.name_eq⟩ rfl

theorem Session.Relists.isReferential {before after : Session Kernel}
    (relists : Relists before after) (isReferential : before.state.IsReferential) :
    after.state.IsReferential := by
  cases relists with
  | @inPlace _ changes same evolves =>
    have attached := evolves.isAttached (fun _ _ => isReferential.isSome_of_idOf)
      isReferential.isAttached
    refine ⟨fun name id => ?_, fun name interface found => ?_,
      evolves.isIndexed isReferential.isIndexed⟩
    · have sameName := same.name_eq id
      unfold find? at sameName
      rw [same.idByName_eq, sameName]
      exact isReferential.named name id
    · exact (same.isSome_eq interface.vrf).trans (attached name interface found)
  | @added config kernels idFree nameFree =>
    have listed := find?_vrfAdded config (before.withKernels kernels)
    have addedName := name_configuredVrf config ((before.withKernels kernels).freshVrf config)
      (before.withKernels kernels)
    refine ⟨fun name id => ?_, fun name interface found => ?_, isReferential.isIndexed⟩
    · show (before.state.vrfs.idByName.insert config.name config.id).find? name = some id ↔
        (((before.withKernels kernels).vrfAdded config).find? id).map Vrf.name = some name
      rw [SortedMap.find?_insert, listed]
      by_cases sameId : config.id = id
      · have idle : before.state.vrfs.idByName.find? name ≠ some id := fun found => by
          have isListed := (isReferential.named name id).1 found
          rw [← sameId, ← find?, idFree] at isListed
          cases isListed
        rw [if_pos sameId, Option.map_some, addedName]
        by_cases sameName : config.name = name
        · rw [if_pos sameName]
          exact ⟨fun _ => congrArg some sameName, fun _ => congrArg some sameId⟩
        · rw [if_neg sameName]
          exact ⟨fun found => absurd found idle,
            fun found => absurd (Option.some.inj found) sameName⟩
      · rw [if_neg sameId]
        by_cases sameName : config.name = name
        · rw [if_pos sameName]
          refine ⟨fun found => absurd (Option.some.inj found) sameId, fun found => ?_⟩
          have isNamed := (isReferential.named name id).2 found
          rw [← sameName, nameFree] at isNamed
          cases isNamed
        · rw [if_neg sameName]
          exact isReferential.named name id
    · show (((before.withKernels kernels).vrfAdded config).find? interface.vrf).isSome
      rw [listed]
      split
      · rfl
      · exact isReferential.isAttached name interface found
  | @removed name id vrf notDefault idle =>
    have listed := find?_vrfRemoved name id vrf before
    refine ⟨fun other otherId => ?_, fun own interface isFound => ?_, isReferential.isIndexed⟩
    · show (before.state.vrfs.idByName.filter fun _ own => own ≠ id).find? other = some otherId ↔
        ((before.vrfRemoved name id vrf).find? otherId).map Vrf.name = some other
      rw [SortedMap.find?_filter, listed, Option.filter_eq_some_iff, decide_eq_true_eq]
      by_cases same : id = otherId
      · rw [if_pos same]
        exact ⟨fun kept => absurd same.symm kept.2, fun named => by cases named⟩
      · rw [if_neg same, and_iff_left (Ne.symm same)]
        exact isReferential.named other otherId
    · show ((before.vrfRemoved name id vrf).find? interface.vrf).isSome
      have elsewhere := RoutingState.IsReferential.vrf_ne_of_idle idle isFound
      rw [listed, if_neg (Ne.symm elsewhere)]
      exact isReferential.isAttached own interface isFound

theorem Changes.isReferential {before after : Session Kernel} {action : Action}
    (changes : Changes before action after)
    (isReferential : before.state.IsReferential) : after.state.IsReferential :=
  changes.relists.isReferential isReferential

/-- Interfaces and VRFs refer to each other properly whatever happens to a router. -/
theorem isInvariant_isReferential (surroundings : Surroundings Kernel) :
    IsInvariant surroundings RoutingState.IsReferential where
  blank _ _ _ := ⟨fun _ _ => ⟨nofun, nofun⟩, fun _ _ found => (nomatch found),
    fun _ _ _ _ found => (nomatch found)⟩
  changed _ _ _ _ _ isReferential changes := (changes.isReferential isReferential).of_same rfl rfl
  refused _ _ isReferential refused := by
    cases refused <;> exact isReferential.of_same rfl rfl
  disturbed _ _ _ isReferential := isReferential.of_same rfl rfl

end ControlPlane
