/-
This file proves that nothing but what was checked gets into a VRF. Connected
routes are derived from the addresses of interfaces. The destination and the
gateways of every other candidate were accepted by the checks, and so were those
of every static next hop. A forwarding route takes its destination and its
gateways from the candidates that it was selected from, so that the deltas of an
operation lead to accepted routes only, those of the steps in between included.
-/

import ControlPlane.Proofs.Validation
import ControlPlane.Proofs.VrfContents

namespace ControlPlane

/-! ### What the checks accept -/

/-- The next hop is an interface, or the check of gateways accepts it. -/
def NextHop.IsAdmitted (nextHop : NextHop) : Prop :=
  ∀ address pinned, nextHop = .gateway address pinned →
    checkGateway address pinned.isSome = .ok ()

/-- A gateway that is accepted is of none of the classes that are set aside. -/
theorem gatewayClass?_of_checkGateway {address : Address} {pinned : Bool}
    (checked : checkGateway address pinned = .ok ()) : address.gatewayClass? = none := by
  unfold checkGateway at checked
  split at checked
  · cases checked
  · split at checked
    · cases checked
    next unclassified => exact unclassified

theorem NextHop.IsAdmitted.gatewayClass?_eq_none {nextHop : NextHop}
    (isAdmitted : nextHop.IsAdmitted) {address : Address}
    (gateway : nextHop.gateway? = some address) : address.gatewayClass? = none := by
  cases nextHop with
  | gateway own pinned =>
    cases gateway
    exact gatewayClass?_of_checkGateway (isAdmitted address pinned rfl)
  | interface => cases gateway

theorem checkDestination_eq_ok_iff_class {network : Network} :
    checkDestination network = .ok () ↔ network.destinationClass? = none := by
  unfold checkDestination
  cases network.destinationClass? with
  | none => exact ⟨fun _ => rfl, fun _ => rfl⟩
  | some kind => exact ⟨nofun, nofun⟩

/-- To check a network is to check its subnet. -/
theorem checkDestination_ofNetwork {network : Network} :
    checkDestination (Prefix.ofNetwork network).network = .ok () ↔
      checkDestination network = .ok () := by
  have sameBase : (Prefix.ofNetwork network).network.base = network.base :=
    (Prefix.ofNetwork network).canonical
  have sameClass : (Prefix.ofNetwork network).network.destinationClass? =
      network.destinationClass? := by
    unfold Network.destinationClass?
    rw [sameBase]
    rfl
  rw [checkDestination_eq_ok_iff_class, checkDestination_eq_ok_iff_class, sameClass]

/-- The checks accept a static route for the destination through the next hop. -/
structure AdmitsStatic (destination : Prefix) (nextHop : NextHop) : Prop where
  destination_ok : checkDestination destination.network = .ok ()
  isAdmitted : nextHop.IsAdmitted

theorem admitsStatic_of_validate {localAddresses : List Address} {route : StaticRoute}
    (valid : route.validate localAddresses = .ok ()) :
    AdmitsStatic (Prefix.ofNetwork route.destination) route.nextHop := by
  obtain ⟨checked, valid⟩ := ConfigResult.bind_eq_ok_iff.1 valid
  obtain ⟨_, valid⟩ := ConfigResult.guard_eq_ok_iff.1 valid
  refine ⟨checkDestination_ofNetwork.2 checked, fun address pinned isGateway => ?_⟩
  rw [isGateway] at valid
  obtain ⟨_, valid⟩ := ConfigResult.guard_eq_ok_iff.1 valid
  exact (ConfigResult.bind_eq_ok_iff.1 valid).1

namespace Candidate

/-- The candidate is connected, or the checks accept its destination and its gateways. -/
def IsAdmitted (candidate : Candidate) : Prop :=
  candidate.origin ≠ .connected → checkDestination candidate.destination.network = .ok () ∧
    ∀ hop ∈ candidate.hops, hop.nextHop.IsAdmitted

/-- Selection writes nothing that the checks look at. -/
theorem isAdmitted_erased {candidate : Candidate} :
    candidate.erased.IsAdmitted ↔ candidate.IsAdmitted := by
  refine imp_congr_right fun _ => and_congr_right fun _ => ?_
  exact List.forall_mem_map

/-- The candidate is listed in the VRF and under the destination that it names, and it is
admitted. -/
structure IsOwn (id : UInt32) (destination : Prefix) (candidate : Candidate) : Prop where
  vrf_eq : candidate.vrf = id
  destination_eq : candidate.destination = destination
  isAdmitted : candidate.IsAdmitted

theorem isOwn_erased {id : UInt32} {destination : Prefix} {candidate : Candidate} :
    candidate.erased.IsOwn id destination ↔ candidate.IsOwn id destination :=
  ⟨fun isOwn => ⟨isOwn.vrf_eq, isOwn.destination_eq, isAdmitted_erased.1 isOwn.isAdmitted⟩,
    fun isOwn => ⟨isOwn.vrf_eq, isOwn.destination_eq, isAdmitted_erased.2 isOwn.isAdmitted⟩⟩

end Candidate

/-- The route is connected, or its destination and its gateways are of no class that is set
aside. -/
def ForwardingRoute.IsAdmitted (route : ForwardingRoute) : Prop :=
  route.origin ≠ .connected → checkDestination route.destination.network = .ok () ∧
    ∀ hop ∈ route.hops, ∀ address, hop.gateway = some address → address.gatewayClass? = none

/-- The best route takes its destination and its gateways from the winners. -/
theorem IsBestRoute.isAdmitted {resolver : Resolver} {policy : SelectionPolicy} {id : UInt32}
    {destination : Prefix} {set : CandidateSet} {route : ForwardingRoute}
    (isBest : IsBestRoute resolver policy destination set route)
    (own : ∀ candidate ∈ set.list, candidate.IsOwn id destination) : route.IsAdmitted := by
  intro isDynamic
  have admits : ∀ winner, set.IsWinner resolver winner →
      checkDestination winner.destination.network = .ok () ∧
        ∀ hop ∈ winner.hops, hop.nextHop.IsAdmitted := by
    intro winner wins
    refine (own winner wins.1).isAdmitted fun isConnected => isDynamic ?_
    rw [(isBest.preference_eq winner wins).2, isConnected]
  obtain ⟨winner, wins⟩ := isBest.exists_winner
  obtain ⟨ranked, isRanking, hops, _⟩ := isBest.hops_eq
  refine ⟨?_, fun hop member address gateway => ?_⟩
  · rw [isBest.destination_eq, ← (own winner wins.1).destination_eq]
    exact (admits winner wins).1
  · rw [hops] at member
    obtain ⟨⟨metric, _⟩, kept, rfl⟩ := List.mem_map.1 member
    have listed := (SelectionPolicy.keep_sublist policy _ ranked).subset kept
    obtain ⟨other, otherWins, _, offered, offers, egress, _, same⟩ :=
      ((isRanking.mem_iff _ _).1 listed).1
    have named : offered.nextHop.gateway? = some address :=
      (congrArg ForwardingHop.gateway same).symm.trans gateway
    exact ((admits other otherWins).2 offered offers).gatewayClass?_eq_none named

/-- What is installed for a prefix was installed before, or it was selected from the candidates
that are listed now. -/
theorem Rib.Reselects.installed_isAdmitted {resolver : Resolver} {policy : SelectionPolicy}
    {id : UInt32} {destination : Prefix} {rib : Rib} {result : Delta × Rib}
    (reselects : Rib.Reselects resolver policy destination rib result)
    (before : ∀ route, rib.installed destination = some route → route.IsAdmitted)
    (entries : ∀ key candidate, result.2.entryAt? destination key = some candidate →
      candidate.IsOwn id destination) :
    ∀ route, result.2.installed destination = some route → route.IsAdmitted := by
  intro route isInstalled
  obtain ⟨set, found, ofSet⟩ := Option.bind_eq_some_iff.1 isInstalled
  rcases reselects.here set found with kept | ⟨changed, rfl⟩
  · exact before route (by rw [installed_of_find? kept, ofSet])
  · have own : ∀ candidate ∈ changed.list, candidate.IsOwn id destination := by
      intro candidate member
      obtain ⟨key, listed⟩ := CandidateSet.mem_list_iff.1 member
      refine Candidate.isOwn_erased.1 (entries key _ ?_)
      rw [entryAt?, find?_contents, found, Option.map_some, CandidateSet.contents_select,
        Option.bind_some, CandidateSet.find?_contents, listed, Option.map_some]
    exact (CandidateSet.isBestRoute_of_select ofSet).isAdmitted own

/-! ### Static routes -/

namespace StaticTable

/-- The checks accept all static next hops. -/
def IsAdmitted (table : StaticTable) : Prop :=
  ∀ destination nextHop distance, (table.hopsOf destination).find? nextHop = some distance →
    AdmitsStatic destination nextHop

variable {table : StaticTable}

theorem IsAdmitted.add (isAdmitted : table.IsAdmitted) {route : StaticRoute}
    (admits : AdmitsStatic (Prefix.ofNetwork route.destination) route.nextHop) :
    (table.add route).2.IsAdmitted := by
  intro destination nextHop distance found
  rw [hopsOf_add] at found
  split at found
  next here =>
    subst here
    rw [SortedMap.find?_insert] at found
    split at found
    next same => exact same ▸ admits
    next => exact isAdmitted _ nextHop distance found
  next => exact isAdmitted destination nextHop distance found

theorem IsAdmitted.remove (isAdmitted : table.IsAdmitted) {route : StaticRoute}
    {result : Prefix × StaticTable} (removed : table.remove route = .ok result) :
    result.2.IsAdmitted := by
  intro destination nextHop distance found
  rw [hopsOf_remove removed] at found
  split at found
  · rw [SortedMap.find?_erase] at found
    split at found
    · cases found
    · exact isAdmitted destination nextHop distance found
  · exact isAdmitted destination nextHop distance found

theorem IsAdmitted.purge (isAdmitted : table.IsAdmitted) (name : String)
    (resolved : List (Prefix × NextHop)) : (table.purge name resolved).2.IsAdmitted := by
  intro destination nextHop distance found
  rw [hopsOf_purge, SortedMap.find?_filter] at found
  exact isAdmitted destination nextHop distance (Option.filter_eq_some_iff.1 found).1

/-- Static routes give candidates of their VRF through accepted next hops. -/
theorem IsAdmitted.isOwn (isAdmitted : table.IsAdmitted) {id : UInt32} {destination : Prefix}
    {candidate : Candidate} (listed : candidate ∈ table.candidates id destination) :
    candidate.IsOwn id destination := by
  obtain ⟨distance, configured, rfl⟩ := mem_candidates_iff.1 listed
  have admits : ∀ entry ∈ (table.hopsOf destination).entries, AdmitsStatic destination entry.1 :=
    fun entry member =>
      isAdmitted destination entry.1 entry.2 (SortedMap.find?_eq_some_iff.2 member)
  refine ⟨rfl, rfl, fun _ => ⟨?_, fun hop member => ?_⟩⟩
  · obtain ⟨entry, member, _⟩ := List.mem_map.1 (SortedSet.mem_keys_ofList.1 configured)
    exact (admits entry member).destination_ok
  · obtain ⟨nextHop, isAt, rfl⟩ := List.mem_map.1 member
    obtain ⟨entry, taken, rfl⟩ := List.mem_map.1 isAt
    exact (admits entry (List.mem_filter.1 taken).1).isAdmitted

end StaticTable

/-! ### What a VRF lists -/

namespace Vrf

/-- Everything that a VRF lists belongs to it and is admitted: candidates, static next hops and
installed routes. -/
structure IsAdmitted (vrf : Vrf) : Prop where
  isProper : vrf.IsProper
  entries : ∀ destination key candidate, vrf.entryAt? destination key = some candidate →
    candidate.IsOwn vrf.id destination
  statics : vrf.statics.IsAdmitted
  installed : ∀ destination route, vrf.installed destination = some route → route.IsAdmitted

/-- The candidates that lie in the tables are those that are listed. -/
theorem IsAdmitted.isOwn {vrf : Vrf} (isAdmitted : vrf.IsAdmitted) {family : Family}
    {destination : Prefix} {set : CandidateSet}
    (found : (vrf.rib family).find? destination = some set) {candidate : Candidate}
    (member : candidate ∈ set.list) :
    destination.family = family ∧ candidate.IsOwn vrf.id destination := by
  have sameFamily := (isAdmitted.isProper family).family_eq destination set found
  subst sameFamily
  obtain ⟨key, listed⟩ := CandidateSet.mem_list_iff.1 member
  refine ⟨rfl, Candidate.isOwn_erased.1 (isAdmitted.entries destination key _ ?_)⟩
  rw [entryAt?, Rib.entryAt?_of_find? found, listed, Option.map_some]

/-- Nothing of what is looked at differs. -/
theorem IsAdmitted.of_same {first second : Vrf} (isAdmitted : first.IsAdmitted)
    (same : first.SameRoutes second) (sameStatics : second.statics = first.statics) :
    second.IsAdmitted where
  isProper := same.isProper isAdmitted.isProper
  entries destination key candidate listed := by
    rw [same.id_eq]
    rw [(SameContents.of_sameRoutes same sameStatics).entryAt?_eq] at listed
    exact isAdmitted.entries destination key candidate listed
  statics := sameStatics ▸ isAdmitted.statics
  installed destination route isInstalled := by
    rw [same.installed_eq] at isInstalled
    exact isAdmitted.installed destination route isInstalled

theorem isAdmitted_create (name : String) (id : UInt32) (netns : String) (attempts : Nat) :
    (create name id netns attempts).IsAdmitted where
  isProper := isProper_create name id netns attempts
  entries destination _ _ listed := by
    unfold entryAt? at listed
    cases same : destination.family <;> rw [same] at listed <;> cases listed
  statics _ _ _ found := nomatch found
  installed destination _ isInstalled := by
    rw [installed_create] at isInstalled
    cases isInstalled

/-- An operation keeps what a VRF lists admitted, and its deltas lead to admitted routes only. -/
def Admits (vrf : Vrf) (rerouted : Rerouted) : Prop :=
  vrf.IsAdmitted → rerouted.2.IsAdmitted ∧
    ∀ delta ∈ rerouted.1, ∀ route, delta.desired? = some route → route.IsAdmitted

section Operations

variable {resolver : Resolver} {vrf : Vrf}

theorem Admits.followed {first second : Rerouted} (admits : vrf.Admits first)
    (later : first.2.Admits second) : vrf.Admits (first.1 ++ second.1, second.2) := by
  intro isAdmitted
  obtain ⟨firstAdmitted, firstDeltas⟩ := admits isAdmitted
  obtain ⟨secondAdmitted, secondDeltas⟩ := later firstAdmitted
  exact ⟨secondAdmitted, List.forall_mem_append.2 ⟨firstDeltas, secondDeltas⟩⟩

/-- Settings change, and no routes. -/
theorem admits_settings {changed : Vrf} (same : vrf.SameRoutes changed)
    (sameStatics : changed.statics = vrf.statics) : vrf.Admits ([], changed) :=
  fun isAdmitted => ⟨isAdmitted.of_same same sameStatics, fun _ member => nomatch member⟩

theorem admits_self (vrf : Vrf) : vrf.Admits ([], vrf) :=
  admits_settings ⟨rfl, rfl, fun _ => rfl⟩ rfl

theorem admits_inTurn {Item : Type} {operate : Item → Vrf → Rerouted} {items : List Item}
    (each : ∀ item ∈ items, ∀ vrf : Vrf, vrf.Admits (operate item vrf)) (vrf : Vrf) :
    vrf.Admits (inTurn operate items vrf) := by
  induction items generalizing vrf with
  | nil => exact admits_self vrf
  | cons item rest inductionHypothesis =>
    refine (each item List.mem_cons_self vrf).followed ?_
    exact inductionHypothesis (fun later member => each later (List.mem_cons_of_mem _ member)) _

/-! ### Operations on one prefix -/

/-- An operation on one prefix has to answer for the candidates that it leaves there. -/
theorem admits_onRib {destination : Prefix} {operate : SelectionPolicy → Rib → Delta × Rib}
    (reselects : ∀ policy rib, Rib.Reselects resolver policy destination rib (operate policy rib))
    (entries : vrf.IsAdmitted → ∀ key candidate,
      (vrf.onRib destination.family operate).2.entryAt? destination key = some candidate →
        candidate.IsOwn vrf.id destination) :
    vrf.Admits (vrf.onRib destination.family operate) := by
  intro isAdmitted
  have reselected := reselects vrf.policy (vrf.rib destination.family)
  have own := entries isAdmitted
  have after : (vrf.onRib destination.family operate).2.rib destination.family =
      (operate vrf.policy (vrf.rib destination.family)).2 := by
    rw [onRib, rib_setRib, if_pos rfl]
  have installedHere : ∀ route,
      (operate vrf.policy (vrf.rib destination.family)).2.installed destination = some route →
        route.IsAdmitted := by
    refine reselected.installed_isAdmitted (isAdmitted.installed destination)
      fun key candidate listed => own key candidate ?_
    rw [entryAt?, after, listed]
  have others : ∀ listed, destination ≠ listed →
      ((vrf.onRib destination.family operate).2.rib listed.family).find? listed =
        (vrf.rib listed.family).find? listed := by
    intro listed elsewhere
    rw [onRib, rib_setRib]
    split
    next sameFamily => rw [reselected.others listed elsewhere, sameFamily]
    next => rfl
  refine ⟨⟨(reroutes_onRib destination reselects).isProper isAdmitted.isProper, ?_, ?_, ?_⟩, ?_⟩
  · intro listed key candidate isListed
    rw [id_onRib]
    by_cases same : destination = listed
    · exact same ▸ own key candidate (same ▸ isListed)
    · refine isAdmitted.entries listed key candidate ?_
      rwa [entryAt?, Rib.entryAt?, Rib.find?_contents, others listed same, ← Rib.find?_contents]
        at isListed
  · rw [statics_onRib]
    exact isAdmitted.statics
  · intro listed route isInstalled
    by_cases same : destination = listed
    · subst same
      rw [installed, after] at isInstalled
      exact installedHere route isInstalled
    · refine isAdmitted.installed listed route ?_
      rwa [installed, Rib.installed, others listed same] at isInstalled
  · refine List.forall_mem_singleton.2 fun route desired => installedHere route ?_
    rw [reselected.delta_eq] at desired
    exact Delta.eq_of_desired?_transition desired

/-- A candidate is listed at its configured distance, which the checks do not look at. -/
theorem admits_announce {candidate : Candidate} {rerouted : Rerouted}
    (isAdmitted : candidate.IsAdmitted)
    (announced : vrf.announce resolver candidate = .ok rerouted) : vrf.Admits rerouted := by
  have listed := fun key => entryAt?_announce candidate.destination key announced
  unfold announce at announced
  split at announced
  · cases announced
  next own =>
    cases announced
    refine admits_onRib (fun policy rib => Rib.reselects_insert resolver policy rib
      { candidate with distance := (vrf.configuredDistance? candidate).getD candidate.distance })
      fun vrfAdmitted key entry found => ?_
    rw [listed] at found
    split at found
    · cases found
      exact ⟨Decidable.not_not.1 own, rfl, Candidate.isAdmitted_erased.2 isAdmitted⟩
    · exact vrfAdmitted.entries _ key entry found

theorem admits_announceAll {candidates : List Candidate} {rerouted : Rerouted}
    (areAdmitted : ∀ candidate ∈ candidates, candidate.IsAdmitted)
    (announced : vrf.announceAll resolver candidates = .ok rerouted) : vrf.Admits rerouted := by
  induction candidates generalizing vrf rerouted with
  | nil =>
    cases announced
    exact admits_self vrf
  | cons candidate rest inductionHypothesis =>
    obtain ⟨one, first, announced⟩ := exists_of_bind_eq_ok announced
    obtain ⟨others, second, announced⟩ := exists_of_bind_eq_ok announced
    cases announced
    have later := inductionHypothesis
      (fun later member => areAdmitted later (List.mem_cons_of_mem _ member)) second
    exact (admits_announce (areAdmitted candidate List.mem_cons_self) first).followed later

/-- To remove candidates leaves some of those that were listed. -/
theorem admits_removeWhere (destination : Prefix) (picks : CandidateKey → Bool) :
    vrf.Admits (vrf.onRib destination.family fun policy rib =>
      rib.removeWhere resolver policy destination picks) := by
  refine admits_onRib (fun policy rib =>
    Rib.reselects_removeWhere resolver policy rib destination picks)
    fun isAdmitted key candidate listed => ?_
  rw [entryAt?_onRib fun policy rib =>
    Rib.entryAt?_removeWhere resolver policy rib destination picks destination key] at listed
  split at listed
  · cases listed
  · exact isAdmitted.entries destination key candidate listed

theorem admits_withdraw (destination : Prefix) (origin : Origin) :
    vrf.Admits (vrf.withdraw resolver destination origin) :=
  admits_removeWhere destination _

theorem admits_withdrawInstance (destination : Prefix) (origin : Origin) (inst : UInt32) :
    vrf.Admits (vrf.withdrawInstance resolver destination origin inst) :=
  admits_removeWhere destination _

theorem admits_withdrawConnected (index : UInt32) :
    vrf.Admits (vrf.withdrawConnected resolver index) :=
  admits_inTurn (fun _ _ _ => admits_withdrawInstance _ _ _) vrf

/-! ### Static routes -/

/-- The static candidates of a prefix are derived from accepted next hops. -/
theorem admits_refreshStatic (destination : Prefix) (vrf : Vrf) :
    vrf.Admits (refreshStatic resolver destination vrf) := by
  refine admits_onRib (fun policy rib =>
    Rib.reselects_replaceOrigin resolver policy rib destination .static _)
    fun isAdmitted key candidate listed => ?_
  have entry := entryAt?_refreshStatic resolver vrf destination key destination
  rw [refreshStatic, listed] at entry
  split at entry
  · obtain ⟨derived, isLast, rfl⟩ := Option.map_eq_some_iff.1 entry.symm
    have isListed := (List.mem_filter.1 (List.mem_of_getLast? isLast)).1
    exact Candidate.isOwn_erased.2 (isAdmitted.statics.isOwn isListed)
  · exact isAdmitted.entries destination key candidate entry.symm

/-- New static next hops are accepted before their candidates are derived. -/
theorem admits_withStatics {statics : StaticTable} {rerouted : Rerouted}
    (keeps : vrf.statics.IsAdmitted → statics.IsAdmitted)
    (admits : Admits { vrf with statics } rerouted) : vrf.Admits rerouted :=
  fun isAdmitted => admits ⟨isAdmitted.isProper, isAdmitted.entries, keeps isAdmitted.statics,
    isAdmitted.installed⟩

theorem admits_addStatic {route : StaticRoute}
    (admits : AdmitsStatic (Prefix.ofNetwork route.destination) route.nextHop) (vrf : Vrf) :
    vrf.Admits (addStatic resolver route vrf) :=
  admits_withStatics (fun isAdmitted => isAdmitted.add admits) (admits_refreshStatic _ _)

theorem admits_removeStatic {route : StaticRoute} {rerouted : Rerouted}
    (removed : removeStatic resolver route vrf = .ok rerouted) : vrf.Admits rerouted := by
  obtain ⟨result, answered, removed⟩ := exists_of_bind_eq_ok removed
  cases removed
  exact admits_withStatics (fun isAdmitted => isAdmitted.remove answered)
    (admits_refreshStatic _ _)

theorem admits_purgeStatics (name : String) : vrf.Admits (purgeStatics resolver name vrf) :=
  admits_withStatics (fun isAdmitted => isAdmitted.purge name _)
    (admits_inTurn (fun _ _ => admits_refreshStatic _) _)

/-! ### Selecting anew -/

/-- A refresh selects from the candidates that are listed, and its deltas lead to what it
selects. -/
theorem admits_refresh (resolver : Resolver) (vrf : Vrf) :
    vrf.Admits (vrf.refresh resolver) := by
  intro isAdmitted
  have reroutes : Reroutes resolver vrf (vrf.refresh resolver) :=
    .refreshed ⟨rfl, rfl, fun _ => rfl⟩ rfl rfl fun isOpen => isOpen
  have installed : ∀ destination route,
      (vrf.refresh resolver).2.installed destination = some route → route.IsAdmitted := by
    intro destination route isInstalled
    obtain ⟨set, found, ofSet⟩ := Option.bind_eq_some_iff.1 isInstalled
    rw [rib_refresh, Rib.find?_refresh] at found
    obtain ⟨before, foundBefore, rfl⟩ := Option.map_eq_some_iff.1 found
    exact (CandidateSet.isBestRoute_of_select ofSet).isAdmitted fun candidate member =>
      (isAdmitted.isOwn foundBefore member).2
  refine ⟨⟨reroutes.isProper isAdmitted.isProper, fun destination key candidate listed => ?_,
    isAdmitted.statics, installed⟩, fun delta member route desired => ?_⟩
  · rw [(sameContents_refresh resolver vrf).entryAt?_eq] at listed
    exact isAdmitted.entries destination key candidate listed
  · rw [refresh_fst resolver isAdmitted.isProper] at member
    obtain ⟨destination, _, rfl⟩ := List.mem_map.1 (List.mem_filter.1 member).1
    exact installed destination route (Delta.eq_of_desired?_transition desired)

end Operations

end Vrf

end ControlPlane
