/-
This file proves which static routes go with an interface that stops routing. Those
go whose next hop names the interface, and those through a gateway that was reached
over it until then. What a gateway was reached over is read off the marks that the
selection left, at a time when the interface has changed already. The marks are
right nevertheless: the selection is always at a fixpoint, so that a mark says what
its next hop resolves to before the change, and the VRF of the interface drops the
routes before it refreshes any of them.
-/

import ControlPlane.Proofs.Router.Flap
import ControlPlane.Proofs.Router.Statics

namespace ControlPlane

/-! ### Next hops that depend on an interface -/

/-- The next hop is an interface, a gateway that is pinned to it, or another gateway that is
resolved over it. -/
inductive NextHop.DependsOn (resolver : Resolver) (name : String) : NextHop → Prop
  | interface : DependsOn resolver name (.interface name)
  | pinned (address : Address) : DependsOn resolver name (.gateway address (some name))
  | resolved {address : Address} {egress : Egress}
      (resolves : resolver (.gateway address none) = some egress) (sameName : egress.name = name) :
      DependsOn resolver name (.gateway address none)

theorem NextHop.dependsOn_of_names {nextHop : NextHop} {name : String}
    (names : nextHop.names name = true) (resolver : Resolver) :
    nextHop.DependsOn resolver name := by
  cases nextHop with
  | interface own =>
    cases of_decide_eq_true names
    exact .interface
  | gateway address pin =>
    cases pin with
    | none => cases names
    | some own =>
      cases of_decide_eq_true names
      exact .pinned address

namespace InterfaceTable

variable {table : InterfaceTable} {vrf : UInt32} {name : String} {nextHop : NextHop}

/-- A next hop that is resolved over an interface depends on it. -/
theorem dependsOn_of_resolver (isKeyed : table.IsKeyed) {egress : Egress}
    (resolves : table.resolver vrf nextHop = some egress) (sameName : egress.name = name) :
    nextHop.DependsOn (table.resolver vrf) name := by
  have named : ∀ {own : String} {interface : Interface},
      table.usable? vrf own = some interface → interface.name = own :=
    fun usable => isKeyed _ _ (Option.filter_eq_some_iff.1 usable).1
  subst sameName
  cases nextHop with
  | interface own =>
    obtain ⟨interface, usable, rfl⟩ := Option.map_eq_some_iff.1 resolves
    have same : interface.name = own := named usable
    subst same
    exact .interface
  | gateway address pin =>
    cases pin with
    | none => exact .resolved resolves rfl
    | some own =>
      obtain ⟨interface, reached, rfl⟩ := Option.map_eq_some_iff.1 resolves
      obtain ⟨usable, _⟩ := Option.filter_eq_some_iff.1 reached
      have same : interface.name = own := named usable
      subst same
      exact .pinned address

/-- A next hop that was just resolved is bound to the interfaces on which it depends. -/
theorem isBoundTo_refresh_iff (isKeyed : table.IsKeyed) {hop : Hop} :
    (hop.refresh (table.resolver vrf)).isBoundTo name = true ↔
      hop.nextHop.DependsOn (table.resolver vrf) name := by
  rw [Hop.isBoundTo, Bool.or_eq_true, Option.any_eq_true]
  simp only [Hop.refresh, decide_eq_true_eq]
  constructor
  · rintro (names | ⟨egress, resolves, sameName⟩)
    · exact NextHop.dependsOn_of_names names _
    · exact dependsOn_of_resolver isKeyed resolves sameName
  · generalize hop.nextHop = nextHop
    rintro (_ | address | ⟨resolves, sameName⟩)
    · exact .inl (decide_eq_true rfl)
    · exact .inl (decide_eq_true rfl)
    · exact .inr ⟨_, resolves, sameName⟩

end InterfaceTable

/-! ### The marks of static next hops -/

theorem Rib.mem_hops_iff {rib : Rib} {destination : Prefix} {candidate : Candidate} {hop : Hop} :
    (destination, candidate, hop) ∈ rib.hops ↔
      ∃ set, rib.find? destination = some set ∧ candidate ∈ set.list ∧ hop ∈ candidate.hops := by
  simp only [hops, List.mem_flatMap, List.mem_map, Prod.mk.injEq, Prod.exists, find?,
    SortedMap.find?_eq_some_iff]
  constructor
  · rintro ⟨_, set, listed, _, member, _, isHop, rfl, rfl, rfl⟩
    exact ⟨set, listed, member, isHop⟩
  · rintro ⟨set, listed, member, isHop⟩
    exact ⟨destination, set, listed, candidate, member, hop, isHop, rfl, rfl, rfl⟩

/-- The next hops that are configured for a prefix are those of its candidates. -/
theorem StaticTable.mem_keys_hopsOf_iff (table : StaticTable) (vrf : UInt32)
    (destination : Prefix) (nextHop : NextHop) :
    nextHop ∈ (table.hopsOf destination).keys ↔
      ∃ candidate ∈ table.candidates vrf destination, ∃ hop ∈ candidate.hops,
        hop.nextHop = nextHop := by
  constructor
  · intro listed
    obtain ⟨⟨_, distance⟩, member, rfl⟩ := List.mem_map.1 listed
    have configured : distance ∈ table.distances destination :=
      SortedSet.mem_keys_ofList.2 (List.mem_map_of_mem member)
    refine ⟨_, mem_candidates_iff.2 ⟨distance, configured, rfl⟩, .unresolved _,
      List.mem_map_of_mem ?_, rfl⟩
    exact List.mem_map.2 ⟨_, List.mem_filter.2 ⟨member, decide_eq_true rfl⟩, rfl⟩
  · rintro ⟨_, listed, hop, isHop, rfl⟩
    obtain ⟨distance, _, rfl⟩ := mem_candidates_iff.1 listed
    obtain ⟨_, atDistance, rfl⟩ := List.mem_map.1 isHop
    obtain ⟨entry, configured, rfl⟩ := List.mem_map.1 atDistance
    exact List.mem_map_of_mem (List.mem_filter.1 configured).1

namespace Vrf

variable {vrf : Vrf} {destination : Prefix} {candidate : Candidate} {hop : Hop}

theorem exists_set_of_mem_candidatesAt (member : candidate ∈ vrf.candidatesAt destination) :
    ∃ set, (vrf.rib destination.family).find? destination = some set ∧ candidate ∈ set.list := by
  unfold candidatesAt Rib.setAt at member
  cases found : (vrf.rib destination.family).find? destination with
  | none =>
    rw [found] at member
    cases member
  | some set =>
    rw [found] at member
    exact ⟨set, rfl, member⟩

/-- The next hops of both tables are those of the candidates for all prefixes. -/
theorem IsFiled.mem_hops_iff (isFiled : vrf.IsFiled) :
    (destination, candidate, hop) ∈ vrf.rib4.hops ++ vrf.rib6.hops ↔
      candidate ∈ vrf.candidatesAt destination ∧ hop ∈ candidate.hops := by
  have either : (destination, candidate, hop) ∈ vrf.rib4.hops ++ vrf.rib6.hops ↔
      ∃ family, (destination, candidate, hop) ∈ (vrf.rib family).hops := by
    rw [List.mem_append]
    constructor
    · rintro (listed | listed)
      · exact ⟨.ipv4, listed⟩
      · exact ⟨.ipv6, listed⟩
    · rintro ⟨_ | _, listed⟩
      · exact .inl listed
      · exact .inr listed
  rw [either]
  constructor
  · rintro ⟨family, listed⟩
    obtain ⟨set, found, member, isHop⟩ := Rib.mem_hops_iff.1 listed
    have own := isFiled.family_eq family destination set found
    rw [← own] at found
    rw [candidatesAt, Rib.setAt, found]
    exact ⟨member, isHop⟩
  · rintro ⟨member, isHop⟩
    obtain ⟨set, found, inSet⟩ := exists_set_of_mem_candidatesAt member
    exact ⟨destination.family, Rib.mem_hops_iff.2 ⟨set, found, inSet, isHop⟩⟩

/-- In settled tables every next hop is marked with what it resolves to. -/
theorem IsSettled.refresh_hop {resolver : Resolver} (isSettled : vrf.IsSettled resolver)
    (member : candidate ∈ vrf.candidatesAt destination) (isHop : hop ∈ candidate.hops) :
    hop.refresh resolver = hop := by
  obtain ⟨set, found, inSet⟩ := exists_set_of_mem_candidatesAt member
  obtain ⟨key, listed⟩ := CandidateSet.mem_list_iff.1 inSet
  rw [(isSettled destination.family destination set found).hops_eq listed] at isHop
  obtain ⟨earlier, _, rfl⟩ := List.mem_map.1 isHop
  rfl

/-- The static candidates for a prefix have the next hops that are configured for it. -/
theorem mem_static_hops_iff (isFiled : vrf.IsFiled) (derives : vrf.DerivesStaticsAt destination)
    {nextHop : NextHop} :
    (∃ candidate ∈ vrf.candidatesAt destination, candidate.origin = .static ∧
        ∃ hop ∈ candidate.hops, hop.nextHop = nextHop) ↔
      nextHop ∈ (vrf.statics.hopsOf destination).keys := by
  rw [StaticTable.mem_keys_hopsOf_iff vrf.statics vrf.id,
    ← map_erased_filter_static isFiled derives]
  constructor
  · rintro ⟨candidate, member, isStatic, hop, isHop, rfl⟩
    exact ⟨candidate.erased,
      List.mem_map_of_mem (List.mem_filter.2 ⟨member, decide_eq_true isStatic⟩),
      hop.erased, List.mem_map_of_mem isHop, rfl⟩
  · rintro ⟨_, isErased, _, isHop, rfl⟩
    obtain ⟨candidate, listed, rfl⟩ := List.mem_map.1 isErased
    obtain ⟨member, isStatic⟩ := List.mem_filter.1 listed
    obtain ⟨hop, inCandidate, rfl⟩ := List.mem_map.1 isHop
    exact ⟨candidate, member, of_decide_eq_true isStatic, hop, inCandidate, rfl⟩

/-- In settled tables the static next hops that are marked as bound to an interface are those that
depend on it. -/
theorem mem_boundStatics_iff {table : InterfaceTable} (isKeyed : table.IsKeyed)
    (isFiled : vrf.IsFiled) (derives : vrf.DerivesStaticsAt destination)
    {id : UInt32} (isSettled : vrf.IsSettled (table.resolver id)) {name : String}
    {nextHop : NextHop} :
    (destination, nextHop) ∈ vrf.boundStatics name ↔
      nextHop ∈ (vrf.statics.hopsOf destination).keys ∧
        nextHop.DependsOn (table.resolver id) name := by
  have bound : ∀ candidate ∈ vrf.candidatesAt destination, ∀ hop ∈ candidate.hops,
      (hop.isBoundTo name = true ↔ hop.nextHop.DependsOn (table.resolver id) name) := by
    intro candidate member hop isHop
    rw [← isSettled.refresh_hop member isHop]
    exact InterfaceTable.isBoundTo_refresh_iff isKeyed
  simp only [boundStatics, List.mem_map, List.mem_filter, Bool.and_eq_true, decide_eq_true_eq,
    Prod.mk.injEq, Prod.exists]
  rw [← mem_static_hops_iff isFiled derives]
  constructor
  · rintro ⟨_, candidate, hop, ⟨listed, isStatic, isBound⟩, rfl, rfl⟩
    obtain ⟨member, isHop⟩ := isFiled.mem_hops_iff.1 listed
    exact ⟨⟨candidate, member, isStatic, hop, isHop, rfl⟩, (bound _ member _ isHop).1 isBound⟩
  · rintro ⟨⟨candidate, member, isStatic, hop, isHop, rfl⟩, dependsOn⟩
    exact ⟨destination, candidate, hop, ⟨isFiled.mem_hops_iff.2 ⟨member, isHop⟩, isStatic,
      (bound _ member _ isHop).2 dependsOn⟩, rfl, rfl⟩

end Vrf

/-! ### Static routes that are dropped -/

/-- The second table is the first one without the next hops of a kind. All others keep their
distances. -/
def StaticTable.Drops (dropped : NextHop → Prop) (before after : StaticTable) : Prop :=
  ∀ destination nextHop distance,
    (after.hopsOf destination).find? nextHop = some distance ↔
      (before.hopsOf destination).find? nextHop = some distance ∧ ¬ dropped nextHop

namespace Vrf

variable {vrf after : Vrf} {interfaces table : InterfaceTable}

theorem statics_purgeStatics (resolver : Resolver) (name : String) (vrf : Vrf) :
    (vrf.purgeStatics resolver name).2.statics =
      (vrf.statics.purge name (vrf.boundStatics name)).2 :=
  (sameOutside_inTurn_refreshStatic resolver _ _).statics_eq

/-- A VRF whose tables are settled over the interfaces before the change drops the static next hops
that depend on an interface, whatever next hops resolve to by now. -/
theorem drops_purgeStatics (isKeyed : table.IsKeyed) (isFiled : vrf.IsFiled)
    (derives : vrf.DerivesStatics) {id : UInt32} (isSettled : vrf.IsSettled (table.resolver id))
    (resolver : Resolver) (name : String) :
    vrf.statics.Drops (fun nextHop => nextHop.DependsOn (table.resolver id) name)
      (vrf.purgeStatics resolver name).2.statics := by
  intro destination nextHop distance
  rw [statics_purgeStatics, StaticTable.hopsOf_purge, SortedMap.find?_filter,
    Option.filter_eq_some_iff, Bool.not_eq_true']
  refine and_congr_right fun configured => ?_
  have listed : nextHop ∈ (vrf.statics.hopsOf destination).keys :=
    SortedMap.mem_keys_iff.2 ⟨distance, configured⟩
  have isBound : StaticTable.isBound name (vrf.boundStatics name) destination nextHop = true ↔
      nextHop.DependsOn (table.resolver id) name := by
    rw [StaticTable.isBound, Bool.or_eq_true, List.contains_iff_mem,
      mem_boundStatics_iff isKeyed isFiled (derives destination) isSettled]
    constructor
    · rintro (names | ⟨_, dependsOn⟩)
      · exact NextHop.dependsOn_of_names names _
      · exact dependsOn
    · exact fun dependsOn => .inr ⟨listed, dependsOn⟩
  exact Bool.eq_false_iff.trans (not_congr isBound)

/-- The VRF of an interface that stops routing drops static routes first and keeps what is left. -/
theorem Follows.statics_eq_purge {stop : InterfaceChange} {rest : List InterfaceChange}
    (stops : stop.what = .routingDisabled) (ofUse : ∀ change ∈ rest, change.IsOfUse)
    (follows : Follows interfaces (stop :: rest) vrf after) :
    after.statics =
      (vrf.purgeStatics (interfaces.resolver stop.vrf) stop.name).2.statics := by
  cases follows with
  | rerouted answered programmed later =>
    rw [RouterM.reroute, stops] at answered
    cases answered
    rw [(later.sameBasis ofUse).contents.statics_eq, programmed]

/-- Two VRFs list the same candidates of other origins than the static one, apart from what
selection wrote into them. -/
def SameButStatics (first second : Vrf) : Prop :=
  ∀ destination key, key.1 ≠ .static →
    second.entryAt? destination key = first.entryAt? destination key

theorem bounds_sameButStatics : Bounds InterfaceChange.IsSilent SameButStatics where
  follows follows silent := (follows.losesStatics silent).entryAt?_eq
  settles same := same.losesStatics.entryAt?_eq
  trans left right destination key other :=
    (right destination key other).trans (left destination key other)

end Vrf

/-! ### Routers -/

/-- That an interface is to route changes at most whether it can be used. -/
theorem InterfaceTable.isOfUse_of_setRouting_true {table after : InterfaceTable} {name : String}
    {changes : List InterfaceChange}
    (answered : table.setRouting name true = .ok (changes, after)) :
    ∀ change ∈ changes, change.IsOfUse := by
  rcases setRouting_cases answered with ⟨rfl, _⟩ | ⟨_, _, _, _, rfl⟩
  · exact nofun
  · exact isOfUse_of_mem_usabilityChanges

variable {Kernel : Type} [KernelBackend Kernel]

/-- When a session follows an interface that stops routing, the VRF of the interface loses what it
purges, and all other VRFs keep their static routes. -/
theorem Session.statics_follow {session : Session Kernel} {stop : InterfaceChange}
    {rest : List InterfaceChange} (isKeyed : session.state.vrfs.IsKeyed)
    (attributed : RouterM.Attributed session.state.interfaces (stop :: rest))
    (stops : stop.what = .routingDisabled) (ofUse : ∀ change ∈ rest, change.IsOfUse)
    (id : UInt32) :
    ((session.follow (stop :: rest)).find? id).map Vrf.statics =
      (session.find? id).map fun vrf =>
        if stop.vrf = id then
          (vrf.purgeStatics (session.state.interfaces.resolver id) stop.name).2.statics
        else vrf.statics := by
  refine map_eq_of_rel ?_ (rel_find?_follow isKeyed attributed id)
  rintro vrf after ⟨next, follows, same, _⟩
  have ownOfUse : ∀ change ∈ changesOf id rest, change.IsOfUse :=
    fun change member => ofUse change (List.mem_filter.1 member).1
  rw [same.statics_eq]
  split
  next own =>
    rw [changesOf_cons_own own] at follows
    rw [follows.statics_eq_purge stops ownOfUse, own]
  next other =>
    rw [changesOf_cons_other other] at follows
    rw [(follows.sameBasis ownOfUse).contents.statics_eq]

namespace Router

variable {router : Router Kernel} {name : String}

/-- An interface that is to route takes no static routes with it, nor does it bring any back. -/
theorem statics_routingOn (isKeyed : router.state.IsKeyed) (name : String) (id : UInt32) :
    ((router.step (.setRouting name true)).2.state.vrfs.byId.find? id).map Vrf.statics =
      (router.state.vrfs.byId.find? id).map Vrf.statics := by
  rcases step_cases isKeyed with ⟨_, next, _, changes, same⟩ | ⟨_, after, _, refused, same⟩
  · rw [same]
    cases changes with
    | rerouted _ performs => cases performs
    | @followed _ changes table performs =>
      have attributed := (performs.accounts isKeyed.interfaces).attributed
      cases performs with
      | routingSet answered =>
        have keyedVrfs : ((⟨router.state, []⟩ : Session Kernel).withInterfaces
          table).state.vrfs.IsKeyed := isKeyed.vrfs
        have related := Session.rel_follow keyedVrfs attributed Vrf.bounds_sameBasis
          (InterfaceTable.isOfUse_of_setRouting_true answered) id
        exact map_eq_of_rel (fun _ _ sameBasis => sameBasis.contents.statics_eq) related
  · rw [same]
    cases refused <;> rfl

/-- An interface that routes can be stopped from it. The VRF of the interface loses what it purges,
with next hops resolved as they are without the interface, and nothing else is lost. -/
theorem exists_step_routingOff (isKeyed : router.state.IsKeyed) {interface : Interface}
    (found : router.state.interfaces.find? name = some interface)
    (routes : interface.mode = .routing) :
    ∃ after, router.step (.setRouting name false) = (.ok .done, after) ∧
      (∀ id, (after.state.vrfs.byId.find? id).map Vrf.statics =
        (router.state.vrfs.byId.find? id).map fun vrf =>
          if interface.vrf = id then
            (vrf.purgeStatics (after.state.interfaces.resolver id) name).2.statics
          else vrf.statics) ∧
      ∀ id, Option.Rel Vrf.SameButStatics (router.state.vrfs.byId.find? id)
        (after.state.vrfs.byId.find? id) := by
  let table := router.state.interfaces.modify name (Interface.moded .bridging)
  let stop := InterfaceChange.of interface .routingDisabled
  let rest := InterfaceTable.usabilityChanges router.state.interfaces table [name]
  let session : Session Kernel := (⟨router.state, []⟩ : Session Kernel).withInterfaces table
  have different : interface.mode ≠ .ofBool false := routes ▸ LinkMode.noConfusion
  have performs : InterfaceOperation router.state (.setRouting name false) (stop :: rest) table :=
    .routingSet (InterfaceTable.setRouting_eq found different)
  have ofUse : ∀ change ∈ rest, change.IsOfUse := InterfaceTable.isOfUse_of_mem_usabilityChanges
  have silent : ∀ change ∈ stop :: rest, change.IsSilent :=
    List.forall_mem_cons.2 ⟨Origin.noConfusion, fun change member => (ofUse change member).isSilent⟩
  have keyedVrfs : session.state.vrfs.IsKeyed := isKeyed.vrfs
  have attributed := (performs.accounts isKeyed.interfaces).attributed
  obtain ⟨succeeds, state_eq⟩ := step_of_performs isKeyed performs
  refine ⟨_, succeeds, fun id => ?_, fun id => ?_⟩
  · have statics := Session.statics_follow keyedVrfs attributed rfl ofUse id
    have sameInterfaces := Session.interfaces_follow session (stop :: rest)
    have named : stop.name = name := isKeyed.interfaces name interface found
    rw [named, ← sameInterfaces] at statics
    rw [state_eq]
    exact statics
  · rw [state_eq]
    exact Session.rel_follow keyedVrfs attributed Vrf.bounds_sameButStatics silent id

end Router

/-- In every router that can be reached while routes are announced and withdrawn for dynamic
protocols only, an interface that routes can be stopped from it. The VRF that it is attached to then
drops exactly the static next hops that depend on the interface by the way in which next hops are
resolved before, and those that stay keep their distances. All other VRFs keep their static routes,
and all VRFs keep their candidates of other origins. If the interface is to route again in a router
that can be reached, all static routes stay as they are. -/
theorem statics_setRouting_of_reachable {router : Router Kernel}
    (reachable : Reachable Surroundings.dynamic router) {name : String} {interface : Interface}
    (found : router.state.interfaces.find? name = some interface)
    (routes : interface.mode = .routing) :
    ∃ vrf next after, router.vrf interface.vrf = .ok vrf ∧
      router.step (.setRouting name false) = (.ok .done, after) ∧
      after.vrf interface.vrf = .ok next ∧
      vrf.statics.Drops (fun nextHop =>
        nextHop.DependsOn (router.state.interfaces.resolver interface.vrf) name) next.statics ∧
      (∀ id, id ≠ interface.vrf →
        (after.state.vrfs.byId.find? id).map Vrf.statics =
          (router.state.vrfs.byId.find? id).map Vrf.statics) ∧
      (∀ id, Option.Rel Vrf.SameButStatics (router.state.vrfs.byId.find? id)
        (after.state.vrfs.byId.find? id)) ∧
      ∀ later : Router Kernel, Reachable Surroundings.dynamic later → ∀ id,
        ((later.step (.setRouting name true)).2.state.vrfs.byId.find? id).map Vrf.statics =
          (later.state.vrfs.byId.find? id).map Vrf.statics := by
  obtain ⟨isKeyed, allVrfs⟩ :=
    isVrfInvariant_derivesStatics.isInvariant.good_of_reachable reachable
  obtain ⟨after, succeeds, statics, others⟩ := Router.exists_step_routingOff isKeyed found routes
  obtain ⟨vrf, isVrf⟩ : ∃ vrf, router.state.vrfs.byId.find? interface.vrf = some vrf :=
    Option.isSome_iff_exists.1 (allVrfs.isReferential.isAttached name interface found)
  have purged := statics interface.vrf
  rw [isVrf, Option.map_some, if_pos rfl, Option.map_eq_some_iff] at purged
  obtain ⟨next, isNext, purged⟩ := purged
  refine ⟨vrf, next, after, VrfTable.get_eq_ok_iff.2 isVrf, succeeds,
    VrfTable.get_eq_ok_iff.2 isNext, ?_, fun id other => ?_, others, fun later isLater => ?_⟩
  · -- the marks were set before the interface changed
    have isSettled := (isInvariant_allSettled Surroundings.dynamic).of_reachable reachable
      interface.vrf vrf isVrf
    obtain ⟨isFiled, derives⟩ := allVrfs.held interface.vrf vrf isVrf
    rw [purged]
    exact Vrf.drops_purgeStatics isKeyed.interfaces isFiled derives isSettled _ name
  · rw [statics id]
    exact Option.map_congr fun _ _ => if_neg (Ne.symm other)
  · have laterKeyed := (isVrfInvariant_derivesStatics.isInvariant.good_of_reachable isLater).1
    exact Router.statics_routingOn laterKeyed name

/-- The sample interface takes the static route with it whose gateway was reached over it. -/
theorem statics_setRouting_of_sampleRouter : ∃ (router after : Router MemoryKernel)
    (vrf next : Vrf), router.vrf defaultVrfId = .ok vrf ∧
      (vrf.statics.hopsOf (Prefix.ofNetwork sampleStatic.destination)).find?
        sampleStatic.nextHop = some 5 ∧
      router.step (.setRouting "eth0" false) = (.ok .done, after) ∧
      after.vrf defaultVrfId = .ok next ∧
      (next.statics.hopsOf (Prefix.ofNetwork sampleStatic.destination)).find?
        sampleStatic.nextHop = none := by
  have reached : ((sampleRouter?.map fun router =>
      (router.step (.addStatic defaultVrfId sampleStatic)).2).bind fun router =>
        ((router.state.interfaces.find? "eth0").filter fun interface =>
          interface.mode = .routing ∧ interface.vrf = defaultVrfId).bind fun _ =>
            (router.vrf defaultVrfId).toOption.filter fun vrf =>
              (vrf.statics.hopsOf (Prefix.ofNetwork sampleStatic.destination)).find?
                sampleStatic.nextHop = some 5 ∧
              router.state.interfaces.resolver defaultVrfId sampleStatic.nextHop =
                some ⟨1, "eth0"⟩).isSome = true := by
    decide +kernel
  obtain ⟨vrf, reached⟩ := Option.isSome_iff_exists.1 reached
  obtain ⟨_, sample, reached⟩ := Option.bind_eq_some_iff.1 reached
  obtain ⟨router, built, rfl⟩ := Option.map_eq_some_iff.1 sample
  obtain ⟨interface, eth, reached⟩ := Option.bind_eq_some_iff.1 reached
  obtain ⟨found, isGood⟩ := Option.filter_eq_some_iff.1 eth
  obtain ⟨routes, own⟩ := of_decide_eq_true isGood
  obtain ⟨isVrf, facts⟩ := Option.filter_eq_some_iff.1 reached
  obtain ⟨configured, resolves⟩ := of_decide_eq_true facts
  have reachable : Reachable Surroundings.dynamic
      (router.step (.addStatic defaultVrfId sampleStatic)).2 :=
    (reachable_sampleRouter trivial trivial built).performed trivial
  obtain ⟨_, next, after, _, stopped, isNext, drops, _⟩ :=
    statics_setRouting_of_reachable reachable found routes
  rw [own] at isNext drops
  refine ⟨_, after, vrf, next, eq_ok_of_toOption isVrf, configured, stopped, isNext, ?_⟩
  refine Option.eq_none_iff_forall_ne_some.2 fun distance kept => ?_
  exact ((drops _ _ _).1 kept).2 (.resolved resolves rfl)

end ControlPlane
