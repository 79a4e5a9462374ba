/-
This file proves that no reserved destination and no reserved gateway reaches a
router. Routes come in by three ways: they are announced, added as static routes
or configured with a VRF. Each way checks them first, and what happens to them
later, when interfaces change or VRFs are refreshed, works on what came in. So
all that a VRF lists, forwards or has pending is admitted in every router that
can be reached, over any kernels.
-/

import ControlPlane.Proofs.Admission
import ControlPlane.Proofs.Router.Following
import ControlPlane.Proofs.Router.Statics
import ControlPlane.Proofs.Synchronizer

namespace ControlPlane

/-! ### The checks of operations -/

theorem RouterM.checkGateways_eq_ok_iff {hops : List Hop} :
    RouterM.checkGateways hops = .ok () ↔ ∀ hop ∈ hops, hop.nextHop.IsAdmitted := by
  induction hops with
  | nil => exact ⟨fun _ _ member => (nomatch member), fun _ => rfl⟩
  | cons hop rest inductionHypothesis =>
    rw [List.forall_mem_cons, ← inductionHypothesis, RouterM.checkGateways]
    cases nextHop : hop.nextHop with
    | gateway address pinned =>
      rw [ConfigResult.bind_eq_ok_iff]
      refine and_congr_left fun _ => ⟨fun checked own bound isGateway => ?_, fun isAdmitted => ?_⟩
      · cases isGateway
        exact checked
      · exact isAdmitted address pinned rfl
    | interface name =>
      exact ⟨fun checked => ⟨fun _ _ isGateway => (nomatch isGateway), checked⟩, And.right⟩

/-- A candidate passes the check of announcements. -/
theorem Candidate.isAdmitted_of_check {candidate : Candidate}
    (checked : RouterM.checkCandidate candidate = .ok ()) : candidate.IsAdmitted := by
  obtain ⟨destination, gateways⟩ := ConfigResult.bind_eq_ok_iff.1 checked
  exact fun _ => ⟨destination, RouterM.checkGateways_eq_ok_iff.1 gateways⟩

/-- Connected candidates are admitted without a check. -/
theorem Candidate.isAdmitted_of_connected {candidate : Candidate}
    (isConnected : candidate.origin = .connected) : candidate.IsAdmitted :=
  fun isDynamic => absurd isConnected isDynamic

namespace Vrf

/-- Events on interfaces bring in connected candidates and take away others. -/
theorem admits_reroute {interfaces : InterfaceTable} {change : InterfaceChange} {vrf : Vrf}
    {rerouted : Rerouted} (answered : RouterM.reroute interfaces change vrf = .ok rerouted) :
    vrf.Admits rerouted := by
  unfold RouterM.reroute at answered
  cases what : change.what with
  | usable now =>
    rw [what] at answered
    cases answered
    exact admits_self vrf
  | routingDisabled =>
    rw [what] at answered
    cases answered
    exact admits_purgeStatics change.name
  | addressAdded network =>
    rw [what] at answered
    exact admits_announce (Candidate.isAdmitted_of_connected rfl) answered
  | addressRemoved network =>
    rw [what] at answered
    dsimp only at answered
    split at answered
    next candidate remains =>
      have isConnected := origin_of_mem_connected (List.mem_of_find?_eq_some remains)
      exact admits_announce (Candidate.isAdmitted_of_connected isConnected) answered
    next =>
      cases answered
      exact admits_withdrawInstance _ _ _
  | attached =>
    rw [what] at answered
    refine admits_announceAll (fun candidate member => ?_) answered
    exact Candidate.isAdmitted_of_connected (origin_of_mem_connected member)
  | detached =>
    rw [what] at answered
    cases answered
    exact admits_withdrawConnected change.index

end Vrf

variable {Kernel : Type}

/-- An operation on a VRF checks what it brings in. -/
theorem VrfOperation.admits {state : RoutingState Kernel} {id : UInt32} {vrf : Vrf}
    {operation : Operation} {events : List RoutingEvent} {rerouted : Rerouted}
    (performs : VrfOperation state id vrf operation events rerouted) : vrf.Admits rerouted := by
  cases performs with
  | announced checked _ answered =>
    exact Vrf.admits_announce (Candidate.isAdmitted_of_check checked) answered
  | withdrawn => exact Vrf.admits_withdraw _ _
  | instanceWithdrawn => exact Vrf.admits_withdrawInstance _ _ _
  | staticAdded checked => exact Vrf.admits_addStatic (admitsStatic_of_validate checked) vrf
  | staticRemoved answered => exact Vrf.admits_removeStatic answered
  | @bgpSet config =>
    have settings : vrf.Admits ([], vrf.setBgp (some config)) :=
      Vrf.admits_settings (.of_ribs rfl rfl rfl rfl) rfl
    exact settings.followed (Vrf.admits_refresh _ _)
  | bgpRemoved =>
    have settings : vrf.Admits ([], vrf.setBgp none) :=
      Vrf.admits_settings (.of_ribs rfl rfl rfl rfl) rfl
    exact settings.followed (Vrf.admits_refresh _ _)
  | distanceSet => exact Vrf.admits_settings (.of_ribs rfl rfl rfl rfl) rfl
  | routerIdSet => exact Vrf.admits_settings (.of_ribs rfl rfl rfl rfl) rfl

/-! ### VRFs with their forwarding tables -/

/-- Everything that a VRF lists, forwards or has pending is admitted. -/
structure Vrf.IsVetted (vrf : Vrf) : Prop where
  isAdmitted : vrf.IsAdmitted
  holds : vrf.sync.Holds ForwardingRoute.IsAdmitted

theorem Vrf.isVetted_create (name : String) (id : UInt32) (netns : String) (attempts : Nat) :
    (Vrf.create name id netns attempts).IsVetted where
  isAdmitted := isAdmitted_create name id netns attempts
  holds := Synchronizer.holds_create _ id netns attempts

theorem Vrf.IsVetted.of_same {first second : Vrf} (isVetted : first.IsVetted)
    (same : first.SameRoutes second) (sameStatics : second.statics = first.statics)
    (sameSync : second.sync = first.sync) : second.IsVetted where
  isAdmitted := isVetted.isAdmitted.of_same same sameStatics
  holds := by
    rw [sameSync]
    exact isVetted.holds

variable [KernelBackend Kernel]

namespace Session

variable {vrf : Vrf}

/-- The deltas of an operation are programmed, and what they lead to is admitted. -/
theorem isVetted_programmedVrf {rerouted : Rerouted} (isVetted : vrf.IsVetted)
    (admits : vrf.Admits rerouted) (sameSync : rerouted.2.sync = vrf.sync)
    (session : Session Kernel) : (session.programmedVrf rerouted).IsVetted := by
  obtain ⟨isAdmitted, deltas⟩ := admits isVetted.isAdmitted
  refine ⟨isAdmitted.of_same (sameRoutes_programmedVrf rerouted session) rfl, ?_⟩
  refine Programmed.holds_applyAll deltas ?_
  rw [sameSync]
  exact isVetted.holds

end Session

/-- However the routes of a VRF move, what comes in was checked: by the operation, by the interface
that the route is connected to, or with the configuration. -/
theorem Vrf.Moves.admits {vrf : Vrf} {rerouted : Rerouted} (moves : vrf.Moves rerouted) :
    vrf.Admits rerouted := by
  cases moves with
  | operated performs => exact performs.admits
  | followed answered => exact Vrf.admits_reroute answered
  | refreshed resolver => exact Vrf.admits_refresh resolver vrf
  | configured accepts session =>
    obtain ⟨_, _, _, checked⟩ := VrfConfig.validate_eq_ok_iff.1 accepts.valid
    exact Vrf.admits_inTurn (fun route member =>
      Vrf.admits_addStatic (admitsStatic_of_validate (checked route member))) _

/-! ### The invariant -/

/-- Each VRF stays vetted by itself: whatever happens to a router, all that the VRF lists, forwards
or has pending is admitted. -/
theorem isOwnInvariant_isVetted : IsOwnInvariant Kernel Vrf.IsVetted where
  created := Vrf.isVetted_create
  same _ _ same sameStatics sameSync isVetted := isVetted.of_same same sameStatics sameSync
  moved session _ _ moves isVetted := by
    obtain ⟨_, reroutes⟩ := moves.reroutes
    exact Session.isVetted_programmedVrf isVetted moves.admits reroutes.sync_eq session
  retried _ _ isVetted :=
    ⟨isVetted.isAdmitted.of_same (.of_ribs rfl rfl rfl rfl) rfl,
      Programmed.holds_retryPending isVetted.holds⟩

/-! ### Reserved addresses -/

/-- The addresses that are no gateways: broadcast, multicast, loopback and unspecified ones, and
those of class E. -/
def Address.IsReservedGateway : Address → Prop
  | .v4 word => IPv4.isBroadcast word ∨ IPv4.isMulticast word ∨ IPv4.isLoopback word ∨
      IPv4.isUnspecified word ∨ 240 ≤ IPv4.firstOctet word
  | .v6 word => IPv6.isMulticast word ∨ IPv6.isLoopback word ∨ IPv6.isUnspecified word

/-- The prefixes that are no destinations: their address is broadcast, multicast, loopback,
link-local of version 6 or, unless they are default routes, unspecified. -/
def Prefix.IsReserved (destination : Prefix) : Prop :=
  match destination.address with
  | .v4 word => IPv4.isBroadcast word ∨ IPv4.isMulticast word ∨ IPv4.isLoopback word ∨
      (IPv4.isUnspecified word ∧ destination.length ≠ 0)
  | .v6 word => IPv6.isMulticast word ∨ IPv6.isLoopback word ∨ IPv6.isLinkLocal word ∨
      (IPv6.isUnspecified word ∧ destination.length ≠ 0)

theorem Address.gatewayClass?_eq_none_iff {address : Address} :
    address.gatewayClass? = none ↔ ¬ address.IsReservedGateway := by
  cases address with
  | v4 word =>
    simp only [gatewayClass?, IPv4.class?, IsReservedGateway]
    grind
  | v6 word =>
    simp only [gatewayClass?, IPv6.class?, IsReservedGateway]
    grind

/-- The unspecified address is of no other kind. -/
theorem IPv6.plain_of_isUnspecified {word : IPv6} (isUnspecified : IPv6.isUnspecified word = true) :
    IPv6.isMulticast word = false ∧ IPv6.isLoopback word = false ∧
      IPv6.isLinkLocal word = false := by
  have zero : word.toNat = 0 := of_decide_eq_true isUnspecified
  simp [IPv6.isMulticast, IPv6.isLoopback, IPv6.isLinkLocal, zero]

theorem checkDestination_eq_ok_iff {destination : Prefix} :
    checkDestination destination.network = .ok () ↔ ¬ destination.IsReserved := by
  have sameBase : destination.network.base = destination.address := destination.canonical
  rw [checkDestination_eq_ok_iff_class, Network.destinationClass?, Prefix.IsReserved, sameBase]
  cases destination.address with
  | v4 word =>
    simp only [IPv4.class?, Prefix.length]
    grind
  | v6 word =>
    -- the exception for default routes comes before the other classes
    have plain : IPv6.isUnspecified word = true → _ := IPv6.plain_of_isUnspecified
    simp only [IPv6.class?, Prefix.length]
    grind

/-- In every router that can be reached, the checks accept the destination and every gateway of
every candidate that is not connected, and no route that is forwarded or pending, unless it is
connected, has a reserved destination or a reserved gateway. -/
theorem admitted_of_reachable {surroundings : Surroundings Kernel} {router : Router Kernel}
    (reachable : Reachable surroundings router) {id : UInt32} {vrf : Vrf}
    (found : router.vrf id = .ok vrf) :
    (∀ family destination set, (vrf.rib family).find? destination = some set →
      ∀ candidate ∈ set.list, candidate.origin ≠ .connected →
        candidate.destination = destination ∧ checkDestination destination.network = .ok () ∧
        ∀ hop ∈ candidate.hops, ∀ address pinned, hop.nextHop = .gateway address pinned →
          checkGateway address pinned.isSome = .ok ()) ∧
    ∀ destination route, vrf.sync.fib.find? destination = some route ∨
        vrf.sync.pending.find? destination = some (some route) →
      route.origin ≠ .connected → ¬ route.destination.IsReserved ∧
        ∀ hop ∈ route.hops, ∀ address, hop.gateway = some address →
          ¬ address.IsReservedGateway := by
  have isVetted := (isOwnInvariant_isVetted.isInvariant surroundings).of_reachable reachable id vrf
    (VrfTable.get_eq_ok_iff.1 found)
  refine ⟨fun family destination set isListed candidate member isDynamic => ?_,
    fun destination route held isDynamic => ?_⟩
  · have isOwn := (isVetted.isAdmitted.isOwn isListed member).2
    obtain ⟨checked, gateways⟩ := isOwn.isAdmitted isDynamic
    exact ⟨isOwn.destination_eq, isOwn.destination_eq ▸ checked, gateways⟩
  · have isAdmitted : route.IsAdmitted := by
      rcases held with forwarded | pending
      · exact isVetted.holds.fib destination route forwarded
      · exact isVetted.holds.pending destination route pending
    obtain ⟨checked, gateways⟩ := isAdmitted isDynamic
    exact ⟨checkDestination_eq_ok_iff.1 checked, fun hop member address gateway =>
      Address.gatewayClass?_eq_none_iff.1 (gateways hop member address gateway)⟩

theorem admitted_of_sampleRouter : ∃ (router : Router MemoryKernel) (vrf : Vrf)
    (candidate : Candidate) (route : ForwardingRoute), router.vrf defaultVrfId = .ok vrf ∧
      candidate ∈ vrf.candidatesAt (Prefix.ofNetwork sampleStatic.destination) ∧
      candidate.origin = .static ∧ candidate.hops ≠ [] ∧
      checkDestination candidate.destination.network = .ok () ∧
      vrf.sync.fib.find? (Prefix.ofNetwork sampleStatic.destination) = some route ∧
      route.origin = .static ∧ ¬ route.destination.IsReserved := by
  have configured : (sampleRouter?.bind fun router =>
      ((router.step (.addStatic defaultVrfId sampleStatic)).2.vrf defaultVrfId).toOption.bind
        fun vrf => ((vrf.rib .ipv4).find? (Prefix.ofNetwork sampleStatic.destination)).bind
          fun set => (set.list.find? fun candidate =>
            candidate.origin = .static ∧ candidate.hops ≠ []).bind fun _ =>
              (vrf.sync.fib.find? (Prefix.ofNetwork sampleStatic.destination)).filter
                fun route => route.origin = .static).isSome = true := by
    decide +kernel
  obtain ⟨route, isConfigured⟩ := Option.isSome_iff_exists.1 configured
  obtain ⟨router, built, sample⟩ := Option.bind_eq_some_iff.1 isConfigured
  obtain ⟨vrf, got, sample⟩ := Option.bind_eq_some_iff.1 sample
  obtain ⟨set, listed, sample⟩ := Option.bind_eq_some_iff.1 sample
  obtain ⟨candidate, isListed, sample⟩ := Option.bind_eq_some_iff.1 sample
  obtain ⟨forwarded, isStatic⟩ := Option.filter_eq_some_iff.1 sample
  have member := List.mem_of_find?_eq_some isListed
  obtain ⟨candidateStatic, hasHops⟩ : candidate.origin = .static ∧ candidate.hops ≠ [] := by
    simpa using List.find?_some isListed
  have reachable : Reachable Surroundings.any router :=
    reachable_sampleRouter trivial trivial built
  have performed : Reachable Surroundings.any
      (router.step (.addStatic defaultVrfId sampleStatic)).2 := reachable.performed trivial
  have found := eq_ok_of_toOption got
  obtain ⟨listing, forwarding⟩ := admitted_of_reachable performed found
  obtain ⟨here, checked, _⟩ := listing .ipv4 _ set listed candidate member (by
    rw [candidateStatic]; nofun)
  have routeStatic : route.origin = .static := of_decide_eq_true isStatic
  have notConnected : route.origin ≠ .connected := by rw [routeStatic]; nofun
  refine ⟨_, vrf, candidate, route, found, ?_, candidateStatic, hasHops, here ▸ checked, forwarded,
    routeStatic, (forwarding _ route (Or.inl forwarded) notConnected).1⟩
  show candidate ∈ ((vrf.rib .ipv4).setAt (Prefix.ofNetwork sampleStatic.destination)).list
  rw [Rib.setAt, listed]
  exact member

end ControlPlane
