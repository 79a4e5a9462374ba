/-
This file compares the two ways on which a route gets into a router. A static
route is validated with its network and its next hop, and an announced candidate
is checked with its prefix and all of its next hops. Both ways set the same
destinations and the same gateways aside. They differ in one point: a static route
through a gateway of another family than its destination is refused, and such a
candidate is announced and forwarded.
-/

import ControlPlane.Proofs.Router.Admission
import ControlPlane.Proofs.Router.Tracking

namespace ControlPlane

/-! ### What is accepted -/

/-- The next hop is an interface or a gateway of the family. -/
def NextHop.IsOfFamily (family : Family) (nextHop : NextHop) : Prop :=
  ∀ address, nextHop.gateway? = some address → address.family = family

theorem NextHop.exists_of_not_isOfFamily {family : Family} {nextHop : NextHop}
    (foreign : ¬ nextHop.IsOfFamily family) :
    ∃ address pinned, nextHop = .gateway address pinned ∧ address.family ≠ family := by
  cases nextHop with
  | gateway address pinned =>
    refine ⟨address, pinned, rfl, fun sameFamily => foreign fun own isOwn => ?_⟩
    cases isOwn
    exact sameFamily
  | interface name =>
    have ofFamily : (interface name).IsOfFamily family := nofun
    exact absurd ofFamily foreign

namespace StaticRoute

variable {route : StaticRoute}

/-- Beside no local addresses, a static route is valid if its destination, its distance and its
next hop are, and if the next hop is of the family of the destination. -/
theorem validate_nil_eq_ok_iff :
    route.validate [] = .ok () ↔ checkDestination route.destination = .ok () ∧
      route.distance ≠ 0 ∧ route.nextHop.IsOfFamily route.destination.family ∧
        route.nextHop.IsAdmitted := by
  rw [validate, ConfigResult.bind_eq_ok_iff, ConfigResult.guard_eq_ok_iff]
  refine and_congr_right fun _ => and_congr_right fun _ => ?_
  cases route.nextHop with
  | interface name =>
    have ofFamily : (NextHop.interface name).IsOfFamily route.destination.family := nofun
    have isAdmitted : (NextHop.interface name).IsAdmitted := nofun
    exact ⟨fun _ => ⟨ofFamily, isAdmitted⟩, fun _ => rfl⟩
  | gateway address pinned =>
    dsimp only
    rw [ConfigResult.guard_eq_ok_iff, ConfigResult.bind_eq_ok_iff, Decidable.not_not]
    refine ⟨fun ⟨sameFamily, checked, _⟩ => ⟨fun own isOwn => ?_, fun own bound isOwn => ?_⟩,
      fun ⟨sameFamily, isAdmitted⟩ => ⟨sameFamily address rfl, isAdmitted address pinned rfl, rfl⟩⟩
    · cases isOwn
      exact sameFamily
    · cases isOwn
      exact checked

/-- A gateway of another family is the reason to refuse a static route if its destination and its
distance are none. -/
theorem validate_eq_familyMismatch {localAddresses : List Address} {address : Address}
    {pinned : Option String} (checked : checkDestination route.destination = .ok ())
    (positive : route.distance ≠ 0) (isGateway : route.nextHop = .gateway address pinned)
    (foreign : address.family ≠ route.destination.family) :
    route.validate localAddresses = .error (.familyMismatch address route.destination) := by
  rw [validate, checked, isGateway]
  simp only [positive, foreign, ne_eq, not_false_iff, if_true, if_false]
  rfl

/-- A static route is refused for the family of its gateway after its destination was accepted. -/
theorem checkDestination_of_familyMismatch {localAddresses : List Address} {address : Address}
    {network : Network}
    (refused : route.validate localAddresses = .error (.familyMismatch address network)) :
    checkDestination route.destination = .ok () := by
  unfold validate checkDestination at refused
  rw [checkDestination_eq_ok_iff_class]
  cases classified : route.destination.destinationClass? with
  | none => rfl
  | some kind =>
    rw [classified] at refused
    cases refused

end StaticRoute

theorem RouterM.checkCandidate_eq_ok_iff {candidate : Candidate} :
    RouterM.checkCandidate candidate = .ok () ↔
      checkDestination candidate.destination.network = .ok () ∧
        ∀ hop ∈ candidate.hops, hop.nextHop.IsAdmitted := by
  rw [RouterM.checkCandidate, ConfigResult.bind_eq_ok_iff, RouterM.checkGateways_eq_ok_iff]

/-- A static route through the next hop is valid, or it is refused for nothing but the family of
its gateway, which the check of gateways accepts. -/
def StaticRoute.IsValidButForFamily (route : StaticRoute) : Prop :=
  route.validate [] = .ok () ∨ ∃ address pinned, route.nextHop = .gateway address pinned ∧
    route.validate [] = .error (.familyMismatch address route.destination) ∧
      checkGateway address pinned.isSome = .ok ()

theorem StaticRoute.isValidButForFamily_iff {route : StaticRoute} (positive : route.distance ≠ 0) :
    route.IsValidButForFamily ↔
      checkDestination route.destination = .ok () ∧ route.nextHop.IsAdmitted := by
  constructor
  · rintro (valid | ⟨address, pinned, isGateway, refused, checked⟩)
    · obtain ⟨destination, _, _, isAdmitted⟩ := validate_nil_eq_ok_iff.1 valid
      exact ⟨destination, isAdmitted⟩
    · refine ⟨checkDestination_of_familyMismatch refused, fun own bound isOwn => ?_⟩
      cases isGateway.symm.trans isOwn
      exact checked
  · rintro ⟨destination, isAdmitted⟩
    by_cases ofFamily : route.nextHop.IsOfFamily route.destination.family
    · exact .inl (validate_nil_eq_ok_iff.2 ⟨destination, positive, ofFamily, isAdmitted⟩)
    · obtain ⟨address, pinned, isGateway, foreign⟩ := NextHop.exists_of_not_isOfFamily ofFamily
      exact .inr ⟨address, pinned, isGateway,
        validate_eq_familyMismatch destination positive isGateway foreign,
        isAdmitted address pinned isGateway⟩

/-! ### Announcements -/

variable {Kernel : Type} [KernelBackend Kernel]

/-- An announcement to a VRF that exists succeeds if and only if the check accepts the
candidate. -/
theorem Router.step_announce_eq_ok_iff {router : Router Kernel} (isKeyed : router.state.IsKeyed)
    {candidate : Candidate} {vrf : Vrf} (found : router.vrf candidate.vrf = .ok vrf) :
    (router.step (.announce candidate)).1 = .ok .done ↔
      RouterM.checkCandidate candidate = .ok () := by
  have isFound : (⟨router.state, []⟩ : Session Kernel).find? candidate.vrf = some vrf :=
    VrfTable.get_eq_ok_iff.1 found
  have ends : RouterM.Ends (Operation.announce candidate).perform ⟨router.state, []⟩
      (fun response _ => response = .done ∧ RouterM.checkCandidate candidate = .ok ())
      fun _ _ => RouterM.checkCandidate candidate ≠ .ok () := by
    refine RouterM.ends_bind (RouterM.ends_bind (RouterM.ends_accept (fun checked => ?_)
      fun _ refused => by rw [refused]; nofun))
    refine RouterM.ends_publishing (RouterM.ends_bind (RouterM.ends_of_run
      (RouterM.run_getVrf isFound) (RouterM.ends_bind (RouterM.ends_of_run rfl ?_))))
    obtain ⟨rerouted, announced⟩ := Vrf.exists_announce
      (router.state.interfaces.resolver candidate.vrf) (isKeyed.vrfs _ vrf isFound).symm
    dsimp only
    rw [announced]
    refine RouterM.ends_bind (RouterM.ends_of_run rfl (RouterM.ends_bind (RouterM.ends_of_run
      (RouterM.run_program rerouted _) (RouterM.ends_of_run rfl ?_))))
    exact RouterM.ends_of_run rfl ⟨rfl, checked⟩
  rw [RouterM.Ends] at ends
  rw [step, run]
  cases ran : (Operation.announce candidate).perform ⟨router.state, []⟩ with
  | ok response after =>
    rw [ran] at ends
    obtain ⟨rfl, checked⟩ := ends
    exact ⟨fun _ => checked, fun _ => rfl⟩
  | error error after =>
    rw [ran] at ends
    refine ⟨fun succeeds => ?_, fun checked => absurd checked ends⟩
    cases succeeds

/-- In every router that can be reached, a candidate with next hops is announced to a VRF that
exists if and only if it passes the check of announcements. It passes if and only if the static
routes to its destination through its next hops, at any distance but zero, are valid or refused
for nothing but the family of their gateway. So the two ways agree on all candidates whose
gateways are of the family of their destination. -/
theorem announce_iff_of_reachable {surroundings : Surroundings Kernel} {router : Router Kernel}
    (reachable : Reachable surroundings router) {candidate : Candidate} {vrf : Vrf}
    (found : router.vrf candidate.vrf = .ok vrf) (hasHops : candidate.hops ≠ [])
    (network : Network) (sameDestination : Prefix.ofNetwork network = candidate.destination)
    (distance : UInt8) (positive : distance ≠ 0) :
    ((router.step (.announce candidate)).1 = .ok .done ↔
      RouterM.checkCandidate candidate = .ok ()) ∧
    (RouterM.checkCandidate candidate = .ok () ↔ ∀ hop ∈ candidate.hops,
      (StaticRoute.mk network hop.nextHop distance).IsValidButForFamily) ∧
    ((∀ hop ∈ candidate.hops, hop.nextHop.IsOfFamily network.family) →
      (RouterM.checkCandidate candidate = .ok () ↔ ∀ hop ∈ candidate.hops,
        (StaticRoute.mk network hop.nextHop distance).validate [] = .ok ())) := by
  obtain ⟨isKeyed, _⟩ := (isInvariant_isTracked surroundings).good_of_reachable reachable
  have checks : RouterM.checkCandidate candidate = .ok () ↔ ∀ hop ∈ candidate.hops,
      checkDestination network = .ok () ∧ hop.nextHop.IsAdmitted := by
    rw [RouterM.checkCandidate_eq_ok_iff, ← sameDestination, checkDestination_ofNetwork]
    obtain ⟨first, member⟩ := List.exists_mem_of_ne_nil _ hasHops
    exact ⟨fun both hop isHop => ⟨both.1, both.2 hop isHop⟩,
      fun each => ⟨(each first member).1, fun hop isHop => (each hop isHop).2⟩⟩
  refine ⟨router.step_announce_eq_ok_iff isKeyed found, ?_, fun ofFamily => ?_⟩
  · rw [checks]
    refine forall₂_congr fun hop _ => ?_
    rw [StaticRoute.isValidButForFamily_iff positive]
  · rw [checks]
    refine forall₂_congr fun hop member => ?_
    rw [StaticRoute.validate_nil_eq_ok_iff]
    exact ⟨fun both => ⟨both.1, positive, ofFamily hop member, both.2⟩,
      fun valid => ⟨valid.1, valid.2.2.2⟩⟩

/-- A network of version 6. -/
def documentationNetwork : Network :=
  ⟨.v6 (IPv6.ofGroups [0x2001, 0xDB8, 0, 0, 0, 0, 0, 0]), 32, by decide⟩

/-- A candidate for a network through the gateway in the subnet of the sample interface. -/
def candidateThrough (network : Network) : Candidate :=
  (Candidate.create defaultVrfId (Prefix.ofNetwork network) .ospf).addHop
    (.gateway (.v4 0x0A000002) none)

theorem announce_iff_of_sampleRouter : ∃ (router : Router MemoryKernel) (vrf : Vrf),
    Reachable Surroundings.dynamic router ∧
      router.vrf (candidateThrough sampleStatic.destination).vrf = .ok vrf ∧
      (router.step (.announce (candidateThrough sampleStatic.destination))).1 = .ok .done ∧
      ∀ hop ∈ (candidateThrough sampleStatic.destination).hops,
        (StaticRoute.mk sampleStatic.destination hop.nextHop 1).validate [] = .ok () := by
  have built : (sampleRouter?.bind fun router =>
      (router.vrf defaultVrfId).toOption).isSome = true := by
    decide +kernel
  obtain ⟨vrf, isBuilt⟩ := Option.isSome_iff_exists.1 built
  obtain ⟨router, sample, got⟩ := Option.bind_eq_some_iff.1 isBuilt
  have reachable : Reachable Surroundings.dynamic router :=
    reachable_sampleRouter trivial trivial sample
  have found : router.vrf (candidateThrough sampleStatic.destination).vrf = .ok vrf :=
    eq_ok_of_toOption got
  have ofFamily : ∀ hop ∈ (candidateThrough sampleStatic.destination).hops,
      hop.nextHop.IsOfFamily sampleStatic.destination.family := by
    refine List.forall_mem_singleton.2 fun address isGateway => ?_
    cases isGateway
    rfl
  obtain ⟨announced, _, agrees⟩ := announce_iff_of_reachable reachable found
    (List.cons_ne_nil _ _) sampleStatic.destination rfl 1 (by decide)
  have checked : RouterM.checkCandidate (candidateThrough sampleStatic.destination) = .ok () :=
    rfl
  exact ⟨router, vrf, reachable, found, announced.2 checked, (agrees ofFamily).1 checked⟩

/-- A candidate of version 6 through a gateway of version 4 is announced, although the static
route is refused at every distance. -/
theorem exists_announced_through_other_family : ∃ (router : Router MemoryKernel) (vrf : Vrf),
    Reachable Surroundings.dynamic router ∧
      (candidateThrough documentationNetwork).origin = .ospf ∧
      (candidateThrough documentationNetwork).destination =
        Prefix.ofNetwork documentationNetwork ∧
      router.vrf (candidateThrough documentationNetwork).vrf = .ok vrf ∧
      (router.step (.announce (candidateThrough documentationNetwork))).1 = .ok .done ∧
      RouterM.checkCandidate (candidateThrough documentationNetwork) = .ok () ∧
      ∀ distance, ¬ ∀ hop ∈ (candidateThrough documentationNetwork).hops,
        (StaticRoute.mk documentationNetwork hop.nextHop distance).validate [] = .ok () := by
  have answered : (sampleRouter?.bind fun router => (router.vrf defaultVrfId).toOption.filter
      fun _ => (router.step (.announce (candidateThrough documentationNetwork))).1.toOption =
        some .done).isSome = true := by
    decide +kernel
  obtain ⟨vrf, isAnswered⟩ := Option.isSome_iff_exists.1 answered
  obtain ⟨router, sample, got⟩ := Option.bind_eq_some_iff.1 isAnswered
  obtain ⟨found, announced⟩ := Option.filter_eq_some_iff.1 got
  have checked : RouterM.checkCandidate (candidateThrough documentationNetwork) = .ok () :=
    rfl
  refine ⟨router, vrf, reachable_sampleRouter trivial trivial sample, rfl, rfl,
    eq_ok_of_toOption found, eq_ok_of_toOption (of_decide_eq_true announced), checked,
    fun distance valid => ?_⟩
  have ofHop := valid (.unresolved (.gateway (.v4 0x0A000002) none)) (List.mem_singleton_self _)
  obtain ⟨_, _, ofFamily, _⟩ := StaticRoute.validate_nil_eq_ok_iff.1 ofHop
  cases ofFamily (.v4 0x0A000002) rfl

end ControlPlane
