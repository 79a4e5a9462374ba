/-
This file proves that limits on paths shorten routes and never empty them. A best
route has as many next hops as the lowest limit leaves, and at least one as long
as no limit takes all paths away. So if the routes of a VRF have next hops and its
limits leave a path, then whatever the deltas of an operation lead to has next hops
as well, and a kernel is asked to write routes with next hops only.
-/

import ControlPlane.Proofs.Record
import ControlPlane.Proofs.Vrf

namespace ControlPlane

/-! ### Limits -/

namespace SelectionPolicy

variable {policy : SelectionPolicy} {origin : Origin}

theorem mem_limits_iff {limit : Nat} :
    limit ∈ policy.limits origin ↔
      (∃ general, policy.maxPaths = some general ∧ general.toNat = limit) ∨
        origin = .bgp ∧ ∃ own, policy.bgpMaxPaths = some own ∧ own.toNat = limit := by
  by_cases isBgp : origin = .bgp <;> simp [limits, isBgp]

/-- No more is kept than any limit allows. -/
theorem length_keep_le {Item : Type} {limit : Nat} (limited : limit ∈ policy.limits origin)
    (ranked : List Item) : (policy.keep origin ranked).length ≤ limit := by
  unfold keep
  split
  next least found =>
    have isLeast : least ≤ limit := (List.min?_eq_some_iff.1 found).2 limit limited
    exact Nat.le_trans (List.length_take_le least ranked) isLeast
  next none =>
    rw [List.min?_eq_none_iff.1 none] at limited
    cases limited

/-- The lowest limit of an open policy leaves a path. -/
theorem IsOpen.min?_limits_ne (isOpen : policy.IsOpen) (origin : Origin) :
    (policy.limits origin).min? ≠ some 0 := by
  intro closed
  have limited : 0 ∈ policy.limits origin := (List.min?_eq_some_iff.1 closed).1
  rcases mem_limits_iff.1 limited with ⟨general, isGeneral, zero⟩ | ⟨_, own, isOwn, zero⟩
  · exact isOpen.maxPaths (isGeneral.trans (congrArg some (UInt16.toNat_inj.1 zero)))
  · exact isOpen.bgpMaxPaths (isOwn.trans (congrArg some (UInt16.toNat_inj.1 zero)))

end SelectionPolicy

/-! ### Routes -/

/-- The route has a next hop. -/
def ForwardingRoute.HasHops (route : ForwardingRoute) : Prop :=
  route.hops ≠ []

namespace IsBestRoute

variable {resolver : Resolver} {policy : SelectionPolicy} {destination : Prefix}
  {set : CandidateSet} {route : ForwardingRoute}

/-- Winners offer a next hop, and the limits of an open policy leave the first one. -/
theorem hasHops (isBest : IsBestRoute resolver policy destination set route)
    (isOpen : policy.IsOpen) : route.HasHops := by
  obtain ⟨winner, wins⟩ := isBest.exists_winner
  obtain ⟨ranked, isRanking, hops, _⟩ := isBest.hops_eq
  obtain ⟨best, first, _⟩ := CandidateSet.head_metric_least wins isRanking
  have kept := SelectionPolicy.head?_keep (isOpen.min?_limits_ne route.origin) ranked
  intro none
  rw [none] at hops
  rw [List.map_eq_nil_iff.1 hops.symm, first] at kept
  cases kept

theorem length_hops_le (isBest : IsBestRoute resolver policy destination set route) {limit : Nat}
    (limited : limit ∈ policy.limits route.origin) : route.hops.length ≤ limit := by
  obtain ⟨ranked, _, hops, _⟩ := isBest.hops_eq
  rw [hops, List.length_map]
  exact SelectionPolicy.length_keep_le limited ranked

end IsBestRoute

/-! ### Operations on routes -/

/-- Every route that is installed has a next hop. -/
def RouteMap.HaveHops (routes : RouteMap) : Prop :=
  ∀ destination route, routes destination = some route → route.HasHops

/-- Every route that the deltas lead to has a next hop. -/
def Delta.LeadToHops (deltas : List Delta) : Prop :=
  ∀ delta ∈ deltas, ∀ route, delta.desired? = some route → route.HasHops

namespace Vrf

variable {resolver : Resolver} {vrf : Vrf}

theorem haveHops_refresh (resolver : Resolver) (isOpen : vrf.policy.IsOpen) :
    (vrf.refresh resolver).2.installed.HaveHops := by
  intro destination route isInstalled
  rw [installed_refresh] at isInstalled
  obtain ⟨_, isBest⟩ := Rib.exists_isBestRoute_of_refresh isInstalled
  exact isBest.hasHops isOpen

/-- Removing everything leads to no route. -/
theorem leadToHops_purge (vrf : Vrf) : Delta.LeadToHops vrf.purge.1 := by
  have ofRib : ∀ rib : Rib, Delta.LeadToHops rib.purge.1 := by
    intro rib delta member route desired
    rw [Rib.purge_fst] at member
    obtain ⟨destination, _, rfl⟩ := List.mem_map.1 (List.mem_filter.1 member).1
    cases Delta.eq_of_desired?_transition desired
  exact List.forall_mem_append.2 ⟨ofRib vrf.rib4, ofRib vrf.rib6⟩

/-- Under an open policy, an operation installs routes with next hops only, in the steps in between
as well. -/
theorem Reroutes.haveHops {rerouted : Rerouted} (reroutes : Reroutes resolver vrf rerouted)
    (isOpen : vrf.policy.IsOpen) (isProper : vrf.IsProper) (haveHops : vrf.installed.HaveHops) :
    rerouted.2.installed.HaveHops ∧ Delta.LeadToHops rerouted.1 := by
  induction reroutes with
  | configured same =>
    exact ⟨same.installed_eq.symm ▸ haveHops, fun _ member => nomatch member⟩
  | @reselected vrf destination result reselects =>
    have here : ∀ route, result.2.installed destination = some route → route.HasHops := by
      intro route isInstalled
      rcases reselects.installed_cases isInstalled with kept | ⟨_, isBest⟩
      · exact haveHops destination route kept
      · exact isBest.hasHops isOpen
    refine ⟨fun listed route isInstalled => ?_, List.forall_mem_singleton.2 fun route desired => ?_⟩
    · rw [installed, rib_setRib] at isInstalled
      split at isInstalled
      next sameFamily =>
        by_cases same : destination = listed
        · exact here route (same ▸ isInstalled)
        · rw [reselects.installed_others same, sameFamily] at isInstalled
          exact haveHops listed route isInstalled
      next => exact haveHops listed route isInstalled
    · rw [reselects.delta_eq] at desired
      exact here route (Delta.eq_of_desired?_transition desired)
  | @refreshed vrf changed same _ _ opens =>
    have installed := haveHops_refresh resolver (opens isOpen)
    refine ⟨installed, fun delta member route desired => ?_⟩
    rw [refresh_fst resolver (same.isProper isProper)] at member
    obtain ⟨destination, _, rfl⟩ := List.mem_map.1 (List.mem_filter.1 member).1
    exact installed destination route (Delta.eq_of_desired?_transition desired)
  | followed reroutes _ first second =>
    obtain ⟨between, deltas⟩ := first isOpen isProper haveHops
    obtain ⟨after, later⟩ := second (reroutes.isOpen isOpen) (reroutes.isProper isProper) between
    exact ⟨after, List.forall_mem_append.2 ⟨deltas, later⟩⟩

/-- No limit takes all paths of the VRF away, and every route that it has installed, forwards or
has pending has a next hop. -/
structure IsOpen (vrf : Vrf) : Prop where
  policy : vrf.policy.IsOpen
  isProper : vrf.IsProper
  installed : vrf.installed.HaveHops
  holds : vrf.sync.Holds ForwardingRoute.HasHops

theorem isOpen_create (name : String) (id : UInt32) (netns : String) (attempts : Nat) :
    (create name id netns attempts).IsOpen where
  policy := ⟨nofun, nofun⟩
  isProper := isProper_create name id netns attempts
  installed destination _ isInstalled := by
    rw [installed_create] at isInstalled
    cases isInstalled
  holds := Synchronizer.holds_create _ id netns attempts

/-- Settings other than the routes may change, as long as the limits stay open. -/
theorem IsOpen.of_same {first second : Vrf} (isOpen : first.IsOpen)
    (same : first.SameRoutes second) (sameSync : second.sync = first.sync)
    (policy : second.policy.IsOpen) : second.IsOpen where
  policy := policy
  isProper := same.isProper isOpen.isProper
  installed := same.installed_eq.symm ▸ isOpen.installed
  holds := sameSync.symm ▸ isOpen.holds

/-- An operation on an open VRF leaves it open. -/
theorem Reroutes.isOpen_vrf {rerouted : Rerouted} (reroutes : Reroutes resolver vrf rerouted)
    (isOpen : vrf.IsOpen) : rerouted.2.IsOpen ∧ Delta.LeadToHops rerouted.1 := by
  obtain ⟨installed, deltas⟩ := reroutes.haveHops isOpen.policy isOpen.isProper isOpen.installed
  refine ⟨⟨reroutes.isOpen isOpen.policy, reroutes.isProper isOpen.isProper, installed, ?_⟩, deltas⟩
  rw [reroutes.sync_eq]
  exact isOpen.holds

end Vrf

/-! ### Kernels -/

variable {Kernel : Type} [KernelBackend Kernel]

/-- Every request that writes no route without next hops keeps a property of kernels. -/
def KernelRequest.KeepsHops (clean : Kernel → Prop) : Prop :=
  ∀ request : KernelRequest, (∀ route, request.written? = some route → route.hops ≠ []) →
    ∀ kernel, clean kernel → clean (request.after kernel)

section Clean

variable {clean : Kernel → Prop}

/-- Giving a prefix a route with next hops writes that route at most. -/
theorem KernelRequest.KeepsHops.keeps (keepsHops : KeepsHops clean) (destination : Prefix)
    {desired : Option ForwardingRoute} (hasHops : ∀ route, desired = some route → route.HasHops) :
    Keeps clean destination (desired.map KernelRoute.ofForwarding) := by
  intro request serves kernel isClean
  refine keepsHops request (fun route written => ?_) kernel isClean
  have wanted : desired.map KernelRoute.ofForwarding = some route := by
    cases request with
    | observe asked => cases written
    | install own | replace own =>
      cases written
      exact serves
    | delete asked => cases written
  obtain ⟨forwarding, isDesired, rfl⟩ := Option.map_eq_some_iff.1 wanted
  exact hasHops forwarding isDesired

theorem KernelRequest.KeepsHops.keeps_pending (keepsHops : KeepsHops clean) {sync : Synchronizer}
    (holds : sync.Holds ForwardingRoute.HasHops) {destination : Prefix}
    {desired : Option ForwardingRoute} (pending : sync.pending.find? destination = some desired) :
    Keeps clean destination (desired.map KernelRoute.ofForwarding) :=
  keepsHops.keeps destination fun route isDesired =>
    holds.pending destination route (isDesired ▸ pending)

namespace Programmed

variable {state : Programmed Kernel}

theorem clean_retryPending (keepsHops : KernelRequest.KeepsHops clean)
    (holds : state.sync.Holds ForwardingRoute.HasHops) (isClean : clean state.kernel) :
    clean state.retryPending.kernel :=
  keeps_retryPending (fun _ _ => keepsHops.keeps_pending holds) isClean

theorem clean_applyAll (keepsHops : KernelRequest.KeepsHops clean) {deltas : List Delta}
    (leadToHops : Delta.LeadToHops deltas) (holds : state.sync.Holds ForwardingRoute.HasHops)
    (isClean : clean state.kernel) : clean (state.applyAll deltas).2.kernel := by
  have keeps : ∀ delta ∈ deltas, ∀ next : Programmed Kernel,
      next.sync.Holds ForwardingRoute.HasHops ∧ clean next.kernel →
        (next.apply delta).2.sync.Holds ForwardingRoute.HasHops ∧
          clean (next.apply delta).2.kernel := by
    rintro delta member next ⟨nextHolds, nextClean⟩
    have own := keepsHops.keeps delta.destination (leadToHops delta member)
    refine ⟨holds_apply (leadToHops delta member) nextHolds, ?_⟩
    exact keeps_apply (fun _ _ => keepsHops.keeps_pending nextHolds) own nextClean
  exact (keeps_applyAll (fun next => next.sync.Holds ForwardingRoute.HasHops ∧ clean next.kernel)
    keeps ⟨holds, isClean⟩).2

end Programmed

end Clean

/-! ### Records -/

namespace Recorded

/-- Every route that the kernel was asked to write has a next hop. -/
def WritesHops (recorded : Recorded Kernel) : Prop :=
  ∀ transaction ∈ recorded.record, ∀ route, transaction.request.written? = some route →
    route.hops ≠ []

theorem keepsHops_writesHops :
    KernelRequest.KeepsHops (WritesHops : Recorded Kernel → Prop) := by
  intro request hasHops recorded writesHops
  rw [after_eq]
  refine List.forall_mem_append.2 ⟨writesHops, List.forall_mem_singleton.2 hasHops⟩

end Recorded

end ControlPlane
