/-
This file says what is left of a VRF that is removed. A VRF can be removed when it
has no interfaces, and then it has selected no routes: what it still forwards are
routes whose deletion failed and is pending. Removal programs the deltas of the
installed routes, of which there are none, so it never touches a kernel, and the
pending deletions go with the VRF. While the VRF has a namespace for itself, the
kernel has what the VRF forwards for every prefix that the VRF ever touched. So of
its routes just those stay in the kernel whose deletion is pending, and a router
whose kernel refused one deletion shows that this may be for good.
-/

import ControlPlane.Proofs.Router.Fixpoint
import ControlPlane.Proofs.Router.Namespace
import ControlPlane.Proofs.Router.Tracking
import ControlPlane.Proofs.Untouched

namespace ControlPlane

variable {Kernel : Type}

/-- A VRF without interfaces has no installed routes. -/
theorem installed_eq_none_of_idle {session : Session Kernel} {id : UInt32} {vrf : Vrf}
    (settledAt : session.SettledAt id) (found : session.find? id = some vrf)
    (idle : session.state.interfaces.attachedTo id = []) (family : Family) (destination : Prefix) :
    (vrf.rib family).installed destination = none := by
  have isSettled := settledAt vrf found
  rw [InterfaceTable.resolver_of_attachedTo_eq_nil idle] at isSettled
  exact (isSettled family).installed_eq_none destination

variable [KernelBackend Kernel]

/-- To program no deltas changes no kernel. -/
theorem Session.kernel_programmed_nil {rerouted : Rerouted} (nothing : rerouted.1 = [])
    (session : Session Kernel) (netns : String) :
    (session.programmed rerouted).state.kernels.kernel netns =
      session.state.kernels.kernel netns := by
  obtain ⟨deltas, vrf⟩ := rerouted
  subst nothing
  show (session.state.kernels.store vrf.netns
    (session.state.kernels.kernel vrf.netns)).kernel netns = _
  rw [KernelSpace.kernel_store]
  split
  next here => rw [here]
  next => rfl

/-- In every router that can be reached, over any kernels, to remove a VRF changes no kernel. What
is pending in the VRF are deletions, and every prefix that it still forwards is pending. -/
theorem kernel_eq_of_removeVrf {surroundings : Surroundings Kernel} {router : Router Kernel}
    (reachable : Reachable surroundings router) (name : String) (response : Response)
    (removes : (router.step (.removeVrf name)).1 = .ok response) :
    (∀ netns, (router.step (.removeVrf name)).2.kernel netns = router.kernel netns) ∧
      ∃ id vrf, router.state.vrfs.idOf name = .ok id ∧ router.vrf id = .ok vrf ∧
        ∀ destination,
          (∀ desired, vrf.sync.pending.find? destination = some desired → desired = none) ∧
          (vrf.sync.pending.find? destination = none →
            vrf.sync.fib.find? destination = none) := by
  have allSettled := (isInvariant_allSettled surroundings).of_reachable reachable
  obtain ⟨isKeyed, isTracked⟩ := (isInvariant_isTracked surroundings).good_of_reachable reachable
  obtain ⟨next, changes, same⟩ := Router.changes_of_step isKeyed removes
  cases changes with
  | rerouted _ performs => cases performs
  | followed performs => cases performs
  | @vrfRemoved _ id vrf named notDefault idle found =>
    have settledAt : Session.SettledAt ⟨router.state, []⟩ id := allSettled id
    have nothing := installed_eq_none_of_idle settledAt found idle
    refine ⟨fun netns => ?_, id, vrf, ?_, VrfTable.get_eq_ok_iff.2 found, fun destination => ?_⟩
    · rw [Router.kernel, same]
      exact Session.kernel_programmed_nil (Vrf.purge_fst_eq_nil nothing) _ netns
    · have isNamed : router.state.vrfs.idByName.find? name = some id := named
      rw [VrfTable.idOf, isNamed]
    · have tracksAt := (isTracked.inLine id vrf found).tracks destination
      have unselected : vrf.installed destination = none := nothing destination.family destination
      exact ⟨fun desired pending => (tracksAt.pending_eq desired pending).trans unselected,
        fun notPending => (tracksAt.fib_eq notPending).trans unselected⟩

/-! ### A VRF with a namespace for itself -/

namespace Router

section AnyKernel

omit [KernelBackend Kernel]

variable {router : Router Kernel} {id : UInt32} {netns : String}

/-- The VRF of an id is bound to the namespace, and no other one is. -/
def IsOnly (id : UInt32) (netns : String) (router : Router Kernel) : Prop :=
  ∀ listed, (∃ vrf, router.vrf listed = .ok vrf ∧ vrf.netns = netns) ↔ listed = id

theorem IsOnly.isExclusive (only : router.IsOnly id netns) : router.IsExclusive netns :=
  fun first second vrf other found foundOther bound otherBound =>
    ((only first).1 ⟨vrf, found, bound⟩).trans
      ((only second).1 ⟨other, foundOther, otherBound⟩).symm

theorem isOnly_iff_entries : router.IsOnly id netns ↔
    (∃ entry ∈ router.state.vrfs.byId.entries, entry.1 = id ∧ entry.2.netns = netns) ∧
      ∀ entry ∈ router.state.vrfs.byId.entries, entry.2.netns = netns → entry.1 = id := by
  have listed {id : UInt32} {vrf : Vrf} :
      router.vrf id = .ok vrf ↔ (id, vrf) ∈ router.state.vrfs.byId.entries :=
    VrfTable.get_eq_ok_iff.trans SortedMap.find?_eq_some_iff
  constructor
  · intro only
    obtain ⟨vrf, found, bound⟩ := (only id).2 rfl
    refine ⟨⟨(id, vrf), listed.1 found, rfl, bound⟩, fun entry member ownBound => ?_⟩
    exact (only entry.1).1 ⟨entry.2, listed.2 member, ownBound⟩
  · rintro ⟨⟨⟨own, vrf⟩, member, rfl, bound⟩, others⟩ other
    constructor
    · rintro ⟨otherVrf, found, otherBound⟩
      exact others (other, otherVrf) (listed.1 found) otherBound
    · rintro rfl
      exact ⟨vrf, listed.2 member, bound⟩

instance : Decidable (router.IsOnly id netns) :=
  decidable_of_iff _ isOnly_iff_entries.symm

end AnyKernel

/-- The VRF of an id came to the namespace, which no VRF used and whose kernel was the first one
then, and has been the only one there since. The kernels are recorded ones in memory, and faults
may be injected into them at any time. -/
inductive Tenure (id : UInt32) (netns : String) :
    Recorded DisturbedKernel → Router (Recorded DisturbedKernel) → Prop
  | created {parameters : RouterParameters} {kernels : KernelSpace (Recorded DisturbedKernel)}
      {router : Router (Recorded DisturbedKernel)}
      (created : Router.create parameters kernels = .ok router)
      (only : router.IsOnly id netns) : Tenure id netns (kernels.kernel netns) router
  | configured {parameters : RouterParameters} {kernels : KernelSpace (Recorded DisturbedKernel)}
      {targets : Tracing.TargetTable} {config : SystemConfig}
      {router : Router (Recorded DisturbedKernel)}
      (configured : (Router.ofConfig parameters kernels targets config).1 = .ok router)
      (only : router.IsOnly id netns) : Tenure id netns (kernels.kernel netns) router
  | came {router : Router (Recorded DisturbedKernel)} {operation : Operation}
      (reachable : Reachable Surroundings.any router)
      (unused : ∀ listed vrf, router.vrf listed = .ok vrf → vrf.netns ≠ netns)
      (only : (router.step operation).2.IsOnly id netns) :
      Tenure id netns (router.kernel netns) (router.step operation).2
  | performed {first : Recorded DisturbedKernel} {router : Router (Recorded DisturbedKernel)}
      {operation : Operation} (tenure : Tenure id netns first router)
      (only : (router.step operation).2.IsOnly id netns) :
      Tenure id netns first (router.step operation).2
  | disturbed {first : Recorded DisturbedKernel} {router : Router (Recorded DisturbedKernel)}
      (tenure : Tenure id netns first router) (listed : String) (injections : List Injection)
      (upcoming : List (List Injection)) :
      Tenure id netns first (router.onKernel listed (Recorded.disturb injections upcoming))

/-- A synchronizer works such that the kernel agrees with what it forwards, and a new one has
touched nothing. -/
theorem keepsGood_agreesSince (netns : String) (first : Recorded DisturbedKernel) :
    KeepsGood netns (Programmed.AgreesSince first) (· = first) where
  works state _ works agrees := by
    cases works with
    | programmed deltas => exact agrees.applyAll deltas
    | retried => exact agrees.retryPending
  starts vrf attempts kernel isFirst := isFirst ▸ .create vrf netns attempts kernel

namespace Tenure

variable {id : UInt32} {netns : String} {first : Recorded DisturbedKernel}
  {router : Router (Recorded DisturbedKernel)}

theorem reachable (tenure : Tenure id netns first router) :
    Reachable Surroundings.any router := by
  induction tenure with
  | created created => exact .created trivial created
  | configured configured => exact .configured trivial configured
  | came reachable => exact reachable.performed trivial
  | performed _ _ reachable => exact reachable.performed trivial
  | disturbed _ _ _ _ reachable => exact reachable.disturbed trivial

theorem only (tenure : Tenure id netns first router) : router.IsOnly id netns := by
  induction tenure with
  | created _ only => exact only
  | configured _ only => exact only
  | came _ _ only => exact only
  | performed _ only => exact only
  | disturbed _ _ _ _ only => exact only

/-- A router that is built up on kernels starts with them. -/
theorem isHost_of_building {kernels : KernelSpace (Recorded DisturbedKernel)}
    (building : Reachable (.building (· = kernels)) router) (only : router.IsOnly id netns) :
    Session.IsHost (Programmed.AgreesSince (kernels.kernel netns)) (· = kernels.kernel netns)
      netns ⟨router.state, []⟩ := by
  have invariant := (keepsGood_agreesSince netns (kernels.kernel netns)).isInvariant
    fun _ (isStart : _ = kernels) => congrArg (KernelSpace.kernel · netns) isStart
  exact invariant.of_reachable building (isExclusive_iff.1 only.isExclusive)

/-- For every prefix the kernel has what the VRF forwards, or the VRF has not touched it. -/
theorem isHost (tenure : Tenure id netns first router) :
    Session.IsHost (Programmed.AgreesSince first) (· = first) netns ⟨router.state, []⟩ := by
  have keepsGood := keepsGood_agreesSince netns
  induction tenure with
  | created created only => exact isHost_of_building (.created rfl created) only
  | configured configured only => exact isHost_of_building (.configured rfl configured) only
  | @came router operation reachable unused only =>
    have nobody (listed : UInt32) :
        ((Session.mk router.state []).sync? listed).map Synchronizer.netns ≠ some netns := by
      intro bound
      obtain ⟨vrf, found, own⟩ := bound_iff.1 bound
      exact unused listed vrf found own
    have isHost : Session.IsHost (Programmed.AgreesSince (router.kernel netns))
        (· = router.kernel netns) netns ⟨router.state, []⟩ := by
      refine ⟨fun listed sync known own => ?_, fun _ => rfl⟩
      exact absurd (by rw [known, Option.map_some, own]) (nobody listed)
    refine (reworks_step reachable.isKeyed operation).isHost (keepsGood _) (fun _ => isHost)
      (isExclusive_iff.1 only.isExclusive) fun _ _ => ⟨?_, ?_⟩
    · exact fun listed _ bound => absurd bound (nobody listed)
    · exact fun listed bound => absurd bound (nobody listed)
  | @performed first router operation tenure only isHost =>
    refine (reworks_step tenure.reachable.isKeyed operation).isHost (keepsGood _)
      (fun _ => isHost) (isExclusive_iff.1 only.isExclusive) fun _ _ =>
        ⟨isExclusive_iff.1 tenure.only.isExclusive, fun listed bound gone => ?_⟩
    -- the VRF is still there
    have own : listed = id := (tenure.only listed).1 (bound_iff.1 bound)
    have stays := bound_iff.2 ((only listed).2 own)
    rw [gone] at stays
    cases stays
  | @disturbed first router tenure listed injections upcoming isHost =>
    have bound := bound_iff.2 ((tenure.only id).2 rfl)
    refine ⟨fun other sync known own => ?_, fun unused => absurd bound (unused id)⟩
    have agrees := isHost.used other sync known own
    show Programmed.AgreesSince first ⟨sync, (router.state.kernels.store listed
      ((router.kernel listed).disturb injections upcoming)).kernel netns⟩
    rw [KernelSpace.kernel_store]
    split
    next here =>
      subst here
      exact agrees.disturb injections upcoming
    next => exact agrees

end Tenure

/-- A VRF is removed that has had a namespace for itself, whatever faults were injected and
whatever else its router did. No kernel changes. What is pending in the VRF are deletions. For a
prefix that is not pending the kernel of the namespace has no route, or one that was there before
the VRF came and that the VRF never touched: it holds none that the synchronizer of the VRF
installed or replaced, and none at all if it had none at first. For any other prefix that the VRF
touched, the kernel keeps what the VRF still forwards. -/
theorem residue_of_removeVrf {id : UInt32} {netns : String} {first : Recorded DisturbedKernel}
    {router : Router (Recorded DisturbedKernel)} (tenure : Tenure id netns first router)
    {name : String} {response : Response} (named : router.state.vrfs.idOf name = .ok id)
    (removes : (router.step (.removeVrf name)).1 = .ok response) :
    (∀ listed, (router.step (.removeVrf name)).2.kernel listed = router.kernel listed) ∧
      ∃ vrf, router.vrf id = .ok vrf ∧ vrf.netns = netns ∧ ∀ destination,
        let left := (router.step (.removeVrf name)).2.kernel netns
        (∀ desired, vrf.sync.pending.find? destination = some desired → desired = none) ∧
        (vrf.sync.pending.find? destination = none →
          left.kernel.memory.routes.find? destination = none ∨
            first.Untouched destination left) ∧
        (¬ first.Untouched destination left →
          Programmed.Realizes (left.kernel.memory.routes.find? destination)
            ((vrf.sync.fib.find? destination).map KernelRoute.ofForwarding)) := by
  obtain ⟨sameKernels, own, vrf, isNamed, found, pending⟩ :=
    kernel_eq_of_removeVrf tenure.reachable name response removes
  obtain rfl : id = own := Except.ok.inj (named.symm.trans isNamed)
  obtain ⟨other, isOther, bound⟩ := (tenure.only id).2 rfl
  obtain rfl : vrf = other := Except.ok.inj (found.symm.trans isOther)
  have known : (Session.mk router.state []).sync? id = some vrf.sync :=
    congrArg (Option.map Vrf.sync) (VrfTable.get_eq_ok_iff.1 found)
  have agreesSince := tenure.isHost.used id vrf.sync known bound
  refine ⟨sameKernels, vrf, found, bound, fun destination => ?_⟩
  rw [sameKernels]
  obtain ⟨deletes, forwards⟩ := pending destination
  refine ⟨deletes, fun notPending => ?_, fun touched => ?_⟩
  · rcases agreesSince.agrees destination with agrees | ⟨_, untouched⟩
    · have forwardsNone : vrf.sync.fib.find? destination = none := forwards notPending
      rw [Programmed.AgreesAt, Programmed.unrecorded, forwardsNone] at agrees
      exact .inl (Programmed.realizes_none_iff.1 agrees)
    · exact .inr untouched
  · rcases agreesSince.agrees destination with agrees | ⟨_, untouched⟩
    · exact agrees
    · exact absurd untouched touched

/-! ### A route that stays -/

/-- A VRF with a namespace of its own name. -/
def redVrf : VrfConfig :=
  { name := "red", id := 1 }

/-- The only interface of the VRF. -/
def redInterface : InterfaceConfig :=
  { sampleInterface with vrf := "red" }

/-- A new router. -/
def newRouter? : Option (Router (Recorded DisturbedKernel)) :=
  (Router.create {} KernelSpace.empty).toOption

/-- A router with the VRF, whose interface is removed after faults were injected into the kernel of
the VRF. -/
def idleRouter? (injections : List Injection) : Option (Router (Recorded DisturbedKernel)) :=
  newRouter?.map fun router =>
    let added := (router.step (.addVrf redVrf)).2
    let routed := (added.step (.addInterface redInterface)).2
    let disturbed := routed.onKernel "red" (Recorded.disturb injections [])
    (disturbed.step (.removeInterface redInterface.name)).2

/-- The VRF has its namespace for itself, to whose kernel nothing was done before. -/
theorem tenure_idleRouter {injections : List Injection}
    {router : Router (Recorded DisturbedKernel)} (built : idleRouter? injections = some router)
    (only : router.IsOnly 1 "red") : Tenure 1 "red" default router := by
  obtain ⟨start, created, rfl⟩ := Option.map_eq_some_iff.1 built
  have stages : newRouter?.all (fun start =>
      start.state.kernels.kernels.find? "red" = none ∧
        (∀ entry ∈ start.state.vrfs.byId.entries, entry.2.netns ≠ "red") ∧
        (start.step (.addVrf redVrf)).2.IsOnly 1 "red" ∧
        ((start.step (.addVrf redVrf)).2.step (.addInterface redInterface)).2.IsOnly 1 "red") =
      true := by
    decide +kernel
  rw [created, Option.all_some] at stages
  obtain ⟨untouched, unused, added, routed⟩ := of_decide_eq_true stages
  have isNew : start.kernel "red" = default := by
    rw [Router.kernel, KernelSpace.kernel, untouched]
    rfl
  have came : Tenure 1 "red" (start.kernel "red") (start.step (.addVrf redVrf)).2 := by
    refine .came (.created trivial (eq_ok_of_toOption created)) (fun listed vrf found => ?_) added
    exact unused (listed, vrf) (SortedMap.find?_eq_some_iff.1 (VrfTable.get_eq_ok_iff.1 found))
  rw [isNew] at came
  exact ((came.performed routed).disturbed "red" injections []).performed only

/-- If nothing goes wrong, the route of the interface is gone before the VRF is removed. -/
theorem residue_of_removeVrf_idleRouter :
    ∃ (router : Router (Recorded DisturbedKernel)) (vrf : Vrf),
      Tenure 1 "red" default router ∧ router.vrf 1 = .ok vrf ∧
      (router.kernel "red").changesOf (Prefix.ofNetwork sampleNetwork) ≠ [] ∧
      (router.step (.removeVrf "red")).1 = .ok .done ∧
      ∀ destination, vrf.sync.pending.find? destination = none ∧
        ((router.step (.removeVrf "red")).2.kernel "red").kernel.memory.routes.find? destination =
          none := by
  have removed : ((idleRouter? []).bind fun router => (router.vrf 1).toOption.filter fun vrf =>
      router.IsOnly 1 "red" ∧ (router.state.vrfs.idOf "red").toOption = some 1 ∧
        (router.kernel "red").changesOf (Prefix.ofNetwork sampleNetwork) ≠ [] ∧
        vrf.sync.pending = SortedMap.empty ∧
        (router.step (.removeVrf "red")).1.toOption = some .done).isSome = true := by
    decide +kernel
  obtain ⟨vrf, isRemoved⟩ := Option.isSome_iff_exists.1 removed
  obtain ⟨router, built, isRemoved⟩ := Option.bind_eq_some_iff.1 isRemoved
  obtain ⟨got, holds⟩ := Option.filter_eq_some_iff.1 isRemoved
  obtain ⟨only, named, changed, nonePending, answered⟩ := of_decide_eq_true holds
  have tenure := tenure_idleRouter built only
  have removes := eq_ok_of_toOption answered
  obtain ⟨-, known, found, -, residue⟩ :=
    residue_of_removeVrf tenure (eq_ok_of_toOption named) removes
  obtain rfl : vrf = known := Except.ok.inj ((eq_ok_of_toOption got).symm.trans found)
  refine ⟨router, vrf, tenure, found, changed, removes, fun destination => ?_⟩
  have notPending : vrf.sync.pending.find? destination = none := by
    rw [nonePending]
    rfl
  refine ⟨notPending, ?_⟩
  rcases (residue destination).2.1 notPending with gone | untouched
  · exact gone
  · exact untouched.route_eq

/-- A VRF alone in its namespace is removed while no fault is active, and a route that its
synchronizer installed stays in the kernel. -/
theorem exists_route_after_removeVrf :
    ∃ (router : Router (Recorded DisturbedKernel)) (vrf : Vrf) (route : ForwardingRoute),
      Tenure 1 "red" default router ∧ router.vrf 1 = .ok vrf ∧ vrf.name = "red" ∧
        (router.kernel "red").kernel.memory.faults.isEmpty ∧
        (router.kernel "red").kernel.upcoming = [] ∧
        .install (.ofForwarding route) ∈ (router.kernel "red").changesOf route.destination ∧
        (router.step (.removeVrf "red")).1 = .ok .done ∧
        ((router.step (.removeVrf "red")).2.kernel "red").kernel.HoldsAt route.destination
          (.ofForwarding route) := by
  have left : ((idleRouter? [⟨.delete, .notPermitted, 1⟩]).bind fun router =>
      (router.vrf 1).toOption.bind fun vrf =>
        (vrf.sync.fib.find? (Prefix.ofNetwork sampleNetwork)).filter fun route =>
          router.IsOnly 1 "red" ∧ vrf.name = "red" ∧
            (router.kernel "red").kernel.memory.faults.isEmpty ∧
            (router.kernel "red").kernel.upcoming.isEmpty ∧
            .install (.ofForwarding route) ∈ (router.kernel "red").changesOf route.destination ∧
            (router.step (.removeVrf "red")).1.toOption = some .done ∧
            ((router.step (.removeVrf "red")).2.kernel "red").kernel.memory.routes.find?
              route.destination = some (.ofForwarding route)).isSome = true := by
    decide +kernel
  obtain ⟨route, leaves⟩ := Option.isSome_iff_exists.1 left
  obtain ⟨router, built, leaves⟩ := Option.bind_eq_some_iff.1 leaves
  obtain ⟨vrf, got, leaves⟩ := Option.bind_eq_some_iff.1 leaves
  obtain ⟨only, named, quiet, nothingDue, installed, removed, stays⟩ :=
    of_decide_eq_true (Option.filter_eq_some_iff.1 leaves).2
  exact ⟨router, vrf, route, tenure_idleRouter built only, eq_ok_of_toOption got, named, quiet,
    List.isEmpty_iff.1 nothingDue, installed, eq_ok_of_toOption removed, stays⟩

end Router

end ControlPlane
