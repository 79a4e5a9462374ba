/-
This file proves that VRFs do not disturb each other in kernels, unless they share
one. While no kernel fails and at most one VRF at a time is bound to a namespace,
the kernel of the namespace has just the routes that this VRF forwards, and only
operations on this VRF change it. Nothing keeps two VRFs from being bound to one
namespace, and then the routes of one replace those of the other, so that a VRF
loses a route to an operation on another VRF.
-/

import ControlPlane.Proofs.Router.Calm
import ControlPlane.Proofs.Router.Namespace
import ControlPlane.Proofs.Router.OfConfig
import ControlPlane.Proofs.Router.Removal

namespace ControlPlane

/-! ### Synchronizers at work -/

/-- The kernel has no routes, and no fault is active. -/
structure MemoryKernel.IsVacant (kernel : MemoryKernel) : Prop where
  isQuiet : kernel.IsQuiet
  empty : ∀ destination, kernel.routes.find? destination = none

namespace Programmed

/-- The kernel has the routes of the forwarding table and no others, up to the order of next
hops. -/
def IsMirrored (state : Programmed MemoryKernel) : Prop :=
  ∀ destination, Realizes (state.kernel.routes.find? destination)
    ((state.sync.fib.find? destination).map KernelRoute.ofForwarding)

variable {state after : Programmed MemoryKernel}

theorem IsCalm.isMirrored_program (isCalm : state.IsCalm) {destination : Prefix}
    {desired : Option ForwardingRoute} (addressed : Addressed destination desired)
    (isMirrored : state.IsMirrored) : (state.program destination desired).2.IsMirrored := by
  obtain ⟨outcome, after, answered, rerouted, _⟩ := exists_syncKernel isCalm.isQuiet addressed
  rw [Programmed.program, answered]
  intro listed
  show Realizes (after.routes.find? listed)
    (((Synchronizer.updateFib state.sync.fib destination desired).find? listed).map _)
  rw [Synchronizer.find?_updateFib addressed]
  split
  next here => exact here ▸ rerouted.realizes
  next elsewhere =>
    rw [rerouted.others listed elsewhere]
    exact isMirrored listed

theorem IsCalm.isMirrored_apply (isCalm : state.IsCalm) (delta : Delta)
    (isMirrored : state.IsMirrored) : (state.apply delta).2.IsMirrored := by
  rw [apply_eq, isCalm.retryPending_eq]
  split
  · exact isMirrored
  · exact (isCalm.supersede _).isMirrored_program delta.addressed_desired? isMirrored

/-- A calm synchronizer keeps the kernel like its forwarding table. -/
theorem Works.isMirrored (works : state.Works after) (isCalm : state.IsCalm)
    (isMirrored : state.IsMirrored) : after.IsMirrored := by
  cases works with
  | programmed deltas =>
    have keeps : ∀ delta ∈ deltas, ∀ next : Programmed MemoryKernel,
        next.IsCalm ∧ next.IsMirrored →
          (next.apply delta).2.IsCalm ∧ (next.apply delta).2.IsMirrored :=
      fun delta _ _ known => ⟨known.1.apply delta, known.1.isMirrored_apply delta known.2⟩
    exact (keeps_applyAll (fun next => next.IsCalm ∧ next.IsMirrored) keeps
      ⟨isCalm, isMirrored⟩).2
  | retried => rwa [isCalm.retryPending_eq]

end Programmed

/-! ### Sessions -/

/-- A calm synchronizer keeps the kernel like its forwarding table, and a new one finds no routes
and forwards none yet. -/
theorem keepsGood_isMirrored (netns : String) :
    KeepsGood netns (fun state : Programmed MemoryKernel => state.IsCalm ∧ state.IsMirrored)
      MemoryKernel.IsVacant where
  works _ _ works known := ⟨works.isCalm known.1, works.isMirrored known.1 known.2⟩
  starts vrf attempts kernel vacant := by
    refine ⟨⟨rfl, vacant.isQuiet⟩, fun destination => ?_⟩
    show Programmed.Realizes (kernel.routes.find? destination) none
    rw [vacant.empty]
    trivial

namespace Session

variable {before after : Session MemoryKernel} {action : Action} {netns : String}

/-- Nothing is pending in the VRFs of the namespace, its kernel has the routes that they forward,
and none if there is no VRF bound to it. -/
def IsMirrored (netns : String) (session : Session MemoryKernel) : Prop :=
  session.IsHost (fun state => state.IsCalm ∧ state.IsMirrored) MemoryKernel.IsVacant netns

/-- What is known when a VRF is removed: it has its selected routes and forwards them. -/
structure IsRemovable (session : Session MemoryKernel) : Prop where
  settledAt : ∀ id, session.SettledAt id
  inLine : ∀ id vrf, session.find? id = some vrf → vrf.InLine

/-- A VRF that can be removed forwards nothing, so the kernel of its namespace is left empty. -/
theorem IsMirrored.isVacant_of_removed (isMirrored : before.IsMirrored netns)
    (removable : before.IsRemovable) (reworks : before.Reworks action after) {id : UInt32}
    (bound : (before.sync? id).map Synchronizer.netns = some netns)
    (gone : after.sync? id = none) : (after.kernel netns).IsVacant := by
  have there : before.sync? id ≠ none := fun missing => by
    rw [missing] at bound
    cases bound
  obtain ⟨vrf, found, idle, kernel_eq⟩ := reworks.exists_removed there gone
  have known : before.sync? id = some vrf.sync := by rw [sync?, found, Option.map_some]
  rw [known] at bound
  obtain ⟨isCalm, mirrored⟩ := isMirrored.used id vrf.sync known (Option.some.inj bound)
  have unselected := installed_eq_none_of_idle (removable.settledAt id) found idle
  have sameKernel : after.kernel netns = before.kernel netns := by
    rw [kernel_eq]
    exact kernel_programmed_nil (Vrf.purge_fst_eq_nil unselected) before netns
  rw [sameKernel]
  refine ⟨isCalm.isQuiet, fun destination => ?_⟩
  have nonePending : vrf.sync.pending.find? destination = none := by
    rw [isCalm.nonePending]
    rfl
  have forwards : vrf.sync.fib.find? destination = none :=
    (((removable.inLine id vrf found).tracks destination).fib_eq nonePending).trans
      (unselected destination.family destination)
  have realizes := mirrored destination
  rw [forwards] at realizes
  exact Programmed.realizes_none_iff.1 realizes

end Session

/-! ### Routers without faults -/

/-- New kernels in memory, and nothing happens to them from outside. -/
def Surroundings.faultless : Surroundings MemoryKernel where
  starts kernels := kernels = KernelSpace.empty
  admits _ := True
  disturbs _ _ := False

theorem Session.isCalm_blank (parameters : RouterParameters) :
    Session.IsCalm ⟨(Router.blank parameters KernelSpace.empty).state, []⟩ :=
  ⟨fun _ _ found => (nomatch found), fun _ => rfl⟩

theorem isInvariant_isCalm :
    IsInvariant Surroundings.faultless fun state => Session.IsCalm ⟨state, []⟩ where
  blank parameters kernels starts := starts ▸ Session.isCalm_blank parameters
  changed action before after _ isKeyed isCalm changes := by
    have reworks := (changes.reworks isKeyed).published []
    exact reworks.isCalm ⟨isCalm.nonePending, isCalm.isQuiet⟩
  refused before after isCalm refused := by
    have works := refused.works fun _ => True
    have calm := works.isCalm ⟨isCalm.nonePending, isCalm.isQuiet⟩
    exact ⟨calm.nonePending, calm.isQuiet⟩
  disturbed _ _ disturbs := disturbs.elim

/-- A router that is built up over new kernels mirrors the VRFs of the namespaces that are used by
one of them. -/
theorem isInvariant_isMirrored (netns : String) :
    IsInvariant (Surroundings.building fun kernels => kernels = KernelSpace.empty) fun state =>
      Session.IsExclusive netns ⟨state, []⟩ → Session.IsMirrored netns ⟨state, []⟩ :=
  (keepsGood_isMirrored netns).isInvariant fun _ starts => starts ▸ ⟨rfl, fun _ => rfl⟩

/-! ### Routers whose VRFs share no namespace -/

namespace Router

variable {netns : String} {router : Router MemoryKernel}

/-- The routers that are reached over new kernels in memory, none of which ever fails, while at
most one VRF at a time is bound to the namespace. -/
inductive Isolated (netns : String) : Router MemoryKernel → Prop
  | created {parameters : RouterParameters} {router : Router MemoryKernel}
      (created : Router.create parameters KernelSpace.empty = .ok router)
      (exclusive : router.IsExclusive netns) : Isolated netns router
  | configured {parameters : RouterParameters} {targets : Tracing.TargetTable}
      {config : SystemConfig} {router : Router MemoryKernel}
      (configured : (Router.ofConfig parameters KernelSpace.empty targets config).1 = .ok router)
      (exclusive : router.IsExclusive netns) : Isolated netns router
  | performed {router : Router MemoryKernel} {operation : Operation}
      (isolated : Isolated netns router)
      (exclusive : (router.step operation).2.IsExclusive netns) :
      Isolated netns (router.step operation).2

namespace Isolated

theorem reachable (isolated : Isolated netns router) : Reachable Surroundings.faultless router := by
  induction isolated with
  | created created => exact .created rfl created
  | configured configured => exact .configured rfl configured
  | performed _ _ reachable => exact reachable.performed trivial

theorem exclusive (isolated : Isolated netns router) : router.IsExclusive netns := by
  cases isolated with
  | created _ exclusive => exact exclusive
  | configured _ exclusive => exact exclusive
  | performed _ exclusive => exact exclusive

theorem isMirrored (isolated : Isolated netns router) :
    Session.IsMirrored netns ⟨router.state, []⟩ := by
  induction isolated with
  | created created exclusive =>
    exact (isInvariant_isMirrored netns).of_reachable (.created rfl created)
      (isExclusive_iff.1 exclusive)
  | configured configured exclusive =>
    exact (isInvariant_isMirrored netns).of_reachable (.configured rfl configured)
      (isExclusive_iff.1 exclusive)
  | @performed router operation isolated exclusive isMirrored =>
    have reachable := isolated.reachable
    have removable : Session.IsRemovable ⟨router.state, []⟩ :=
      ⟨(isInvariant_allSettled _).of_reachable reachable,
        ((isInvariant_isTracked _).of_reachable reachable).inLine⟩
    have reworks := reworks_step reachable.isKeyed operation
    refine reworks.isHost (keepsGood_isMirrored netns) (fun _ => isMirrored)
      (isExclusive_iff.1 exclusive) fun _ _ => ⟨isExclusive_iff.1 isolated.exclusive, ?_⟩
    exact fun _ => isMirrored.isVacant_of_removed removable reworks

end Isolated

/-- Without faults, and as long as no two VRFs are bound to its namespace, the kernel of a VRF has
just the routes that the VRF forwards, up to the order of next hops. An operation that is not on
the VRF and binds no other VRF to its namespace changes nothing in this kernel. -/
theorem kernel_of_isolated (isolated : Isolated netns router) {id : UInt32} {vrf : Vrf}
    (found : router.vrf id = .ok vrf) (bound : vrf.netns = netns) :
    (∀ destination, Programmed.Realizes ((router.kernel netns).routes.find? destination)
      ((vrf.sync.fib.find? destination).map KernelRoute.ofForwarding)) ∧
    ∀ operation, (router.step operation).2.IsExclusive netns →
      ¬ operation.IsOn id router.state (router.step operation).2.state.interfaces →
      (router.step operation).2.kernel netns = router.kernel netns := by
  have isKeyed := isolated.reachable.isKeyed
  have isFound : router.state.vrfs.byId.find? id = some vrf := VrfTable.get_eq_ok_iff.1 found
  have known : (Session.mk router.state []).sync? id = some vrf.sync :=
    congrArg (Option.map Vrf.sync) isFound
  have isMirror := isolated.isMirrored.used id vrf.sync known bound
  refine ⟨isMirror.2, fun operation exclusive elsewhere => ?_⟩
  have reworks := reworks_step isKeyed operation
  have isBound : ((Session.mk router.state []).sync? id).map Synchronizer.netns = some netns :=
    bound_iff.2 ⟨vrf, found, bound⟩
  have staysBound := reworks.bound elsewhere isBound
  refine reworks.kernel_eq fun other isOn => ⟨fun otherBound => ?_, fun otherBound => ?_⟩
  · have same := isExclusive_iff.1 isolated.exclusive other id otherBound isBound
    exact elsewhere (same ▸ isOn)
  · have same := isExclusive_iff.1 exclusive other id otherBound staysBound
    exact elsewhere (same ▸ isOn)

/-- A static route of the default VRF is no concern of another VRF. -/
theorem kernel_of_lagRouter : ∃ (router : Router MemoryKernel) (vrf : Vrf),
    Isolated "ns2" router ∧ router.vrf blueVrf.id = .ok vrf ∧ vrf.netns = "ns2" ∧
      (∀ destination, Programmed.Realizes ((router.kernel "ns2").routes.find? destination)
        ((vrf.sync.fib.find? destination).map KernelRoute.ofForwarding)) ∧
      ∀ route ∈ blueVrf.staticRoutes,
        (router.step (.addStatic defaultVrfId route)).2.kernel "ns2" = router.kernel "ns2" := by
  have routed : (lagRouter?.bind fun router => (router.vrf blueVrf.id).toOption.filter fun vrf =>
      vrf.netns = "ns2" ∧ router.IsExclusive "ns2" ∧ ∀ route ∈ blueVrf.staticRoutes,
        (router.step (.addStatic defaultVrfId route)).2.IsExclusive "ns2").isSome = true := by
    decide +kernel
  obtain ⟨vrf, isRouted⟩ := Option.isSome_iff_exists.1 routed
  obtain ⟨router, made, sample⟩ := Option.bind_eq_some_iff.1 isRouted
  obtain ⟨got, holds⟩ := Option.filter_eq_some_iff.1 sample
  obtain ⟨bound, exclusive, staysExclusive⟩ := of_decide_eq_true holds
  have isolated : Isolated "ns2" router := .configured (eq_ok_of_toOption made) exclusive
  have found := eq_ok_of_toOption got
  have kernel := kernel_of_isolated isolated found bound
  refine ⟨router, vrf, isolated, found, bound, kernel.1, fun route member => ?_⟩
  have elsewhere : defaultVrfId ≠ blueVrf.id := by decide
  exact kernel.2 (.addStatic defaultVrfId route) (staysExclusive route member) elsewhere

/-! ### Two VRFs of one namespace -/

/-- A router with two VRFs that are bound to one namespace, each with an interface in one subnet. -/
def sharedRouter? : Option (Router MemoryKernel) :=
  (Router.create {} KernelSpace.empty).toOption.map fun router =>
    let first := (router.step (.addVrf { redVrf with netns := some "shared" })).2
    let second := (first.step (.addVrf { blueVrf with netns := some "shared" })).2
    let routed := (second.step (.addInterface redInterface)).2
    (routed.step (.addInterface
      { name := "eth1", index := 2, addresses := [sampleNetwork], vrf := "blue" })).2

theorem reachable_sharedRouter {router : Router MemoryKernel}
    (built : sharedRouter? = some router) : Reachable Surroundings.faultless router := by
  obtain ⟨start, created, rfl⟩ := Option.map_eq_some_iff.1 built
  have reachable : Reachable Surroundings.faultless start :=
    .created rfl (eq_ok_of_toOption created)
  have first : Reachable Surroundings.faultless
      (start.step (.addVrf { redVrf with netns := some "shared" })).2 :=
    reachable.performed trivial
  have second : Reachable Surroundings.faultless
      ((start.step (.addVrf { redVrf with netns := some "shared" })).2.step
        (.addVrf { blueVrf with netns := some "shared" })).2 := first.performed trivial
  have routed : Reachable Surroundings.faultless
      (((start.step (.addVrf { redVrf with netns := some "shared" })).2.step
        (.addVrf { blueVrf with netns := some "shared" })).2.step
          (.addInterface redInterface)).2 := second.performed trivial
  exact routed.performed trivial

/-- No kernel ever fails, but when an interface of one VRF is removed, the kernel loses a route that
another VRF forwards. -/
theorem exists_route_lost : ∃ (router : Router MemoryKernel) (vrf : Vrf) (route : ForwardingRoute),
    Reachable Surroundings.faultless router ∧
      (router.state.interfaces.find? "eth1").map Interface.vrf = some blueVrf.id ∧
      (router.step (.removeInterface "eth1")).1 = .ok .done ∧
      (router.step (.removeInterface "eth1")).2.vrf redVrf.id = .ok vrf ∧
      vrf.sync.fib.find? route.destination = some route ∧
      (router.kernel vrf.netns).routes.contains route.destination ∧
      ¬ ((router.step (.removeInterface "eth1")).2.kernel vrf.netns).routes.contains
        route.destination := by
  have lost : (sharedRouter?.bind fun router =>
      ((router.step (.removeInterface "eth1")).2.vrf redVrf.id).toOption.bind fun vrf =>
        (vrf.sync.fib.find? (Prefix.ofNetwork sampleNetwork)).filter fun route =>
          (router.state.interfaces.find? "eth1").map Interface.vrf = some blueVrf.id ∧
            (router.step (.removeInterface "eth1")).1.toOption = some .done ∧
            vrf.sync.fib.find? route.destination = some route ∧
            (router.kernel vrf.netns).routes.contains route.destination ∧
            ¬ ((router.step (.removeInterface "eth1")).2.kernel vrf.netns).routes.contains
              route.destination).isSome = true := by
    decide +kernel
  obtain ⟨route, isLost⟩ := Option.isSome_iff_exists.1 lost
  obtain ⟨router, built, isLost⟩ := Option.bind_eq_some_iff.1 isLost
  obtain ⟨vrf, got, isLost⟩ := Option.bind_eq_some_iff.1 isLost
  obtain ⟨elsewhere, removed, forwards, held, gone⟩ :=
    of_decide_eq_true (Option.filter_eq_some_iff.1 isLost).2
  exact ⟨router, vrf, route, reachable_sharedRouter built, elsewhere, eq_ok_of_toOption removed,
    eq_ok_of_toOption got, forwards, held, gone⟩

end Router

end ControlPlane
