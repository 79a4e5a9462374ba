/-
This file proves that the limits on paths hold in every router that can be
reached. Limits are set in two places, for all VRFs and with the BGP router of one,
and no limit that is accepted takes all paths away. VRFs that are made or configured
take the limits that are set at the time, and each change of a limit selects the
routes anew. So no route is installed, forwarded, left pending or written to a
kernel without next hops, and none is installed with more than the limits allow.
-/

import ControlPlane.Proofs.PathLimit
import ControlPlane.Proofs.Router.EachVrf
import ControlPlane.Proofs.Router.Fixpoint
import ControlPlane.Proofs.Router.Kernels
import ControlPlane.Proofs.Router.SettingsStep
import ControlPlane.Proofs.Router.Statics

namespace ControlPlane

/-! ### The limits of a VRF -/

/-- The limits are the one for all VRFs and that of the BGP router, if there is one. -/
structure VrfSettings.IsLimited (maxPaths : Option UInt16) (settings : VrfSettings) : Prop where
  maxPaths_eq : settings.policy.maxPaths = maxPaths
  bgpMaxPaths_eq : settings.policy.bgpMaxPaths = settings.bgp.map BgpConfig.maximumPaths

namespace VrfSettings.IsLimited

variable {maxPaths : Option UInt16} {settings : VrfSettings}

/-- The limits are set with the BGP router, and no other operation on a VRF changes them. -/
theorem operated (isLimited : settings.IsLimited maxPaths) (operation : Operation) :
    (settings.operated operation).IsLimited maxPaths := by
  cases operation with
  | setBgp _ config => exact ⟨isLimited.maxPaths_eq, rfl⟩
  | removeBgp _ => exact ⟨isLimited.maxPaths_eq, rfl⟩
  | removeStatic _ route =>
    rw [VrfSettings.operated]
    split <;> exact ⟨isLimited.maxPaths_eq, isLimited.bgpMaxPaths_eq⟩
  | _ => exact ⟨isLimited.maxPaths_eq, isLimited.bgpMaxPaths_eq⟩

end VrfSettings.IsLimited

/-- The limit for all VRFs after a step. -/
def Action.ecmpAfter (ecmp : EcmpConfig) : Action → EcmpConfig
  | perform (.setEcmp config) => config
  | _ => ecmp

theorem Action.ecmpAfter_eq {action : Action}
    (unlimited : ∀ config, action ≠ .perform (.setEcmp config)) (ecmp : EcmpConfig) :
    action.ecmpAfter ecmp = ecmp := by
  unfold ecmpAfter
  split
  · exact absurd rfl (unlimited _)
  · rfl

variable {Kernel : Type}

/-- The limit for all VRFs leaves a path, and it is one of the limits of each VRF. -/
structure RoutingState.IsLimited (state : RoutingState Kernel) : Prop where
  leaves : state.ecmp.maxPaths ≠ some 0
  vrfs : ∀ id vrf, state.vrfs.byId.find? id = some vrf →
    vrf.settings.IsLimited state.ecmp.maxPaths

namespace Session

variable [KernelBackend Kernel]

omit [KernelBackend Kernel] in
/-- Whatever a step makes of a VRF, it has the limits that are set after the step. -/
theorem Sets.isLimited {before : Session Kernel} {id : UInt32} {action : Action}
    {settings : VrfSettings} (sets : before.Sets id action settings)
    (isLimited : before.state.IsLimited) :
    settings.IsLimited (action.ecmpAfter before.state.ecmp).maxPaths := by
  cases sets with
  | @kept _ vrf _ found loses unlimited =>
    rw [Action.ecmpAfter_eq unlimited, loses.same]
    have known := isLimited.vrfs id vrf found
    exact ⟨known.maxPaths_eq, known.bgpMaxPaths_eq⟩
  | @operated operation vrf _ _ found performs =>
    rw [Action.ecmpAfter_eq performs.unlimited]
    exact (isLimited.vrfs id vrf found).operated operation
  | created => exact ⟨rfl, rfl⟩
  | @configured config vrf found =>
    exact ⟨(isLimited.vrfs id vrf found).maxPaths_eq, rfl⟩
  | @limited config vrf _ found =>
    exact ⟨rfl, (isLimited.vrfs id vrf found).bgpMaxPaths_eq⟩

/-! ### The limit for all VRFs -/

omit [KernelBackend Kernel] in
theorem ecmp_foldl {Item : Type} {step : Session Kernel → Item → Session Kernel}
    (keeps : ∀ session item, (step session item).state.ecmp = session.state.ecmp)
    (items : List Item) (session : Session Kernel) :
    (items.foldl step session).state.ecmp = session.state.ecmp :=
  List.foldlRecOn
    (motive := fun next : Session Kernel => next.state.ecmp = session.state.ecmp)
    items step rfl fun next same item _ => (keeps next item).trans same

theorem ecmp_followed (session : Session Kernel) (change : InterfaceChange) :
    (session.followed change).state.ecmp = session.state.ecmp := by
  unfold followed
  split
  · rfl
  · split <;> rfl

theorem ecmp_follow (session : Session Kernel) (changes : List InterfaceChange) :
    (session.follow changes).state.ecmp = session.state.ecmp :=
  (ecmp_foldl (fun next id => (sameSettings_refreshedAt next id).ecmp_eq) _ _).trans
    (ecmp_foldl ecmp_followed changes session)

end Session

variable [KernelBackend Kernel]

theorem Changes.ecmp_eq {before after : Session Kernel} {action : Action}
    (changes : Changes before action after) :
    after.state.ecmp = action.ecmpAfter before.state.ecmp := by
  cases changes with
  | rerouted _ performs => exact (Action.ecmpAfter_eq performs.unlimited _).symm
  | @followed _ changes table performs =>
    rw [Action.ecmpAfter_eq performs.unlimited]
    exact Session.ecmp_follow (before.withInterfaces table) changes
  | vrfAdded => rfl
  | vrfRemoved => rfl
  | limited => rfl
  | resynced =>
    exact Session.ecmp_foldl (fun next id => (Session.sameSettings_resyncedAt next id).ecmp_eq) _
      before
  | defaultConfigured => rfl

/-- A limit for all VRFs is checked before it is taken. -/
theorem Changes.leaves {before after : Session Kernel} {action : Action}
    (changes : Changes before action after) (leaves : before.state.ecmp.maxPaths ≠ some 0) :
    after.state.ecmp.maxPaths ≠ some 0 := by
  rw [changes.ecmp_eq]
  by_cases limits : ∃ config, action = .perform (.setEcmp config)
  · obtain ⟨config, rfl⟩ := limits
    cases changes with
    | rerouted _ performs => exact absurd rfl (performs.unlimited config)
    | followed performs => exact absurd rfl (performs.unlimited config)
    | limited checked => exact EcmpConfig.maxPaths_ne_of_validate checked
  · rw [Action.ecmpAfter_eq fun config same => limits ⟨config, same⟩]
    exact leaves

theorem Changes.isLimited {before after : Session Kernel} {action : Action}
    (changes : Changes before action after) (isLimited : before.state.IsLimited) :
    after.state.IsLimited where
  leaves := changes.leaves isLimited.leaves
  vrfs id vrf found := by
    rw [changes.ecmp_eq]
    exact (changes.sets found).isLimited isLimited

/-- The limits of VRFs are those that are set, whatever happens to a router. -/
theorem isInvariant_isLimited (surroundings : Surroundings Kernel) :
    IsInvariant surroundings RoutingState.IsLimited where
  blank _ _ _ := ⟨nofun, fun _ _ found => nomatch found⟩
  changed _ _ _ _ _ isLimited changes :=
    ⟨(changes.isLimited isLimited).leaves, (changes.isLimited isLimited).vrfs⟩
  refused _ _ isLimited refused := by cases refused <;> exact ⟨isLimited.leaves, isLimited.vrfs⟩
  disturbed _ _ _ isLimited := ⟨isLimited.leaves, isLimited.vrfs⟩

/-! ### Sessions without empty routes -/

omit [KernelBackend Kernel] in
/-- A VRF that takes a configuration takes the limit of a BGP router that was checked. -/
theorem Vrf.IsOpen.withSettings {state : RoutingState Kernel} {vrf : Vrf} {config : VrfConfig}
    (isOpen : vrf.IsOpen) (accepts : AcceptsVrf state vrf config) :
    (vrf.withSettings config).IsOpen := by
  refine isOpen.of_same (.of_ribs rfl rfl rfl rfl) rfl ⟨isOpen.policy.maxPaths, fun closed => ?_⟩
  obtain ⟨_, bgpValid, _⟩ := VrfConfig.validate_eq_ok_iff.1 accepts.valid
  obtain ⟨bgp, configured, zero⟩ := Option.map_eq_some_iff.1 closed
  exact BgpConfig.maximumPaths_ne_of_validate (bgpValid bgp configured) zero

/-- All VRFs of the session are open, and its kernels are clean. -/
structure Session.IsOpen (clean : Kernel → Prop) (session : Session Kernel) : Prop where
  vrfs : session.Each Vrf.IsOpen
  kernels : ∀ netns, clean (session.kernel netns)

namespace Session.IsOpen

variable {clean : Kernel → Prop} {session : Session Kernel} {vrf : Vrf} {rerouted : Rerouted}

theorem stored (isOpen : session.IsOpen clean) (vrfOpen : vrf.IsOpen)
    (id : UInt32) : (session.stored id vrf).IsOpen clean :=
  ⟨each_stored session isOpen.vrfs vrfOpen id, isOpen.kernels⟩

theorem withKernel (isOpen : session.IsOpen clean) {kernel : Kernel} (isClean : clean kernel)
    (netns : String) :
    (session.withKernels (session.state.kernels.store netns kernel)).IsOpen clean := by
  refine ⟨isOpen.vrfs, fun listed => ?_⟩
  show clean ((session.state.kernels.store netns kernel).kernel listed)
  rw [KernelSpace.kernel_store]
  split
  · exact isClean
  · exact isOpen.kernels listed

/-- Deltas that lead to routes with next hops are programmed. -/
theorem programmed (isOpen : session.IsOpen clean) (keepsHops : KernelRequest.KeepsHops clean)
    (holds : rerouted.2.sync.Holds ForwardingRoute.HasHops)
    (leadToHops : Delta.LeadToHops rerouted.1) : (session.programmed rerouted).IsOpen clean := by
  have isClean : clean (session.programming rerouted).2.kernel :=
    Programmed.clean_applyAll keepsHops leadToHops holds (isOpen.kernels _)
  have programmed := isOpen.withKernel isClean (session.programmedVrf rerouted).netns
  exact ⟨programmed.vrfs, programmed.kernels⟩

theorem programmedVrf (vrfOpen : rerouted.2.IsOpen) (leadToHops : Delta.LeadToHops rerouted.1)
    (session : Session Kernel) : (session.programmedVrf rerouted).IsOpen := by
  have same := sameRoutes_programmedVrf rerouted session
  exact ⟨vrfOpen.policy, same.isProper vrfOpen.isProper,
    same.installed_eq.symm ▸ vrfOpen.installed,
    Programmed.holds_applyAll leadToHops vrfOpen.holds⟩

/-- The routes of an open VRF move, and the outcome is programmed and stored. -/
theorem settle (isOpen : session.IsOpen clean) (keepsHops : KernelRequest.KeepsHops clean)
    {resolver : Resolver} (reroutes : Vrf.Reroutes resolver vrf rerouted) (vrfOpen : vrf.IsOpen)
    (id : UInt32) : (session.settle id rerouted).IsOpen clean := by
  obtain ⟨reroutedOpen, leadToHops⟩ := reroutes.isOpen_vrf vrfOpen
  have programmed := isOpen.programmed keepsHops reroutedOpen.holds leadToHops
  exact programmed.stored (programmedVrf reroutedOpen leadToHops session) id

theorem refreshed (isOpen : session.IsOpen clean) (keepsHops : KernelRequest.KeepsHops clean)
    (vrfOpen : vrf.IsOpen) :
    (session.refreshed vrf).IsOpen clean ∧ (session.refreshedVrf vrf).IsOpen := by
  have reroutes : Vrf.Reroutes (session.state.interfaces.resolver vrf.id) vrf
      (session.refresh vrf) :=
    .refreshed (.of_ribs rfl rfl rfl rfl) rfl rfl fun policyOpen => policyOpen
  obtain ⟨refreshedOpen, leadToHops⟩ := reroutes.isOpen_vrf vrfOpen
  have programmed := isOpen.programmed keepsHops refreshedOpen.holds leadToHops
  have vrfProgrammed := programmedVrf refreshedOpen leadToHops session
  exact ⟨⟨programmed.vrfs, programmed.kernels⟩,
    vrfProgrammed.of_same (.of_ribs rfl rfl rfl rfl) rfl vrfProgrammed.policy⟩

theorem resettledAt (isOpen : session.IsOpen clean) (keepsHops : KernelRequest.KeepsHops clean)
    {settings : Vrf → Vrf} (keeps : ∀ vrf, vrf.IsOpen → (settings vrf).IsOpen) (id : UInt32) :
    (session.resettledAt settings id).IsOpen clean := by
  unfold Session.resettledAt
  split
  next => exact isOpen
  next vrf found =>
    have vrfOpen := keeps vrf (isOpen.vrfs id vrf found)
    obtain ⟨refreshed, vrfRefreshed⟩ := isOpen.refreshed keepsHops vrfOpen
    exact refreshed.stored vrfRefreshed id

theorem resyncedAt (isOpen : session.IsOpen clean) (keepsHops : KernelRequest.KeepsHops clean)
    (id : UInt32) : (session.resyncedAt id).IsOpen clean := by
  unfold Session.resyncedAt
  split
  next => exact isOpen
  next vrf found =>
    have vrfOpen := isOpen.vrfs id vrf found
    have isClean : clean (session.retrying vrf).kernel :=
      Programmed.clean_retryPending keepsHops vrfOpen.holds (isOpen.kernels _)
    have retried : ({ vrf with sync := (session.retrying vrf).sync } : Vrf).IsOpen :=
      ⟨vrfOpen.policy, vrfOpen.isProper, vrfOpen.installed,
        Programmed.holds_retryPending vrfOpen.holds⟩
    exact (isOpen.withKernel isClean _).stored retried id

/-- Changes on interfaces are followed, and the VRFs that they name are refreshed. -/
theorem follow (isOpen : session.IsOpen clean) (keepsHops : KernelRequest.KeepsHops clean)
    {after : InterfaceTable} {changes : List InterfaceChange} (isKeyed : session.state.vrfs.IsKeyed)
    (accounts : InterfaceTable.Accounts changes session.state.interfaces after) :
    ((session.withInterfaces after).follow changes).IsOpen clean := by
  have followed := (foldl_followed_keeps (session.withInterfaces after) isKeyed
    accounts.attributed (IsOpen clean) ⟨isOpen.vrfs, isOpen.kernels⟩
    (fun _ _ kept => ⟨kept.vrfs, kept.kernels⟩)
    fun change _ next vrf rerouted _ kept found _ reroutes =>
      kept.settle keepsHops reroutes (kept.vrfs change.vrf vrf found) change.vrf).1
  exact List.foldlRecOn (motive := IsOpen clean) (concerned changes) refreshedAt followed
    fun next known id _ => known.resettledAt keepsHops (fun _ vrfOpen => vrfOpen) id

/-- A VRF takes a configuration that was accepted. -/
theorem configured (isOpen : session.IsOpen clean) (keepsHops : KernelRequest.KeepsHops clean)
    {state : RoutingState Kernel} {config : VrfConfig} (accepts : AcceptsVrf state vrf config)
    (vrfOpen : vrf.IsOpen) :
    (session.configured config vrf).IsOpen clean ∧ (session.configuredVrf config vrf).IsOpen := by
  obtain ⟨routed, leadToHops⟩ :=
    (reroutes_configuring config vrf session).isOpen_vrf (vrfOpen.withSettings accepts)
  have programmed := isOpen.programmed keepsHops routed.holds leadToHops
  exact programmed.refreshed keepsHops (programmedVrf routed leadToHops session)

end Session.IsOpen

open Session

/-- A step keeps all VRFs open and the kernels clean. -/
theorem Changes.isOpen {clean : Kernel → Prop} (keepsHops : KernelRequest.KeepsHops clean)
    {before after : Session Kernel} {action : Action} (changes : Changes before action after)
    (isKeyed : before.state.IsKeyed) (isLimited : before.state.IsLimited)
    (isOpen : before.IsOpen clean) : after.IsOpen clean := by
  cases changes with
  | @rerouted operation id vrf events rerouted found performs =>
    have recorded : (before.recorded events).IsOpen clean := ⟨isOpen.vrfs, isOpen.kernels⟩
    exact recorded.settle keepsHops performs.reroutes (isOpen.vrfs id vrf found) id
  | followed performs =>
    exact isOpen.follow keepsHops isKeyed.vrfs (performs.accounts isKeyed.interfaces)
  | @vrfAdded config kernels idFree nameFree opened accepts =>
    have fresh : (before.freshVrf config).IsOpen :=
      (Vrf.isOpen_create config.name config.id (config.netns.getD config.name)
        before.state.attempts).of_same (.of_ribs rfl rfl rfl rfl) rfl ⟨isLimited.leaves, nofun⟩
    have opens : (before.withKernels kernels).IsOpen clean := by
      rw [KernelSpace.openNamespace_eq opened]
      exact ⟨isOpen.vrfs, isOpen.kernels⟩
    obtain ⟨configured, vrfConfigured⟩ := opens.configured keepsHops accepts fresh
    exact ⟨each_vrfAdded (before.withKernels kernels) opens.vrfs vrfConfigured, configured.kernels⟩
  | @vrfRemoved name id vrf named notDefault idle found =>
    have purged : (before.programmed vrf.purge).IsOpen clean :=
      isOpen.programmed keepsHops (isOpen.vrfs id vrf found).holds vrf.leadToHops_purge
    exact ⟨each_vrfRemoved isOpen.vrfs name id vrf, purged.kernels⟩
  | @limited config checked =>
    have leaves := EcmpConfig.maxPaths_ne_of_validate checked
    have limits : ∀ vrf : Vrf, vrf.IsOpen → (vrf.setMaxPaths config.maxPaths).IsOpen :=
      fun vrf vrfOpen => vrfOpen.of_same (.of_ribs rfl rfl rfl rfl) rfl
        ⟨leaves, vrfOpen.policy.bgpMaxPaths⟩
    have limited := List.foldlRecOn (motive := Session.IsOpen clean) before.state.vrfs.ids
      (limitedAt config.maxPaths) isOpen
      fun next known id _ => known.resettledAt keepsHops limits id
    exact ⟨limited.vrfs, limited.kernels⟩
  | resynced =>
    exact List.foldlRecOn (motive := Session.IsOpen clean) before.state.vrfs.ids resyncedAt isOpen
      fun next known id _ => known.resyncedAt keepsHops id
  | @defaultConfigured config vrf found accepts =>
    obtain ⟨configured, vrfConfigured⟩ :=
      isOpen.configured keepsHops accepts (isOpen.vrfs defaultVrfId vrf found)
    exact configured.stored vrfConfigured defaultVrfId

/-- What is kept by requests that write routes with next hops holds of all kernels of routers that
can be reached, if it holds at first and whatever happens to kernels from outside keeps it. -/
theorem isInvariant_isOpen {surroundings : Surroundings Kernel} {clean : Kernel → Prop}
    (keepsHops : KernelRequest.KeepsHops clean)
    (starts : ∀ kernels, surroundings.starts kernels → ∀ netns, clean (kernels.kernel netns))
    (disturbs : ∀ before after, surroundings.disturbs before after →
      (∀ netns, clean (before.kernel netns)) → ∀ netns, clean (after.kernel netns)) :
    IsInvariant surroundings fun state =>
      state.IsLimited ∧ Session.IsOpen clean ⟨state, []⟩ where
  blank parameters kernels isStart :=
    ⟨(isInvariant_isLimited surroundings).blank parameters kernels isStart,
      fun _ _ found => (nomatch found), starts kernels isStart⟩
  changed action before after allows isKeyed known changes := by
    obtain ⟨isLimited, isOpen⟩ := known
    have opened := changes.isOpen keepsHops isKeyed isLimited ⟨isOpen.vrfs, isOpen.kernels⟩
    exact ⟨(isInvariant_isLimited surroundings).changed action before after allows isKeyed
      isLimited changes, opened.vrfs, opened.kernels⟩
  refused before after known refused := by
    obtain ⟨isLimited, isOpen⟩ := known
    refine ⟨(isInvariant_isLimited surroundings).refused before after isLimited refused, ?_⟩
    cases refused with
    | recorded | published => exact ⟨isOpen.vrfs, isOpen.kernels⟩
    | opened opens =>
      refine ⟨isOpen.vrfs, fun netns => ?_⟩
      have kernels := isOpen.kernels netns
      show clean (KernelSpace.kernel _ netns)
      rw [KernelSpace.openNamespace_eq opens]
      exact kernels
  disturbed state kernels isDisturbed known :=
    ⟨(isInvariant_isLimited surroundings).disturbed state kernels isDisturbed known.1,
      known.2.vrfs, disturbs _ _ isDisturbed known.2.kernels⟩

/-! ### Routers that can be reached -/

/-- Records start empty and only what kernels are asked for is recorded. Otherwise anything may
happen to a router. -/
def Surroundings.recording : Surroundings (Recorded Kernel) where
  starts kernels := ∀ netns, (kernels.kernel netns).record = []
  admits _ := True
  disturbs before after := ∀ netns, (after.kernel netns).record = (before.kernel netns).record

/-- Everything that a recording router asks its kernels to write has next hops. -/
theorem writesHops_of_recording {router : Router (Recorded Kernel)}
    (reachable : Reachable Surroundings.recording router) (netns : String) :
    (router.kernel netns).WritesHops := by
  have isInvariant : IsInvariant Surroundings.recording
      fun state : RoutingState (Recorded Kernel) =>
        state.IsLimited ∧ Session.IsOpen Recorded.WritesHops ⟨state, []⟩ := by
    refine isInvariant_isOpen Recorded.keepsHops_writesHops ?_ ?_
    · intro kernels isEmpty netns transaction member
      rw [isEmpty netns] at member
      cases member
    · intro before after same writesHops netns
      have known := writesHops netns
      rwa [Recorded.WritesHops, ← same netns] at known
  exact (isInvariant.of_reachable reachable).2.kernels netns

/-- In every router that can be reached, the limits of a VRF are those that are set for all VRFs
and with its BGP router. Every installed route has at least one next hop, none of them twice, and
no more than the limits allow for its origin. No route without next hops is forwarded or pending,
and none is ever written to a kernel, whatever kernel it is and whether it takes the route or
not. -/
theorem limited_of_reachable :
    (∀ (surroundings : Surroundings Kernel) (router : Router Kernel),
      Reachable surroundings router → ∀ id vrf, router.vrf id = .ok vrf →
        vrf.policy.maxPaths = router.state.ecmp.maxPaths ∧
        vrf.policy.bgpMaxPaths = vrf.bgp.map BgpConfig.maximumPaths ∧
        (∀ family destination set route, (vrf.rib family).find? destination = some set →
          set.installed = some route →
            route.hops ≠ [] ∧ route.hops.Nodup ∧
            (∀ limit, vrf.policy.maxPaths = some limit → route.hops.length ≤ limit.toNat) ∧
            (route.origin = .bgp → ∀ limit, vrf.policy.bgpMaxPaths = some limit →
              route.hops.length ≤ limit.toNat)) ∧
        ∀ destination route, vrf.sync.fib.find? destination = some route ∨
          vrf.sync.pending.find? destination = some (some route) → route.hops ≠ []) ∧
    ∀ router : Router (Recorded Kernel), Reachable Surroundings.recording router →
      ∀ netns, ∀ transaction ∈ (router.kernel netns).record, ∀ route,
        transaction.request.written? = some route → route.hops ≠ [] := by
  refine ⟨fun surroundings router reachable id vrf got => ?_,
    fun router reachable netns => writesHops_of_recording reachable netns⟩
  have found : router.state.vrfs.byId.find? id = some vrf := VrfTable.get_eq_ok_iff.1 got
  have isInvariant : IsInvariant surroundings fun state : RoutingState Kernel =>
      state.IsLimited ∧ Session.IsOpen (fun _ => True) ⟨state, []⟩ :=
    isInvariant_isOpen (fun _ _ _ _ => trivial) (fun _ _ _ => trivial) fun _ _ _ _ _ => trivial
  obtain ⟨isLimited, isOpen⟩ := isInvariant.of_reachable reachable
  have vrfLimited := isLimited.vrfs id vrf found
  have vrfOpen := isOpen.vrfs id vrf found
  have isSettled := (isInvariant_allSettled surroundings).of_reachable reachable id vrf found
  refine ⟨vrfLimited.maxPaths_eq, vrfLimited.bgpMaxPaths_eq, ?_, ?_⟩
  · intro family destination set route listed installed
    -- selecting once more would install the same route, so it is the best one
    have selected : (set.select (router.state.interfaces.resolver id) vrf.policy
        destination).2.installed = some route := by
      rw [isSettled family destination set listed]
      exact installed
    have isBest := CandidateSet.isBestRoute_of_select selected
    refine ⟨isBest.hasHops vrfOpen.policy, isBest.hops_nodup, fun limit isLimit => ?_,
      fun isBgp limit isLimit => ?_⟩
    · exact isBest.length_hops_le (SelectionPolicy.mem_limits_iff.2 (Or.inl ⟨limit, isLimit, rfl⟩))
    · exact isBest.length_hops_le
        (SelectionPolicy.mem_limits_iff.2 (Or.inr ⟨isBgp, limit, isLimit, rfl⟩))
  · intro destination route held
    rcases held with forwarded | pending
    · exact vrfOpen.holds.fib destination route forwarded
    · exact vrfOpen.holds.pending destination route pending

/-- A prefix is given two gateways, and then all routes one path at most. -/
def sampleLimits : List Operation :=
  [.addInterface sampleInterface, .addStatic defaultVrfId sampleStatic,
    .addStatic defaultVrfId { sampleStatic with nextHop := .gateway (.v4 0x0A000003) none },
    .setEcmp { maxPaths := some 1 }]

/-- A new router that performed these operations. -/
def limitedRouter? (Kernel : Type) [KernelBackend Kernel] : Option (Router Kernel) :=
  (Router.create {} KernelSpace.empty).toOption.map fun router =>
    sampleLimits.foldl (fun next operation => (next.step operation).2) router

theorem reachable_limitedRouter {surroundings : Surroundings Kernel}
    (starts : surroundings.starts KernelSpace.empty)
    (admits : ∀ operation ∈ sampleLimits, surroundings.admits operation) {router : Router Kernel}
    (built : limitedRouter? Kernel = some router) : Reachable surroundings router := by
  obtain ⟨start, created, rfl⟩ := Option.map_eq_some_iff.1 built
  have reachable : Reachable surroundings start := .created starts (eq_ok_of_toOption created)
  exact List.foldlRecOn (motive := Reachable surroundings) sampleLimits _ reachable
    fun next known operation member => known.performed (admits operation member)

/-- Of two gateways one is left, and the routes that were written have next hops. -/
theorem limited_of_limitedRouter :
    (∃ (router : Router MemoryKernel) (vrf : Vrf) (set : CandidateSet) (route : ForwardingRoute),
      router.vrf defaultVrfId = .ok vrf ∧
      (vrf.rib .ipv4).find? (Prefix.ofNetwork sampleStatic.destination) = some set ∧
      set.hopCount = 2 ∧ set.installed = some route ∧ vrf.policy.maxPaths = some 1 ∧
      route.hops ≠ [] ∧ route.hops.length ≤ 1) ∧
    ∃ (router : Router (Recorded MemoryKernel)) (transaction : Transaction MemoryKernel)
      (route : KernelRoute), transaction ∈ (router.kernel defaultVrfName).record ∧
      transaction.request.written? = some route ∧ route.hops ≠ [] := by
  have routed : ((limitedRouter? MemoryKernel).bind fun router =>
      (router.vrf defaultVrfId).toOption.bind fun vrf =>
        ((vrf.rib .ipv4).find? (Prefix.ofNetwork sampleStatic.destination)).bind fun set =>
          set.installed.filter fun _ => set.hopCount = 2 ∧ vrf.policy.maxPaths = some 1).isSome =
            true := by
    decide +kernel
  have written : ((limitedRouter? (Recorded MemoryKernel)).bind fun router =>
      ((router.kernel defaultVrfName).record.find? fun transaction =>
        transaction.request.written?.isSome).bind fun transaction =>
          transaction.request.written?).isSome = true := by
    decide +kernel
  obtain ⟨limited, hops⟩ := @limited_of_reachable MemoryKernel _
  refine ⟨?_, ?_⟩
  · obtain ⟨route, isRouted⟩ := Option.isSome_iff_exists.1 routed
    obtain ⟨router, built, vrfRouted⟩ := Option.bind_eq_some_iff.1 isRouted
    obtain ⟨vrf, found, setRouted⟩ := Option.bind_eq_some_iff.1 vrfRouted
    obtain ⟨set, listed, kept⟩ := Option.bind_eq_some_iff.1 setRouted
    obtain ⟨installed, known⟩ := Option.filter_eq_some_iff.1 kept
    obtain ⟨twoHops, onePath⟩ := of_decide_eq_true known
    have reachable : Reachable Surroundings.any router :=
      reachable_limitedRouter trivial (fun _ _ => trivial) built
    have got := eq_ok_of_toOption found
    obtain ⟨_, _, routes, _⟩ := limited Surroundings.any router reachable defaultVrfId vrf got
    obtain ⟨hasHops, _, atMost, _⟩ := routes .ipv4 _ set route listed installed
    exact ⟨router, vrf, set, route, got, listed, twoHops, installed, onePath, hasHops,
      atMost 1 onePath⟩
  · obtain ⟨route, isWritten⟩ := Option.isSome_iff_exists.1 written
    obtain ⟨router, built, recorded⟩ := Option.bind_eq_some_iff.1 isWritten
    obtain ⟨transaction, member, writes⟩ := Option.bind_eq_some_iff.1 recorded
    have reachable : Reachable Surroundings.recording router :=
      reachable_limitedRouter (fun _ => rfl) (fun _ _ => trivial) built
    have isRecorded := List.mem_of_find?_eq_some member
    exact ⟨router, transaction, route, isRecorded, writes,
      hops router reachable defaultVrfName transaction isRecorded route writes⟩

end ControlPlane
