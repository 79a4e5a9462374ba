/-
This file proves invariants of routers VRF by VRF. A property of a VRF among the
interfaces holds of all VRFs of all routers that can be reached if new VRFs have
it and if it is kept by what may happen to a single VRF: routes of certain origins
are announced and withdrawn, static routes come and go, and events on interfaces
are followed. In most cases the origins are those of dynamic protocols.
-/

import ControlPlane.Proofs.Router.EachVrf
import ControlPlane.Proofs.Router.References

namespace ControlPlane

/-! ### Dynamic routes -/

/-- The routes of the origin are announced and withdrawn by a routing protocol. -/
def Origin.IsDynamic (origin : Origin) : Prop :=
  origin = .ospf ∨ origin = .bgp

/-- What the operation announces or withdraws are routes of dynamic protocols. -/
def Operation.IsDynamic : Operation → Prop
  | announce candidate => candidate.origin.IsDynamic
  | withdraw _ _ origin => origin.IsDynamic
  | withdrawInstance _ _ origin _ => origin.IsDynamic
  | _ => True

/-- What the operation announces or withdraws are routes of certain origins. -/
def Operation.IsOfOrigins (touches : Origin → Prop) : Operation → Prop
  | announce candidate => touches candidate.origin
  | withdraw _ _ origin => touches origin
  | withdrawInstance _ _ origin _ => touches origin
  | _ => True

theorem Operation.IsDynamic.isOfOrigins {operation : Operation} (isDynamic : operation.IsDynamic) :
    operation.IsOfOrigins Origin.IsDynamic := by
  cases operation <;> exact isDynamic

/-- Routes are announced and withdrawn for dynamic protocols only. Otherwise anything may happen to
a router. -/
def Surroundings.dynamic {Kernel : Type} : Surroundings Kernel where
  starts _ := True
  admits := Operation.IsDynamic
  disturbs _ _ := True

/-! ### What may happen to a VRF -/

/-- A property of a VRF among the interfaces that new VRFs have and that is kept by all that may
happen to a VRF, where routes of certain origins are announced and withdrawn. -/
structure IsVrfInvariant (touches : Origin → Prop) (holds : InterfaceTable → Vrf → Prop) :
    Prop where
  created : ∀ interfaces name id netns attempts, interfaces.attachedTo id = [] →
    holds interfaces (Vrf.create name id netns attempts)
  edited : ∀ interfaces first second, Vrf.Edits touches first second →
    holds interfaces first → holds interfaces second
  staticAdded : ∀ interfaces vrf resolver route, holds interfaces vrf →
    holds interfaces (vrf.addStatic resolver route).2
  staticRemoved : ∀ interfaces vrf resolver route rerouted,
    vrf.removeStatic resolver route = .ok rerouted → holds interfaces vrf →
    holds interfaces rerouted.2
  followed : ∀ vrfs before changes after first second, before.IsKeyed → before.IsIndexed →
    InterfaceTable.Evolves vrfs before changes after →
    Vrf.Follows after (changesOf first.id changes) first second → holds before first →
    holds after second

/-- The routes of a VRF were changed by an operation on it. -/
theorem VrfOperation.keeps {Kernel : Type} {state : RoutingState Kernel} {id : UInt32} {vrf : Vrf}
    {operation : Operation} {events : List RoutingEvent} {rerouted : Rerouted}
    {touches : Origin → Prop} {holds : InterfaceTable → Vrf → Prop}
    (isInvariant : IsVrfInvariant touches holds)
    (performs : VrfOperation state id vrf operation events rerouted)
    (touched : operation.IsOfOrigins touches) {interfaces : InterfaceTable}
    (held : holds interfaces vrf) : holds interfaces rerouted.2 := by
  have edited : Vrf.Edits touches vrf rerouted.2 → holds interfaces rerouted.2 :=
    fun edits => isInvariant.edited interfaces vrf rerouted.2 edits held
  cases performs with
  | announced _ _ answered => exact edited (Vrf.edits_announce touched answered)
  | withdrawn destination => exact edited (Vrf.edits_withdraw destination touched)
  | instanceWithdrawn destination origin inst =>
    exact edited (Vrf.edits_withdrawInstance destination inst touched)
  | staticAdded => exact isInvariant.staticAdded interfaces vrf _ _ held
  | staticRemoved answered => exact isInvariant.staticRemoved interfaces vrf _ _ _ answered held
  | @bgpSet config =>
    have configured : vrf.SameContents (vrf.setBgp (some config)) :=
      .of_sameRoutes (.of_ribs rfl rfl rfl rfl) rfl
    exact edited (.resettled (configured.trans (Vrf.sameContents_refresh _ _)))
  | bgpRemoved =>
    have configured : vrf.SameContents (vrf.setBgp none) :=
      .of_sameRoutes (.of_ribs rfl rfl rfl rfl) rfl
    exact edited (.resettled (configured.trans (Vrf.sameContents_refresh _ _)))
  | distanceSet => exact edited (.resettled (.of_sameRoutes (.of_ribs rfl rfl rfl rfl) rfl))
  | routerIdSet => exact edited (.resettled (.of_sameRoutes (.of_ribs rfl rfl rfl rfl) rfl))

namespace IsVrfInvariant

variable {touches : Origin → Prop} {holds : InterfaceTable → Vrf → Prop}
  {interfaces : InterfaceTable} {vrf : Vrf}

theorem resettled (isInvariant : IsVrfInvariant touches holds) {next : Vrf}
    (same : vrf.SameContents next) (held : holds interfaces vrf) : holds interfaces next :=
  isInvariant.edited interfaces vrf next (.resettled same) held

theorem inTurn_addStatic (isInvariant : IsVrfInvariant touches holds) (resolver : Resolver)
    (routes : List StaticRoute) (held : holds interfaces vrf) :
    holds interfaces (Vrf.inTurn (Vrf.addStatic resolver) routes vrf).2 := by
  induction routes generalizing vrf with
  | nil => exact held
  | cons route rest inductionHypothesis =>
    exact inductionHypothesis (isInvariant.staticAdded interfaces vrf resolver route held)

variable {Kernel : Type} [KernelBackend Kernel]

theorem refreshedVrf (isInvariant : IsVrfInvariant touches holds) (session : Session Kernel)
    (held : holds interfaces vrf) : holds interfaces (session.refreshedVrf vrf) := by
  have refreshed := Vrf.sameContents_refresh (session.state.interfaces.resolver vrf.id) vrf
  have programmed :=
    Vrf.SameContents.of_sameRoutes (Session.sameRoutes_refreshedVrf vrf session) rfl
  exact isInvariant.resettled (refreshed.trans programmed) held

/-- To try pending prefixes again changes no routes. -/
theorem retrying (isInvariant : IsVrfInvariant touches holds) (session : Session Kernel)
    (held : holds interfaces vrf) :
    holds interfaces { vrf with sync := (session.retrying vrf).sync } := by
  have same : vrf.SameContents { vrf with sync := (session.retrying vrf).sync } :=
    .of_sameRoutes (.of_ribs rfl rfl rfl rfl) rfl
  exact isInvariant.resettled same held

/-- A VRF that takes a configuration takes settings and static routes. -/
theorem configuredVrf (isInvariant : IsVrfInvariant touches holds) (config : VrfConfig)
    (session : Session Kernel) (held : holds interfaces vrf) :
    holds interfaces (session.configuredVrf config vrf) := by
  have settings : vrf.SameContents (vrf.withSettings config) :=
    .of_sameRoutes (.of_ribs rfl rfl rfl rfl) rfl
  have routed : holds interfaces (session.configuring config vrf).2 :=
    isInvariant.inTurn_addStatic _ _ (isInvariant.resettled settings held)
  have programmed := Vrf.SameContents.of_sameRoutes
    (Session.sameRoutes_programmedVrf (session.configuring config vrf) session) rfl
  exact isInvariant.refreshedVrf _ (isInvariant.resettled programmed routed)

end IsVrfInvariant

/-! ### What may happen to all VRFs -/

variable {Kernel : Type}

/-- Interfaces and VRFs refer to each other properly, and all VRFs have a property. -/
structure RoutingState.AllVrfs (holds : InterfaceTable → Vrf → Prop) (state : RoutingState Kernel) :
    Prop where
  isReferential : state.IsReferential
  held : ∀ id vrf, state.vrfs.byId.find? id = some vrf → holds state.interfaces vrf

namespace Session

/-- All VRFs of the session have a property among interfaces. -/
def EachVrf (holds : InterfaceTable → Vrf → Prop) (interfaces : InterfaceTable)
    (session : Session Kernel) : Prop :=
  ∀ id vrf, session.find? id = some vrf → holds interfaces vrf

end Session

open Session

variable [KernelBackend Kernel] {touches : Origin → Prop} {holds : InterfaceTable → Vrf → Prop}

omit [KernelBackend Kernel] in
theorem isDynamic_of_allows {operation : Operation}
    (allows : (Surroundings.dynamic : Surroundings Kernel).Allows (.perform operation)) :
    operation.IsDynamic := by
  cases operation <;> exact allows

theorem Changes.allVrfs (isInvariant : IsVrfInvariant touches holds) {before after : Session Kernel}
    {action : Action} (changes : Changes before action after)
    (touched : ∀ operation, action = .perform operation → operation.IsOfOrigins touches)
    (isKeyed : before.state.IsKeyed) (allVrfs : before.state.AllVrfs holds) :
    after.state.AllVrfs holds := by
  refine ⟨changes.isReferential allVrfs.isReferential, ?_⟩
  have each : before.EachVrf holds before.state.interfaces := allVrfs.held
  cases changes with
  | @rerouted operation id vrf events rerouted found performs =>
    have held := performs.keeps isInvariant (touched operation rfl) (each id vrf found)
    have programmed := Vrf.SameContents.of_sameRoutes
      (sameRoutes_programmedVrf rerouted (before.recorded events)) rfl
    exact each_settle (before.recorded events) each (isInvariant.resettled programmed held) id
  | @followed operation changes table performs =>
    intro id after found
    rw [Session.interfaces_follow]
    have accounts := performs.accounts isKeyed.interfaces
    have sameVrfs : (before.withInterfaces table).state.vrfs.IsKeyed := isKeyed.vrfs
    obtain ⟨vrf, next, isFound, follows, same, _⟩ :=
      find?_follow sameVrfs accounts.attributed found
    have own : vrf.id = id := isKeyed.vrfs id vrf isFound
    rw [← own] at follows
    exact isInvariant.resettled same (isInvariant.followed _ _ _ _ _ _ isKeyed.interfaces
      allVrfs.isReferential.isIndexed performs.evolves follows (each id vrf isFound))
  | @vrfAdded config kernels idFree nameFree opened accepts =>
    have created := isInvariant.created before.state.interfaces config.name config.id
      (config.netns.getD config.name) before.state.attempts
      (allVrfs.isReferential.attachedTo_eq_nil idFree)
    have fresh : (Vrf.create config.name config.id (config.netns.getD config.name)
        before.state.attempts).SameContents (before.freshVrf config) :=
      .of_sameRoutes (.of_ribs rfl rfl rfl rfl) rfl
    exact each_vrfAdded (before.withKernels kernels) each
      (isInvariant.configuredVrf config _ (isInvariant.resettled fresh created))
  | @vrfRemoved name id vrf named notDefault idle found =>
    exact each_vrfRemoved each name id vrf
  | @limited config checked =>
    have limits : ∀ vrf : Vrf, vrf.SameContents (vrf.setMaxPaths config.maxPaths) :=
      fun _ => .of_sameRoutes (.of_ribs rfl rfl rfl rfl) rfl
    have limited : (before.limited config).EachVrf holds before.state.interfaces :=
      each_limited each config fun next vrf held =>
        isInvariant.refreshedVrf next (isInvariant.resettled (limits vrf) held)
    have sameInterfaces : (before.limited config).state.interfaces = before.state.interfaces :=
      interfaces_foldl (fun session id => session.interfaces_resettledAt _ id) _ before
    rw [sameInterfaces]
    exact limited
  | resynced =>
    rw [interfaces_foldl interfaces_resyncedAt]
    exact List.foldlRecOn (motive := fun next : Session Kernel =>
        next.EachVrf holds before.state.interfaces)
      before.state.vrfs.ids resyncedAt each fun next known id _ =>
        each_resyncedAt known (fun _ held => isInvariant.retrying next held) id
  | @defaultConfigured config vrf found accepts =>
    have held := isInvariant.configuredVrf config before (each defaultVrfId vrf found)
    exact each_stored (before.configured config vrf) each held defaultVrfId

/-- What every VRF keeps for itself, all VRFs of all routers that can be reached have. -/
theorem IsVrfInvariant.isInvariant_of_allows (isInvariant : IsVrfInvariant touches holds)
    {surroundings : Surroundings Kernel}
    (touched : ∀ operation, surroundings.Allows (.perform operation) →
      operation.IsOfOrigins touches) :
    IsInvariant surroundings (RoutingState.AllVrfs holds) where
  blank parameters kernels starts :=
    ⟨(isInvariant_isReferential surroundings).blank parameters kernels starts,
      fun _ _ found => (nomatch found)⟩
  changed action before after allows isKeyed allVrfs changes := by
    have isTouched (operation : Operation) (same : action = .perform operation) :
        operation.IsOfOrigins touches := touched operation (same ▸ allows)
    have kept := changes.allVrfs isInvariant isTouched isKeyed allVrfs
    exact ⟨kept.isReferential.of_same rfl rfl, kept.held⟩
  refused before after allVrfs refused := by
    cases refused <;> exact ⟨allVrfs.isReferential.of_same rfl rfl, allVrfs.held⟩
  disturbed _ _ _ allVrfs := ⟨allVrfs.isReferential.of_same rfl rfl, allVrfs.held⟩

theorem IsVrfInvariant.isInvariant (isInvariant : IsVrfInvariant Origin.IsDynamic holds) :
    IsInvariant (Surroundings.dynamic : Surroundings Kernel) (RoutingState.AllVrfs holds) :=
  isInvariant.isInvariant_of_allows fun _ allows => (isDynamic_of_allows allows).isOfOrigins

end ControlPlane
