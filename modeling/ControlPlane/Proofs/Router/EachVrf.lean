/-
This file proves properties of all VRFs of a router from what may happen to one
of them. An operation stores VRFs whose deltas were programmed, adds one, removes
one, or refreshes several, and the other VRFs are as they were. A property that
looks at the routes, the static routes and the synchronizer of a VRF, and at no
interface, is an invariant as soon as new VRFs have it, deltas keep it when they
are programmed, and pending prefixes keep it when they are tried again.
-/

import ControlPlane.Proofs.Router.Reachable

namespace ControlPlane

/-! ### Sessions whose VRFs have a property -/

namespace Session

variable {Kernel : Type} {holds : Vrf → Prop} {session : Session Kernel} {vrf : Vrf}

/-- All VRFs of the session have the property. -/
def Each (holds : Vrf → Prop) (session : Session Kernel) : Prop :=
  ∀ id vrf, session.find? id = some vrf → holds vrf

theorem each_stored (session : Session Kernel) (each : session.Each holds) (held : holds vrf)
    (id : UInt32) : (session.stored id vrf).Each holds := by
  intro listed after found
  rw [find?_stored] at found
  split at found
  · obtain ⟨_, _, rfl⟩ := Option.map_eq_some_iff.1 found
    exact held
  · exact each listed after found

variable [KernelBackend Kernel]

theorem each_settle (session : Session Kernel) (each : session.Each holds) {rerouted : Rerouted}
    (held : holds (session.programmedVrf rerouted)) (id : UInt32) :
    (session.settle id rerouted).Each holds :=
  each_stored (session.programmed rerouted) each held id

/-- A VRF that exists takes settings and is refreshed. -/
theorem each_resettledAt {settings : Vrf → Vrf} (each : session.Each holds)
    (keeps : ∀ vrf, holds vrf → holds (session.refreshedVrf (settings vrf))) (id : UInt32) :
    (session.resettledAt settings id).Each holds := by
  unfold resettledAt
  split
  next => exact each
  next vrf found =>
    exact each_stored (session.refreshed (settings vrf)) each (keeps vrf (each id vrf found)) id

/-- The pending prefixes of a VRF that exists are tried again. -/
theorem each_resyncedAt (each : session.Each holds)
    (keeps : ∀ vrf, holds vrf → holds { vrf with sync := (session.retrying vrf).sync })
    (id : UInt32) : (session.resyncedAt id).Each holds := by
  unfold resyncedAt
  split
  next => exact each
  next vrf found =>
    exact each_stored (session.withKernels _) each (keeps vrf (each id vrf found)) id

theorem each_vrfAdded (session : Session Kernel) (each : session.Each holds) {config : VrfConfig}
    (held : holds (session.configuredVrf config (session.freshVrf config))) :
    (session.vrfAdded config).Each holds := by
  intro listed vrf found
  rw [find?_vrfAdded] at found
  split at found
  · exact Option.some.inj found ▸ held
  · exact each listed vrf found

theorem each_vrfRemoved (each : session.Each holds) (name : String) (id : UInt32) (vrf : Vrf) :
    (session.vrfRemoved name id vrf).Each holds := by
  intro listed other found
  rw [find?_vrfRemoved] at found
  split at found
  · cases found
  · exact each listed other found

theorem each_limited (each : session.Each holds) (config : EcmpConfig)
    (keeps : ∀ (next : Session Kernel) vrf, holds vrf →
      holds (next.refreshedVrf (vrf.setMaxPaths config.maxPaths))) :
    (session.limited config).Each holds := by
  have limited := List.foldlRecOn (motive := Each holds) session.state.vrfs.ids
    (limitedAt config.maxPaths) each fun next known id _ => each_resettledAt known (keeps next) id
  exact limited

end Session

/-! ### What may happen to a VRF -/

/-- The ways in which the routes of a VRF move: an operation is performed on it, an event on an
interface is followed, all routes are selected anew, or the static routes of a configuration are
added. -/
inductive Vrf.Moves : Vrf → Rerouted → Prop
  | operated {Kernel : Type} {state : RoutingState Kernel} {id : UInt32} {vrf : Vrf}
      {operation : Operation} {events : List RoutingEvent} {rerouted : Rerouted}
      (performs : VrfOperation state id vrf operation events rerouted) : Moves vrf rerouted
  | followed {interfaces : InterfaceTable} {change : InterfaceChange} {vrf : Vrf}
      {rerouted : Rerouted} (answered : RouterM.reroute interfaces change vrf = .ok rerouted)
      (reroutes : Vrf.Reroutes (interfaces.resolver change.vrf) vrf rerouted) : Moves vrf rerouted
  | refreshed (resolver : Resolver) (vrf : Vrf) : Moves vrf (vrf.refresh resolver)
  | configured {Kernel : Type} {state : RoutingState Kernel} {config : VrfConfig} {vrf : Vrf}
      (accepts : AcceptsVrf state vrf config) (session : Session Kernel) :
      Moves (vrf.withSettings config) (session.configuring config vrf)

theorem Vrf.Moves.reroutes {vrf : Vrf} {rerouted : Rerouted} (moves : vrf.Moves rerouted) :
    ∃ resolver, Vrf.Reroutes resolver vrf rerouted := by
  cases moves with
  | operated performs => exact ⟨_, performs.reroutes⟩
  | followed _ reroutes => exact ⟨_, reroutes⟩
  | refreshed resolver =>
    exact ⟨resolver, .refreshed (.of_ribs rfl rfl rfl rfl) rfl rfl fun isOpen => isOpen⟩
  | @configured _ _ config vrf _ session => exact ⟨_, session.reroutes_configuring config vrf⟩

/-- A property that new VRFs have, that looks at routes, static routes and the synchronizer alone,
and that is kept when deltas are programmed and when pending prefixes are tried again. -/
structure IsOwnInvariant (Kernel : Type) [KernelBackend Kernel] (holds : Vrf → Prop) : Prop where
  created : ∀ name id netns attempts, holds (Vrf.create name id netns attempts)
  same : ∀ first second : Vrf, first.SameRoutes second → second.statics = first.statics →
    second.sync = first.sync → holds first → holds second
  moved : ∀ (session : Session Kernel) vrf rerouted, vrf.Moves rerouted → holds vrf →
    holds (session.programmedVrf rerouted)
  retried : ∀ (session : Session Kernel) vrf, holds vrf →
    holds { vrf with sync := (session.retrying vrf).sync }

variable {Kernel : Type} [KernelBackend Kernel] {holds : Vrf → Prop}

namespace IsOwnInvariant

variable {vrf : Vrf}

theorem refreshedVrf (isOwn : IsOwnInvariant Kernel holds) (session : Session Kernel)
    (held : holds vrf) : holds (session.refreshedVrf vrf) :=
  isOwn.same (session.programmedVrf (session.refresh vrf)) _ (.of_ribs rfl rfl rfl rfl) rfl rfl
    (isOwn.moved session vrf _ (.refreshed _ vrf) held)

/-- A VRF takes the settings of a configuration, then its static routes, and is refreshed. -/
theorem configuredVrf (isOwn : IsOwnInvariant Kernel holds) {state : RoutingState Kernel}
    {config : VrfConfig} (accepts : AcceptsVrf state vrf config) (session : Session Kernel)
    (held : holds vrf) : holds (session.configuredVrf config vrf) := by
  have settings : holds (vrf.withSettings config) :=
    isOwn.same vrf _ (.of_ribs rfl rfl rfl rfl) rfl rfl held
  exact isOwn.refreshedVrf _ (isOwn.moved session _ _ (.configured accepts session) settings)

theorem freshVrf (isOwn : IsOwnInvariant Kernel holds) (config : VrfConfig)
    (session : Session Kernel) : holds (session.freshVrf config) :=
  isOwn.same (Vrf.create config.name config.id (config.netns.getD config.name)
    session.state.attempts) _ (.of_ribs rfl rfl rfl rfl) rfl rfl (isOwn.created _ _ _ _)

/-- The changes on the interfaces are followed one after the other, and then the VRFs that they
name are refreshed. -/
theorem follow (isOwn : IsOwnInvariant Kernel holds) {session : Session Kernel}
    {after : InterfaceTable} {changes : List InterfaceChange} (isKeyed : session.state.vrfs.IsKeyed)
    (accounts : InterfaceTable.Accounts changes session.state.interfaces after)
    (each : session.Each holds) : ((session.withInterfaces after).follow changes).Each holds := by
  have followed := (Session.foldl_followed_keeps (session.withInterfaces after) isKeyed
    accounts.attributed (Session.Each holds) each (fun _ _ kept => kept)
    fun change _ next vrf rerouted _ kept found answered reroutes =>
      Session.each_settle next kept (isOwn.moved next vrf rerouted (.followed answered reroutes)
        (kept change.vrf vrf found)) change.vrf).1
  exact List.foldlRecOn (motive := Session.Each holds) (Session.concerned changes)
    Session.refreshedAt followed fun next known id _ =>
      Session.each_resettledAt known (fun _ held => isOwn.refreshedVrf next held) id

end IsOwnInvariant

/-! ### The invariant -/

theorem Changes.each (isOwn : IsOwnInvariant Kernel holds) {before after : Session Kernel}
    {action : Action} (changes : Changes before action after) (isKeyed : before.state.IsKeyed)
    (each : before.Each holds) : after.Each holds := by
  cases changes with
  | @rerouted operation id vrf events rerouted found performs =>
    exact Session.each_settle (before.recorded events) each
      (isOwn.moved _ vrf rerouted (.operated performs) (each id vrf found)) id
  | followed performs =>
    exact isOwn.follow isKeyed.vrfs (performs.accounts isKeyed.interfaces) each
  | @vrfAdded config kernels idFree nameFree opened accepts =>
    exact Session.each_vrfAdded (before.withKernels kernels) each
      (isOwn.configuredVrf accepts _ (isOwn.freshVrf config before))
  | @vrfRemoved name id vrf => exact Session.each_vrfRemoved each name id vrf
  | @limited config =>
    refine Session.each_limited each config fun next vrf held => isOwn.refreshedVrf next ?_
    exact isOwn.same vrf _ (.of_ribs rfl rfl rfl rfl) rfl rfl held
  | resynced =>
    exact List.foldlRecOn (motive := Session.Each holds) before.state.vrfs.ids Session.resyncedAt
      each fun next known id _ => Session.each_resyncedAt known (isOwn.retried next) id
  | @defaultConfigured config vrf found accepts =>
    exact Session.each_stored (before.configured config vrf) each
      (isOwn.configuredVrf accepts before (each _ vrf found)) defaultVrfId

/-- What each VRF keeps for itself, all VRFs have whatever happens to a router. -/
theorem IsOwnInvariant.isInvariant (isOwn : IsOwnInvariant Kernel holds)
    (surroundings : Surroundings Kernel) :
    IsInvariant surroundings fun state => ∀ id vrf, state.vrfs.byId.find? id = some vrf →
      holds vrf where
  blank _ _ _ _ _ found := nomatch found
  changed _ _ _ _ isKeyed each changes := changes.each isOwn isKeyed each
  refused _ _ each refused := by cases refused <;> exact each
  disturbed _ _ _ each := each

end ControlPlane
