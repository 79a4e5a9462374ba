/-
This file proves that the events of an operation tell the router-ids. A VRF changes
its router-id in two places: where its routes are selected anew, and where an
operation sets it, and both record what it changed to. So the router-id of a VRF
after an operation is the last one that was recorded for its id, or the one it had
before if none was. A VRF that is added begins with the router-id of its
configuration, which is not recorded. An operation that fails records nothing but the
configuration that it refuses.
-/

import ControlPlane.Proofs.Router.Election
import ControlPlane.Proofs.Router.Failures
import ControlPlane.Proofs.Router.SettingsStep

namespace ControlPlane

variable {Kernel : Type}

/-! ### What events tell -/

/-- The router-id that an event gives to the VRF of an id. -/
def RoutingEvent.routerId? (id : UInt32) : RoutingEvent → Option (Option IPv4)
  | routerIdChanged vrf routerId => if vrf = id then some routerId else none
  | _ => none

/-- The router-id that the last event about it gives to the VRF of an id. -/
def lastRouterId? (id : UInt32) (events : List RoutingEvent) : Option (Option IPv4) :=
  (events.filterMap (RoutingEvent.routerId? id)).getLast?

/-- The router-id that the VRF of an id has after some events, which had the given one before. -/
def routerIdTold (id : UInt32) (before : Option IPv4) (events : List RoutingEvent) : Option IPv4 :=
  (lastRouterId? id events).getD before

/-- No event gives a router-id to any VRF. -/
def AreSilent (events : List RoutingEvent) : Prop :=
  ∀ id, lastRouterId? id events = none

/-- The event of a router-id that became another one. -/
def routerIdChange (id : UInt32) (before after : Option IPv4) : List RoutingEvent :=
  if after ≠ before then [.routerIdChanged id after] else []

section Told

variable {id : UInt32} {before : Option IPv4} {events earlier later : List RoutingEvent}

theorem lastRouterId?_append (id : UInt32) (earlier later : List RoutingEvent) :
    lastRouterId? id (earlier ++ later) =
      (lastRouterId? id later).or (lastRouterId? id earlier) := by
  rw [lastRouterId?, List.filterMap_append, List.getLast?_append]
  rfl

theorem lastRouterId?_eq_none_iff :
    lastRouterId? id events = none ↔ ∀ event ∈ events, event.routerId? id = none := by
  rw [lastRouterId?, List.getLast?_eq_none_iff, List.filterMap_eq_nil_iff]

theorem areSilent_nil : AreSilent [] := fun _ => rfl

theorem AreSilent.append (first : AreSilent earlier) (second : AreSilent later) :
    AreSilent (earlier ++ later) := fun id => by
  rw [lastRouterId?_append, first id, second id]
  rfl

/-- What happened first is told first. -/
theorem routerIdTold_append (id : UInt32) (before : Option IPv4)
    (earlier later : List RoutingEvent) :
    routerIdTold id before (earlier ++ later) =
      routerIdTold id (routerIdTold id before earlier) later := by
  rw [routerIdTold, lastRouterId?_append, routerIdTold, routerIdTold]
  cases lastRouterId? id later <;> rfl

theorem routerIdTold_of_eq_none (nothing : lastRouterId? id events = none) (before : Option IPv4) :
    routerIdTold id before events = before := by
  rw [routerIdTold, nothing, Option.getD_none]

theorem routerIdTold_routerIdChange (id : UInt32) (before after : Option IPv4) :
    routerIdTold id before (routerIdChange id before after) = after := by
  unfold routerIdChange
  split
  next => simp [routerIdTold, lastRouterId?, RoutingEvent.routerId?]
  next same => exact (Decidable.not_not.1 same).symm

theorem lastRouterId?_routerIdChange {own : UInt32} (other : own ≠ id)
    (before after : Option IPv4) : lastRouterId? id (routerIdChange own before after) = none := by
  unfold routerIdChange
  split
  next => simp [lastRouterId?, RoutingEvent.routerId?, other]
  next => rfl

end Told

/-! ### The router-ids of VRFs that are rerouted -/

/-- The selection of a router-id is known by what is configured and what is active. -/
theorem Vrf.routerId_eq {before after : Vrf}
    (sameSettings : after.settings.routerId = before.settings.routerId)
    (sameActive : after.routerId.active = before.routerId.active) :
    after.routerId = before.routerId :=
  (RouterIdSelection.mk.injEq ..).mpr ⟨sameSettings, sameActive⟩

theorem VrfSettings.Loses.routerId_eq {before after : VrfSettings} (loses : before.Loses after) :
    after.routerId = before.routerId := by
  rw [loses.same]

namespace Session

/-! ### Programs that record router-ids -/

section Programs

variable [KernelBackend Kernel]

/-- The events that are recorded when deltas are programmed. -/
def failures (rerouted : Rerouted) (session : Session Kernel) : List RoutingEvent :=
  (session.programming rerouted).1.filterMap (RouterM.failureEvent? rerouted.2.id)

theorem areSilent_failures (rerouted : Rerouted) (session : Session Kernel) :
    AreSilent (session.failures rerouted) := by
  refine fun id => lastRouterId?_eq_none_iff.2 fun event member => ?_
  obtain ⟨error, -, isFailure⟩ := List.mem_filterMap.1 member
  unfold RouterM.failureEvent? at isFailure
  split at isFailure
  · cases isFailure
    rfl
  · cases isFailure

/-- The events that are recorded when a VRF is refreshed. -/
def refreshEvents (vrf : Vrf) (session : Session Kernel) : List RoutingEvent :=
  session.failures (session.refresh vrf) ++
    routerIdChange vrf.id vrf.routerId.routerId (session.routerIdAfter vrf).routerId

/-- The events that are recorded when a VRF takes a configuration. -/
def configureEvents (config : VrfConfig) (vrf : Vrf) (session : Session Kernel) :
    List RoutingEvent :=
  session.failures (session.configuring config vrf) ++
    (session.programmed (session.configuring config vrf)).refreshEvents
      (session.programmedVrf (session.configuring config vrf))

theorem events_refreshed (vrf : Vrf) (session : Session Kernel) :
    (session.refreshed vrf).events = session.events ++ session.refreshEvents vrf :=
  List.append_assoc _ _ _

theorem events_configured (config : VrfConfig) (vrf : Vrf) (session : Session Kernel) :
    (session.configured config vrf).events =
      session.events ++ session.configureEvents config vrf := by
  rw [configured, events_refreshed]
  exact List.append_assoc _ _ _

theorem lastRouterId?_refreshEvents {vrf : Vrf} {id : UInt32} (other : vrf.id ≠ id)
    (session : Session Kernel) : lastRouterId? id (session.refreshEvents vrf) = none := by
  rw [refreshEvents, lastRouterId?_append, lastRouterId?_routerIdChange other,
    areSilent_failures]
  rfl

/-- A VRF that is refreshed records the router-id that it gets. -/
theorem routerId_refreshedVrf (vrf : Vrf) (session : Session Kernel) :
    (session.refreshedVrf vrf).routerId.routerId =
      routerIdTold vrf.id vrf.routerId.routerId (session.refreshEvents vrf) := by
  rw [refreshEvents, routerIdTold_append, routerIdTold_of_eq_none (areSilent_failures _ _ _),
    routerIdTold_routerIdChange]
  rfl

omit [KernelBackend Kernel] in
theorem routerId_configuring (config : VrfConfig) (vrf : Vrf) (session : Session Kernel) :
    (session.configuring config vrf).2.routerId = vrf.routerId.configure config.routerId := by
  have sameActive := (reroutes_configuring config vrf session).active_eq
  have settings : (session.configuring config vrf).2.settings = _ :=
    Vrf.settings_inTurn_addStatic config.staticRoutes (vrf.withSettings config)
  have sameConfigured := congrArg VrfSettings.routerId settings
  exact (RouterIdSelection.mk.injEq ..).mpr ⟨sameConfigured, sameActive⟩

theorem lastRouterId?_configureEvents {vrf : Vrf} {id : UInt32} (other : vrf.id ≠ id)
    (config : VrfConfig) (session : Session Kernel) :
    lastRouterId? id (session.configureEvents config vrf) = none := by
  have own : (session.programmedVrf (session.configuring config vrf)).id ≠ id :=
    (reroutes_configuring config vrf session).id_eq ▸ other
  rw [configureEvents, lastRouterId?_append, lastRouterId?_refreshEvents own,
    areSilent_failures]
  rfl

/-- A VRF that takes a configuration records the router-id that it gets, unless it is the
configured one. -/
theorem routerId_configuredVrf (config : VrfConfig) (vrf : Vrf) (session : Session Kernel) :
    (session.configuredVrf config vrf).routerId.routerId =
      routerIdTold vrf.id (vrf.routerId.configure config.routerId).routerId
        (session.configureEvents config vrf) := by
  have own : (session.programmedVrf (session.configuring config vrf)).id = vrf.id :=
    (reroutes_configuring config vrf session).id_eq
  have configuring : (session.programmedVrf (session.configuring config vrf)).routerId =
      vrf.routerId.configure config.routerId := routerId_configuring config vrf session
  rw [configuredVrf, routerId_refreshedVrf, own, configuring, configureEvents,
    routerIdTold_append, routerIdTold_of_eq_none (areSilent_failures _ _ _)]

end Programs

/-! ### Sessions that tell their router-ids -/

/-- The router-id of every VRF is the one that the events of the session tell, which had the given
one before them. -/
def Tells (initial : UInt32 → Option IPv4) (session : Session Kernel) : Prop :=
  ∀ id vrf, session.find? id = some vrf →
    vrf.routerId.routerId = routerIdTold id (initial id) session.events

namespace Tells

variable {initial : UInt32 → Option IPv4} {session next : Session Kernel} {id : UInt32} {vrf : Vrf}
  {events : List RoutingEvent}

/-- Silent events may be recorded, and what is not about VRFs may change. -/
theorem of_silent (tells : session.Tells initial) (silent : AreSilent events)
    (same : next.state.vrfs = session.state.vrfs) (grows : next.events = session.events ++ events) :
    next.Tells initial := by
  intro listed other isListed
  rw [find?, same] at isListed
  rw [grows, routerIdTold_append, routerIdTold_of_eq_none (silent listed)]
  exact tells listed other isListed

theorem of_eq (tells : session.Tells initial) (same : next.state.vrfs = session.state.vrfs)
    (sameEvents : next.events = session.events) : next.Tells initial :=
  tells.of_silent areSilent_nil same (by rw [sameEvents, List.append_nil])

/-- A VRF may be stored if events that are about no other VRF tell its router-id. -/
theorem stored (tells : session.Tells initial) {after : Vrf} (next : Session Kernel)
    (events : List RoutingEvent) (same : next.state.vrfs = session.state.vrfs)
    (grows : next.events = session.events ++ events)
    (found : session.find? id = some vrf)
    (own : after.routerId.routerId = routerIdTold id vrf.routerId.routerId events)
    (others : ∀ listed, id ≠ listed → lastRouterId? listed events = none) :
    (next.stored id after).Tells initial := by
  intro listed other isListed
  show _ = routerIdTold listed (initial listed) next.events
  rw [find?_stored] at isListed
  rw [grows, routerIdTold_append]
  split at isListed
  next here =>
    subst here
    obtain ⟨_, _, rfl⟩ := Option.map_eq_some_iff.1 isListed
    rw [own, tells id vrf found]
  next there =>
    rw [find?, same] at isListed
    rw [routerIdTold_of_eq_none (others listed there)]
    exact tells listed other isListed

variable [KernelBackend Kernel]

/-- A VRF may be rerouted after events were recorded that tell its router-id. -/
theorem settle (tells : session.Tells initial) (events : List RoutingEvent) {rerouted : Rerouted}
    (found : session.find? id = some vrf)
    (own : rerouted.2.routerId.routerId = routerIdTold id vrf.routerId.routerId events)
    (others : ∀ listed, id ≠ listed → lastRouterId? listed events = none) :
    ((session.recorded events).settle id rerouted).Tells initial := by
  have silent := (session.recorded events).areSilent_failures rerouted
  refine tells.stored ((session.recorded events).programmed rerouted)
    (events ++ (session.recorded events).failures rerouted) rfl (List.append_assoc _ _ _) found ?_
    fun listed other => ?_
  · rw [routerIdTold_append, routerIdTold_of_eq_none (silent id)]
    exact own
  · rw [lastRouterId?_append, silent listed, others listed other]
    rfl

/-- A VRF may be refreshed after it took settings, if they leave its router-id alone. -/
theorem resettledAt (tells : session.Tells initial) (isKeyed : session.state.vrfs.IsKeyed)
    {settings : Vrf → Vrf} (sameId : ∀ vrf, (settings vrf).id = vrf.id)
    (sameRouterId : ∀ vrf, (settings vrf).routerId = vrf.routerId) (id : UInt32) :
    (session.resettledAt settings id).Tells initial := by
  unfold Session.resettledAt
  split
  next => exact tells
  next vrf found =>
    have own : (settings vrf).id = id := (sameId vrf).trans (isKeyed id vrf found)
    refine tells.stored (session.refreshed (settings vrf)) _ rfl
      (session.events_refreshed (settings vrf)) found ?_ fun listed other => ?_
    · rw [routerId_refreshedVrf, own, sameRouterId]
    · exact lastRouterId?_refreshEvents (own ▸ other) session

/-- The same for some VRFs, one after the other. -/
theorem foldl_resettledAt (tells : session.Tells initial) (isKeyed : session.state.vrfs.IsKeyed)
    {settings : Vrf → Vrf} (sameId : ∀ vrf, (settings vrf).id = vrf.id)
    (sameRouterId : ∀ vrf, (settings vrf).routerId = vrf.routerId) (ids : List UInt32) :
    (ids.foldl (Session.resettledAt settings) session).Tells initial :=
  (List.foldlRecOn (motive := fun next : Session Kernel =>
      next.Tells initial ∧ next.state.vrfs.IsKeyed)
    ids (Session.resettledAt settings) ⟨tells, isKeyed⟩ fun _ known id _ =>
      ⟨known.1.resettledAt known.2 sameId sameRouterId id,
        isKeyed_resettledAt sameId known.2 id⟩).1

/-- Trying again what is pending changes no router-ids. -/
theorem resyncedAt (tells : session.Tells initial) (id : UInt32) :
    (session.resyncedAt id).Tells initial := by
  unfold Session.resyncedAt
  split
  next => exact tells
  next vrf found =>
    exact tells.stored (session.withKernels _) [] rfl (List.append_nil _).symm found rfl
      fun _ _ => rfl

/-- Following changes of interfaces changes router-ids only where the VRFs are refreshed. -/
theorem follow (tells : session.Tells initial) {changes : List InterfaceChange}
    (isKeyed : session.state.vrfs.IsKeyed)
    (attributed : RouterM.Attributed session.state.interfaces changes) :
    (session.follow changes).Tells initial := by
  obtain ⟨followed, keyed⟩ := foldl_followed_recOn session isKeyed attributed
    (fun next => next.Tells initial) tells
    (fun _ _ known => known.of_silent (fun _ => rfl) rfl rfl)
    fun change _ next vrf rerouted _ known found answered reroutes => by
      have same : rerouted.2.routerId = vrf.routerId :=
        Vrf.routerId_eq (Vrf.loses_reroute answered).routerId_eq reroutes.active_eq
      have settled := known.settle [] found (congrArg _ same) fun _ _ => rfl
      rwa [recorded_nil] at settled
  exact followed.foldl_resettledAt keyed (fun _ => rfl) (fun _ => rfl) _

/-- A VRF that is added has the router-id of its configuration, or the one that is recorded. -/
theorem vrfAdded (tells : session.Tells initial) {config : VrfConfig}
    (own : routerIdTold config.id (initial config.id) session.events = config.routerId) :
    (session.vrfAdded config).Tells initial := by
  have grows : (session.vrfAdded config).events = session.events ++
      (session.configureEvents config (session.freshVrf config) ++ [.vrfAdded config.name]) := by
    rw [events_vrfAdded, events_configured, List.append_assoc]
  intro id vrf found
  rw [grows, routerIdTold_append, routerIdTold_append]
  rw [find?_vrfAdded] at found
  split at found
  next here =>
    subst here
    have fresh : ((session.freshVrf config).routerId.configure config.routerId).routerId =
        config.routerId := by
      show RouterIdSelection.routerId ⟨config.routerId, none⟩ = _
      cases config.routerId <;> rfl
    rw [← Option.some.inj found, routerId_configuredVrf, own, fresh]
    rfl
  next there =>
    rw [routerIdTold_of_eq_none (lastRouterId?_configureEvents there config session)]
    exact tells id vrf found

theorem vrfRemoved (tells : session.Tells initial) (name : String) (removed : UInt32)
    (vrf : Vrf) : (session.vrfRemoved name removed vrf).Tells initial := by
  let left := session.withVrfs ⟨session.state.vrfs.byId.erase removed,
    session.state.vrfs.idByName.filter fun _ own => own ≠ removed⟩
  have silent : AreSilent (left.failures vrf.purge ++ [.vrfRemoved name]) :=
    (left.areSilent_failures vrf.purge).append fun _ => rfl
  have grows : (session.vrfRemoved name removed vrf).events =
      session.events ++ (left.failures vrf.purge ++ [.vrfRemoved name]) :=
    List.append_assoc _ _ _
  intro id other found
  rw [find?_vrfRemoved] at found
  split at found
  next => cases found
  next =>
    rw [grows, routerIdTold_append, routerIdTold_of_eq_none (silent id)]
    exact tells id other found

theorem limited (tells : session.Tells initial) (isKeyed : session.state.vrfs.IsKeyed)
    (config : EcmpConfig) : (session.limited config).Tells initial := by
  have sameId : ∀ vrf : Vrf, (vrf.setMaxPaths config.maxPaths).id = vrf.id := fun _ => rfl
  have sameRouterId : ∀ vrf : Vrf, (vrf.setMaxPaths config.maxPaths).routerId = vrf.routerId :=
    fun _ => rfl
  have limits := tells.foldl_resettledAt isKeyed sameId sameRouterId session.state.vrfs.ids
  exact limits.of_eq rfl rfl

end Tells

end Session

/-! ### Operations that succeed -/

/-- The events that an operation on a VRF records are about no other VRF. -/
theorem VrfOperation.lastRouterId?_other {state : RoutingState Kernel} {id listed : UInt32}
    {vrf : Vrf} {operation : Operation} {events : List RoutingEvent} {rerouted : Rerouted}
    (performs : VrfOperation state id vrf operation events rerouted) (other : vrf.id ≠ listed) :
    lastRouterId? listed events = none := by
  cases performs with
  | routerIdSet => exact lastRouterId?_routerIdChange other _ _
  | _ => rfl

/-- The events that an operation on a VRF records tell the router-id of the VRF after it. -/
theorem VrfOperation.routerId_eq {state : RoutingState Kernel} {id : UInt32} {vrf : Vrf}
    {operation : Operation} {events : List RoutingEvent} {rerouted : Rerouted}
    (performs : VrfOperation state id vrf operation events rerouted) :
    rerouted.2.routerId.routerId = routerIdTold vrf.id vrf.routerId.routerId events := by
  have sameActive := performs.reroutes.active_eq
  have sameConfigured := congrArg VrfSettings.routerId performs.settings_eq
  cases performs with
  | routerIdSet => exact (routerIdTold_routerIdChange _ _ _).symm
  | @staticRemoved route =>
    have operated : (vrf.settings.operated (.removeStatic id route)).routerId =
        vrf.settings.routerId := by
      simp only [VrfSettings.operated]
      split <;> rfl
    exact congrArg _ (Vrf.routerId_eq (sameConfigured.trans operated) sameActive)
  | _ => exact congrArg _ (Vrf.routerId_eq sameConfigured sameActive)

/-- The router-id of the configuration that an operation creates a VRF with. -/
def Operation.givenRouterId : Operation → Option IPv4
  | addVrf config => config.routerId
  | _ => none

/-- The router-id that the VRF of an id has before an operation, or is created with by it. -/
def Session.initialRouterId (session : Session Kernel) (operation : Operation) (id : UInt32) :
    Option IPv4 :=
  (session.find? id).elim operation.givenRouterId fun vrf => vrf.routerId.routerId

theorem Session.tells_initialRouterId {session : Session Kernel} (isStart : session.events = [])
    (operation : Operation) : session.Tells (session.initialRouterId operation) := by
  intro id vrf found
  rw [isStart, Session.initialRouterId, found]
  rfl

variable [KernelBackend Kernel] {before after : Session Kernel} {operation : Operation}

/-- An operation on an interface tells the router-ids after it. -/
theorem InterfaceOperation.tells {changes : List InterfaceChange} {table : InterfaceTable}
    {initial : UInt32 → Option IPv4}
    (performs : InterfaceOperation before.state operation changes table)
    (isKeyed : before.state.IsKeyed) (tells : before.Tells initial) :
    ((before.withInterfaces table).follow changes).Tells initial := by
  have moved : (before.withInterfaces table).Tells initial := tells.of_eq rfl rfl
  exact moved.follow isKeyed.vrfs (performs.accounts isKeyed.interfaces).attributed

/-- The events of an operation that succeeds tell the router-ids after it. -/
theorem Changes.tells (changes : Changes before (.perform operation) after)
    (isKeyed : before.state.IsKeyed) (isStart : before.events = []) :
    after.Tells (before.initialRouterId operation) := by
  have start := Session.tells_initialRouterId isStart operation
  cases changes with
  | @rerouted _ id vrf events rerouted found performs =>
    have own : vrf.id = id := isKeyed.vrfs id vrf found
    refine start.settle events found ?_ fun listed other => ?_
    · rw [performs.routerId_eq, own]
    · exact performs.lastRouterId?_other (own ▸ other)
  | followed performs => exact performs.tells isKeyed start
  | @vrfAdded config kernels idFree =>
    have opening : (before.withKernels kernels).Tells
        (before.initialRouterId (.addVrf config)) := start.of_eq rfl rfl
    refine opening.vrfAdded ?_
    show routerIdTold config.id (before.initialRouterId _ config.id) before.events = _
    rw [isStart, Session.initialRouterId, idFree]
    rfl
  | vrfRemoved => exact start.vrfRemoved _ _ _
  | @limited config => exact start.limited isKeyed.vrfs config
  | resynced =>
    exact List.foldlRecOn (motive := fun next : Session Kernel => next.Tells _) _ _ start
      fun _ known id _ => known.resyncedAt id

/-! ### Operations that fail -/

omit [KernelBackend Kernel] in
theorem AreRejections.areSilent {events : List RoutingEvent} (rejections : AreRejections events) :
    AreSilent events := fun id =>
  lastRouterId?_eq_none_iff.2 fun event member => by
    obtain ⟨reason, rfl⟩ := rejections event member
    rfl

omit [KernelBackend Kernel] in
/-- An operation that fails changes no router-id, and its events tell none. -/
theorem Refused.tells (refused : Refused before after) (isStart : before.events = [])
    (operation : Operation) : after.Tells (before.initialRouterId operation) := by
  have start := Session.tells_initialRouterId isStart operation
  cases refused with
  | recorded events rejections => exact start.of_silent rejections.areSilent rfl rfl
  | published events rejections => exact start.of_silent rejections.areSilent rfl rfl
  | opened _ events rejections => exact start.of_silent rejections.areSilent rfl rfl

end ControlPlane
