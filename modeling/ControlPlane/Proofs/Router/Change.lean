/-
This file lists what an operation can do to a router. An operation that succeeds
changes the routes or settings of one VRF, follows an event on the interfaces,
adds or removes a VRF, limits the paths of all VRFs, or programs pending prefixes
again. Each case says under which checks it happens and what the session is
afterwards. An operation that fails changes no routes, and records nothing but the
configuration that it refuses.
-/

import ControlPlane.Proofs.Router.Session
import ControlPlane.Proofs.Validation

namespace ControlPlane

/-! ### Sessions of whole operations -/

/-- A VRF with the settings of a configuration, before its static routes are added. -/
def Vrf.withSettings (config : VrfConfig) (vrf : Vrf) : Vrf :=
  ((vrf.setDistance config.distance).setBgp config.bgp).configureRouterId config.routerId

namespace Session

variable {Kernel : Type} [KernelBackend Kernel]

/-- The deltas of a VRF when it takes a configuration. -/
def configuring (config : VrfConfig) (vrf : Vrf) (session : Session Kernel) : Rerouted :=
  Vrf.inTurn (Vrf.addStatic (session.state.interfaces.resolver vrf.id)) config.staticRoutes
    (vrf.withSettings config)

/-- The VRF after it took a configuration. -/
def configuredVrf (config : VrfConfig) (vrf : Vrf) (session : Session Kernel) : Vrf :=
  (session.programmed (session.configuring config vrf)).refreshedVrf
    (session.programmedVrf (session.configuring config vrf))

/-- The session after a VRF took a configuration. -/
def configured (config : VrfConfig) (vrf : Vrf) (session : Session Kernel) : Session Kernel :=
  (session.programmed (session.configuring config vrf)).refreshed
    (session.programmedVrf (session.configuring config vrf))

/-- A VRF before it takes its configuration. -/
def freshVrf (config : VrfConfig) (session : Session Kernel) : Vrf :=
  (Vrf.create config.name config.id (config.netns.getD config.name)
    session.state.attempts).setMaxPaths session.state.ecmp.maxPaths

/-- The session after a VRF was added. -/
def vrfAdded (config : VrfConfig) (session : Session Kernel) : Session Kernel :=
  let vrf := session.freshVrf config
  let next := session.configured config vrf
  (next.withVrfs
    ⟨next.state.vrfs.byId.insert config.id (session.configuredVrf config vrf),
      next.state.vrfs.idByName.insert config.name config.id⟩).recorded [.vrfAdded config.name]

omit [KernelBackend Kernel] in
/-- A VRF that takes a configuration is rerouted in one of the known ways. -/
theorem reroutes_configuring (config : VrfConfig) (vrf : Vrf) (session : Session Kernel) :
    Vrf.Reroutes (session.state.interfaces.resolver vrf.id) (vrf.withSettings config)
      (session.configuring config vrf) :=
  Vrf.reroutes_inTurn (fun _ _ => Vrf.reroutes_addStatic _ _) _ _

theorem name_configuredVrf (config : VrfConfig) (vrf : Vrf) (session : Session Kernel) :
    (session.configuredVrf config vrf).name = vrf.name :=
  (reroutes_configuring config vrf session).name_eq

theorem id_configuredVrf (config : VrfConfig) (vrf : Vrf) (session : Session Kernel) :
    (session.configuredVrf config vrf).id = vrf.id :=
  (reroutes_configuring config vrf session).id_eq

/-- A VRF can be added whose name and id are free. -/
theorem add_configuredVrf {config : VrfConfig} (session : Session Kernel)
    (idFree : session.find? config.id = none)
    (nameFree : session.state.vrfs.idByName.find? config.name = none) :
    session.state.vrfs.add (session.configuredVrf config (session.freshVrf config)) =
      .ok ⟨session.state.vrfs.byId.insert config.id
          (session.configuredVrf config (session.freshVrf config)),
        session.state.vrfs.idByName.insert config.name config.id⟩ := by
  have sameName : (session.configuredVrf config (session.freshVrf config)).name = config.name :=
    name_configuredVrf config _ session
  have sameId : (session.configuredVrf config (session.freshVrf config)).id = config.id :=
    id_configuredVrf config _ session
  rw [find?] at idFree
  simp only [VrfTable.add, VrfTable.contains, SortedMap.contains, sameName, sameId, idFree,
    nameFree, Option.isSome_none, Bool.false_eq_true, if_false]

/-- The new VRF is listed, and all others are as they were. -/
theorem find?_vrfAdded (config : VrfConfig) (session : Session Kernel) (listed : UInt32) :
    (session.vrfAdded config).find? listed =
      if config.id = listed then some (session.configuredVrf config (session.freshVrf config))
      else session.find? listed :=
  SortedMap.find?_insert session.state.vrfs.byId config.id listed _

/-- The session after a VRF was removed. -/
def vrfRemoved (name : String) (id : UInt32) (vrf : Vrf) (session : Session Kernel) :
    Session Kernel :=
  ((session.withVrfs
    ⟨session.state.vrfs.byId.erase id,
      session.state.vrfs.idByName.filter fun _ own => own ≠ id⟩).programmed vrf.purge).recorded
        [.vrfRemoved name]

/-- The removed VRF is not listed, and all others are as they were. -/
theorem find?_vrfRemoved (name : String) (id : UInt32) (vrf : Vrf) (session : Session Kernel)
    (listed : UInt32) :
    (session.vrfRemoved name id vrf).find? listed =
      if id = listed then none else session.find? listed :=
  SortedMap.find?_erase session.state.vrfs.byId id listed

/-- The session after the VRF of an id took a limit on paths, if it exists. -/
abbrev limitedAt (maxPaths : Option UInt16) : Session Kernel → UInt32 → Session Kernel :=
  resettledAt fun vrf => vrf.setMaxPaths maxPaths

/-- The session after all VRFs took the limit on paths. -/
def limited (config : EcmpConfig) (session : Session Kernel) : Session Kernel :=
  let next := session.state.vrfs.ids.foldl (limitedAt config.maxPaths) session
  { next with state := { next.state with ecmp := config } }

/-- What becomes of the synchronizer of a VRF and of its kernel when pending prefixes are tried
again. -/
def retrying (vrf : Vrf) (session : Session Kernel) : Programmed Kernel :=
  (Programmed.mk vrf.sync (session.state.kernels.kernel vrf.netns)).retryPending

/-- The session after the pending prefixes of the VRF of an id were tried again, if it exists. -/
def resyncedAt (session : Session Kernel) (id : UInt32) : Session Kernel :=
  match session.find? id with
  | none => session
  | some vrf =>
    (session.withKernels
      (session.state.kernels.store (session.retrying vrf).sync.netns
        (session.retrying vrf).kernel)).stored id
        { vrf with sync := (session.retrying vrf).sync }

end Session

/-! ### What operations do -/

section Operations

variable {Kernel : Type}

/-- What an operation on one VRF does: the events that it records, and the deltas with the VRF
after them. -/
inductive VrfOperation (state : RoutingState Kernel) (id : UInt32) (vrf : Vrf) :
    Operation → List RoutingEvent → Rerouted → Prop
  | announced {candidate : Candidate} {rerouted : Rerouted}
      (checked : RouterM.checkCandidate candidate = .ok ()) (own : candidate.vrf = id)
      (answered : vrf.announce (state.interfaces.resolver id) candidate = .ok rerouted) :
      VrfOperation state id vrf (.announce candidate) [] rerouted
  | withdrawn (destination : Prefix) (origin : Origin) :
      VrfOperation state id vrf (.withdraw id destination origin) []
        (vrf.withdraw (state.interfaces.resolver id) destination origin)
  | instanceWithdrawn (destination : Prefix) (origin : Origin) (inst : UInt32) :
      VrfOperation state id vrf (.withdrawInstance id destination origin inst) []
        (vrf.withdrawInstance (state.interfaces.resolver id) destination origin inst)
  | staticAdded {route : StaticRoute}
      (checked : route.validate (state.interfaces.localAddresses id) = .ok ()) :
      VrfOperation state id vrf (.addStatic id route) []
        (vrf.addStatic (state.interfaces.resolver id) route)
  | staticRemoved {route : StaticRoute} {rerouted : Rerouted}
      (answered : vrf.removeStatic (state.interfaces.resolver id) route = .ok rerouted) :
      VrfOperation state id vrf (.removeStatic id route) [] rerouted
  | bgpSet {config : BgpConfig} (checked : BgpConfig.checkInstance vrf.bgp config = .ok ()) :
      VrfOperation state id vrf (.setBgp id config) []
        ((vrf.setBgp (some config)).refresh (state.interfaces.resolver id))
  | bgpRemoved :
      VrfOperation state id vrf (.removeBgp id) []
        ((vrf.setBgp none).refresh (state.interfaces.resolver id))
  | distanceSet {config : DistanceConfig} (checked : config.validate = .ok ()) :
      VrfOperation state id vrf (.setDistance id config) [] ([], vrf.setDistance config)
  | routerIdSet {routerId : Option IPv4} (checked : checkRouterId routerId = .ok ()) :
      VrfOperation state id vrf (.setRouterId id routerId)
        (if (vrf.configureRouterId routerId).routerId.routerId ≠ vrf.routerId.routerId then
          [.routerIdChanged vrf.id (vrf.configureRouterId routerId).routerId.routerId] else [])
        ([], vrf.configureRouterId routerId)

/-- What an operation on an interface answers: the changes and the table after them. -/
inductive InterfaceOperation (state : RoutingState Kernel) :
    Operation → List InterfaceChange → InterfaceTable → Prop
  | added {config : InterfaceConfig} {id : UInt32} {changes : List InterfaceChange}
      {after : InterfaceTable} (checked : config.validate = .ok ())
      (named : state.vrfs.idOf config.vrf = .ok id)
      (answered : state.interfaces.appear (Interface.ofConfig config id) = .ok (changes, after)) :
      InterfaceOperation state (.addInterface config) changes after
  | removed {name : String} {interface : Interface} {changes : List InterfaceChange}
      {after : InterfaceTable}
      (answered : state.interfaces.disappear name = .ok (interface, changes, after)) :
      InterfaceOperation state (.removeInterface name) changes after
  | adminSet {name : String} {isUp : Bool} {changes : List InterfaceChange}
      {after : InterfaceTable}
      (answered : state.interfaces.setAdmin name isUp = .ok (changes, after)) :
      InterfaceOperation state (.setAdmin name isUp) changes after
  | operSet {name : String} {isUp : Bool} {changes : List InterfaceChange}
      {after : InterfaceTable}
      (answered : state.interfaces.setOper name isUp = .ok (changes, after)) :
      InterfaceOperation state (.setOper name isUp) changes after
  | routingSet {name : String} {routes : Bool} {changes : List InterfaceChange}
      {after : InterfaceTable}
      (answered : state.interfaces.setRouting name routes = .ok (changes, after)) :
      InterfaceOperation state (.setRouting name routes) changes after
  | addressAdded {name : String} {network : Network} {changes : List InterfaceChange}
      {after : InterfaceTable} (checked : checkInterfaceAddress name network = .ok ())
      (answered : state.interfaces.addAddress name network = .ok (changes, after)) :
      InterfaceOperation state (.addAddress name network) changes after
  | addressRemoved {name : String} {network : Network} {changes : List InterfaceChange}
      {after : InterfaceTable}
      (answered : state.interfaces.removeAddress name network = .ok (changes, after)) :
      InterfaceOperation state (.removeAddress name network) changes after
  | moved {name vrf : String} {id : UInt32} {changes : List InterfaceChange}
      {after : InterfaceTable} (named : state.vrfs.idOf vrf = .ok id)
      (answered : state.interfaces.moveTo name id = .ok (changes, after)) :
      InterfaceOperation state (.moveInterface name vrf) changes after

/-- An operation on a VRF moves its routes in one of the known ways. -/
theorem VrfOperation.reroutes {state : RoutingState Kernel} {id : UInt32} {vrf : Vrf}
    {operation : Operation} {events : List RoutingEvent} {rerouted : Rerouted}
    (performs : VrfOperation state id vrf operation events rerouted) :
    Vrf.Reroutes (state.interfaces.resolver id) vrf rerouted := by
  cases performs with
  | announced _ _ answered => exact Vrf.reroutes_announce answered
  | withdrawn => exact Vrf.reroutes_withdraw _ _
  | instanceWithdrawn => exact Vrf.reroutes_withdrawInstance _ _ _
  | staticAdded => exact Vrf.reroutes_addStatic _ _
  | staticRemoved answered => exact Vrf.reroutes_removeStatic answered
  | bgpSet checked =>
    have valid := BgpConfig.validate_of_checkInstance checked
    refine .refreshed (.of_ribs rfl rfl rfl rfl) rfl rfl fun isOpen => ⟨isOpen.maxPaths, ?_⟩
    exact fun closed => BgpConfig.maximumPaths_ne_of_validate valid (Option.some.inj closed)
  | bgpRemoved =>
    exact .refreshed (.of_ribs rfl rfl rfl rfl) rfl rfl fun isOpen => ⟨isOpen.maxPaths, nofun⟩
  | distanceSet => exact .configured (.of_ribs rfl rfl rfl rfl) rfl rfl rfl
  | routerIdSet => exact .configured (.of_ribs rfl rfl rfl rfl) rfl rfl rfl

/-- The changes that an operation on an interface answers account for all that it does. -/
theorem InterfaceOperation.accounts {state : RoutingState Kernel} {operation : Operation}
    {changes : List InterfaceChange} {after : InterfaceTable}
    (performs : InterfaceOperation state operation changes after)
    (isKeyed : state.interfaces.IsKeyed) :
    InterfaceTable.Accounts changes state.interfaces after := by
  cases performs with
  | added _ _ answered => exact InterfaceTable.accounts_appear isKeyed answered
  | removed answered => exact InterfaceTable.accounts_disappear isKeyed answered
  | adminSet answered => exact InterfaceTable.accounts_setAdmin isKeyed answered
  | operSet answered => exact InterfaceTable.accounts_setOper isKeyed answered
  | routingSet answered => exact InterfaceTable.accounts_setRouting isKeyed answered
  | addressAdded _ answered => exact InterfaceTable.accounts_addAddress isKeyed answered
  | addressRemoved answered => exact InterfaceTable.accounts_removeAddress isKeyed answered
  | moved _ answered => exact InterfaceTable.accounts_moveTo isKeyed answered

/-- The changes that an operation on an interface answers name VRFs in which it changes one. -/
theorem InterfaceOperation.areFounded {state : RoutingState Kernel} {operation : Operation}
    {changes : List InterfaceChange} {after : InterfaceTable}
    (performs : InterfaceOperation state operation changes after) :
    InterfaceTable.AreFounded changes state.interfaces after := by
  cases performs with
  | added _ _ answered => exact InterfaceTable.areFounded_appear answered
  | removed answered => exact InterfaceTable.areFounded_disappear answered
  | adminSet answered => exact InterfaceTable.areFounded_setAdmin answered
  | operSet answered => exact InterfaceTable.areFounded_setOper answered
  | routingSet answered => exact InterfaceTable.areFounded_setRouting answered
  | addressAdded _ answered => exact InterfaceTable.areFounded_addAddress answered
  | addressRemoved answered => exact InterfaceTable.areFounded_removeAddress answered
  | moved _ answered => exact InterfaceTable.areFounded_moveTo answered

/-- The configuration of a VRF is accepted. -/
structure AcceptsVrf (state : RoutingState Kernel) (vrf : Vrf) (config : VrfConfig) : Prop where
  valid : config.validate (state.interfaces.localAddresses vrf.id) = .ok ()
  instance_ok : ∀ bgp, config.bgp = some bgp → BgpConfig.checkInstance vrf.bgp bgp = .ok ()

/-- A step of a router: an operation, or settings for the default VRF while the router is built
up. -/
inductive Action
  | perform (operation : Operation)
  | configureDefault (config : VrfConfig)

variable [KernelBackend Kernel]

/-- What a step that succeeds makes of a session, before its outcome is published. -/
inductive Changes (before : Session Kernel) : Action → Session Kernel → Prop
  | rerouted {operation : Operation} {id : UInt32} {vrf : Vrf} {events : List RoutingEvent}
      {rerouted : Rerouted} (found : before.find? id = some vrf)
      (performs : VrfOperation before.state id vrf operation events rerouted) :
      Changes before (.perform operation) ((before.recorded events).settle id rerouted)
  | followed {operation : Operation} {changes : List InterfaceChange} {after : InterfaceTable}
      (performs : InterfaceOperation before.state operation changes after) :
      Changes before (.perform operation) ((before.withInterfaces after).follow changes)
  | vrfAdded {config : VrfConfig} {kernels : KernelSpace Kernel}
      (idFree : before.find? config.id = none)
      (nameFree : before.state.vrfs.idByName.find? config.name = none)
      (opened : before.state.kernels.openNamespace (config.netns.getD config.name) = .ok kernels)
      (accepts : AcceptsVrf before.state (before.freshVrf config) config) :
      Changes before (.perform (.addVrf config)) ((before.withKernels kernels).vrfAdded config)
  | vrfRemoved {name : String} {id : UInt32} {vrf : Vrf}
      (named : before.state.vrfs.idByName.find? name = some id) (notDefault : id ≠ defaultVrfId)
      (idle : before.state.interfaces.attachedTo id = []) (found : before.find? id = some vrf) :
      Changes before (.perform (.removeVrf name)) (before.vrfRemoved name id vrf)
  | limited {config : EcmpConfig} (checked : config.validate = .ok ()) :
      Changes before (.perform (.setEcmp config)) (before.limited config)
  | resynced : Changes before (.perform .resync)
      (before.state.vrfs.ids.foldl Session.resyncedAt before)
  | defaultConfigured {config : VrfConfig} {vrf : Vrf}
      (found : before.find? defaultVrfId = some vrf)
      (accepts : AcceptsVrf before.state vrf config) :
      Changes before (.configureDefault config)
        ((before.configured config vrf).stored defaultVrfId (before.configuredVrf config vrf))

/-- The events report nothing but refused configurations. -/
def AreRejections (events : List RoutingEvent) : Prop :=
  ∀ event ∈ events, ∃ reason, event = .configRejected reason

theorem areRejections_nil : AreRejections [] := nofun

theorem areRejections_singleton (reason : String) : AreRejections [.configRejected reason] :=
  fun _ member => ⟨reason, List.mem_singleton.1 member⟩

/-- What a step that fails makes of a session: a refused configuration may be recorded, the outcome
may be published, and a namespace may have been opened. -/
inductive Refused (before : Session Kernel) : Session Kernel → Prop
  | recorded (events : List RoutingEvent) (rejections : AreRejections events) :
      Refused before (before.recorded events)
  | published (events : List RoutingEvent) (rejections : AreRejections events) :
      Refused before (before.recorded events).published
  | opened {netns : String} {kernels : KernelSpace Kernel}
      (opened : before.state.kernels.openNamespace netns = .ok kernels)
      (events : List RoutingEvent) (rejections : AreRejections events) :
      Refused before ((before.withKernels kernels).recorded events).published

omit [KernelBackend Kernel] in
theorem refused_published (before : Session Kernel) : Refused before before.published := by
  have published : Refused before (before.recorded []).published :=
    .published [] areRejections_nil
  rwa [Session.recorded_nil] at published

end Operations

end ControlPlane
