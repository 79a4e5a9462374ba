/-
This file says when a VRF routes through itself: when a static route of it goes
through an address of one of its own interfaces. No such static route is accepted,
neither alone nor with a configuration. But an address may come to a VRF that goes
through it already, with an interface that appears or moves, or as one address more.
It is proved that a VRF comes to route through itself in no other way, so that a
router never does whose interfaces are only given addresses that are nobody's
gateway, and shown that nothing refuses the other addresses.
-/

import ControlPlane.Proofs.Router.OfConfig
import ControlPlane.Proofs.Router.SettingsStep

namespace ControlPlane

/-! ### Gateways of static routes -/

/-- A static route of the table has the gateway. -/
def StaticTable.GoesThrough (table : StaticTable) (gateway : Address) : Prop :=
  ∃ route ∈ table.configs, route.nextHop.gateway? = some gateway

instance (table : StaticTable) (gateway : Address) : Decidable (table.GoesThrough gateway) :=
  inferInstanceAs (Decidable (∃ route ∈ table.configs, route.nextHop.gateway? = some gateway))

namespace StaticTable

variable {table : StaticTable} {gateway : Address}

/-- The static routes of a prefix are its next hops. -/
theorem goesThrough_iff : table.GoesThrough gateway ↔ ∃ destination nextHop distance,
    (table.hopsOf destination).find? nextHop = some distance ∧
      nextHop.gateway? = some gateway := by
  constructor
  · rintro ⟨route, configured, goes⟩
    obtain ⟨⟨destination, hops⟩, listed, isHop⟩ := List.mem_flatMap.1 configured
    obtain ⟨⟨nextHop, distance⟩, member, rfl⟩ := List.mem_map.1 isHop
    have hopsOf : table.hopsOf destination = hops := by
      rw [StaticTable.hopsOf, SortedMap.find?_eq_some_iff.2 listed, Option.getD_some]
    exact ⟨destination, nextHop, distance, hopsOf ▸ SortedMap.find?_eq_some_iff.2 member, goes⟩
  · rintro ⟨destination, nextHop, distance, configured, goes⟩
    cases found : table.routes.find? destination with
    | none =>
      rw [hopsOf, found] at configured
      cases configured
    | some hops =>
      rw [hopsOf, found, Option.getD_some] at configured
      refine ⟨⟨destination.network, nextHop, distance⟩, List.mem_flatMap.2
        ⟨(destination, hops), SortedMap.find?_eq_some_iff.1 found, ?_⟩, goes⟩
      exact List.mem_map_of_mem (SortedMap.find?_eq_some_iff.1 configured)

/-- A table that lacks static routes goes through no other gateway. -/
theorem Loses.goesThrough {after : StaticTable} (loses : table.Loses after)
    (goes : after.GoesThrough gateway) : table.GoesThrough gateway := by
  obtain ⟨destination, nextHop, distance, configured, isGateway⟩ := goesThrough_iff.1 goes
  exact goesThrough_iff.2
    ⟨destination, nextHop, distance, loses destination nextHop distance configured, isGateway⟩

/-- With a static route comes its own gateway. -/
theorem goesThrough_of_add {route : StaticRoute} (goes : (table.add route).2.GoesThrough gateway) :
    table.GoesThrough gateway ∨ route.nextHop.gateway? = some gateway := by
  obtain ⟨destination, nextHop, distance, configured, isGateway⟩ := goesThrough_iff.1 goes
  rw [hopsOf_add] at configured
  split at configured
  · rw [SortedMap.find?_insert] at configured
    split at configured
    next same => exact .inr (same ▸ isGateway)
    next => exact .inl (goesThrough_iff.2 ⟨_, nextHop, distance, configured, isGateway⟩)
  · exact .inl (goesThrough_iff.2 ⟨destination, nextHop, distance, configured, isGateway⟩)

/-- With static routes come their own gateways. -/
theorem goesThrough_of_addAll {routes : List StaticRoute}
    (goes : (table.addAll routes).GoesThrough gateway) :
    table.GoesThrough gateway ∨ ∃ route ∈ routes, route.nextHop.gateway? = some gateway := by
  induction routes generalizing table with
  | nil => exact .inl goes
  | cons route rest inductionHypothesis =>
    rcases inductionHypothesis goes with added | ⟨later, member, isGateway⟩
    · rcases goesThrough_of_add added with known | isGateway
      · exact .inl known
      · exact .inr ⟨route, List.mem_cons_self, isGateway⟩
    · exact .inr ⟨later, List.mem_cons_of_mem _ member, isGateway⟩

end StaticTable

/-- A static route through a local address is not valid. -/
theorem StaticRoute.notMem_of_validate {localAddresses : List Address} {route : StaticRoute}
    {gateway : Address} (valid : route.validate localAddresses = .ok ())
    (goes : route.nextHop.gateway? = some gateway) : gateway ∉ localAddresses := by
  obtain ⟨_, valid⟩ := ConfigResult.bind_eq_ok_iff.1 valid
  obtain ⟨_, valid⟩ := ConfigResult.guard_eq_ok_iff.1 valid
  cases hop : route.nextHop with
  | interface name =>
    rw [hop] at goes
    cases goes
  | gateway address pinned =>
    rw [hop] at goes valid
    cases goes
    obtain ⟨_, valid⟩ := ConfigResult.guard_eq_ok_iff.1 valid
    obtain ⟨_, valid⟩ := ConfigResult.bind_eq_ok_iff.1 valid
    intro isLocal
    simp only [List.contains_iff_mem.2 isLocal, if_true] at valid
    cases valid

/-! ### Addresses of interfaces -/

namespace InterfaceTable

variable {table after : InterfaceTable} {id : UInt32} {address : Address}

theorem mem_localAddresses_iff : address ∈ table.localAddresses id ↔ ∃ name interface,
    table.find? name = some interface ∧ interface.vrf = id ∧
      address ∈ interface.networks.map Network.address := by
  constructor
  · intro isLocal
    obtain ⟨interface, attached, isOwn⟩ := List.mem_flatMap.1 isLocal
    obtain ⟨listed, isHere⟩ := List.mem_filter.1 attached
    obtain ⟨name, found⟩ := SortedMap.mem_values_iff.1 listed
    exact ⟨name, interface, found, of_decide_eq_true isHere, isOwn⟩
  · rintro ⟨name, interface, found, isHere, isOwn⟩
    have listed : interface ∈ table.interfaces := SortedMap.mem_values_iff.2 ⟨name, found⟩
    exact List.mem_flatMap.2
      ⟨interface, List.mem_filter.2 ⟨listed, decide_eq_true isHere⟩, isOwn⟩

/-- States of interfaces do not matter to the addresses. -/
theorem mem_localAddresses_of_restated (restated : Restated table after)
    (isLocal : address ∈ after.localAddresses id) : address ∈ table.localAddresses id := by
  obtain ⟨name, interface, found, isHere, isOwn⟩ := mem_localAddresses_iff.1 isLocal
  obtain ⟨earlier, foundEarlier, same⟩ := restated.exists_before found
  rw [same] at isHere isOwn
  exact mem_localAddresses_iff.2 ⟨name, earlier, foundEarlier, isHere, isOwn⟩

/-- An address of an interface that was changed in place is an address of before, or it is one
that the interface has in its VRF since. -/
theorem mem_localAddresses_of_modify {name : String} {change : Interface → Interface}
    (isLocal : address ∈ (table.modify name change).localAddresses id) :
    address ∈ table.localAddresses id ∨ ∃ interface, table.find? name = some interface ∧
      (change interface).vrf = id ∧ address ∈ (change interface).networks.map Network.address := by
  obtain ⟨listed, interface, found, isHere, isOwn⟩ := mem_localAddresses_iff.1 isLocal
  rw [find?_modify] at found
  split at found
  next here =>
    obtain ⟨earlier, foundEarlier, rfl⟩ := Option.map_eq_some_iff.1 found
    exact .inr ⟨earlier, here ▸ foundEarlier, isHere, isOwn⟩
  next => exact .inl (mem_localAddresses_iff.2 ⟨listed, interface, found, isHere, isOwn⟩)

end InterfaceTable

/-! ### What gives a VRF an address -/

/-- The operation gives a VRF an address: with an interface that appears in it, on an interface
that is attached to it, or with an interface that moves to it. -/
def Operation.Gives {Kernel : Type} (state : RoutingState Kernel) (id : UInt32)
    (address : Address) : Operation → Prop
  | .addInterface config =>
    state.vrfs.idOf config.vrf = .ok id ∧ address ∈ config.addresses.map Network.address
  | .addAddress name network =>
    network.address = address ∧
      ∃ interface, state.interfaces.find? name = some interface ∧ interface.vrf = id
  | .moveInterface name vrf =>
    state.vrfs.idOf vrf = .ok id ∧ ∃ interface, state.interfaces.find? name = some interface ∧
      interface.vrf ≠ id ∧ address ∈ interface.networks.map Network.address
  | _ => False

/-- The operation is one that gives addresses. Settings that a router takes while it is built up
give none. -/
def Action.Gives {Kernel : Type} (state : RoutingState Kernel) (id : UInt32) (address : Address) :
    Action → Prop
  | .perform operation => operation.Gives state id address
  | .configureDefault _ => False

/-- An address that a VRF has after an operation on an interface it had before, or the operation
gave it. -/
theorem InterfaceOperation.mem_localAddresses {Kernel : Type} {state : RoutingState Kernel}
    {operation : Operation} {changes : List InterfaceChange} {after : InterfaceTable}
    {id : UInt32} {address : Address} (performs : InterfaceOperation state operation changes after)
    (isLocal : address ∈ after.localAddresses id) :
    address ∈ state.interfaces.localAddresses id ∨ operation.Gives state id address := by
  cases performs with
  | @added config own _ _ _ named answered =>
    obtain ⟨between, added, restates, _⟩ := InterfaceTable.appear_cases answered
    obtain ⟨name, interface, found, isHere, isOwn⟩ := InterfaceTable.mem_localAddresses_iff.1
      (InterfaceTable.mem_localAddresses_of_restated restates.same isLocal)
    rw [(InterfaceTable.find?_of_add added).2] at found
    split at found
    · cases found
      obtain ⟨network, listed, same⟩ := List.mem_map.1 isOwn
      exact .inr ⟨isHere ▸ named,
        List.mem_map.2 ⟨network, SortedSet.mem_keys_ofList.1 listed, same⟩⟩
    · exact .inl (InterfaceTable.mem_localAddresses_iff.2 ⟨name, interface, found, isHere, isOwn⟩)
  | @removed name interface _ _ answered =>
    obtain ⟨_, restates, _⟩ := InterfaceTable.disappear_cases answered
    obtain ⟨listed, other, found, isHere, isOwn⟩ := InterfaceTable.mem_localAddresses_iff.1
      (InterfaceTable.mem_localAddresses_of_restated restates.same isLocal)
    rw [InterfaceTable.find?_without] at found
    split at found
    · cases found
    · exact .inl (InterfaceTable.mem_localAddresses_iff.2 ⟨listed, other, found, isHere, isOwn⟩)
  | adminSet answered =>
    have restated := (InterfaceTable.restated_setAdmin answered).2
    exact .inl (InterfaceTable.mem_localAddresses_of_restated restated isLocal)
  | operSet answered =>
    have restated := (InterfaceTable.restated_setOper answered).2
    exact .inl (InterfaceTable.mem_localAddresses_of_restated restated isLocal)
  | routingSet answered =>
    have restated := (InterfaceTable.restated_setRouting answered).2
    exact .inl (InterfaceTable.mem_localAddresses_of_restated restated isLocal)
  | @addressAdded name network _ _ _ answered =>
    obtain ⟨_, _, ⟨_, _, rfl⟩ | ⟨_, _, rfl⟩⟩ := InterfaceTable.addAddress_cases answered
    · exact .inl isLocal
    · rcases InterfaceTable.mem_localAddresses_of_modify isLocal with
        known | ⟨interface, found, isHere, isOwn⟩
      · exact .inl known
      · obtain ⟨listed, member, same⟩ := List.mem_map.1 isOwn
        obtain ⟨_, has⟩ := SortedMap.mem_keys_iff.1 member
        rw [SortedMap.find?_insert] at has
        split at has
        next here => exact .inr ⟨here ▸ same, interface, found, isHere⟩
        next =>
          refine .inl (InterfaceTable.mem_localAddresses_iff.2 ⟨name, interface, found, isHere, ?_⟩)
          exact List.mem_map.2 ⟨listed, SortedMap.mem_keys_iff.2 ⟨_, has⟩, same⟩
  | @addressRemoved name network _ _ answered =>
    obtain ⟨_, _, ⟨_, _, rfl⟩ | ⟨_, _, rfl⟩⟩ := InterfaceTable.removeAddress_cases answered
    · exact .inl isLocal
    · rcases InterfaceTable.mem_localAddresses_of_modify isLocal with
        known | ⟨interface, found, isHere, isOwn⟩
      · exact .inl known
      · obtain ⟨listed, member, same⟩ := List.mem_map.1 isOwn
        obtain ⟨_, has⟩ := SortedMap.mem_keys_iff.1 member
        rw [SortedMap.find?_erase] at has
        split at has
        · cases has
        · refine .inl (InterfaceTable.mem_localAddresses_iff.2 ⟨name, interface, found, isHere, ?_⟩)
          exact List.mem_map.2 ⟨listed, SortedMap.mem_keys_iff.2 ⟨_, has⟩, same⟩
  | @moved name vrf own _ _ named answered =>
    obtain ⟨interface, known, ⟨_, _, rfl⟩ | ⟨elsewhere, _, rfl⟩⟩ :=
      InterfaceTable.moveTo_cases answered
    · exact .inl isLocal
    · rcases InterfaceTable.mem_localAddresses_of_modify isLocal with
        isKnown | ⟨moved, found, isHere, isOwn⟩
      · exact .inl isKnown
      · cases isHere
        rw [known] at found
        cases found
        exact .inr ⟨named, interface, known, elsewhere, isOwn⟩

/-! ### VRFs that route through themselves -/

namespace RoutingState

variable {Kernel : Type}

/-- A static route of the VRF has the gateway. -/
def GoesThrough (state : RoutingState Kernel) (id : UInt32) (gateway : Address) : Prop :=
  ∃ vrf, state.vrfs.byId.find? id = some vrf ∧ vrf.statics.GoesThrough gateway

/-- A static route of the VRF has a gateway that is an address of an interface attached to the
VRF. -/
def RoutesThroughItself (state : RoutingState Kernel) (id : UInt32) (gateway : Address) : Prop :=
  state.GoesThrough id gateway ∧ gateway ∈ state.interfaces.localAddresses id

instance (state : RoutingState Kernel) (id : UInt32) (gateway : Address) :
    Decidable (state.GoesThrough id gateway) :=
  match found : state.vrfs.byId.find? id with
  | none => isFalse fun ⟨_, isFound, _⟩ => nomatch found.symm.trans isFound
  | some vrf => decidable_of_iff (vrf.statics.GoesThrough gateway)
    ⟨fun goes => ⟨vrf, found, goes⟩, fun ⟨_, isFound, goes⟩ => by
      rw [found] at isFound
      exact Option.some.inj isFound ▸ goes⟩

instance (state : RoutingState Kernel) (id : UInt32) (gateway : Address) :
    Decidable (state.RoutesThroughItself id gateway) :=
  inferInstanceAs (Decidable (_ ∧ _))

end RoutingState

variable {Kernel : Type} [KernelBackend Kernel]

omit [KernelBackend Kernel] in
/-- A gateway of a VRF after a step is one of before, or it was accepted as none of the addresses
of the VRF, by a step that gives no addresses. -/
theorem Session.Sets.goesThrough {before : Session Kernel} {id : UInt32} {action : Action}
    {settings : VrfSettings} {gateway : Address} (sets : before.Sets id action settings)
    (isKeyed : before.state.IsKeyed) (goes : settings.statics.GoesThrough gateway) :
    before.state.GoesThrough id gateway ∨
      gateway ∉ before.state.interfaces.localAddresses id ∧
        ¬ action.Gives before.state id gateway := by
  have accepted {vrf : Vrf} {config : VrfConfig} (own : vrf.id = id)
      (accepts : AcceptsVrf before.state vrf config) {route : StaticRoute}
      (member : route ∈ config.staticRoutes) (isGateway : route.nextHop.gateway? = some gateway) :
      gateway ∉ before.state.interfaces.localAddresses id := by
    obtain ⟨_, _, _, valid⟩ := VrfConfig.validate_eq_ok_iff.1 accepts.valid
    exact own ▸ StaticRoute.notMem_of_validate (valid route member) isGateway
  cases sets with
  | kept found loses => exact .inl ⟨_, found, loses.statics.goesThrough goes⟩
  | @operated _ vrf _ _ found performs =>
    cases performs with
    | staticAdded checked =>
      rcases StaticTable.goesThrough_of_add goes with known | isGateway
      · exact .inl ⟨vrf, found, known⟩
      · exact .inr ⟨StaticRoute.notMem_of_validate checked isGateway, not_false⟩
    | @staticRemoved route =>
      have loses := vrf.settings.loses_operated_removeStatic id route
      exact .inl ⟨vrf, found, loses.goesThrough goes⟩
    | _ => exact .inl ⟨vrf, found, goes⟩
  | created own accepts =>
    rcases StaticTable.goesThrough_of_addAll goes with ⟨_, fresh, _⟩ | ⟨route, member, isGateway⟩
    · cases fresh
    · exact .inr ⟨accepted own accepts member isGateway, not_false⟩
  | configured found accepts =>
    rcases StaticTable.goesThrough_of_addAll goes with known | ⟨route, member, isGateway⟩
    · exact .inl ⟨_, found, known⟩
    · exact .inr ⟨accepted (isKeyed.vrfs id _ found) accepts member isGateway, not_false⟩
  | limited _ found => exact .inl ⟨_, found, goes⟩

/-- An address that a VRF has after a step it had before, or the step gave it. -/
theorem Changes.mem_localAddresses {before after : Session Kernel} {action : Action}
    (changes : Changes before action after) {id : UInt32} {address : Address}
    (isLocal : address ∈ after.state.interfaces.localAddresses id) :
    address ∈ before.state.interfaces.localAddresses id ∨
      action.Gives before.state id address := by
  cases changes with
  | @followed operation changes table performs =>
    rw [Session.interfaces_follow] at isLocal
    exact performs.mem_localAddresses isLocal
  | @limited config =>
    have same : (before.limited config).state.interfaces = before.state.interfaces :=
      Session.interfaces_foldl (fun session id => session.interfaces_resettledAt _ id) _ before
    exact .inl (same ▸ isLocal)
  | resynced =>
    rw [Session.interfaces_foldl Session.interfaces_resyncedAt] at isLocal
    exact .inl isLocal
  | rerouted | vrfAdded | vrfRemoved | defaultConfigured => exact .inl isLocal

/-- A VRF comes to route through itself only by being given an address through which it goes. -/
theorem Changes.routesThroughItself {before after : Session Kernel} {action : Action}
    (changes : Changes before action after) (isKeyed : before.state.IsKeyed) {id : UInt32}
    {gateway : Address} (itself : after.state.RoutesThroughItself id gateway) :
    before.state.RoutesThroughItself id gateway ∨
      before.state.GoesThrough id gateway ∧ action.Gives before.state id gateway := by
  obtain ⟨⟨vrf, found, goes⟩, isLocal⟩ := itself
  rcases (changes.sets found).goesThrough isKeyed goes with known | ⟨notLocal, givesNone⟩
  · exact (changes.mem_localAddresses isLocal).imp (fun wasLocal => ⟨known, wasLocal⟩)
      fun gives => ⟨known, gives⟩
  · rcases changes.mem_localAddresses isLocal with wasLocal | gives
    · exact absurd wasLocal notLocal
    · exact absurd gives givesNone

theorem Router.routesThroughItself_of_step {router : Router Kernel} {operation : Operation}
    (isKeyed : router.state.IsKeyed) {id : UInt32} {gateway : Address}
    (itself : (router.step operation).2.state.RoutesThroughItself id gateway) :
    router.state.RoutesThroughItself id gateway ∨
      router.state.GoesThrough id gateway ∧ operation.Gives router.state id gateway := by
  obtain ⟨_, next, _, changes, same⟩ | ⟨_, after, _, refused, same⟩ := step_cases isKeyed
  · rw [same] at itself
    exact changes.routesThroughItself isKeyed itself
  · rw [same] at itself
    cases refused <;> exact .inl itself

/-! ### Routers that are made from a configuration -/

omit [KernelBackend Kernel] in
/-- The gateways of a valid configuration are no addresses of the VRFs. -/
theorem Session.Realises.not_routesThroughItself {session : Session Kernel}
    {refusals : SortedMap String Errno} {maxPaths : Option UInt16} {targets : Tracing.TargetTable}
    {config : SystemConfig}
    (realises : session.Realises refusals maxPaths (startingVrfs config.vrfs) config.interfaces)
    (valid : config.IsValid targets) (id : UInt32) (gateway : Address) :
    ¬ session.state.RoutesThroughItself id gateway := by
  rintro ⟨⟨stored, found, goes⟩, isLocal⟩
  have distinct := apart_startingVrfs valid
  -- the VRF has the static routes of its configuration
  have known := realises.settings_eq id
  rw [Session.find?, found, Option.map_some] at known
  obtain ⟨vrf, listed, settings⟩ := Option.map_eq_some_iff.1 known.symm
  obtain ⟨member, own⟩ := (vrfOf?_eq_some_iff distinct).1 listed
  have statics : stored.statics = StaticTable.empty.addAll vrf.staticRoutes :=
    (congrArg VrfSettings.statics settings).symm
  rw [statics] at goes
  rcases StaticTable.goesThrough_of_addAll goes with ⟨_, none, _⟩ | ⟨route, routed, isGateway⟩
  · cases none
  -- the interface with the address is configured for the VRF
  obtain ⟨name, interface, isFound, isHere, isOwn⟩ :=
    InterfaceTable.mem_localAddresses_iff.1 isLocal
  obtain ⟨given, isGiven, place, isPlace, _, named, same⟩ := realises.exists_config isFound
  have configured := Interface.isConfigured_of_settings same
  rw [configured] at isHere isOwn
  have samePlace : place = vrf := by
    have placed := (vrfOf?_eq_some_iff distinct).2 ⟨isPlace, isHere⟩
    exact Option.some.inj (placed.symm.trans listed)
  obtain ⟨network, isNetwork, address⟩ := List.mem_map.1 isOwn
  have configuredLocal : gateway ∈ config.localAddresses vrf.name := by
    refine List.mem_flatMap.2 ⟨given, List.mem_filter.2 ⟨isGiven, decide_eq_true ?_⟩, ?_⟩
    · rw [← named, samePlace]
    · exact List.mem_map.2 ⟨network, SortedSet.mem_keys_ofList.1 isNetwork, address⟩
  -- so the static route was compared with the address
  rcases mem_startingVrfs member with isConfigured | rfl
  · obtain ⟨_, checked⟩ := valid.vrfs vrf isConfigured
    obtain ⟨_, _, _, routesValid⟩ := VrfConfig.validate_eq_ok_iff.1 checked
    exact StaticRoute.notMem_of_validate (routesValid route routed) isGateway configuredLocal
  · cases routed

theorem Router.not_routesThroughItself_of_ofConfig {parameters : RouterParameters}
    {kernels : KernelSpace Kernel} {targets : Tracing.TargetTable} {config : SystemConfig}
    {router : Router Kernel} (made : (ofConfig parameters kernels targets config).1 = .ok router)
    (id : UInt32) (gateway : Address) : ¬ router.state.RoutesThroughItself id gateway := by
  obtain ⟨validated, session, ran, rfl⟩ := exists_configure_of_ofConfig made
  have valid := SystemConfig.validate_eq_ok_iff.1 validated
  have realises := realises_configure valid parameters kernels
  rw [RouterM.Ends, ran] at realises
  exact realises.not_routesThroughItself valid id gateway

/-- No static routes, no gateways. -/
theorem Router.not_routesThroughItself_of_create {parameters : RouterParameters}
    {kernels : KernelSpace Kernel} {router : Router Kernel}
    (created : create parameters kernels = .ok router) (id : UInt32) (gateway : Address) :
    ¬ router.state.RoutesThroughItself id gateway := by
  have isKeyed := isKeyed_blank parameters kernels
  have ends : RouterM.Ends (RouterM.addVrf VrfConfig.standard)
      ⟨(blank parameters kernels).state, []⟩
      (fun _ => IsInvariant.Good fun state => ∀ id gateway, ¬ state.RoutesThroughItself id gateway)
      fun _ _ => True := by
    refine RouterM.ends_imp (RouterM.performs_addVrf VrfConfig.standard) ?_ fun _ _ _ => trivial
    rintro _ _ ⟨next, changes, rfl⟩
    have keyed := changes.isKeyed isKeyed
    refine ⟨⟨keyed.vrfs, keyed.interfaces⟩, fun listed address itself => ?_⟩
    rcases changes.routesThroughItself isKeyed itself with ⟨⟨_, found, _⟩, _⟩ | ⟨_, gives⟩
    · cases found
    · exact gives
  exact (good_of_start ends created).2 id gateway

/-! ### Routers that can be reached -/

/-- The routers that can be reached when no VRF is given an address through which it goes. -/
inductive Spared (surroundings : Surroundings Kernel) : Router Kernel → Prop
  | created {parameters : RouterParameters} {kernels : KernelSpace Kernel} {router : Router Kernel}
      (starts : surroundings.starts kernels)
      (created : Router.create parameters kernels = .ok router) : Spared surroundings router
  | configured {parameters : RouterParameters} {kernels : KernelSpace Kernel}
      {targets : Tracing.TargetTable} {config : SystemConfig} {router : Router Kernel}
      (starts : surroundings.starts kernels)
      (configured : (Router.ofConfig parameters kernels targets config).1 = .ok router) :
      Spared surroundings router
  | performed {router : Router Kernel} {operation : Operation}
      (spared : Spared surroundings router) (admits : surroundings.admits operation)
      (spares : ∀ id gateway, router.state.GoesThrough id gateway →
        ¬ operation.Gives router.state id gateway) :
      Spared surroundings (router.step operation).2
  | disturbed {router : Router Kernel} {kernels : KernelSpace Kernel}
      (spared : Spared surroundings router)
      (disturbs : surroundings.disturbs router.state.kernels kernels) :
      Spared surroundings { router with state := { router.state with kernels } }

namespace Spared

variable {surroundings : Surroundings Kernel} {router : Router Kernel}

theorem reachable (spared : Spared surroundings router) : Reachable surroundings router := by
  induction spared with
  | created starts created => exact .created starts created
  | configured starts configured => exact .configured starts configured
  | performed _ admits _ inductionHypothesis => exact inductionHypothesis.performed admits
  | disturbed _ disturbs inductionHypothesis => exact inductionHypothesis.disturbed disturbs

theorem not_routesThroughItself (spared : Spared surroundings router) (id : UInt32)
    (gateway : Address) : ¬ router.state.RoutesThroughItself id gateway := by
  induction spared with
  | created _ created => exact Router.not_routesThroughItself_of_create created id gateway
  | configured _ configured =>
    exact Router.not_routesThroughItself_of_ofConfig configured id gateway
  | performed spared _ spares inductionHypothesis =>
    have isKeyed := ((isInvariant_isReferential surroundings).good_of_reachable spared.reachable).1
    intro itself
    rcases Router.routesThroughItself_of_step isKeyed itself with already | ⟨goes, gives⟩
    · exact inductionHypothesis already
    · exact spares id gateway goes gives
  | disturbed _ _ inductionHypothesis => exact inductionHypothesis

end Spared

/-- A VRF of a router that can be reached comes to route through itself by an operation that gives
it an address through which it goes already, and by no other. So as long as no VRF is given such
an address, none routes through itself: no static route of a VRF has a gateway that is an address
of an interface attached to the VRF. -/
theorem routesThroughItself_of_reachable {surroundings : Surroundings Kernel}
    {router : Router Kernel} (reachable : Reachable surroundings router) :
    (∀ operation id gateway, (router.step operation).2.state.RoutesThroughItself id gateway →
      router.state.RoutesThroughItself id gateway ∨
        router.state.GoesThrough id gateway ∧ operation.Gives router.state id gateway) ∧
    (Spared surroundings router → ∀ id gateway, ¬ router.state.RoutesThroughItself id gateway) := by
  have isKeyed := ((isInvariant_isReferential surroundings).good_of_reachable reachable).1
  exact ⟨fun _ _ _ itself => Router.routesThroughItself_of_step isKeyed itself,
    Spared.not_routesThroughItself⟩

/-- A router that was made from a configuration takes one more static route. -/
theorem routesThroughItself_of_lagRouter : ∃ (start router : Router MemoryKernel),
    (start.step (.addStatic defaultVrfId sampleStatic)).2 = router ∧
      Reachable Surroundings.any router ∧ Spared Surroundings.any router ∧
      router.state.GoesThrough defaultVrfId (.v4 0x0A000002) ∧
      ∀ gateway, ¬ router.state.RoutesThroughItself defaultVrfId gateway := by
  have routed : (Router.lagRouter?.filter fun start =>
      (start.step (.addStatic defaultVrfId sampleStatic)).2.state.GoesThrough defaultVrfId
        (.v4 0x0A000002)).isSome = true := by
    decide +kernel
  obtain ⟨start, isRouted⟩ := Option.isSome_iff_exists.1 routed
  obtain ⟨made, goes⟩ := Option.filter_eq_some_iff.1 isRouted
  have sparedStart : Spared Surroundings.any start := .configured trivial (eq_ok_of_toOption made)
  have spared : Spared Surroundings.any (start.step (.addStatic defaultVrfId sampleStatic)).2 :=
    sparedStart.performed trivial fun _ _ _ => not_false
  exact ⟨start, _, rfl, spared.reachable, spared, of_decide_eq_true goes,
    (routesThroughItself_of_reachable spared.reachable).2 spared defaultVrfId⟩

/-- The gateway of the sample route with the subnet of the sample interface. -/
def gatewayNetwork : Network :=
  ⟨.v4 0x0A000002, 24, by decide⟩

/-- An interface can be given the gateway of a static route as its own address. -/
theorem exists_routesThroughItself : ∃ router : Router MemoryKernel,
    Reachable Surroundings.any router ∧
      (router.step (.addAddress "eth0" gatewayNetwork)).1 = .ok .done ∧
      (router.step (.addAddress "eth0" gatewayNetwork)).2.state.RoutesThroughItself defaultVrfId
        (.v4 0x0A000002) := by
  have routed : ((sampleRouter?.map fun sample =>
      (sample.step (.addStatic defaultVrfId sampleStatic)).2).filter fun router =>
        (router.step (.addAddress "eth0" gatewayNetwork)).1.toOption = some .done ∧
          (router.step (.addAddress "eth0" gatewayNetwork)).2.state.RoutesThroughItself
            defaultVrfId (.v4 0x0A000002)).isSome = true := by
    decide +kernel
  obtain ⟨router, isRouted⟩ := Option.isSome_iff_exists.1 routed
  obtain ⟨built, accepted⟩ := Option.filter_eq_some_iff.1 isRouted
  obtain ⟨answered, itself⟩ := of_decide_eq_true accepted
  obtain ⟨sample, isSample, rfl⟩ := Option.map_eq_some_iff.1 built
  have reachable : Reachable Surroundings.any sample :=
    reachable_sampleRouter trivial trivial isSample
  exact ⟨_, reachable.performed trivial, eq_ok_of_toOption answered, itself⟩

end ControlPlane
