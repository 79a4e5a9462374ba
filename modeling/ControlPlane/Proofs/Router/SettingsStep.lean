/-
This file says once which settings the VRFs of a router have after a step. A VRF that
is there afterwards was there before, or is new. It keeps its settings, except that
it may lose static routes with an interface that stops routing, or an operation on
it changes them, or it takes a configuration that was accepted, or a new limit on
paths.
-/

import ControlPlane.Proofs.Router.Settings
import ControlPlane.Proofs.StaticTable

namespace ControlPlane

/-! ### Static routes that are lost -/

/-- All static routes of the second table are in the first. -/
def StaticTable.Loses (before after : StaticTable) : Prop :=
  ∀ destination nextHop distance, (after.hopsOf destination).find? nextHop = some distance →
    (before.hopsOf destination).find? nextHop = some distance

/-- To purge static routes adds none. -/
theorem StaticTable.loses_purge (table : StaticTable) (name : String)
    (resolved : List (Prefix × NextHop)) : table.Loses (table.purge name resolved).2 := by
  intro destination nextHop distance configured
  rw [hopsOf_purge, SortedMap.find?_filter] at configured
  exact (Option.filter_eq_some_iff.1 configured).1

/-- To remove a static route adds none. -/
theorem StaticTable.loses_remove {table : StaticTable} {route : StaticRoute}
    {result : Prefix × StaticTable} (removed : table.remove route = .ok result) :
    table.Loses result.2 := by
  intro destination nextHop distance configured
  rw [hopsOf_remove removed] at configured
  split at configured
  · rw [SortedMap.find?_erase] at configured
    split at configured
    · cases configured
    · exact configured
  · exact configured

namespace VrfSettings

/-- The second settings lack static routes of the first at most. -/
structure Loses (before after : VrfSettings) : Prop where
  same : after = { before with statics := after.statics }
  statics : before.statics.Loses after.statics

namespace Loses

variable {first second third : VrfSettings}

theorem refl (settings : VrfSettings) : settings.Loses settings :=
  ⟨rfl, fun _ _ _ configured => configured⟩

theorem of_eq (same : second = first) : first.Loses second :=
  same ▸ .refl second

theorem trans (left : first.Loses second) (right : second.Loses third) : first.Loses third where
  same := by
    have other := right.same
    rw [left.same] at other
    exact other
  statics destination nextHop distance configured :=
    left.statics destination nextHop distance
      (right.statics destination nextHop distance configured)

end Loses

/-! ### Operations on one VRF -/

/-- The settings after an operation on their VRF succeeded. -/
def operated (operation : Operation) (settings : VrfSettings) : VrfSettings :=
  match operation with
  | .addStatic _ route => { settings with statics := (settings.statics.add route).2 }
  | .removeStatic _ route =>
    match settings.statics.remove route with
    | .ok (_, statics) => { settings with statics }
    | .error _ => settings
  | .setBgp _ config =>
    { settings with
      policy := { settings.policy with bgpMaxPaths := some config.maximumPaths }
      bgp := some config }
  | .removeBgp _ =>
    { settings with
      policy := { settings.policy with bgpMaxPaths := none }
      bgp := none }
  | .setDistance _ distance => { settings with distance }
  | .setRouterId _ routerId => { settings with routerId }
  | _ => settings

theorem loses_operated_removeStatic (settings : VrfSettings) (vrf : UInt32) (route : StaticRoute) :
    settings.statics.Loses (settings.operated (.removeStatic vrf route)).statics := by
  simp only [operated]
  split
  next removed => exact StaticTable.loses_remove removed
  next => exact fun _ _ _ configured => configured

end VrfSettings

/-- An operation on a VRF changes its settings as it says, and no others. -/
theorem VrfOperation.settings_eq {Kernel : Type} {state : RoutingState Kernel} {id : UInt32}
    {vrf : Vrf} {operation : Operation} {events : List RoutingEvent} {rerouted : Rerouted}
    (performs : VrfOperation state id vrf operation events rerouted) :
    rerouted.2.settings = vrf.settings.operated operation := by
  cases performs with
  | announced _ _ answered => exact Vrf.settings_announce answered
  | withdrawn => exact Vrf.settings_onRib _ _
  | instanceWithdrawn => exact Vrf.settings_onRib _ _
  | staticAdded => exact Vrf.settings_onRib _ _
  | @staticRemoved route _ answered =>
    obtain ⟨⟨destination, statics⟩, removed, answered⟩ := exists_of_bind_eq_ok answered
    cases answered
    have removedOwn : vrf.settings.statics.remove route = .ok (destination, statics) := removed
    have settings : vrf.settings.operated (.removeStatic id route) =
        { vrf.settings with statics } := by
      rw [VrfSettings.operated, removedOwn]
    rw [settings]
    exact Vrf.settings_onRib _ _
  | bgpSet | bgpRemoved | distanceSet | routerIdSet => rfl

namespace Vrf

/-- A change of an interface takes static routes away at most. -/
theorem loses_reroute {interfaces : InterfaceTable} {change : InterfaceChange} {vrf : Vrf}
    {rerouted : Rerouted} (answered : RouterM.reroute interfaces change vrf = .ok rerouted) :
    vrf.settings.Loses rerouted.2.settings := by
  by_cases stops : change.what = .routingDisabled
  · rw [RouterM.reroute, stops] at answered
    cases answered
    have purged : (vrf.purgeStatics (interfaces.resolver change.vrf) change.name).2.settings =
        { vrf.settings with
          statics := (vrf.statics.purge change.name (vrf.boundStatics change.name)).2 } :=
      settings_inTurn (fun _ _ => settings_onRib _ _) _ _
    rw [purged]
    exact ⟨rfl, vrf.statics.loses_purge _ _⟩
  · exact .of_eq (settings_reroute answered stops)

end Vrf

/-! ### Sessions -/

variable {Kernel : Type}

/-- The VRFs of the second session are VRFs of the first, which lost static routes at most. -/
def Session.LosesSettings (first second : Session Kernel) : Prop :=
  ∀ id vrf, second.find? id = some vrf →
    ∃ earlier, first.find? id = some earlier ∧ earlier.settings.Loses vrf.settings

namespace Session

variable {first second third : Session Kernel}

theorem LosesSettings.trans (left : first.LosesSettings second)
    (right : second.LosesSettings third) : first.LosesSettings third := by
  intro id vrf found
  obtain ⟨between, foundBetween, loses⟩ := right id vrf found
  obtain ⟨earlier, foundEarlier, losesEarlier⟩ := left id between foundBetween
  exact ⟨earlier, foundEarlier, losesEarlier.trans loses⟩

variable [KernelBackend Kernel] {session : Session Kernel}

omit [KernelBackend Kernel] in
theorem SameSettings.loses (same : SameSettings first second) : first.LosesSettings second := by
  intro id vrf found
  have settings := same.settings_eq id
  rw [found, Option.map_some] at settings
  obtain ⟨earlier, foundEarlier, sameSettings⟩ := Option.map_eq_some_iff.1 settings.symm
  exact ⟨earlier, foundEarlier, .of_eq sameSettings.symm⟩

theorem losesSettings_followed (session : Session Kernel) (change : InterfaceChange) :
    session.LosesSettings (session.followed change) := by
  have same : session.LosesSettings session := (SameSettings.refl session).loses
  unfold followed
  split
  next => exact same
  next vrf found =>
    split
    next => exact same
    next rerouted answered =>
      intro id after isFound
      rw [find?_settle] at isFound
      split at isFound
      next here =>
        obtain ⟨_, _, rfl⟩ := Option.map_eq_some_iff.1 isFound
        refine ⟨vrf, here ▸ found, ?_⟩
        rw [settings_programmedVrf]
        exact Vrf.loses_reroute answered
      next => exact same id after isFound

/-- To follow changes takes static routes away at most. -/
theorem losesSettings_follow (session : Session Kernel) (changes : List InterfaceChange) :
    session.LosesSettings (session.follow changes) := by
  have followed := List.foldlRecOn (motive := session.LosesSettings) changes Session.followed
    (SameSettings.refl session).loses fun next known change _ =>
      known.trans (losesSettings_followed next change)
  exact followed.trans
    (sameSettings_foldl (fun id _ next => sameSettings_refreshedAt next id) _).loses

theorem sameSettings_resyncedAt (session : Session Kernel) (id : UInt32) :
    SameSettings session (session.resyncedAt id) := by
  unfold resyncedAt
  split
  next => exact .refl session
  next vrf found =>
    have settings : ({ vrf with sync := (session.retrying vrf).sync } : Vrf).settings =
        vrf.settings :=
      congrArg (fun netns => { vrf.settings with netns }) (Programmed.netns_retryPending _)
    have stored : SameSettings session (session.stored id _) := sameSettings_stored found settings
    exact ⟨stored.settings_eq, stored.idByName_eq, stored.refusals_eq, stored.ecmp_eq⟩

/-! ### Steps -/

/-- The settings that the VRF of an id may have after a step. -/
inductive Sets (before : Session Kernel) (id : UInt32) : Action → VrfSettings → Prop
  | kept {action : Action} {vrf : Vrf} {settings : VrfSettings}
      (found : before.find? id = some vrf) (loses : vrf.settings.Loses settings)
      (unlimited : ∀ config, action ≠ .perform (.setEcmp config)) : Sets before id action settings
  | operated {operation : Operation} {vrf : Vrf} {events : List RoutingEvent} {rerouted : Rerouted}
      (found : before.find? id = some vrf)
      (performs : VrfOperation before.state id vrf operation events rerouted) :
      Sets before id (.perform operation) (vrf.settings.operated operation)
  | created {config : VrfConfig} (own : config.id = id)
      (accepts : AcceptsVrf before.state (before.freshVrf config) config) :
      Sets before id (.perform (.addVrf config))
        ((before.freshVrf config).settings.configured config)
  | configured {config : VrfConfig} {vrf : Vrf} (found : before.find? id = some vrf)
      (accepts : AcceptsVrf before.state vrf config) :
      Sets before id (.configureDefault config) (vrf.settings.configured config)
  | limited {config : EcmpConfig} {vrf : Vrf} (checked : config.validate = .ok ())
      (found : before.find? id = some vrf) :
      Sets before id (.perform (.setEcmp config)) (vrf.settings.limited config.maxPaths)

omit [KernelBackend Kernel] in
/-- What was kept was kept by another step than one that sets a limit on paths. -/
theorem LosesSettings.sets {before after : Session Kernel} (loses : before.LosesSettings after)
    {id : UInt32} {vrf : Vrf} (found : after.find? id = some vrf) {action : Action}
    (unlimited : ∀ config, action ≠ .perform (.setEcmp config)) :
    Sets before id action vrf.settings := by
  obtain ⟨earlier, foundEarlier, kept⟩ := loses id vrf found
  exact .kept foundEarlier kept unlimited

end Session

variable [KernelBackend Kernel]

omit [KernelBackend Kernel] in
/-- No operation on a single VRF limits the paths of all. -/
theorem VrfOperation.unlimited {state : RoutingState Kernel} {id : UInt32} {vrf : Vrf}
    {operation : Operation} {events : List RoutingEvent} {rerouted : Rerouted}
    (performs : VrfOperation state id vrf operation events rerouted) (config : EcmpConfig) :
    Action.perform operation ≠ .perform (.setEcmp config) := by
  cases performs <;> exact nofun

omit [KernelBackend Kernel] in
/-- No operation on an interface limits the paths of VRFs. -/
theorem InterfaceOperation.unlimited {state : RoutingState Kernel} {operation : Operation}
    {changes : List InterfaceChange} {after : InterfaceTable}
    (performs : InterfaceOperation state operation changes after) (config : EcmpConfig) :
    Action.perform operation ≠ .perform (.setEcmp config) := by
  cases performs <;> exact nofun

/-- The settings of a VRF after a step come from those before in one of the listed ways. -/
theorem Changes.sets {before after : Session Kernel} {action : Action}
    (changes : Changes before action after) {id : UInt32} {vrf : Vrf}
    (found : after.find? id = some vrf) : Session.Sets before id action vrf.settings := by
  have same : before.LosesSettings before := (Session.SameSettings.refl before).loses
  cases changes with
  | @rerouted operation own known events rerouted isFound performs =>
    rw [Session.find?_settle] at found
    split at found
    next here =>
      obtain ⟨_, _, rfl⟩ := Option.map_eq_some_iff.1 found
      subst here
      rw [Session.settings_programmedVrf, performs.settings_eq]
      exact .operated isFound performs
    next => exact same.sets found performs.unlimited
  | @followed operation changes table performs =>
    have followed : before.LosesSettings ((before.withInterfaces table).follow changes) :=
      (before.withInterfaces table).losesSettings_follow changes
    exact followed.sets found performs.unlimited
  | @vrfAdded config kernels idFree nameFree opened accepts =>
    rw [Session.find?_vrfAdded] at found
    split at found
    next here =>
      cases found
      rw [Session.settings_configuredVrf]
      exact .created here accepts
    next => exact same.sets found fun _ => nofun
  | @vrfRemoved name own removed named notDefault idle isFound =>
    rw [Session.find?_vrfRemoved] at found
    split at found
    · cases found
    · exact same.sets found fun _ => nofun
  | @limited config checked =>
    have limited := before.settings_limited config id
    rw [found, Option.map_some] at limited
    obtain ⟨earlier, foundEarlier, settings⟩ := Option.map_eq_some_iff.1 limited.symm
    rw [← settings]
    exact .limited checked foundEarlier
  | resynced =>
    have resynced := Session.sameSettings_foldl
      (fun id (_ : id ∈ before.state.vrfs.ids) next => Session.sameSettings_resyncedAt next id)
      before
    exact resynced.loses.sets found fun _ => nofun
  | @defaultConfigured config known isFound accepts =>
    rw [Session.find?_stored] at found
    split at found
    next here =>
      obtain ⟨_, _, rfl⟩ := Option.map_eq_some_iff.1 found
      subst here
      rw [Session.settings_configuredVrf]
      exact .configured isFound accepts
    next => exact same.sets found fun _ => nofun

end ControlPlane
