/-
This file says what of a VRF comes from its configuration, and when it changes.
Selecting routes, programming them and following events on interfaces leave the
settings of all VRFs alone, unless an interface stops routing, which takes static
next hops away. A VRF that takes a configuration has its settings, and a new limit
on paths changes nothing else.
-/

import ControlPlane.Proofs.Router.References
import ControlPlane.Proofs.Synchronizer

namespace ControlPlane

/-! ### Settings -/

/-- What of a VRF comes from its configuration. -/
structure VrfSettings where
  name : String
  id : UInt32
  netns : String
  routerId : Option IPv4
  bgp : Option BgpConfig
  distance : DistanceConfig
  policy : SelectionPolicy
  statics : StaticTable

namespace VrfSettings

/-- The settings after a VRF took a configuration. -/
def configured (config : VrfConfig) (settings : VrfSettings) : VrfSettings :=
  { settings with
    routerId := config.routerId
    bgp := config.bgp
    distance := config.distance
    policy := { settings.policy with bgpMaxPaths := config.bgp.map BgpConfig.maximumPaths }
    statics := settings.statics.addAll config.staticRoutes }

/-- The settings with another limit on paths. -/
def limited (maxPaths : Option UInt16) (settings : VrfSettings) : VrfSettings :=
  { settings with policy := { settings.policy with maxPaths } }

end VrfSettings

namespace Vrf

/-- The settings of a VRF. The router-id that was selected automatically is none of them. -/
def settings (vrf : Vrf) : VrfSettings where
  name := vrf.name
  id := vrf.id
  netns := vrf.netns
  routerId := vrf.routerId.configured
  bgp := vrf.bgp
  distance := vrf.distance
  policy := vrf.policy
  statics := vrf.statics

/-! ### Operations on routes -/

section Operations

variable {resolver : Resolver} {vrf : Vrf}

theorem settings_onRib (family : Family) (operate : SelectionPolicy → Rib → Delta × Rib) :
    (vrf.onRib family operate).2.settings = vrf.settings := by
  cases family <;> rfl

theorem settings_inTurn {Item : Type} {operate : Item → Vrf → Rerouted}
    (keeps : ∀ item vrf, (operate item vrf).2.settings = vrf.settings) (items : List Item)
    (vrf : Vrf) : (inTurn operate items vrf).2.settings = vrf.settings := by
  induction items generalizing vrf with
  | nil => rfl
  | cons item rest inductionHypothesis =>
    exact (inductionHypothesis (operate item vrf).2).trans (keeps item vrf)

theorem settings_announce {candidate : Candidate} {rerouted : Rerouted}
    (announced : vrf.announce resolver candidate = .ok rerouted) :
    rerouted.2.settings = vrf.settings := by
  unfold announce at announced
  split at announced
  · cases announced
  · cases announced
    exact settings_onRib _ _

theorem settings_announceAll {candidates : List Candidate} {rerouted : Rerouted}
    (announced : vrf.announceAll resolver candidates = .ok rerouted) :
    rerouted.2.settings = vrf.settings := by
  induction candidates generalizing vrf rerouted with
  | nil =>
    cases announced
    rfl
  | cons candidate rest inductionHypothesis =>
    obtain ⟨first, announcedFirst, announced⟩ := exists_of_bind_eq_ok announced
    obtain ⟨later, announcedLater, announced⟩ := exists_of_bind_eq_ok announced
    cases announced
    exact (inductionHypothesis announcedLater).trans (settings_announce announcedFirst)

/-- A change of an interface that does not stop routing leaves the settings of its VRF alone. -/
theorem settings_reroute {interfaces : InterfaceTable} {change : InterfaceChange}
    {rerouted : Rerouted} (answered : RouterM.reroute interfaces change vrf = .ok rerouted)
    (routes : change.what ≠ .routingDisabled) : rerouted.2.settings = vrf.settings := by
  unfold RouterM.reroute at answered
  cases what : change.what with
  | usable now =>
    rw [what] at answered
    cases answered
    rfl
  | routingDisabled => exact absurd what routes
  | addressAdded network =>
    rw [what] at answered
    exact settings_announce answered
  | addressRemoved network =>
    rw [what] at answered
    dsimp only at answered
    split at answered
    · exact settings_announce answered
    · cases answered
      exact settings_onRib _ _
  | attached =>
    rw [what] at answered
    exact settings_announceAll answered
  | detached =>
    rw [what] at answered
    cases answered
    exact settings_inTurn (fun _ _ => settings_onRib _ _) _ vrf

theorem settings_inTurn_addStatic (routes : List StaticRoute) (vrf : Vrf) :
    (inTurn (addStatic resolver) routes vrf).2.settings =
      { vrf.settings with statics := vrf.statics.addAll routes } := by
  induction routes generalizing vrf with
  | nil => rfl
  | cons route rest inductionHypothesis =>
    have added : (addStatic resolver route vrf).2.settings =
        { vrf.settings with statics := (vrf.statics.add route).2 } := settings_onRib _ _
    have addedStatics := congrArg VrfSettings.statics added
    show (inTurn (addStatic resolver) rest (addStatic resolver route vrf).2).2.settings = _
    rw [inductionHypothesis, added]
    exact congrArg (fun statics : StaticTable =>
      { vrf.settings with statics := statics.addAll rest }) addedStatics

end Operations

end Vrf

theorem RouterIdSelection.configured_update (selection : RouterIdSelection)
    (candidates : List RouterIdCandidate) :
    (selection.update candidates).configured = selection.configured := by
  unfold update
  split <;> rfl

/-! ### Sessions -/

variable {Kernel : Type} [KernelBackend Kernel]

namespace Session

variable {session : Session Kernel}

theorem settings_programmedVrf (rerouted : Rerouted) (session : Session Kernel) :
    (session.programmedVrf rerouted).settings = rerouted.2.settings :=
  congrArg (fun netns => { rerouted.2.settings with netns })
    (Programmed.netns_applyAll rerouted.1 _)

theorem settings_refreshedVrf (vrf : Vrf) (session : Session Kernel) :
    (session.refreshedVrf vrf).settings = vrf.settings := by
  have programmed := settings_programmedVrf (session.refresh vrf) session
  have sameRouterId := vrf.routerId.configured_update
    (session.state.routerIdCandidates vrf.id)
  show { (session.programmedVrf (session.refresh vrf)).settings with
    routerId := (session.routerIdAfter vrf).configured } = _
  rw [programmed, routerIdAfter, sameRouterId]
  rfl

/-- A VRF that takes a configuration has its settings. -/
theorem settings_configuredVrf (config : VrfConfig) (vrf : Vrf) (session : Session Kernel) :
    (session.configuredVrf config vrf).settings = vrf.settings.configured config := by
  rw [configuredVrf, settings_refreshedVrf, settings_programmedVrf, configuring,
    Vrf.settings_inTurn_addStatic]
  rfl

/-- The second session has the VRFs of the first with the same settings. -/
structure SameSettings (first second : Session Kernel) : Prop where
  settings_eq : ∀ id, (second.find? id).map Vrf.settings = (first.find? id).map Vrf.settings
  idByName_eq : second.state.vrfs.idByName = first.state.vrfs.idByName
  refusals_eq : second.state.kernels.refusals = first.state.kernels.refusals
  ecmp_eq : second.state.ecmp = first.state.ecmp

namespace SameSettings

variable {first second third : Session Kernel}

omit [KernelBackend Kernel] in
theorem refl (session : Session Kernel) : SameSettings session session :=
  ⟨fun _ => rfl, rfl, rfl, rfl⟩

omit [KernelBackend Kernel] in
theorem trans (left : SameSettings first second) (right : SameSettings second third) :
    SameSettings first third where
  settings_eq id := (right.settings_eq id).trans (left.settings_eq id)
  idByName_eq := right.idByName_eq.trans left.idByName_eq
  refusals_eq := right.refusals_eq.trans left.refusals_eq
  ecmp_eq := right.ecmp_eq.trans left.ecmp_eq

end SameSettings

omit [KernelBackend Kernel] in
theorem sameSettings_stored {id : UInt32} {vrf next : Vrf} (found : session.find? id = some vrf)
    (same : next.settings = vrf.settings) : SameSettings session (session.stored id next) := by
  refine ⟨fun listed => ?_, rfl, rfl, rfl⟩
  rw [find?_stored]
  split
  next here =>
    subst here
    rw [found, Option.map_some, Option.map_some, Option.map_some, same]
  next => rfl

theorem sameSettings_settle {id : UInt32} {vrf : Vrf} {rerouted : Rerouted}
    (found : session.find? id = some vrf) (same : rerouted.2.settings = vrf.settings) :
    SameSettings session (session.settle id rerouted) := by
  have stored : SameSettings (session.programmed rerouted) (session.settle id rerouted) :=
    sameSettings_stored found ((settings_programmedVrf rerouted session).trans same)
  exact ⟨stored.settings_eq, stored.idByName_eq, stored.refusals_eq, stored.ecmp_eq⟩

theorem sameSettings_followed {change : InterfaceChange} (routes : change.what ≠ .routingDisabled)
    (session : Session Kernel) : SameSettings session (session.followed change) := by
  unfold followed
  split
  next => exact ⟨fun _ => rfl, rfl, rfl, rfl⟩
  next vrf found =>
    split
    next => exact ⟨fun _ => rfl, rfl, rfl, rfl⟩
    next rerouted answered =>
      have settled : SameSettings (session.recorded [.interface change]) _ :=
        sameSettings_settle found (Vrf.settings_reroute answered routes)
      exact ⟨settled.settings_eq, settled.idByName_eq, settled.refusals_eq, settled.ecmp_eq⟩

theorem sameSettings_refreshedAt (session : Session Kernel) (id : UInt32) :
    SameSettings session (session.refreshedAt id) := by
  unfold refreshedAt resettledAt
  split
  next => exact .refl session
  next vrf found =>
    have stored : SameSettings (session.refreshed vrf) (session.settleRefreshed id vrf) :=
      sameSettings_stored found (settings_refreshedVrf vrf session)
    exact ⟨stored.settings_eq, stored.idByName_eq, stored.refusals_eq, stored.ecmp_eq⟩

omit [KernelBackend Kernel] in
/-- Steps that each leave the settings of all VRFs alone do so together. -/
theorem sameSettings_foldl {Item : Type} {step : Session Kernel → Item → Session Kernel}
    {items : List Item}
    (keeps : ∀ item ∈ items, ∀ session, SameSettings session (step session item))
    (session : Session Kernel) : SameSettings session (items.foldl step session) :=
  List.foldlRecOn (motive := SameSettings session) items step (.refl session)
    fun next known item member => known.trans (keeps item member next)

/-- To follow changes leaves the settings of all VRFs alone, as long as no interface stops
routing. -/
theorem sameSettings_follow {changes : List InterfaceChange}
    (routes : ∀ change ∈ changes, change.what ≠ .routingDisabled) (session : Session Kernel) :
    SameSettings session (session.follow changes) := by
  have followed : SameSettings session (changes.foldl Session.followed session) :=
    sameSettings_foldl (fun change member => sameSettings_followed (routes change member)) session
  exact followed.trans (sameSettings_foldl (fun id _ next => sameSettings_refreshedAt next id) _)

/-! ### Limits on paths -/

theorem settings_limitedAt (maxPaths : Option UInt16) (session : Session Kernel)
    (id listed : UInt32) :
    ((session.limitedAt maxPaths id).find? listed).map Vrf.settings =
      if id = listed then (session.find? listed).map fun vrf => vrf.settings.limited maxPaths
      else (session.find? listed).map Vrf.settings := by
  unfold limitedAt resettledAt
  by_cases here : id = listed
  · subst here
    cases found : session.find? id with
    | none => simp [found]
    | some vrf =>
      rw [if_pos rfl]
      show ((session.settleRefreshed id _).find? id).map Vrf.settings = _
      rw [find?_settleRefreshed, if_pos rfl, found, Option.map_some, Option.map_some,
        settings_refreshedVrf]
      rfl
  · rw [if_neg here]
    split
    next => rfl
    next vrf found => rw [find?_settleRefreshed, if_neg here]

/-- All listed VRFs take the limit, and no others. -/
theorem settings_foldl_limitedAt (maxPaths : Option UInt16) (ids : List UInt32)
    (session : Session Kernel) (listed : UInt32) :
    ((ids.foldl (limitedAt maxPaths) session).find? listed).map Vrf.settings =
      if listed ∈ ids then (session.find? listed).map fun vrf => vrf.settings.limited maxPaths
      else (session.find? listed).map Vrf.settings := by
  induction ids generalizing session with
  | nil => rfl
  | cons id rest inductionHypothesis =>
    have limited : ((session.limitedAt maxPaths id).find? listed).map
        (fun vrf => vrf.settings.limited maxPaths) =
          (session.find? listed).map fun vrf => vrf.settings.limited maxPaths := by
      have step := congrArg (Option.map (VrfSettings.limited maxPaths))
        (session.settings_limitedAt maxPaths id listed)
      rw [Option.map_map] at step
      refine step.trans ?_
      split <;> rw [Option.map_map] <;> rfl
    rw [List.foldl_cons, inductionHypothesis, limited, settings_limitedAt]
    by_cases here : id = listed
    · simp [here]
    · simp [here, Ne.symm here]

/-- A new limit on paths is taken by all VRFs. -/
theorem settings_limited (config : EcmpConfig) (session : Session Kernel) (id : UInt32) :
    ((session.limited config).find? id).map Vrf.settings =
      (session.find? id).map fun vrf => vrf.settings.limited config.maxPaths := by
  refine (settings_foldl_limitedAt config.maxPaths _ session id).trans ?_
  split
  next => rfl
  next unlisted =>
    have missing : session.find? id = none := SortedMap.find?_eq_none_of_notMem unlisted
    rw [missing]
    rfl

end Session

end ControlPlane
