/-
This file proves that the events of a router tell its router-ids. The last event about
the router-id of a VRF since the VRF was created gives the one that the VRF has. If
there is none, the VRF has the router-id of the configuration that it was created
with, for that one is not recorded. The proof is an induction on how the router was
reached. An operation tells the router-ids after it, given those before it. A router
is built up VRFs first, and as long as there are no interfaces no router-id is
selected and none is recorded.
-/

import ControlPlane.Proofs.Router.OfConfig
import ControlPlane.Proofs.Router.RouterIdEvents
import ControlPlane.Proofs.RouterId

namespace ControlPlane

variable {Kernel : Type}

/-! ### VRFs without interfaces -/

/-- There are no interfaces, no VRF has selected a router-id, and no event tells one. -/
structure Session.IsUnelected (session : Session Kernel) : Prop where
  interfaces : session.state.interfaces = .empty
  inactive : ∀ id vrf, session.find? id = some vrf → vrf.routerId.active = none
  silent : AreSilent session.events

/-- The steps that are taken before a router gets interfaces. -/
def Action.IsPreparatory : Action → Prop
  | .perform (.addVrf _) => True
  | .perform (.setEcmp _) => True
  | .configureDefault _ => True
  | _ => False

/-- The router-id of the configuration that a VRF of a new router has. -/
def SystemConfig.givenRouterId (config : SystemConfig) (id : UInt32) : Option IPv4 :=
  (vrfOf? (startingVrfs config.vrfs) id).bind VrfConfig.routerId

namespace Session

variable {session : Session Kernel} {vrf : Vrf}

/-- A VRF without interfaces selects no router-id. -/
theorem routerIdAfter_eq (empty : session.state.interfaces = .empty)
    (inactive : vrf.routerId.active = none) : session.routerIdAfter vrf = vrf.routerId := by
  rw [routerIdAfter, RoutingState.routerIdCandidates_eq_nil empty]
  exact RouterIdSelection.update_nil inactive

variable [KernelBackend Kernel]

theorem areSilent_refreshEvents (same : session.routerIdAfter vrf = vrf.routerId) :
    AreSilent (session.refreshEvents vrf) := by
  refine (session.areSilent_failures (session.refresh vrf)).append ?_
  rw [same, routerIdChange, if_neg fun differs => differs rfl]
  exact areSilent_nil

namespace IsUnelected

variable {config : VrfConfig}

theorem inactive_configuredVrf (unelected : session.IsUnelected)
    (inactive : vrf.routerId.active = none) :
    (session.configuredVrf config vrf).routerId.active = none := by
  rw [active_configuredVrf, RoutingState.routerIdCandidates_eq_nil unelected.interfaces]
  exact (congrArg RouterIdSelection.active (RouterIdSelection.update_nil inactive)).trans inactive

theorem areSilent_configureEvents (unelected : session.IsUnelected)
    (inactive : vrf.routerId.active = none) : AreSilent (session.configureEvents config vrf) := by
  have configuring : (session.configuring config vrf).2.routerId.active = none :=
    (reroutes_configuring config vrf session).active_eq.trans inactive
  exact (areSilent_failures _ _).append
    (areSilent_refreshEvents (routerIdAfter_eq unelected.interfaces configuring))

theorem resettledAt (unelected : session.IsUnelected) {settings : Vrf → Vrf}
    (sameRouterId : ∀ vrf, (settings vrf).routerId = vrf.routerId) (id : UInt32) :
    (session.resettledAt settings id).IsUnelected := by
  unfold Session.resettledAt
  split
  next => exact unelected
  next vrf found =>
    have inactive : (settings vrf).routerId.active = none :=
      (congrArg _ (sameRouterId vrf)).trans (unelected.inactive id vrf found)
    have same := routerIdAfter_eq unelected.interfaces inactive
    refine ⟨unelected.interfaces, fun listed other isListed => ?_, ?_⟩
    · rw [find?_settleRefreshed] at isListed
      split at isListed
      next =>
        obtain ⟨_, _, rfl⟩ := Option.map_eq_some_iff.1 isListed
        exact (congrArg _ same).trans inactive
      next => exact unelected.inactive listed other isListed
    · show AreSilent (session.refreshed (settings vrf)).events
      rw [events_refreshed]
      exact unelected.silent.append (areSilent_refreshEvents same)

end IsUnelected

end Session

variable [KernelBackend Kernel]

/-- The steps before a router gets interfaces select no router-id and record none. -/
theorem Changes.isUnelected {before after : Session Kernel} {action : Action}
    (changes : Changes before action after) (isPreparatory : action.IsPreparatory)
    (unelected : before.IsUnelected) : after.IsUnelected := by
  cases changes with
  | rerouted _ performs => cases performs <;> cases isPreparatory
  | followed performs => cases performs <;> cases isPreparatory
  | vrfRemoved => cases isPreparatory
  | resynced => cases isPreparatory
  | @vrfAdded config kernels =>
    have opening : (before.withKernels kernels).IsUnelected :=
      ⟨unelected.interfaces, unelected.inactive, unelected.silent⟩
    refine ⟨unelected.interfaces, fun id vrf found => ?_, ?_⟩
    · rw [Session.find?_vrfAdded] at found
      split at found
      next =>
        rw [← Option.some.inj found]
        exact opening.inactive_configuredVrf rfl
      next => exact unelected.inactive id vrf found
    · rw [Session.events_vrfAdded, Session.events_configured]
      exact (unelected.silent.append (opening.areSilent_configureEvents rfl)).append fun _ => rfl
  | @limited config =>
    have sameRouterId : ∀ vrf : Vrf, (vrf.setMaxPaths config.maxPaths).routerId = vrf.routerId :=
      fun _ => rfl
    have limits := List.foldlRecOn (motive := Session.IsUnelected) before.state.vrfs.ids
      (Session.limitedAt config.maxPaths) unelected fun next known id _ =>
        known.resettledAt sameRouterId id
    exact ⟨limits.interfaces, limits.inactive, limits.silent⟩
  | @defaultConfigured config vrf found =>
    have inactive := unelected.inactive defaultVrfId vrf found
    refine ⟨unelected.interfaces, fun id other isListed => ?_, ?_⟩
    · rw [Session.find?_stored] at isListed
      split at isListed
      next =>
        obtain ⟨_, _, rfl⟩ := Option.map_eq_some_iff.1 isListed
        exact unelected.inactive_configuredVrf inactive
      next => exact unelected.inactive id other isListed
    · show AreSilent (before.configured config vrf).events
      rw [Session.events_configured]
      exact unelected.silent.append (unelected.areSilent_configureEvents inactive)

omit [KernelBackend Kernel] in
/-- A VRF that has selected no router-id has the configured one. -/
theorem Session.IsUnelected.tells {session : Session Kernel} {config : SystemConfig}
    {refusals : SortedMap String Errno} {maxPaths : Option UInt16}
    (unelected : session.IsUnelected)
    (realises : session.Realises refusals maxPaths (startingVrfs config.vrfs) []) :
    session.Tells config.givenRouterId := by
  intro id vrf found
  have known := realises.settings_eq id
  rw [found, Option.map_some] at known
  obtain ⟨given, listed, same⟩ := Option.map_eq_some_iff.1 known.symm
  have configured : given.routerId = vrf.routerId.configured :=
    congrArg VrfSettings.routerId same
  rw [routerIdTold_of_eq_none (unelected.silent id), SystemConfig.givenRouterId, listed,
    Option.bind_some, configured]
  exact RouterIdSelection.routerId_of_inactive (unelected.inactive id vrf found)

/-! ### Building up a router -/

namespace Router

open RouterM

/-- A step before a router gets interfaces, of which something else is known, selects no
router-id. -/
theorem ends_preparatory {Value : Type} {program : RouterM Kernel Value} {action : Action}
    {session : Session Kernel} {good : Session Kernel → Prop}
    {bad : RouteError → Session Kernel → Prop} (performs : Performs session action program)
    (isPreparatory : action.IsPreparatory) (unelected : session.IsUnelected)
    (ends : Ends program session (fun _ => good) bad) :
    Ends program session (fun _ after => good after ∧ after.IsUnelected) fun _ _ => True := by
  refine ends_imp (ends_and ends performs) ?_ fun _ _ _ => trivial
  rintro _ _ ⟨isGood, next, changes, rfl⟩
  have kept := changes.isUnelected isPreparatory unelected
  exact ⟨isGood, kept.interfaces, kept.inactive, kept.silent⟩

omit [KernelBackend Kernel] in
theorem isUnelected_blank (parameters : RouterParameters) (kernels : KernelSpace Kernel) :
    Session.IsUnelected ⟨(blank parameters kernels).state, []⟩ where
  interfaces := rfl
  inactive _ _ found := nomatch found
  silent _ := rfl

/-- A router without a configuration tells the router-ids: there is none at first. -/
theorem tells_addVrf_standard (parameters : RouterParameters) (kernels : KernelSpace Kernel) :
    Ends (addVrf VrfConfig.standard) ⟨(blank parameters kernels).state, []⟩
      (fun _ => Session.Tells fun _ => none) fun _ _ => True := by
  refine ends_imp (performs_addVrf VrfConfig.standard) ?_ fun _ _ _ => trivial
  rintro _ _ ⟨next, changes, rfl⟩
  exact changes.tells (isKeyed_blank parameters kernels) rfl

/-- A VRF takes its configuration, after those in front of it did, and selects no router-id. -/
theorem ends_configureVrf_unelected {targets : Tracing.TargetTable} {config : SystemConfig}
    {refusals : SortedMap String Errno} {maxPaths : Option UInt16} {session : Session Kernel}
    (valid : config.IsValid targets) {before rest : List VrfConfig} {vrf : VrfConfig}
    (split : config.vrfs = before ++ vrf :: rest)
    (realises : session.Realises refusals maxPaths (startingVrfs before) [])
    (unelected : session.IsUnelected) :
    Ends (configureVrf vrf) session
      (fun _ after => after.Realises refusals maxPaths (startingVrfs (before ++ [vrf])) [] ∧
        after.IsUnelected) fun _ _ => True := by
  have ends := ends_configureVrf_of_realises valid split realises
  unfold configureVrf at ends ⊢
  split
  next named =>
    rw [if_pos named] at ends
    exact ends_preparatory (performs_configureDefaultVrf vrf) trivial unelected ends
  next other =>
    rw [if_neg other] at ends
    exact ends_preparatory (performs_answer (performs_addVrf vrf)) trivial unelected ends

/-- Interfaces are added, and the router-ids are told. -/
theorem ends_addInterfaces_of_tells (interfaces : List InterfaceConfig) {session : Session Kernel}
    {initial : UInt32 → Option IPv4} (isKeyed : session.state.IsKeyed)
    (tells : session.Tells initial) :
    Ends (interfaces.forM addInterface) session
      (fun _ after => after.state.IsKeyed ∧ after.Tells initial) fun _ _ => True := by
  refine ends_forM interfaces (fun interface next known => ?_) ⟨isKeyed, tells⟩
  refine ends_imp (performs_addInterface known.1 interface) ?_ fun _ _ _ => trivial
  rintro _ _ ⟨after, changes, rfl⟩
  have keyed := changes.isKeyed known.1
  refine ⟨⟨keyed.vrfs, keyed.interfaces⟩, ?_⟩
  cases changes with
  | rerouted _ performs => cases performs
  | followed performs => exact performs.tells known.1 known.2

/-- A router that is made from a configuration tells the router-ids, given the configured ones. -/
theorem tells_configure {targets : Tracing.TargetTable} {config : SystemConfig}
    (valid : config.IsValid targets) (parameters : RouterParameters)
    (kernels : KernelSpace Kernel) :
    Ends (configure config) ⟨(blank parameters kernels).state, []⟩
      (fun _ => Session.Tells config.givenRouterId) fun _ _ => True := by
  have anyhow : ∀ (error : RouteError) (after : Session Kernel), True → True :=
    fun _ _ _ => trivial
  have standardValid : VrfConfig.standard.validate [] = .ok () := rfl
  have starts := ends_addVrf_of_realises (realises_blank parameters kernels) nofun standardValid rfl
  refine ends_bind (ends_imp (ends_preparatory (performs_addVrf _) trivial
    (isUnelected_blank parameters kernels) starts) ?_ anyhow)
  rintro _ started ⟨realises, unelected⟩
  have limits : Ends (setEcmp config.ecmp) started
      (fun _ => Session.Realises kernels.refusals config.ecmp.maxPaths (startingVrfs []) [])
      fun _ _ => True :=
    ends_setEcmp (fun checked => (realises.limited checked).published) fun _ _ _ => trivial
  refine ends_bind (ends_imp (ends_preparatory (performs_setEcmp _) trivial unelected limits) ?_
    anyhow)
  rintro _ limited ⟨realises, unelected⟩
  refine ends_bind (ends_imp (ends_forM_append (fun before next =>
      next.Realises kernels.refusals config.ecmp.maxPaths (startingVrfs before) [] ∧
        next.IsUnelected)
    config.vrfs (fun before vrf rest split next known =>
      ends_configureVrf_unelected valid split known.1 known.2) ⟨realises, unelected⟩) ?_ anyhow)
  -- now that the VRFs have their configurations, interfaces may let them select router-ids
  rintro _ built ⟨realises, unelected⟩
  exact ends_imp (ends_addInterfaces_of_tells config.interfaces realises.isKeyed
    (unelected.tells realises)) (fun _ _ known => known.2) anyhow

end Router

/-! ### Chronicles -/

/-- What was recorded since a VRF was created, and the router-id of the configuration that it was
created with. -/
structure Chronicle where
  given : Option IPv4
  events : List RoutingEvent

namespace Router

/-- The events that a new router records while a program builds it up. -/
def recordedAtStart {Value : Type} (parameters : RouterParameters) (kernels : KernelSpace Kernel)
    (program : RouterM Kernel Value) : List RoutingEvent :=
  match program ⟨(blank parameters kernels).state, []⟩ with
  | .ok _ session => session.events
  | .error _ session => session.events

/-- The chronicle of the VRF of an id goes on with what an operation records. It begins with the
operation if there was no VRF before it. -/
def chronicleAfter (router : Router Kernel) (operation : Operation) (id : UInt32)
    (chronicle : Chronicle) : Chronicle :=
  match router.vrf id with
  | .ok _ => { chronicle with events := chronicle.events ++ router.recorded operation }
  | .error _ => ⟨operation.givenRouterId, router.recorded operation⟩

end Router

/-- The chronicle of the VRF of an id in a router that is reached, as far as there is such a
VRF. -/
inductive Recounts (surroundings : Surroundings Kernel) (id : UInt32) :
    Router Kernel → Chronicle → Prop
  | created {parameters : RouterParameters} {kernels : KernelSpace Kernel} {router : Router Kernel}
      (starts : surroundings.starts kernels)
      (created : Router.create parameters kernels = .ok router) :
      Recounts surroundings id router
        ⟨none, Router.recordedAtStart parameters kernels (RouterM.addVrf VrfConfig.standard)⟩
  | configured {parameters : RouterParameters} {kernels : KernelSpace Kernel}
      {targets : Tracing.TargetTable} {config : SystemConfig} {router : Router Kernel}
      (starts : surroundings.starts kernels)
      (configured : (Router.ofConfig parameters kernels targets config).1 = .ok router) :
      Recounts surroundings id router
        ⟨config.givenRouterId id,
          Router.recordedAtStart parameters kernels (Router.configure config)⟩
  | performed {router : Router Kernel} {chronicle : Chronicle} {operation : Operation}
      (recounts : Recounts surroundings id router chronicle)
      (admits : surroundings.admits operation) :
      Recounts surroundings id (router.step operation).2
        (router.chronicleAfter operation id chronicle)
  | disturbed {router : Router Kernel} {chronicle : Chronicle} {kernels : KernelSpace Kernel}
      (recounts : Recounts surroundings id router chronicle)
      (disturbs : surroundings.disturbs router.state.kernels kernels) :
      Recounts surroundings id { router with state := { router.state with kernels } } chronicle

section Recounts

variable {surroundings : Surroundings Kernel} {id : UInt32} {router : Router Kernel}
  {chronicle : Chronicle}

/-- Every router that can be reached has a chronicle of each VRF. -/
theorem reachable_iff_exists_recounts (id : UInt32) :
    Reachable surroundings router ↔ ∃ chronicle, Recounts surroundings id router chronicle := by
  constructor
  · intro reachable
    induction reachable with
    | created starts created => exact ⟨_, .created starts created⟩
    | configured starts configured => exact ⟨_, .configured starts configured⟩
    | performed _ admits inductionHypothesis =>
      obtain ⟨chronicle, recounts⟩ := inductionHypothesis
      exact ⟨_, recounts.performed admits⟩
    | disturbed _ disturbs inductionHypothesis =>
      obtain ⟨chronicle, recounts⟩ := inductionHypothesis
      exact ⟨chronicle, recounts.disturbed disturbs⟩
  · rintro ⟨chronicle, recounts⟩
    induction recounts with
    | created starts created => exact .created starts created
    | configured starts configured => exact .configured starts configured
    | performed _ admits inductionHypothesis => exact inductionHypothesis.performed admits
    | disturbed _ disturbs inductionHypothesis => exact inductionHypothesis.disturbed disturbs

omit [KernelBackend Kernel] in
/-- A router that is started was left by the program that built it up. -/
theorem Router.exists_session_of_start {Value : Type} {parameters : RouterParameters}
    {kernels : KernelSpace Kernel} {program : RouterM Kernel Value}
    (started : start parameters kernels program = .ok router) :
    ∃ value session, program ⟨(blank parameters kernels).state, []⟩ = .ok value session ∧
      router = builtRouter parameters kernels session ∧
      recordedAtStart parameters kernels program = session.events := by
  rw [recordedAtStart]
  cases ran : program ⟨(blank parameters kernels).state, []⟩ with
  | ok value session =>
    rw [start_eq_ok ran] at started
    cases started
    exact ⟨value, session, rfl, rfl, rfl⟩
  | error error session =>
    rw [start, run, ran] at started
    cases started

/-- An operation tells the router-ids after it, given those before it. -/
theorem Router.tells_step (isKeyed : router.state.IsKeyed) (operation : Operation) :
    Session.Tells (Session.initialRouterId ⟨router.state, []⟩ operation)
      ⟨(router.step operation).2.state, router.recorded operation⟩ := by
  rcases session_cases isKeyed operation with ⟨next, changes, leaves⟩ | refused
  · rw [leaves]
    exact changes.tells isKeyed rfl
  · exact refused.tells rfl operation

/-- A chronicle that tells the router-id of its VRF goes on to tell it after an operation. -/
theorem Router.routerId_chronicleAfter (isKeyed : router.state.IsKeyed) (operation : Operation)
    (told : ∀ vrf, router.vrf id = .ok vrf →
      vrf.routerId.routerId = routerIdTold id chronicle.given chronicle.events) {vrf : Vrf}
    (found : (router.step operation).2.vrf id = .ok vrf) :
    vrf.routerId.routerId = routerIdTold id (router.chronicleAfter operation id chronicle).given
      (router.chronicleAfter operation id chronicle).events := by
  have step := tells_step isKeyed operation id vrf (VrfTable.get_eq_ok_iff.1 found)
  rw [chronicleAfter]
  cases known : router.vrf id with
  | ok earlier =>
    -- the operation goes on with the router-id that the chronicle told
    have listed : Session.find? ⟨router.state, []⟩ id = some earlier :=
      VrfTable.get_eq_ok_iff.1 known
    rw [Session.initialRouterId, listed, Option.elim_some, told earlier known] at step
    exact step.trans (routerIdTold_append ..).symm
  | error error =>
    -- the operation created the VRF, and the chronicle begins with it
    have unlisted : Session.find? ⟨router.state, []⟩ id = none :=
      Option.eq_none_iff_forall_ne_some.2 fun earlier listed => by
        rw [Router.vrf, VrfTable.get_eq_ok_iff.2 listed] at known
        cases known
    rwa [Session.initialRouterId, unlisted] at step

/-- A chronicle tells the router-id of its VRF. -/
theorem Recounts.routerId_eq (recounts : Recounts surroundings id router chronicle) {vrf : Vrf}
    (found : router.vrf id = .ok vrf) :
    vrf.routerId.routerId = routerIdTold id chronicle.given chronicle.events := by
  induction recounts generalizing vrf with
  | @created parameters kernels _ _ created =>
    obtain ⟨_, session, ran, rfl, recorded⟩ := Router.exists_session_of_start created
    have tells := Router.tells_addVrf_standard parameters kernels
    rw [RouterM.Ends, ran] at tells
    rw [recorded]
    exact tells id vrf (VrfTable.get_eq_ok_iff.1 found)
  | @configured parameters kernels _ _ _ _ configured =>
    obtain ⟨validated, session, ran, rfl⟩ := Router.exists_configure_of_ofConfig configured
    have valid := SystemConfig.validate_eq_ok_iff.1 validated
    have tells := Router.tells_configure valid parameters kernels
    rw [RouterM.Ends, ran] at tells
    rw [Router.recordedAtStart, ran]
    exact tells id vrf (VrfTable.get_eq_ok_iff.1 found)
  | performed recounts _ inductionHypothesis =>
    have reachable := (reachable_iff_exists_recounts id).2 ⟨_, recounts⟩
    exact Router.routerId_chronicleAfter reachable.isKeyed _
      (fun _ known => inductionHypothesis known) found
  | disturbed _ _ inductionHypothesis => exact inductionHypothesis found

/-- What a chronicle recounts was entered into the journal, and nothing after it. -/
theorem Recounts.exists_journal (recounts : Recounts surroundings id router chronicle) :
    ∃ earlier : Journal RoutingEvent, router.journal = earlier.addAll chronicle.events := by
  induction recounts with
  | created _ created =>
    obtain ⟨_, session, _, rfl, recorded⟩ := Router.exists_session_of_start created
    exact ⟨_, by rw [recorded]; rfl⟩
  | configured _ configured =>
    obtain ⟨_, session, ran, rfl⟩ := Router.exists_configure_of_ofConfig configured
    exact ⟨_, by rw [Router.recordedAtStart, ran]; rfl⟩
  | @performed router chronicle operation recounts _ inductionHypothesis =>
    rw [Router.journal_step, Router.chronicleAfter]
    split
    next =>
      obtain ⟨earlier, entered⟩ := inductionHypothesis
      exact ⟨earlier, by rw [entered]; exact List.foldl_append.symm⟩
    next => exact ⟨router.journal, rfl⟩
  | disturbed _ _ inductionHypothesis => exact inductionHypothesis

/-- In every router that can be reached, the router-id of a VRF is the one that was recorded last
since the VRF was created, and if none was recorded since, the one of the configuration that it was
created with. All that was recorded since was entered into the journal, in this order. -/
theorem routerId_of_recounts {vrf : Vrf} (recounts : Recounts surroundings id router chronicle)
    (found : router.vrf id = .ok vrf) :
    (∀ routerId, lastRouterId? id chronicle.events = some routerId →
      vrf.routerId.routerId = routerId) ∧
    (lastRouterId? id chronicle.events = none → vrf.routerId.routerId = chronicle.given) ∧
    ∃ earlier : Journal RoutingEvent, router.journal = earlier.addAll chronicle.events := by
  have told := recounts.routerId_eq found
  refine ⟨fun routerId last => ?_, fun nothing => ?_, recounts.exists_journal⟩
  · rw [told, routerIdTold, last, Option.getD_some]
  · rw [told, routerIdTold_of_eq_none nothing]

end Recounts

/-- What a new router recorded when it was given an interface. -/
def sampleChronicle? : Option (Router MemoryKernel × Chronicle) :=
  (Router.create {} KernelSpace.empty).toOption.map fun router =>
    ((router.step (.addInterface sampleInterface)).2,
      router.chronicleAfter (.addInterface sampleInterface) defaultVrfId
        ⟨none, Router.recordedAtStart {} (KernelSpace.empty : KernelSpace MemoryKernel)
          (RouterM.addVrf VrfConfig.standard)⟩)

/-- The router-id is the address of the interface. -/
theorem routerId_of_sampleChronicle : ∃ (router : Router MemoryKernel) (chronicle : Chronicle)
    (vrf : Vrf), Recounts Surroundings.any defaultVrfId router chronicle ∧
      router.vrf defaultVrfId = .ok vrf ∧
      lastRouterId? defaultVrfId chronicle.events = some (some 0x0A000001) ∧
      vrf.routerId.routerId = some 0x0A000001 ∧
      ∃ earlier : Journal RoutingEvent, router.journal = earlier.addAll chronicle.events := by
  have recorded : (sampleChronicle?.bind fun (router, chronicle) =>
      (router.vrf defaultVrfId).toOption.filter fun _ =>
        lastRouterId? defaultVrfId chronicle.events = some (some 0x0A000001)).isSome = true := by
    decide +kernel
  obtain ⟨vrf, isRecorded⟩ := Option.isSome_iff_exists.1 recorded
  obtain ⟨⟨_, _⟩, sample, isRecorded⟩ := Option.bind_eq_some_iff.1 isRecorded
  obtain ⟨got, last⟩ := Option.filter_eq_some_iff.1 isRecorded
  obtain ⟨start, created, same⟩ := Option.map_eq_some_iff.1 sample
  cases same
  have recounts : Recounts Surroundings.any defaultVrfId start _ :=
    .created trivial (eq_ok_of_toOption created)
  have found := eq_ok_of_toOption got
  have isLast := of_decide_eq_true last
  obtain ⟨told, _, entered⟩ := routerId_of_recounts
    (recounts.performed trivial) found
  exact ⟨_, _, vrf, recounts.performed trivial, found, isLast, told _ isLast, entered⟩

/-- A configuration that gives the default VRF a router-id. -/
def identifiedConfig : SystemConfig where
  vrfs := [{ VrfConfig.standard with routerId := some 0x09000001 }]

/-- What the router that is made from the configuration recorded. -/
def identifiedChronicle : Chronicle where
  given := identifiedConfig.givenRouterId defaultVrfId
  events := Router.recordedAtStart {} (KernelSpace.empty : KernelSpace MemoryKernel)
    (Router.configure identifiedConfig)

/-- The router-id that a VRF is created with is not recorded. -/
theorem exists_routerId_unrecorded : ∃ (router : Router MemoryKernel) (vrf : Vrf),
    Recounts Surroundings.any defaultVrfId router identifiedChronicle ∧
      router.vrf defaultVrfId = .ok vrf ∧
      lastRouterId? defaultVrfId identifiedChronicle.events = none ∧
      vrf.routerId.routerId = some 0x09000001 := by
  have unrecorded : ((Router.ofConfig {} KernelSpace.empty Router.routerTargets
      identifiedConfig).1.toOption.bind fun router : Router MemoryKernel =>
        (router.vrf defaultVrfId).toOption.filter fun vrf =>
          lastRouterId? defaultVrfId identifiedChronicle.events = none ∧
          vrf.routerId.routerId = some 0x09000001).isSome = true := by
    decide +kernel
  obtain ⟨vrf, isUnrecorded⟩ := Option.isSome_iff_exists.1 unrecorded
  obtain ⟨router, made, isUnrecorded⟩ := Option.bind_eq_some_iff.1 isUnrecorded
  obtain ⟨got, silent⟩ := Option.filter_eq_some_iff.1 isUnrecorded
  have recounts : Recounts Surroundings.any defaultVrfId router identifiedChronicle :=
    .configured trivial (eq_ok_of_toOption made)
  exact ⟨router, vrf, recounts, eq_ok_of_toOption got, of_decide_eq_true silent⟩

end ControlPlane
