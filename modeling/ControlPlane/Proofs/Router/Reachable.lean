/-
This file defines the routers that can be reached and gives the induction over
them. A router is started alone or from a configuration, and then performs
operations while its kernels may be changed from outside. What holds of a blank
router, or of one with the default VRF alone, and is kept by every change, by every
refusal and by what happens to the kernels, holds of all routers that can be
reached.
-/

import ControlPlane.Proofs.Router.Step

namespace ControlPlane

variable {Kernel : Type} [KernelBackend Kernel]

/-! ### Keys -/

namespace Session

variable {session : Session Kernel} {changes : List InterfaceChange}

omit [KernelBackend Kernel] in
/-- Steps that each keep the interfaces keep them together. -/
theorem interfaces_foldl {Item : Type} {step : Session Kernel → Item → Session Kernel}
    (keeps : ∀ session item, (step session item).state.interfaces = session.state.interfaces)
    (items : List Item) (session : Session Kernel) :
    (items.foldl step session).state.interfaces = session.state.interfaces :=
  List.foldlRecOn
    (motive := fun next : Session Kernel => next.state.interfaces = session.state.interfaces)
    items step rfl fun next same item _ => (keeps next item).trans same

theorem interfaces_follow (session : Session Kernel) (changes : List InterfaceChange) :
    (session.follow changes).state.interfaces = session.state.interfaces :=
  (interfaces_foldl (fun next id => next.interfaces_resettledAt _ id) _ _).trans
    (interfaces_foldl interfaces_followed changes session)

/-- What recording changes of interfaces and rerouting VRFs keeps, following changes keeps. -/
theorem foldl_followed_recOn (session : Session Kernel) (isKeyed : session.state.vrfs.IsKeyed)
    (attributed : RouterM.Attributed session.state.interfaces changes)
    (good : Session Kernel → Prop) (isGood : good session)
    (records : ∀ change next, good next → good (next.recorded [.interface change]))
    (reroutes : ∀ change ∈ changes, ∀ (next : Session Kernel) vrf rerouted,
      next.state.interfaces = session.state.interfaces → good next →
      next.find? change.vrf = some vrf →
      RouterM.reroute session.state.interfaces change vrf = .ok rerouted →
      Vrf.Reroutes (session.state.interfaces.resolver change.vrf) vrf rerouted →
      good (next.settle change.vrf rerouted)) :
    good (changes.foldl followed session) ∧
      (changes.foldl followed session).state.vrfs.IsKeyed := by
  have kept := List.foldlRecOn (motive := fun next : Session Kernel =>
    next.state.interfaces = session.state.interfaces ∧ good next ∧ next.state.vrfs.IsKeyed)
    changes followed ⟨rfl, isGood, isKeyed⟩ fun next known change member => by
      obtain ⟨same, nextGood, nextKeyed⟩ := known
      have nextAttributed : RouterM.Attributed next.state.interfaces changes := same ▸ attributed
      refine ⟨(next.interfaces_followed change).trans same, ?_,
        RouterM.isKeyed_followed nextKeyed nextAttributed member⟩
      rcases RouterM.followed_cases nextKeyed nextAttributed member with
        ⟨_, follows⟩ | ⟨vrf, rerouted, found, answered, known, follows⟩
      · rw [follows]
        exact records change next nextGood
      · rw [follows]
        rw [same] at answered known
        exact reroutes change member _ vrf rerouted same (records change next nextGood) found
          answered known
  exact kept.2

/-- What recording any events and rerouting VRFs keeps, following changes keeps. -/
theorem foldl_followed_keeps (session : Session Kernel) (isKeyed : session.state.vrfs.IsKeyed)
    (attributed : RouterM.Attributed session.state.interfaces changes)
    (good : Session Kernel → Prop) (isGood : good session)
    (records : ∀ events next, good next → good (next.recorded events))
    (reroutes : ∀ change ∈ changes, ∀ (next : Session Kernel) vrf rerouted,
      next.state.interfaces = session.state.interfaces → good next →
      next.find? change.vrf = some vrf →
      RouterM.reroute session.state.interfaces change vrf = .ok rerouted →
      Vrf.Reroutes (session.state.interfaces.resolver change.vrf) vrf rerouted →
      good (next.settle change.vrf rerouted)) :
    good (changes.foldl followed session) ∧
      (changes.foldl followed session).state.vrfs.IsKeyed :=
  foldl_followed_recOn session isKeyed attributed good isGood
    (fun change => records [.interface change]) reroutes

theorem isKeyed_foldl_refreshedAt (isKeyed : session.state.vrfs.IsKeyed) (ids : List UInt32) :
    (ids.foldl refreshedAt session).state.vrfs.IsKeyed := by
  refine List.foldlRecOn (motive := fun next : Session Kernel => next.state.vrfs.IsKeyed)
    ids refreshedAt isKeyed fun next nextKeyed id _ => ?_
  exact isKeyed_resettledAt (fun _ => rfl) nextKeyed id

theorem isKeyed_resyncedAt (isKeyed : session.state.vrfs.IsKeyed) (id : UInt32) :
    (session.resyncedAt id).state.vrfs.IsKeyed := by
  unfold resyncedAt
  split
  next => exact isKeyed
  next vrf found => exact VrfTable.isKeyed_store isKeyed (isKeyed id vrf found)

theorem interfaces_resyncedAt (session : Session Kernel) (id : UInt32) :
    (session.resyncedAt id).state.interfaces = session.state.interfaces := by
  unfold resyncedAt
  split <;> rfl

end Session

/-- A step keeps VRFs under their ids and interfaces under their names. -/
theorem Changes.isKeyed {before after : Session Kernel} {action : Action}
    (changes : Changes before action after) (isKeyed : before.state.IsKeyed) :
    after.state.IsKeyed := by
  cases changes with
  | rerouted found performs =>
    refine ⟨VrfTable.isKeyed_store isKeyed.vrfs ?_, isKeyed.interfaces⟩
    exact performs.reroutes.id_eq.trans (isKeyed.vrfs _ _ found)
  | @followed operation changes table performs =>
    have accounts := performs.accounts isKeyed.interfaces
    refine ⟨?_, ?_⟩
    · refine Session.isKeyed_foldl_refreshedAt ?_ _
      exact (Session.foldl_followed_keeps (before.withInterfaces table) isKeyed.vrfs
        accounts.attributed (fun _ => True) trivial (fun _ _ _ => trivial)
        fun _ _ _ _ _ _ _ _ _ _ => trivial).2
    · rw [Session.interfaces_follow]
      exact accounts.isKeyed
  | @vrfAdded config kernels idFree nameFree opened accepts =>
    refine ⟨fun id vrf found => ?_, isKeyed.interfaces⟩
    have listed := (Session.find?_vrfAdded config (before.withKernels kernels) id).symm.trans found
    split at listed
    next here =>
      rw [← here, ← Option.some.inj listed]
      exact Session.id_configuredVrf config _ _
    next => exact isKeyed.vrfs id vrf listed
  | vrfRemoved =>
    refine ⟨fun id vrf found => ?_, isKeyed.interfaces⟩
    have listed := (Session.find?_vrfRemoved _ _ _ before id).symm.trans found
    split at listed
    · cases listed
    · exact isKeyed.vrfs id vrf listed
  | @limited config checked =>
    have sameId : ∀ vrf : Vrf, (vrf.setMaxPaths config.maxPaths).id = vrf.id := fun _ => rfl
    have kept := List.foldlRecOn (motive := fun next : Session Kernel => next.state.IsKeyed)
      before.state.vrfs.ids (Session.limitedAt config.maxPaths) isKeyed fun next known id _ =>
        ⟨Session.isKeyed_resettledAt sameId known.vrfs id, by
          rw [Session.interfaces_resettledAt]; exact known.interfaces⟩
    exact ⟨kept.vrfs, kept.interfaces⟩
  | resynced =>
    refine List.foldlRecOn (motive := fun next : Session Kernel => next.state.IsKeyed)
      before.state.vrfs.ids Session.resyncedAt isKeyed fun next known id _ => ?_
    exact ⟨Session.isKeyed_resyncedAt known.vrfs id, by
      rw [Session.interfaces_resyncedAt]; exact known.interfaces⟩
  | @defaultConfigured config vrf found accepts =>
    refine ⟨VrfTable.isKeyed_store isKeyed.vrfs ?_, isKeyed.interfaces⟩
    exact (Session.id_configuredVrf config vrf before).trans (isKeyed.vrfs _ _ found)

omit [KernelBackend Kernel] in
theorem Refused.isKeyed {before after : Session Kernel} (refused : Refused before after)
    (isKeyed : before.state.IsKeyed) : after.state.IsKeyed := by
  cases refused <;> exact ⟨isKeyed.vrfs, isKeyed.interfaces⟩

/-! ### Reachable routers -/

/-- What may happen to a router: the kernels it starts with, the operations it performs, and how
its kernels change from outside. -/
structure Surroundings (Kernel : Type) where
  starts : KernelSpace Kernel → Prop
  admits : Operation → Prop
  disturbs : KernelSpace Kernel → KernelSpace Kernel → Prop

namespace Surroundings

/-- Anything may happen to a router. -/
def any : Surroundings Kernel where
  starts _ := True
  admits _ := True
  disturbs _ _ := True

/-- The steps that are taken while a router is built up, and the admitted operations. -/
def Allows (surroundings : Surroundings Kernel) : Action → Prop
  | .perform (.addVrf _) => True
  | .perform (.addInterface _) => True
  | .perform (.setEcmp _) => True
  | .perform operation => surroundings.admits operation
  | .configureDefault _ => True

omit [KernelBackend Kernel] in
theorem allows_perform {surroundings : Surroundings Kernel} {operation : Operation}
    (admits : surroundings.admits operation) : surroundings.Allows (.perform operation) := by
  cases operation with
  | addVrf => trivial
  | addInterface => trivial
  | setEcmp => trivial
  | _ => exact admits

end Surroundings

/-- The routers that can be reached: they are started alone or from a configuration, perform
operations, which may fail, and their kernels may be changed in between. -/
inductive Reachable (surroundings : Surroundings Kernel) : Router Kernel → Prop
  | created {parameters : RouterParameters} {kernels : KernelSpace Kernel} {router : Router Kernel}
      (starts : surroundings.starts kernels)
      (created : Router.create parameters kernels = .ok router) : Reachable surroundings router
  | configured {parameters : RouterParameters} {kernels : KernelSpace Kernel}
      {targets : Tracing.TargetTable} {config : SystemConfig} {router : Router Kernel}
      (starts : surroundings.starts kernels)
      (configured : (Router.ofConfig parameters kernels targets config).1 = .ok router) :
      Reachable surroundings router
  | performed {router : Router Kernel} {operation : Operation}
      (reachable : Reachable surroundings router) (admits : surroundings.admits operation) :
      Reachable surroundings (router.step operation).2
  | disturbed {router : Router Kernel} {kernels : KernelSpace Kernel}
      (reachable : Reachable surroundings router)
      (disturbs : surroundings.disturbs router.state.kernels kernels) :
      Reachable surroundings { router with state := { router.state with kernels } }

/-! ### Invariants -/

/-- A property of states that is kept by all that may happen. -/
structure IsKept (surroundings : Surroundings Kernel)
    (holds : RoutingState Kernel → Prop) : Prop where
  changed : ∀ action before after, surroundings.Allows action → before.state.IsKeyed →
    holds before.state → Changes before action after → holds after.published.state
  refused : ∀ before after, holds before.state → Refused before after → holds after.state
  disturbed : ∀ (state : RoutingState Kernel) kernels, surroundings.disturbs state.kernels kernels →
    holds state → holds { state with kernels }

/-- A property of states that holds at first and is kept by all that may happen. -/
structure IsInvariant (surroundings : Surroundings Kernel)
    (holds : RoutingState Kernel → Prop) : Prop extends IsKept surroundings holds where
  blank : ∀ parameters kernels, surroundings.starts kernels →
    holds (Router.blank parameters kernels).state

/-- A property of keyed states. -/
def IsInvariant.Good (holds : RoutingState Kernel → Prop) (session : Session Kernel) : Prop :=
  session.state.IsKeyed ∧ holds session.state

variable {surroundings : Surroundings Kernel} {holds : RoutingState Kernel → Prop}

open RouterM ControlPlane.IsInvariant

omit [KernelBackend Kernel] in
theorem isKeyed_blank (parameters : RouterParameters) (kernels : KernelSpace Kernel) :
    (Router.blank parameters kernels).state.IsKeyed :=
  ⟨fun _ _ found => (nomatch found), fun _ _ found => (nomatch found)⟩

omit [KernelBackend Kernel] in
/-- What holds when the program of a new router succeeds holds of the router. -/
theorem good_of_start {Value : Type} {parameters : RouterParameters} {kernels : KernelSpace Kernel}
    {router : Router Kernel} {program : RouterM Kernel Value}
    (ends : Ends program ⟨(Router.blank parameters kernels).state, []⟩ (fun _ => Good holds)
      fun _ _ => True)
    (started : Router.start parameters kernels program = .ok router) :
    Good holds ⟨router.state, []⟩ := by
  rw [Ends] at ends
  rw [Router.start, Router.run] at started
  cases ran : program ⟨(Router.blank parameters kernels).state, []⟩ with
  | ok value after =>
    rw [ran] at ends started
    cases started
    exact ends
  | error error after =>
    rw [ran] at started
    cases started

namespace IsKept

/-- A program that performs an allowed step keeps the property, whether it succeeds or fails. -/
theorem ends_of_performs {Value : Type} (isKept : IsKept surroundings holds)
    {session : Session Kernel} {action : Action} {program : RouterM Kernel Value}
    (performs : Performs session action program) (isGood : Good holds session)
    (allows : surroundings.Allows action) :
    Ends program session (fun _ after => Good holds after) fun _ after => Good holds after := by
  refine ends_imp performs ?_ ?_
  · rintro _ _ ⟨next, changes, rfl⟩
    have keyed := changes.isKeyed isGood.1
    exact ⟨⟨keyed.vrfs, keyed.interfaces⟩,
      isKept.changed action session next allows isGood.1 isGood.2 changes⟩
  · intro _ after refused
    exact ⟨refused.isKeyed isGood.1, isKept.refused session after isGood.2 refused⟩

/-- After the default VRF was added, a router is built up by allowed steps. -/
theorem ends_configure (isKept : IsKept surroundings holds) (config : SystemConfig)
    {session : Session Kernel}
    (starts : Ends (addVrf VrfConfig.standard) session (fun _ => Good holds) fun _ _ => True) :
    Ends (Router.configure config) session (fun _ => Good holds) fun _ _ => True := by
  have anyhow : ∀ (error : RouteError) after, Good holds after → True := fun _ _ _ => trivial
  refine ends_bind (ends_imp starts (fun _ added addedGood => ?_) fun _ _ _ => trivial)
  refine ends_bind (ends_imp (isKept.ends_of_performs (performs_setEcmp _) addedGood trivial)
    (fun _ limited limitedGood => ?_) anyhow)
  refine ends_bind (ends_imp (ends_forM config.vrfs (fun vrf session isGood => ?_) limitedGood)
    (fun _ built builtGood => ?_) anyhow)
  · unfold Router.configureVrf
    split
    · exact isKept.ends_of_performs (performs_configureDefaultVrf vrf) isGood trivial
    · exact isKept.ends_of_performs (performs_answer (performs_addVrf vrf)) isGood trivial
  · refine ends_imp (ends_forM config.interfaces (fun interface session isGood => ?_) builtGood)
      (fun _ _ isGood => isGood) anyhow
    exact isKept.ends_of_performs (performs_addInterface isGood.1 interface) isGood trivial

/-- What holds as soon as the default VRF was added, and is kept, holds of every router that can be
reached. -/
theorem good_of_reachable (isKept : IsKept surroundings holds)
    (starts : ∀ parameters kernels after, surroundings.starts kernels →
      Changes ⟨(Router.blank parameters kernels).state, []⟩
        (.perform (.addVrf VrfConfig.standard)) after → holds after.published.state)
    {router : Router Kernel} (reachable : Reachable surroundings router) :
    Good holds ⟨router.state, []⟩ := by
  have ends_addVrf : ∀ parameters kernels, surroundings.starts kernels →
      Ends (addVrf VrfConfig.standard) ⟨(Router.blank parameters kernels).state, []⟩
        (fun _ => Good holds) fun _ _ => True := by
    intro parameters kernels isStart
    refine ends_imp (performs_addVrf VrfConfig.standard) ?_ fun _ _ _ => trivial
    rintro _ _ ⟨next, changes, rfl⟩
    have keyed := changes.isKeyed (isKeyed_blank parameters kernels)
    exact ⟨⟨keyed.vrfs, keyed.interfaces⟩, starts parameters kernels next isStart changes⟩
  induction reachable with
  | created isStart created => exact good_of_start (ends_addVrf _ _ isStart) created
  | configured isStart configured =>
    rw [Router.ofConfig] at configured
    split at configured
    next => cases configured
    next =>
      split at configured
      next => cases configured
      next => exact good_of_start (isKept.ends_configure _ (ends_addVrf _ _ isStart)) configured
  | @performed router operation reachable admits inductionHypothesis =>
    have ends := isKept.ends_of_performs
      (performs_perform inductionHypothesis.1 operation) inductionHypothesis
      (Surroundings.allows_perform admits)
    rw [Ends] at ends
    rw [Router.step, Router.run]
    cases ran : operation.perform ⟨router.state, []⟩ with
    | ok value after =>
      rw [ran] at ends
      exact ends
    | error error after =>
      rw [ran] at ends
      exact ends
  | disturbed reachable disturbs inductionHypothesis =>
    obtain ⟨isKeyed, held⟩ := inductionHypothesis
    exact ⟨⟨isKeyed.vrfs, isKeyed.interfaces⟩, isKept.disturbed _ _ disturbs held⟩

end IsKept

namespace IsInvariant

/-- An invariant holds of every router that can be reached. -/
theorem good_of_reachable (isInvariant : IsInvariant surroundings holds) {router : Router Kernel}
    (reachable : Reachable surroundings router) : Good holds ⟨router.state, []⟩ :=
  isInvariant.toIsKept.good_of_reachable (fun parameters kernels after starts changes =>
    isInvariant.changed (.perform (.addVrf VrfConfig.standard))
      ⟨(Router.blank parameters kernels).state, []⟩ after trivial (isKeyed_blank parameters kernels)
      (isInvariant.blank parameters kernels starts) changes)
    reachable

theorem of_reachable (isInvariant : IsInvariant surroundings holds) {router : Router Kernel}
    (reachable : Reachable surroundings router) : holds router.state :=
  (isInvariant.good_of_reachable reachable).2

end IsInvariant

/-- VRFs are stored under their ids, and interfaces under their names. -/
theorem Reachable.isKeyed {router : Router Kernel} (reachable : Reachable surroundings router) :
    router.state.IsKeyed := by
  have nothing : IsInvariant surroundings fun _ : RoutingState Kernel => True :=
    { changed := fun _ _ _ _ _ _ _ => trivial
      refused := fun _ _ _ _ => trivial
      disturbed := fun _ _ _ _ => trivial
      blank := fun _ _ _ => trivial }
  exact (nothing.good_of_reachable reachable).1

/-! ### A router with a route -/

/-- An address with the network that it is in. -/
def sampleNetwork : Network :=
  ⟨.v4 0x0A000001, 24, by decide⟩

/-- An interface that is up and has an address. -/
def sampleInterface : InterfaceConfig :=
  { name := "eth0", index := 1, addresses := [sampleNetwork] }

/-- A new router with one interface. -/
def sampleRouter? : Option (Router MemoryKernel) :=
  (Router.create {} KernelSpace.empty).toOption.map fun router =>
    (router.step (.addInterface sampleInterface)).2

theorem eq_ok_of_toOption {Value : Type} {result : Except RouteError Value} {value : Value}
    (isSome : result.toOption = some value) : result = .ok value := by
  cases result with
  | error error => cases isSome
  | ok found => exact congrArg Except.ok (Option.some.inj isSome)

theorem reachable_sampleRouter {surroundings : Surroundings MemoryKernel}
    (starts : surroundings.starts KernelSpace.empty)
    (admits : surroundings.admits (.addInterface sampleInterface)) {router : Router MemoryKernel}
    (built : sampleRouter? = some router) : Reachable surroundings router := by
  obtain ⟨start, created, rfl⟩ := Option.map_eq_some_iff.1 built
  have reachable : Reachable surroundings start :=
    .created starts (eq_ok_of_toOption created)
  exact reachable.performed admits

theorem exists_sampleRouter : ∃ (router : Router MemoryKernel) (vrf : Vrf) (set : CandidateSet)
    (route : ForwardingRoute), Reachable Surroundings.any router ∧
      router.state.settled.pending = 0 ∧ router.vrf defaultVrfId = .ok vrf ∧
      (vrf.rib .ipv4).find? (Prefix.ofNetwork sampleNetwork) = some set ∧
      set.installed = some route := by
  have routed : ((sampleRouter?.filter fun router => router.state.settled.pending = 0).bind
      fun router => (router.vrf defaultVrfId).toOption.bind fun vrf =>
        ((vrf.rib .ipv4).find? (Prefix.ofNetwork sampleNetwork)).bind
          CandidateSet.installed).isSome = true := by
    decide +kernel
  obtain ⟨route, isRouted⟩ := Option.isSome_iff_exists.1 routed
  obtain ⟨router, sample, vrfRouted⟩ := Option.bind_eq_some_iff.1 isRouted
  obtain ⟨vrf, found, setRouted⟩ := Option.bind_eq_some_iff.1 vrfRouted
  obtain ⟨set, listed, installed⟩ := Option.bind_eq_some_iff.1 setRouted
  obtain ⟨built, nonePending⟩ := Option.filter_eq_some_iff.1 sample
  exact ⟨router, vrf, set, route, reachable_sampleRouter trivial trivial built,
    of_decide_eq_true nonePending, eq_ok_of_toOption found, listed, installed⟩

end ControlPlane
