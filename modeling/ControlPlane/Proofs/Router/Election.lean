/-
This file proves the rule by which routers select router-ids. The selection of a
VRF is evaluated when a change of an interface names the VRF, when it takes a
configuration and when limits on paths change. The changes that an event answers
account for all usable interfaces, so that a VRF that none of them names has the
candidates that it had. So after every step each selection is what an evaluation
among the candidates after the step, in some order, makes of the one before it.
-/

import ControlPlane.Proofs.Router.Reachable
import ControlPlane.Proofs.RouterId

namespace ControlPlane

variable {Kernel : Type}

namespace Session

/-- The candidates for the router-id of the VRF of an id. -/
def candidates (id : UInt32) (session : Session Kernel) : List RouterIdCandidate :=
  session.state.interfaces.routerIdCandidates id

/-- Every VRF of the second session has the active candidate that it had in the first. -/
def SameActive (before after : Session Kernel) : Prop :=
  ∀ id vrf, after.find? id = some vrf →
    ∃ known, before.find? id = some known ∧ vrf.routerId.active = known.routerId.active

/-- The selection of a VRF, active if it was there before, was evaluated among the candidates that
it has now, in some order. -/
def EvaluatedFrom (before after : Session Kernel) (id : UInt32) (vrf : Vrf) : Prop :=
  ∃ (selection : RouterIdSelection) (listed : List RouterIdCandidate),
    (∀ known, before.find? id = some known → selection.active = known.routerId.active) ∧
    listed.Perm (after.candidates id) ∧
    vrf.routerId.active = (selection.update listed).active

/-- Every VRF of the second session either has the selection and the candidates that it had in the
first, or the selection was evaluated among its candidates. -/
def Reelects (before after : Session Kernel) : Prop :=
  ∀ id vrf, after.find? id = some vrf →
    (∃ known, before.find? id = some known ∧
      vrf.routerId.active = known.routerId.active ∧
      after.candidates id = before.candidates id) ∨
    EvaluatedFrom before after id vrf

theorem Reelects.of_same {before after : Session Kernel}
    (sameCandidates : ∀ id, after.candidates id = before.candidates id)
    (same : SameActive before after) : Reelects before after := by
  intro id vrf found
  obtain ⟨known, isKnown, sameActive⟩ := same id vrf found
  exact Or.inl ⟨known, isKnown, sameActive, sameCandidates id⟩

/-- A VRF that was there evaluated its own selection. -/
theorem EvaluatedFrom.of_known {before after : Session Kernel} {id : UInt32} {known vrf : Vrf}
    {listed : List RouterIdCandidate} (isKnown : before.find? id = some known)
    (permutes : listed.Perm (after.candidates id))
    (evaluated : vrf.routerId.active = (known.routerId.update listed).active) :
    EvaluatedFrom before after id vrf := by
  refine ⟨known.routerId, listed, fun other isOther => ?_, permutes, evaluated⟩
  rw [isKnown] at isOther
  rw [Option.some.inj isOther]

/-- The VRF of the first session has the active candidate of the second one's, unless it is
concerned: then the selection was evaluated among the given candidates, in some order. -/
def EvaluatesIf (isConcerned : Prop) [Decidable isConcerned]
    (candidates : List RouterIdCandidate) (known after : Vrf) : Prop :=
  ∃ listed : List RouterIdCandidate, listed.Perm candidates ∧
    after.routerId.active =
      if isConcerned then (known.routerId.update listed).active else known.routerId.active

/-- The concerned VRFs evaluate their selections, and all others keep theirs and their
candidates. -/
theorem Reelects.of_concerned {before after : Session Kernel} (isConcerned : UInt32 → Prop)
    [DecidablePred isConcerned]
    (evaluates : ∀ id vrf, after.find? id = some vrf → ∃ known, before.find? id = some known ∧
      EvaluatesIf (isConcerned id) (after.candidates id) known vrf)
    (sameCandidates : ∀ id, ¬ isConcerned id → after.candidates id = before.candidates id) :
    Reelects before after := by
  intro id vrf found
  obtain ⟨known, isKnown, listed, permutes, evaluated⟩ := evaluates id vrf found
  split at evaluated
  next => exact Or.inr (.of_known isKnown permutes evaluated)
  next unconcerned => exact Or.inl ⟨known, isKnown, evaluated, sameCandidates id unconcerned⟩

variable [KernelBackend Kernel] {session : Session Kernel} {id : UInt32} {after : Vrf}

omit [KernelBackend Kernel] in
theorem SameActive.stored {before : Session Kernel} (same : SameActive before session)
    {vrf next : Vrf} (found : session.find? id = some vrf)
    (sameActive : next.routerId.active = vrf.routerId.active) :
    SameActive before (session.stored id next) := by
  intro listed other isListed
  rw [find?_stored] at isListed
  split at isListed
  next here =>
    subst here
    obtain ⟨_, _, rfl⟩ := Option.map_eq_some_iff.1 isListed
    obtain ⟨known, isKnown, known_eq⟩ := same id vrf found
    exact ⟨known, isKnown, sameActive.trans known_eq⟩
  next => exact same listed other isListed

theorem SameActive.settle {before : Session Kernel} (same : SameActive before session)
    {rerouted : Rerouted} {vrf : Vrf} (found : session.find? id = some vrf)
    (sameActive : rerouted.2.routerId.active = vrf.routerId.active) :
    SameActive before (session.settle id rerouted) :=
  have programmed : SameActive before (session.programmed rerouted) := same
  programmed.stored found sameActive

/-- Trying pending prefixes again selects no router-ids. -/
theorem SameActive.resyncedAt {before : Session Kernel} (same : SameActive before session)
    (own : UInt32) : SameActive before (session.resyncedAt own) := by
  unfold Session.resyncedAt
  split
  next => exact same
  next vrf found =>
    have programmed : SameActive before (session.withKernels
      (session.state.kernels.store (session.retrying vrf).sync.netns
        (session.retrying vrf).kernel)) := same
    exact programmed.stored found rfl

/-! ### Refreshing VRFs -/

section Refreshing

variable {settings : Vrf → Vrf}
  (sameActive : ∀ vrf, (settings vrf).routerId.active = vrf.routerId.active)
  (sameId : ∀ vrf, (settings vrf).id = vrf.id)

include sameActive sameId

/-- A VRF that is refreshed evaluates its selection, and all others keep theirs. -/
theorem active_resettledAt (isKeyed : session.state.vrfs.IsKeyed) {own : UInt32}
    (found : (session.resettledAt settings own).find? id = some after) :
    ∃ known, session.find? id = some known ∧
      EvaluatesIf (own = id) (session.candidates id) known after := by
  unfold resettledAt at found
  split at found
  next missing =>
    have other : own ≠ id := fun same => by
      rw [same, found] at missing
      cases missing
    exact ⟨after, found, _, .refl _, (if_neg other).symm⟩
  next vrf isFound =>
    rw [find?_settleRefreshed] at found
    split at found
    next here =>
      subst here
      rw [isFound, Option.map_some, Option.some.injEq] at found
      subst found
      have ownId : (settings vrf).id = own := (sameId vrf).trans (isKeyed own vrf isFound)
      refine ⟨vrf, isFound, _, session.state.routerIdCandidates_perm own, ?_⟩
      rw [if_pos rfl]
      show ((settings vrf).routerId.update
        (session.state.routerIdCandidates (settings vrf).id)).active = _
      rw [ownId]
      exact RouterIdSelection.active_update_congr (sameActive vrf)
    next other => exact ⟨after, found, _, .refl _, (if_neg other).symm⟩

/-- The listed VRFs evaluate their selections, and all others keep theirs. -/
theorem active_foldl_resettledAt (isKeyed : session.state.vrfs.IsKeyed) {ids : List UInt32}
    (found : (ids.foldl (resettledAt settings) session).find? id = some after) :
    ∃ known, session.find? id = some known ∧
      EvaluatesIf (id ∈ ids) (session.candidates id) known after := by
  induction ids generalizing session with
  | nil => exact ⟨after, found, _, .refl _, rfl⟩
  | cons own rest inductionHypothesis =>
    obtain ⟨next, isNext, laterListed, laterPermutes, later⟩ :=
      inductionHypothesis (isKeyed_resettledAt sameId isKeyed own) found
    obtain ⟨known, isKnown, listed, permutes, first⟩ :=
      active_resettledAt sameActive sameId isKeyed isNext
    have sameCandidates : (session.resettledAt settings own).candidates id =
        session.candidates id := by
      rw [candidates, interfaces_resettledAt, candidates]
    rw [sameCandidates] at laterPermutes
    by_cases here : own = id
    · rw [if_pos here] at first
      have member : id ∈ own :: rest := here ▸ List.mem_cons_self
      refine ⟨known, isKnown, listed, permutes, later.trans ?_⟩
      rw [if_pos member]
      split
      · -- evaluated a second time among the same candidates, listed anew
        have elected := (known.routerId.isElected_update listed).of_perm
          (permutes.trans laterPermutes.symm)
        exact (RouterIdSelection.active_update_congr first).trans elected.active_update
      · exact first
    · rw [if_neg here] at first
      have inRest : id ∈ own :: rest ↔ id ∈ rest := by
        rw [List.mem_cons, or_iff_right (Ne.symm here)]
      refine ⟨known, isKnown, laterListed, laterPermutes, later.trans ?_⟩
      simp only [inRest]
      split
      · exact RouterIdSelection.active_update_congr first
      · exact first

end Refreshing

/-! ### Following changes -/

/-- A VRF that a change names evaluates its selection in the end, and all others keep theirs. -/
theorem active_follow {changes : List InterfaceChange} (isKeyed : session.state.vrfs.IsKeyed)
    (attributed : RouterM.Attributed session.state.interfaces changes)
    (found : (session.follow changes).find? id = some after) :
    ∃ known, session.find? id = some known ∧
      EvaluatesIf (id ∈ changes.map InterfaceChange.vrf) (session.candidates id) known after := by
  obtain ⟨rerouted, reroutedKeyed⟩ := foldl_followed_keeps session isKeyed attributed
    (SameActive session) (fun _ vrf isFound => ⟨vrf, isFound, rfl⟩) (fun _ _ kept => kept)
    fun change _ next vrf rerouted _ kept isFound _ reroutes =>
      kept.settle isFound reroutes.active_eq
  obtain ⟨next, isNext, listed, permutes, evaluated⟩ :=
    active_foldl_resettledAt (fun _ => rfl) (fun _ => rfl) reroutedKeyed found
  obtain ⟨known, isKnown, same⟩ := rerouted id next isNext
  have sameCandidates : (changes.foldl followed session).candidates id = session.candidates id := by
    rw [candidates, interfaces_foldl interfaces_followed, candidates]
  have isConcerned : id ∈ concerned changes ↔ id ∈ changes.map InterfaceChange.vrf :=
    SortedSet.mem_keys_ofList
  rw [sameCandidates] at permutes
  simp only [isConcerned] at evaluated
  refine ⟨known, isKnown, listed, permutes, evaluated.trans ?_⟩
  split
  · exact RouterIdSelection.active_update_congr same
  · exact same

end Session

open Session

variable [KernelBackend Kernel]

/-! ### Steps -/

/-- A VRF that takes a configuration evaluates its selection, whatever was configured. -/
theorem Session.active_configuredVrf (config : VrfConfig) (vrf : Vrf) (session : Session Kernel) :
    (session.configuredVrf config vrf).routerId.active =
      (vrf.routerId.update (session.state.routerIdCandidates vrf.id)).active := by
  have reroutes := reroutes_configuring config vrf session
  have sameId : (session.configuring config vrf).2.id = vrf.id := reroutes.id_eq
  have sameActive : (session.configuring config vrf).2.routerId.active = vrf.routerId.active :=
    reroutes.active_eq
  show ((session.configuring config vrf).2.routerId.update
    (session.state.routerIdCandidates (session.configuring config vrf).2.id)).active = _
  rw [sameId]
  exact RouterIdSelection.active_update_congr sameActive

theorem Session.candidates_vrfAdded (config : VrfConfig) (session : Session Kernel) (id : UInt32) :
    (session.vrfAdded config).candidates id = session.candidates id := by
  have same : (session.vrfAdded config).state.interfaces = session.state.interfaces := rfl
  rw [candidates, same, candidates]

theorem Session.candidates_vrfRemoved (name : String) (removed : UInt32) (vrf : Vrf)
    (session : Session Kernel) (id : UInt32) :
    (session.vrfRemoved name removed vrf).candidates id = session.candidates id := by
  have same : (session.vrfRemoved name removed vrf).state.interfaces = session.state.interfaces :=
    rfl
  rw [candidates, same, candidates]

/-- The changes that an event answers name all VRFs whose candidates it changes. -/
theorem InterfaceOperation.reelects {before : Session Kernel} {operation : Operation}
    {changes : List InterfaceChange} {table : InterfaceTable} (isKeyed : before.state.IsKeyed)
    (performs : InterfaceOperation before.state operation changes table) :
    Reelects before ((before.withInterfaces table).follow changes) := by
  have accounts := performs.accounts isKeyed.interfaces
  have sameVrfs : (before.withInterfaces table).state.vrfs.IsKeyed := isKeyed.vrfs
  have candidates_eq (id : UInt32) : ((before.withInterfaces table).follow changes).candidates id =
      table.routerIdCandidates id := by
    rw [candidates, interfaces_follow]
    rfl
  refine .of_concerned (· ∈ changes.map InterfaceChange.vrf) (fun id vrf found => ?_)
    fun id unnamed => ?_
  · rw [candidates_eq]
    exact active_follow sameVrfs accounts.attributed found
  · rw [candidates_eq]
    exact InterfaceTable.routerIdCandidates_congr (accounts.forwarding_eq id unnamed)

/-- A limit on paths lets all VRFs evaluate their selections. -/
theorem Session.reelects_limited (config : EcmpConfig) {before : Session Kernel}
    (isKeyed : before.state.vrfs.IsKeyed) : Reelects before (before.limited config) := by
  have sameActive : ∀ vrf : Vrf,
      (vrf.setMaxPaths config.maxPaths).routerId.active = vrf.routerId.active := fun _ => rfl
  have sameId : ∀ vrf : Vrf, (vrf.setMaxPaths config.maxPaths).id = vrf.id := fun _ => rfl
  have sameInterfaces : (before.limited config).state.interfaces = before.state.interfaces :=
    interfaces_foldl (fun session id => session.interfaces_resettledAt _ id) _ before
  have sameCandidates (id : UInt32) :
      (before.limited config).candidates id = before.candidates id := by
    rw [candidates, sameInterfaces, candidates]
  refine .of_concerned (· ∈ before.state.vrfs.ids) (fun id vrf found => ?_) fun id _ =>
    sameCandidates id
  rw [sameCandidates]
  exact active_foldl_resettledAt sameActive sameId isKeyed found

/-- Every step evaluates the selections that it has to. -/
theorem Changes.reelects {before after : Session Kernel} {action : Action}
    (changes : Changes before action after) (isKeyed : before.state.IsKeyed) :
    Reelects before after := by
  cases changes with
  | @rerouted operation id vrf events rerouted found performs =>
    have recorded : SameActive before (before.recorded events) :=
      fun _ other isListed => ⟨other, isListed, rfl⟩
    exact .of_same (fun _ => rfl) (recorded.settle found performs.reroutes.active_eq)
  | followed performs => exact performs.reelects isKeyed
  | @vrfAdded config kernels idFree nameFree opened accepts =>
    intro id vrf found
    have isListed := (find?_vrfAdded config (before.withKernels kernels) id).symm.trans found
    split at isListed
    next here =>
      subst here
      have evaluated := active_configuredVrf config
        ((before.withKernels kernels).freshVrf config) (before.withKernels kernels)
      rw [Option.some.inj isListed] at evaluated
      refine Or.inr ⟨_, _, fun known isKnown => ?_, before.state.routerIdCandidates_perm _,
        evaluated⟩
      rw [idFree] at isKnown
      cases isKnown
    next => exact Or.inl ⟨vrf, isListed, rfl, candidates_vrfAdded config _ id⟩
  | @vrfRemoved name id vrf named notDefault idle found =>
    refine .of_same (before.candidates_vrfRemoved name id vrf) fun listed other isListed => ?_
    rw [find?_vrfRemoved] at isListed
    split at isListed
    · cases isListed
    · exact ⟨other, isListed, rfl⟩
  | limited => exact reelects_limited _ isKeyed.vrfs
  | resynced =>
    have sameInterfaces := interfaces_foldl interfaces_resyncedAt before.state.vrfs.ids before
    refine .of_same (fun id => by rw [candidates, sameInterfaces, candidates]) ?_
    exact List.foldlRecOn (motive := SameActive before) before.state.vrfs.ids resyncedAt
      (fun _ other isListed => ⟨other, isListed, rfl⟩) fun _ same id _ => same.resyncedAt id
  | @defaultConfigured config vrf found accepts =>
    intro id other isListed
    rw [find?_stored] at isListed
    split at isListed
    next here =>
      subst here
      obtain ⟨_, _, rfl⟩ := Option.map_eq_some_iff.1 isListed
      have evaluated := active_configuredVrf config vrf before
      rw [isKeyed.vrfs _ vrf found] at evaluated
      exact Or.inr (.of_known found (before.state.routerIdCandidates_perm _) evaluated)
    next => exact Or.inl ⟨other, isListed, rfl, rfl⟩

/-! ### Every router that can be reached -/

/-- The selection of every VRF is elected among its candidates. -/
def RoutingState.AllElected (state : RoutingState Kernel) : Prop :=
  ∀ id vrf, state.vrfs.byId.find? id = some vrf →
    vrf.routerId.IsElected (state.interfaces.routerIdCandidates id)

omit [KernelBackend Kernel] in
/-- A selection that was elected and whose candidates stayed might as well have been evaluated. -/
theorem Session.Reelects.evaluates {before after : Session Kernel}
    (reelects : Reelects before after) (allElected : before.state.AllElected) {id : UInt32}
    {vrf : Vrf} (found : after.find? id = some vrf) : EvaluatedFrom before after id vrf := by
  obtain ⟨known, isKnown, sameActive, sameCandidates⟩ | evaluated := reelects id vrf found
  · refine .of_known isKnown (.refl _) ?_
    rw [sameCandidates, sameActive]
    exact (allElected id known isKnown).active_update.symm
  · exact evaluated

/-- In every router that can be reached, all selections are elected. -/
theorem isInvariant_allElected (surroundings : Surroundings Kernel) :
    IsInvariant surroundings RoutingState.AllElected where
  blank _ _ _ := fun _ _ found => nomatch found
  changed _ _ after _ isKeyed allElected changes := by
    intro id vrf found
    obtain ⟨selection, listed, _, permutes, evaluated⟩ :=
      (changes.reelects isKeyed).evaluates allElected found
    exact ((selection.isElected_update listed).of_perm permutes).congr evaluated
  refused _ _ allElected refused := by
    cases refused <;> exact allElected
  disturbed _ _ _ allElected := allElected

/-- A step evaluates the selection of every VRF that is there before and after it, among the
candidates after it, in some order. -/
theorem Router.active_step {router : Router Kernel} (isKeyed : router.state.IsKeyed)
    (allElected : router.state.AllElected) {operation : Operation} {id : UInt32}
    {before after : Vrf}
    (foundBefore : router.state.vrfs.byId.find? id = some before)
    (foundAfter : (router.step operation).2.state.vrfs.byId.find? id = some after) :
    ∃ listed : List RouterIdCandidate,
      listed.Perm ((router.step operation).2.state.interfaces.routerIdCandidates id) ∧
      after.routerId.active = (before.routerId.update listed).active := by
  cases answered : (router.step operation).1 with
  | ok response =>
    obtain ⟨next, changes, same⟩ := Router.changes_of_step isKeyed answered
    rw [same] at foundAfter ⊢
    obtain ⟨selection, listed, known, permutes, evaluated⟩ :=
      (changes.reelects isKeyed).evaluates allElected foundAfter
    exact ⟨listed, permutes,
      evaluated.trans (RouterIdSelection.active_update_congr (known before foundBefore))⟩
  | error error =>
    obtain ⟨next, refused, same⟩ := Router.refused_of_step isKeyed answered
    have sameVrfs : next.state.vrfs = router.state.vrfs := by cases refused <;> rfl
    have sameInterfaces : next.state.interfaces = router.state.interfaces := by
      cases refused <;> rfl
    rw [same, sameVrfs, foundBefore] at foundAfter
    rw [same, sameInterfaces, ← Option.some.inj foundAfter]
    exact ⟨_, .refl _, (allElected id before foundBefore).active_update.symm⟩

/-- In every router that can be reached, the candidates of a VRF are the addresses of version 4 of
its usable interfaces, one of them is active if there is any, and a loopback address if there is
one. The router-id in use is the configured one, or else the address of the active candidate. A
step keeps the active candidate if it is still a candidate and a loopback address, or no candidate
is a loopback address; and else the new active candidate has the highest rank of all. -/
theorem elected_of_reachable {surroundings : Surroundings Kernel} {router : Router Kernel}
    (reachable : Reachable surroundings router) {id : UInt32} {vrf : Vrf}
    (found : router.vrf id = .ok vrf) :
    (∀ candidate, candidate ∈ router.state.interfaces.routerIdCandidates id ↔
      ∃ name interface, router.state.interfaces.find? name = some interface ∧
        interface.vrf = id ∧ interface.isUsable = true ∧ candidate.name = interface.name ∧
        candidate.loopback = interface.isLoopback ∧
        ∃ network ∈ interface.networks, network.address = .v4 candidate.address) ∧
    vrf.routerId.IsElected (router.state.interfaces.routerIdCandidates id) ∧
    vrf.routerId.routerId =
      vrf.routerId.configured.or (vrf.routerId.active.map RouterIdCandidate.address) ∧
    ∀ operation after, (router.step operation).2.vrf id = .ok after →
      after.routerId.IsElected
        ((router.step operation).2.state.interfaces.routerIdCandidates id) ∧
      (∀ active, vrf.routerId.active = some active →
        active.MayStay ((router.step operation).2.state.interfaces.routerIdCandidates id) →
        after.routerId.active = some active) ∧
      ((∀ active, vrf.routerId.active = some active →
        ¬ active.MayStay ((router.step operation).2.state.interfaces.routerIdCandidates id)) →
        ∀ best, after.routerId.active = some best →
          best ∈ (router.step operation).2.state.interfaces.routerIdCandidates id ∧
          ∀ candidate ∈ (router.step operation).2.state.interfaces.routerIdCandidates id,
            candidate.NotAbove best) := by
  obtain ⟨isKeyed, allElected⟩ := (isInvariant_allElected surroundings).good_of_reachable reachable
  have isFound : router.state.vrfs.byId.find? id = some vrf := VrfTable.get_eq_ok_iff.1 found
  refine ⟨fun _ => InterfaceTable.mem_routerIdCandidates_iff, allElected id vrf isFound, ?_,
    fun operation after foundAfter => ?_⟩
  · rw [RouterIdSelection.routerId]
    cases vrf.routerId.configured <;> rfl
  · obtain ⟨listed, permutes, evaluated⟩ := Router.active_step isKeyed allElected isFound
      (VrfTable.get_eq_ok_iff.1 foundAfter)
    refine ⟨((vrf.routerId.isElected_update listed).of_perm permutes).congr evaluated,
      fun active isActive mayStay => ?_, fun leaves best isBest => ?_⟩
    · exact evaluated.trans (RouterIdSelection.active_update_of_mayStay isActive
        ((RouterIdCandidate.mayStay_perm permutes).2 mayStay))
    · obtain ⟨member, highest⟩ := RouterIdSelection.highest_of_active_update
        (fun active isActive mayStay => leaves active isActive
          ((RouterIdCandidate.mayStay_perm permutes).1 mayStay)) (evaluated.symm.trans isBest)
      exact ⟨permutes.mem_iff.1 member, fun candidate inCandidates =>
        highest candidate (permutes.mem_iff.2 inCandidates)⟩

/-- A second network for the interface of the sample router. -/
def higherNetwork : Network :=
  ⟨.v4 0x0A000102, 24, by decide⟩

/-- In the sample router one address is a candidate. When a second one with a higher address shows
up, the first stays active. -/
theorem elected_of_sampleRouter : ∃ (router : Router MemoryKernel) (vrf after : Vrf)
    (active : RouterIdCandidate), router.vrf defaultVrfId = .ok vrf ∧
      vrf.routerId.active = some active ∧ active.loopback = false ∧
      (router.step (.addAddress "eth0" higherNetwork)).2.vrf defaultVrfId = .ok after ∧
      ((router.step (.addAddress "eth0" higherNetwork)).2.state.interfaces.routerIdCandidates
        defaultVrfId).map RouterIdCandidate.address = [0x0A000001, 0x0A000102] ∧
      after.routerId.active = some active := by
  have elected : (sampleRouter?.bind fun router =>
      (router.vrf defaultVrfId).toOption.bind fun vrf =>
        ((router.step (.addAddress "eth0" higherNetwork)).2.vrf defaultVrfId).toOption.bind
          fun _ => vrf.routerId.active.filter fun active =>
            active.loopback = false ∧ active.MayStay ((router.step
              (.addAddress "eth0" higherNetwork)).2.state.interfaces.routerIdCandidates
                defaultVrfId) ∧
            ((router.step (.addAddress "eth0" higherNetwork)).2.state.interfaces.routerIdCandidates
              defaultVrfId).map RouterIdCandidate.address = [0x0A000001, 0x0A000102]).isSome =
      true := by
    decide +kernel
  obtain ⟨active, isElected⟩ := Option.isSome_iff_exists.1 elected
  obtain ⟨router, built, sample⟩ := Option.bind_eq_some_iff.1 isElected
  obtain ⟨vrf, got, sample⟩ := Option.bind_eq_some_iff.1 sample
  obtain ⟨after, gotAfter, sample⟩ := Option.bind_eq_some_iff.1 sample
  obtain ⟨isActive, decided⟩ := Option.filter_eq_some_iff.1 sample
  obtain ⟨notLoopback, mayStay, addresses⟩ := of_decide_eq_true decided
  have reachable : Reachable Surroundings.any router :=
    reachable_sampleRouter trivial trivial built
  have found := eq_ok_of_toOption got
  have foundAfter := eq_ok_of_toOption gotAfter
  obtain ⟨_, _, _, steps⟩ := elected_of_reachable reachable found
  obtain ⟨_, stays, _⟩ := steps (.addAddress "eth0" higherNetwork) after foundAfter
  exact ⟨router, vrf, after, active, found, isActive, notLoopback, foundAfter, addresses,
    stays active isActive mayStay⟩

end ControlPlane
