/-
This file proves that no failure to program the kernel goes unnoticed: a prefix of a
VRF that is pending after an operation was pending before it, or the operation
recorded the failure. A synchronizer makes a prefix pending only when it programs
a delta for it, and answers the failure then; what it tries again was pending
already. A session programs deltas in one way alone, which records the failures it
is answered, so it is enough to follow what is pending for each VRF through the
programs of an operation, together with the events recorded so far.
-/

import ControlPlane.Proofs.Router.Kernels

namespace ControlPlane

variable {Kernel : Type} [KernelBackend Kernel]

/-! ### What is pending -/

/-- A prefix is still to be programmed. -/
def Synchronizer.IsPending (sync : Synchronizer) (destination : Prefix) : Prop :=
  destination ∈ sync.pending.keys

instance (sync : Synchronizer) (destination : Prefix) : Decidable (sync.IsPending destination) :=
  inferInstanceAs (Decidable (destination ∈ sync.pending.keys))

namespace Programmed

/-- A prefix that was programmed is pending if that failed, and the others stay as they were. -/
theorem isPending_program {destination listed : Prefix} {desired : Option ForwardingRoute}
    {state : Programmed Kernel}
    (pending : (state.program destination desired).2.sync.IsPending listed) :
    state.sync.IsPending listed ∨ destination = listed ∧
      ∃ error, (state.program destination desired).1 = .error (.kernelSync listed error) := by
  have same := sameTables_syncKernel destination desired state
  rcases program_cases destination desired state with
    ⟨_, after, answered, programs⟩ | ⟨error, after, answered, programs⟩
  · rw [answered] at same
    rw [programs, Synchronizer.IsPending, Synchronizer.accepted, same.pending_eq,
      SortedMap.mem_keys_erase] at pending
    exact Or.inl pending.2
  · rw [answered] at same
    rw [programs, Synchronizer.IsPending, Synchronizer.postponed, same.pending_eq,
      SortedMap.mem_keys_insert] at pending
    rcases pending with rfl | before
    · exact Or.inr ⟨rfl, error, by rw [programs]⟩
    · exact Or.inl before

/-- Trying again what is pending makes nothing else pending. -/
theorem isPending_retryPending {listed : Prefix} {state : Programmed Kernel}
    (pending : state.retryPending.sync.IsPending listed) : state.sync.IsPending listed := by
  have nothing : ¬ state.cleared.sync.IsPending listed := List.not_mem_nil
  have kept := List.foldlRecOn (motive := fun next : Programmed Kernel =>
      next.sync.IsPending listed → state.sync.IsPending listed)
    state.sync.pending.entries
    (fun next entry => (next.program entry.1 entry.2).2) (fun before => absurd before nothing)
    fun next soFar entry member after => by
      rcases isPending_program after with before | ⟨rfl, _⟩
      · exact soFar before
      · exact List.mem_map_of_mem member
  exact kept pending

/-- What a delta makes pending is the failure that it answers. -/
theorem isPending_apply {delta : Delta} {listed : Prefix} {state : Programmed Kernel}
    (pending : (state.apply delta).2.sync.IsPending listed) :
    state.sync.IsPending listed ∨
      ∃ error, (state.apply delta).1 = .error (.kernelSync listed error) := by
  rw [apply_eq] at pending ⊢
  split at pending
  · exact Or.inl (isPending_retryPending pending)
  next changes =>
    rw [if_neg changes]
    rcases isPending_program pending with before | ⟨_, failed⟩
    · exact Or.inl (isPending_retryPending (SortedMap.mem_keys_erase.1 before).2)
    · exact Or.inr failed

/-- What deltas make pending is among the failures that they answer. -/
theorem isPending_applyAll {deltas : List Delta} {listed : Prefix} {state : Programmed Kernel}
    (pending : (state.applyAll deltas).2.sync.IsPending listed) :
    state.sync.IsPending listed ∨
      ∃ error, .kernelSync listed error ∈ (state.applyAll deltas).1 := by
  induction deltas generalizing state with
  | nil => exact Or.inl pending
  | cons delta rest inductionHypothesis =>
    rw [snd_applyAll_cons] at pending
    rw [applyAll]
    rcases inductionHypothesis pending with between | ⟨error, failed⟩
    · rcases isPending_apply between with before | ⟨error, failed⟩
      · exact Or.inl before
      · cases answered : state.apply delta with
        | mk result after =>
          rw [answered] at failed
          cases failed
          exact Or.inr ⟨error, List.mem_cons_self⟩
    · refine Or.inr ⟨error, ?_⟩
      split
      next answered => rwa [answered] at failed
      next answered =>
        rw [answered] at failed
        exact List.mem_cons_of_mem _ failed

end Programmed

/-! ### Explained failures -/

omit [KernelBackend Kernel] in
/-- Whatever is pending for a VRF was pending for it in an earlier session, or the failure is among
some events. -/
def Session.Explains (start : Session Kernel) (events : List RoutingEvent) (id : UInt32)
    (sync : Synchronizer) : Prop :=
  ∀ destination, sync.IsPending destination →
    (∃ earlier, start.find? id = some earlier ∧ earlier.sync.IsPending destination) ∨
      ∃ error, .syncFailed id destination error ∈ events

/-- Whatever is pending in a session is explained by an earlier session and the events of the later
one. -/
def Session.ExplainsAll (start session : Session Kernel) : Prop :=
  ∀ id vrf, session.find? id = some vrf → start.Explains session.events id vrf.sync

namespace Session

variable {start session : Session Kernel}

section Explains

variable {events later : List RoutingEvent} {id : UInt32} {sync : Synchronizer}

omit [KernelBackend Kernel] in
theorem Explains.mono (explains : start.Explains events id sync) (grows : events ⊆ later) :
    start.Explains later id sync := fun destination pending =>
  (explains destination pending).imp_right fun ⟨error, recorded⟩ => ⟨error, grows recorded⟩

/-- The failures that are answered when deltas are programmed are recorded. -/
theorem Explains.programmed {rerouted : Rerouted} (own : rerouted.2.id = id)
    (explains : start.Explains session.events id rerouted.2.sync) :
    start.Explains (session.programmed rerouted).events id
      (session.programmedVrf rerouted).sync := by
  intro destination pending
  rcases Programmed.isPending_applyAll pending with before | ⟨error, failed⟩
  · exact explains.mono (List.subset_append_left _ _) destination before
  · refine Or.inr ⟨error, List.mem_append_right _ (List.mem_filterMap.2 ⟨_, failed, ?_⟩)⟩
    rw [own]
    rfl

theorem Explains.refreshed {vrf : Vrf} (own : vrf.id = id)
    (explains : start.Explains session.events id vrf.sync) :
    start.Explains (session.refreshed vrf).events id (session.refreshedVrf vrf).sync := by
  have programs : start.Explains (session.programmed (session.refresh vrf)).events id
      (session.programmedVrf (session.refresh vrf)).sync := Explains.programmed own explains
  exact programs.mono (List.subset_append_left _ _)

/-- A VRF that takes a configuration is programmed twice. -/
theorem Explains.configured {config : VrfConfig} {vrf : Vrf} (own : vrf.id = id)
    (explains : start.Explains session.events id vrf.sync) :
    start.Explains (session.configured config vrf).events id
      (session.configuredVrf config vrf).sync := by
  have reroutes := reroutes_configuring config vrf session
  have sameId : (session.configuring config vrf).2.id = id := reroutes.id_eq.trans own
  have sameSync : (session.configuring config vrf).2.sync = vrf.sync := reroutes.sync_eq
  rw [← sameSync] at explains
  exact Explains.refreshed sameId (explains.programmed sameId)

end Explains

/-! ### Sessions one after the other -/

omit [KernelBackend Kernel] in
theorem explainsAll_refl (start : Session Kernel) : start.ExplainsAll start :=
  fun _ vrf found _ pending => Or.inl ⟨vrf, found, pending⟩

omit [KernelBackend Kernel] in
/-- Events may be added, and what is not about VRFs may change. -/
theorem ExplainsAll.of_vrfs_eq (explained : start.ExplainsAll session) {next : Session Kernel}
    (same : next.state.vrfs = session.state.vrfs) (grows : session.events ⊆ next.events) :
    start.ExplainsAll next := by
  intro id vrf found
  rw [find?, same] at found
  exact (explained id vrf found).mono grows

omit [KernelBackend Kernel] in
theorem ExplainsAll.recorded (explained : start.ExplainsAll session) (events : List RoutingEvent) :
    start.ExplainsAll (session.recorded events) :=
  explained.of_vrfs_eq rfl (List.subset_append_left _ _)

omit [KernelBackend Kernel] in
/-- A VRF may be stored if what is pending for it is explained. -/
theorem ExplainsAll.stored (explained : start.ExplainsAll session) (between : Session Kernel)
    (same : between.state.vrfs = session.state.vrfs) (grows : session.events ⊆ between.events)
    {id : UInt32} {vrf : Vrf} (explains : start.Explains between.events id vrf.sync) :
    start.ExplainsAll (between.stored id vrf) := by
  have betweenExplained : start.ExplainsAll between := explained.of_vrfs_eq same grows
  intro listed other found
  rw [find?_stored] at found
  split at found
  next here =>
    obtain ⟨_, _, rfl⟩ := Option.map_eq_some_iff.1 found
    exact here ▸ explains
  next => exact betweenExplained listed other found

theorem ExplainsAll.settle (explained : start.ExplainsAll session) {id : UInt32} {vrf : Vrf}
    {rerouted : Rerouted} (found : session.find? id = some vrf) (own : rerouted.2.id = id)
    (same : rerouted.2.sync = vrf.sync) : start.ExplainsAll (session.settle id rerouted) := by
  have explains : start.Explains session.events id rerouted.2.sync := by
    rw [same]
    exact explained id vrf found
  exact explained.stored (session.programmed rerouted) rfl (List.subset_append_left _ _)
    (explains.programmed own)

theorem ExplainsAll.resettledAt (explained : start.ExplainsAll session)
    (isKeyed : session.state.vrfs.IsKeyed) {settings : Vrf → Vrf}
    (sameId : ∀ vrf, (settings vrf).id = vrf.id)
    (sameSync : ∀ vrf, (settings vrf).sync = vrf.sync) (id : UInt32) :
    start.ExplainsAll (session.resettledAt settings id) := by
  unfold Session.resettledAt
  split
  next => exact explained
  next vrf found =>
    have own : (settings vrf).id = id := (sameId vrf).trans (isKeyed id vrf found)
    have explains : start.Explains session.events id (settings vrf).sync := by
      rw [sameSync]
      exact explained id vrf found
    have grows : session.events ⊆ (session.refreshed (settings vrf)).events :=
      List.Subset.trans (List.subset_append_left _ _) (List.subset_append_left _ _)
    exact explained.stored (session.refreshed (settings vrf)) rfl grows (explains.refreshed own)

/-- The same for some VRFs, one after the other. -/
theorem ExplainsAll.foldl_resettledAt (explained : start.ExplainsAll session)
    (isKeyed : session.state.vrfs.IsKeyed) {settings : Vrf → Vrf}
    (sameId : ∀ vrf, (settings vrf).id = vrf.id)
    (sameSync : ∀ vrf, (settings vrf).sync = vrf.sync) (ids : List UInt32) :
    start.ExplainsAll (ids.foldl (Session.resettledAt settings) session) :=
  (List.foldlRecOn (motive := fun next : Session Kernel =>
      start.ExplainsAll next ∧ next.state.vrfs.IsKeyed)
    ids (Session.resettledAt settings) ⟨explained, isKeyed⟩ fun _ known id _ =>
      ⟨known.1.resettledAt known.2 sameId sameSync id,
        isKeyed_resettledAt sameId known.2 id⟩).1

/-- Trying again what is pending explains itself. -/
theorem ExplainsAll.resyncedAt (explained : start.ExplainsAll session) (id : UInt32) :
    start.ExplainsAll (session.resyncedAt id) := by
  unfold Session.resyncedAt
  split
  next => exact explained
  next vrf found =>
    refine explained.stored (session.withKernels _) rfl (List.Subset.refl _) ?_
    intro destination pending
    exact explained id vrf found destination (Programmed.isPending_retryPending pending)

theorem ExplainsAll.follow (explained : start.ExplainsAll session) {changes : List InterfaceChange}
    (isKeyed : session.state.vrfs.IsKeyed)
    (attributed : RouterM.Attributed session.state.interfaces changes) :
    start.ExplainsAll (session.follow changes) := by
  obtain ⟨⟨followed, _⟩, keyed⟩ := foldl_followed_keeps session isKeyed attributed
    (fun next => start.ExplainsAll next ∧ next.state.vrfs.IsKeyed) ⟨explained, isKeyed⟩
    (fun events _ known => ⟨known.1.recorded events, known.2⟩)
    fun change _ next vrf rerouted _ known found _ reroutes => by
      have own : rerouted.2.id = change.vrf := reroutes.id_eq.trans (known.2 change.vrf vrf found)
      exact ⟨known.1.settle found own reroutes.sync_eq, VrfTable.isKeyed_store known.2 own⟩
  exact followed.foldl_resettledAt keyed (fun _ => rfl) (fun _ => rfl) _

omit [KernelBackend Kernel] in
/-- Nothing is pending for a VRF before it takes its configuration. -/
theorem explains_freshVrf (config : VrfConfig) (events : List RoutingEvent) :
    start.Explains events config.id (session.freshVrf config).sync :=
  fun _ pending => absurd pending List.not_mem_nil

theorem events_subset_configured (config : VrfConfig) (vrf : Vrf) (session : Session Kernel) :
    session.events ⊆ (session.configured config vrf).events :=
  List.Subset.trans (List.subset_append_left _ _)
    (List.Subset.trans (List.subset_append_left _ _) (List.subset_append_left _ _))

theorem events_vrfAdded (config : VrfConfig) (session : Session Kernel) :
    (session.vrfAdded config).events =
      (session.configured config (session.freshVrf config)).events ++ [.vrfAdded config.name] :=
  rfl

theorem ExplainsAll.vrfAdded (explained : start.ExplainsAll session) (config : VrfConfig) :
    start.ExplainsAll (session.vrfAdded config) := by
  have configures : start.Explains (session.configured config (session.freshVrf config)).events
      config.id (session.configuredVrf config (session.freshVrf config)).sync :=
    (explains_freshVrf config session.events).configured rfl
  have grows : (session.configured config (session.freshVrf config)).events ⊆
      (session.vrfAdded config).events := by
    rw [events_vrfAdded]
    exact List.subset_append_left _ _
  intro id vrf found
  rw [find?_vrfAdded] at found
  split at found
  next here =>
    rw [← Option.some.inj found, ← here]
    exact configures.mono grows
  next =>
    refine (explained id vrf found).mono ?_
    exact List.Subset.trans (events_subset_configured config _ session) grows

theorem ExplainsAll.vrfRemoved (explained : start.ExplainsAll session) (name : String)
    (removed : UInt32) (own : Vrf) : start.ExplainsAll (session.vrfRemoved name removed own) := by
  intro id vrf found
  rw [find?_vrfRemoved] at found
  split at found
  next => cases found
  next =>
    refine (explained id vrf found).mono ?_
    exact List.Subset.trans (List.subset_append_left _ _) (List.subset_append_left _ _)

end Session

/-! ### Operations -/

/-- A step explains what is pending after it. -/
theorem Changes.explainsAll {before after : Session Kernel} {action : Action}
    (changes : Changes before action after) (isKeyed : before.state.IsKeyed) :
    before.ExplainsAll after := by
  have start := Session.explainsAll_refl before
  cases changes with
  | @rerouted operation id vrf events rerouted found performs =>
    have own : rerouted.2.id = id :=
      performs.reroutes.id_eq.trans (isKeyed.vrfs id vrf found)
    exact (start.recorded events).settle found own performs.reroutes.sync_eq
  | @followed operation changes table performs =>
    have moved : before.ExplainsAll (before.withInterfaces table) :=
      start.of_vrfs_eq rfl (List.Subset.refl _)
    exact moved.follow isKeyed.vrfs (performs.accounts isKeyed.interfaces).attributed
  | @vrfAdded config kernels =>
    have opening : before.ExplainsAll (before.withKernels kernels) :=
      start.of_vrfs_eq rfl (List.Subset.refl _)
    exact opening.vrfAdded config
  | vrfRemoved => exact start.vrfRemoved _ _ _
  | @limited config =>
    have sameId : ∀ vrf : Vrf, (vrf.setMaxPaths config.maxPaths).id = vrf.id := fun _ => rfl
    have sameSync : ∀ vrf : Vrf, (vrf.setMaxPaths config.maxPaths).sync = vrf.sync := fun _ => rfl
    have limits := start.foldl_resettledAt isKeyed.vrfs sameId sameSync before.state.vrfs.ids
    exact limits.of_vrfs_eq rfl (List.Subset.refl _)
  | resynced =>
    exact List.foldlRecOn (motive := before.ExplainsAll) _ _ start
      fun _ known id _ => known.resyncedAt id
  | @defaultConfigured config vrf found =>
    have own : vrf.id = defaultVrfId := isKeyed.vrfs defaultVrfId vrf found
    have explains : before.Explains before.events defaultVrfId vrf.sync :=
      start defaultVrfId vrf found
    exact start.stored (before.configured config vrf) rfl (before.events_subset_configured _ _)
      (explains.configured own)

omit [KernelBackend Kernel] in
/-- A step that is refused makes nothing pending. -/
theorem Refused.explainsAll {before after : Session Kernel} (refused : Refused before after) :
    before.ExplainsAll after := by
  have start := Session.explainsAll_refl before
  cases refused with
  | recorded events => exact start.recorded events
  | published events => exact start.of_vrfs_eq rfl (List.subset_append_left _ _)
  | opened _ events => exact start.of_vrfs_eq rfl (List.subset_append_left _ _)

namespace Router

/-- The events that an operation records. -/
def recorded (router : Router Kernel) (operation : Operation) : List RoutingEvent :=
  match operation.perform ⟨router.state, []⟩ with
  | .ok _ session => session.events
  | .error _ session => session.events

/-- An operation enters the events that it records into the journal. -/
theorem journal_step (router : Router Kernel) (operation : Operation) :
    (router.step operation).2.journal = router.journal.addAll (router.recorded operation) := by
  rw [step, run, recorded]
  cases operation.perform ⟨router.state, []⟩ <;> rfl

/-- An operation leaves the session of one of the listed changes, which is published, or that of a
refusal. -/
theorem session_cases {router : Router Kernel} (isKeyed : router.state.IsKeyed)
    (operation : Operation) :
    (∃ next, Changes ⟨router.state, []⟩ (.perform operation) next ∧
      ⟨(router.step operation).2.state, router.recorded operation⟩ = next.published) ∨
    Refused ⟨router.state, []⟩ ⟨(router.step operation).2.state, router.recorded operation⟩ := by
  have performs : RouterM.Performs ⟨router.state, []⟩ (.perform operation) operation.perform :=
    RouterM.performs_perform isKeyed operation
  rw [RouterM.Performs, RouterM.Ends] at performs
  rw [step, run, recorded]
  cases ran : operation.perform ⟨router.state, []⟩ with
  | ok response after =>
    rw [ran] at performs
    obtain ⟨next, changes, rfl⟩ := performs
    exact .inl ⟨next, changes, rfl⟩
  | error error after =>
    rw [ran] at performs
    exact .inr performs

/-- An operation explains what is pending after it. -/
theorem explainsAll_step {router : Router Kernel} (isKeyed : router.state.IsKeyed)
    (operation : Operation) :
    Session.ExplainsAll ⟨router.state, []⟩
      ⟨(router.step operation).2.state, router.recorded operation⟩ := by
  rcases session_cases isKeyed operation with ⟨next, changes, leaves⟩ | refused
  · rw [leaves]
    exact changes.explainsAll isKeyed
  · exact refused.explainsAll

/-- A prefix of a VRF that is pending after an operation and was not before has a failure of its
own among the events that the operation records and enters into the journal. -/
theorem syncFailed_of_isPending {surroundings : Surroundings Kernel} {router : Router Kernel}
    (reachable : Reachable surroundings router) (operation : Operation) {id : UInt32} {vrf : Vrf}
    {destination : Prefix} (found : (router.step operation).2.vrf id = .ok vrf)
    (pending : vrf.sync.IsPending destination)
    (notBefore : ∀ earlier, router.vrf id = .ok earlier → ¬ earlier.sync.IsPending destination) :
    (∃ error, .syncFailed id destination error ∈ router.recorded operation) ∧
      (router.step operation).2.journal = router.journal.addAll (router.recorded operation) := by
  have isKeyed := reachable.isKeyed
  refine ⟨?_, router.journal_step operation⟩
  rcases explainsAll_step isKeyed operation id vrf (VrfTable.get_eq_ok_iff.1 found) destination
    pending with ⟨earlier, known, before⟩ | failed
  · exact absurd before (notBefore earlier (VrfTable.get_eq_ok_iff.2 known))
  · exact failed

/-- A new router whose kernel refuses to install routes. -/
def unwilling? : Option (Router MemoryKernel) :=
  (Router.create {} KernelSpace.empty).toOption.map fun router =>
    router.onKernel defaultVrfName fun kernel => kernel.inject .install .notPermitted 9

/-- The kernel refuses the connected route of an interface that is added. -/
theorem syncFailed_of_unwilling : ∃ (router : Router MemoryKernel) (vrf : Vrf),
    Reachable Surroundings.any router ∧
      (router.step (.addInterface sampleInterface)).2.vrf defaultVrfId = .ok vrf ∧
      vrf.sync.IsPending (Prefix.ofNetwork sampleNetwork) ∧
      (∀ earlier, router.vrf defaultVrfId = .ok earlier →
        ¬ earlier.sync.IsPending (Prefix.ofNetwork sampleNetwork)) ∧
      ∃ error, .syncFailed defaultVrfId (Prefix.ofNetwork sampleNetwork) error ∈
        router.recorded (.addInterface sampleInterface) := by
  have refused : (unwilling?.bind fun router =>
      ((router.step (.addInterface sampleInterface)).2.vrf defaultVrfId).toOption.filter fun vrf =>
        vrf.sync.IsPending (Prefix.ofNetwork sampleNetwork) ∧
          ∀ entry ∈ router.state.vrfs.byId.entries,
            ¬ entry.2.sync.IsPending (Prefix.ofNetwork sampleNetwork)).isSome = true := by
    decide +kernel
  obtain ⟨vrf, known⟩ := Option.isSome_iff_exists.1 refused
  obtain ⟨router, built, known⟩ := Option.bind_eq_some_iff.1 known
  obtain ⟨got, checked⟩ := Option.filter_eq_some_iff.1 known
  obtain ⟨pending, nonePending⟩ := of_decide_eq_true checked
  have found := eq_ok_of_toOption got
  have reachable : Reachable Surroundings.any router := by
    obtain ⟨start, created, rfl⟩ := Option.map_eq_some_iff.1 built
    have started : Reachable Surroundings.any start :=
      .created trivial (eq_ok_of_toOption created)
    exact started.disturbed trivial
  have notBefore : ∀ earlier, router.vrf defaultVrfId = .ok earlier →
      ¬ earlier.sync.IsPending (Prefix.ofNetwork sampleNetwork) := fun earlier isVrf =>
    nonePending (defaultVrfId, earlier)
      (SortedMap.find?_eq_some_iff.1 (VrfTable.get_eq_ok_iff.1 isVrf))
  exact ⟨router, vrf, reachable, found, pending, notBefore,
    (syncFailed_of_isPending reachable _ found pending notBefore).1⟩

end Router

end ControlPlane
