/-
This file proves that every operation does one of the listed things: it makes one
of the changes of a session and publishes it, or it is refused. The proofs follow
the programs of the operations, and have one rule for each way in which these are
put together.
-/

import ControlPlane.Proofs.Router.Change

namespace ControlPlane

namespace RouterM

variable {Kernel Value Next : Type}

/-! ### How programs end -/

/-- A program, run in a session, succeeds or fails in a way that was foreseen. -/
def Ends (program : RouterM Kernel Value) (session : Session Kernel)
    (good : Value → Session Kernel → Prop) (bad : RouteError → Session Kernel → Prop) : Prop :=
  match program session with
  | .ok value after => good value after
  | .error error after => bad error after

variable {session : Session Kernel} {good : Value → Session Kernel → Prop}
  {bad : RouteError → Session Kernel → Prop}

theorem ends_of_run {program : RouterM Kernel Value} {value : Value} {after : Session Kernel}
    (runs : program session = .ok value after) (isGood : good value after) :
    Ends program session good bad := by
  rw [Ends, runs]
  exact isGood

theorem ends_bind {program : RouterM Kernel Value} {next : Value → RouterM Kernel Next}
    {good : Next → Session Kernel → Prop}
    (ends : Ends program session (fun value after => Ends (next value) after good bad) bad) :
    Ends (program >>= next) session good bad := by
  rw [Ends, run_bind]
  rw [Ends] at ends
  cases ran : program session with
  | ok value after =>
    rw [ran] at ends
    exact ends
  | error error after =>
    rw [ran] at ends
    exact ends

theorem ends_imp {program : RouterM Kernel Value} {good' : Value → Session Kernel → Prop}
    {bad' : RouteError → Session Kernel → Prop} (ends : Ends program session good bad)
    (goodImp : ∀ value after, good value after → good' value after)
    (badImp : ∀ error after, bad error after → bad' error after) :
    Ends program session good' bad' := by
  rw [Ends] at ends ⊢
  cases ran : program session with
  | ok value after =>
    rw [ran] at ends
    exact goodImp value after ends
  | error error after =>
    rw [ran] at ends
    exact badImp error after ends

/-- What is foreseen twice happens both ways. -/
theorem ends_and {program : RouterM Kernel Value} {good' : Value → Session Kernel → Prop}
    {bad' : RouteError → Session Kernel → Prop} (first : Ends program session good bad)
    (second : Ends program session good' bad') :
    Ends program session (fun value after => good value after ∧ good' value after)
      fun error after => bad error after ∧ bad' error after := by
  rw [Ends] at first second ⊢
  cases ran : program session with
  | ok value after =>
    rw [ran] at first second
    exact ⟨first, second⟩
  | error error after =>
    rw [ran] at first second
    exact ⟨first, second⟩

theorem ends_ofExcept {result : Except RouteError Value}
    (isGood : ∀ value, result = .ok value → good value session)
    (isBad : ∀ error, result = .error error → bad error session) :
    Ends (ofExcept result) session good bad := by
  cases result with
  | ok value => exact isGood value rfl
  | error error => exact isBad error rfl

/-- A check passes, or the refused configuration is recorded. -/
theorem ends_accept {result : ConfigResult} {good : Unit → Session Kernel → Prop}
    (isGood : result = .ok () → good () session)
    (isBad : ∀ error, result = .error error → bad (.invalidConfig error)
      (session.recorded [.configRejected error.message])) :
    Ends (accept result) session good bad := by
  cases result with
  | ok => exact isGood rfl
  | error error => exact isBad error rfl

theorem ends_publishing {mutation : RouterM Kernel Value}
    (ends : Ends mutation session (fun value after => good value after.published)
      fun error after => bad error after.published) :
    Ends (publishing mutation) session good bad := by
  rw [Ends] at ends
  rw [Ends, publishing]
  cases ran : mutation session with
  | ok value after =>
    rw [ran] at ends
    exact ends
  | error error after =>
    rw [ran] at ends
    exact ends

theorem ends_getVrf {id : UInt32} {good : Vrf → Session Kernel → Prop}
    (isGood : ∀ vrf, session.find? id = some vrf → good vrf session)
    (isBad : ∀ error, session.state.vrfs.get id = .error error → bad error session) :
    Ends (getVrf id) session good bad := by
  refine ends_bind ?_
  exact ends_of_run rfl (ends_ofExcept (fun vrf got =>
    isGood vrf (VrfTable.get_eq_ok_iff.1 got)) isBad)

/-- A program that ends well for every item of a list ends well for the list. -/
theorem ends_forM {Item : Type} {each : Item → RouterM Kernel PUnit}
    {good : Session Kernel → Prop} {bad : RouteError → Session Kernel → Prop} (items : List Item)
    (ends : ∀ item session, good session → Ends (each item) session (fun _ => good) bad)
    {session : Session Kernel} (isGood : good session) :
    Ends (items.forM each) session (fun _ => good) bad := by
  induction items generalizing session with
  | nil => exact isGood
  | cons item rest inductionHypothesis =>
    refine ends_bind (ends_imp (ends item session isGood) (fun _ after afterGood => ?_)
      fun _ _ isBad => isBad)
    exact inductionHypothesis afterGood

/-- The same for a program that builds on what was done for the items in front of each. -/
theorem ends_forM_append {Item : Type} {each : Item → RouterM Kernel PUnit}
    (good : List Item → Session Kernel → Prop) {bad : RouteError → Session Kernel → Prop}
    (items : List Item)
    (ends : ∀ before item rest, items = before ++ item :: rest → ∀ session, good before session →
      Ends (each item) session (fun _ => good (before ++ [item])) bad)
    {session : Session Kernel} (isGood : good [] session) :
    Ends (items.forM each) session (fun _ => good items) bad := by
  have ends_rest : ∀ (before rest : List Item) (session : Session Kernel), items = before ++ rest →
      good before session → Ends (rest.forM each) session (fun _ => good items) bad := by
    intro before rest
    induction rest generalizing before with
    | nil =>
      intro session split isGood
      rw [split, List.append_nil]
      exact isGood
    | cons item rest inductionHypothesis =>
      intro session split isGood
      refine ends_bind (ends_imp (ends before item rest split session isGood)
        (fun _ after afterGood => ?_) fun _ _ isBad => isBad)
      exact inductionHypothesis (before ++ [item]) after (by rw [split, List.append_assoc]; rfl)
        afterGood
  exact ends_rest [] items session rfl isGood

/-! ### Shared programs -/

variable [KernelBackend Kernel]

/-- A program performs a step: it makes a change and publishes it, or it is refused. -/
def Performs (session : Session Kernel) (action : Action) (program : RouterM Kernel Value) :
    Prop :=
  Ends program session
    (fun _ after => ∃ next, Changes session action next ∧ after = next.published)
    fun _ after => Refused session after

/-- A check before a step, which is refused if the check fails. -/
theorem performs_accept {action : Action} {result : ConfigResult}
    {program : Unit → RouterM Kernel Value}
    (performs : result = .ok () → Performs session action (program ())) :
    Performs session action (accept result >>= program) :=
  ends_bind (ends_accept performs fun _ _ => .recorded _ (areRejections_singleton _))

/-- A program that answers something about a step performs the step. -/
theorem performs_answer {action : Action} {program : RouterM Kernel Value}
    {answer : Value → Next} (performs : Performs session action program) :
    Performs session action (program >>= fun value => pure (answer value)) :=
  ends_bind performs

/-- An operation on one VRF performs a step if what it does to the VRF is known. -/
theorem performs_onVrf {operation : Operation} {id : UInt32}
    {operate : Resolver → Vrf → RouterM Kernel Rerouted}
    (ends : ∀ vrf, Ends (operate (session.state.interfaces.resolver id) vrf) session
      (fun rerouted after => ∃ events, after = session.recorded events ∧
        VrfOperation session.state id vrf operation events rerouted)
      fun _ after => ∃ events, AreRejections events ∧ after = session.recorded events) :
    Performs session (.perform operation) (onVrf id operate) := by
  refine ends_publishing (ends_bind (ends_getVrf (fun vrf found => ?_) fun _ _ =>
    refused_published _))
  refine ends_bind (ends_of_run rfl (ends_bind (ends_imp (ends vrf) ?_ ?_)))
  · rintro rerouted _ ⟨events, rfl, performs⟩
    refine ends_bind (ends_of_run (run_program rerouted _) (ends_of_run rfl ?_))
    exact ⟨_, .rerouted found performs, rfl⟩
  · rintro error _ ⟨events, rejections, rfl⟩
    exact .published events rejections

/-- The same for an operation that cannot fail and records nothing. -/
theorem performs_onVrf_pure {operation : Operation} {id : UInt32}
    {operate : Resolver → Vrf → Rerouted}
    (performs : ∀ vrf, VrfOperation session.state id vrf operation []
      (operate (session.state.interfaces.resolver id) vrf)) :
    Performs session (.perform operation)
      (onVrf id fun resolver vrf => pure (operate resolver vrf)) := by
  refine performs_onVrf fun vrf => ends_of_run rfl ⟨[], ?_, performs vrf⟩
  rw [Session.recorded_nil]

/-- An operation on the interfaces performs a step if what its event does is known. -/
theorem performs_onInterfaces {operation : Operation} {event : VrfTable → InterfaceTable → Tracked}
    (isKeyed : session.state.IsKeyed)
    (performs : ∀ changes after, event session.state.vrfs session.state.interfaces =
      .ok (changes, after) → InterfaceOperation session.state operation changes after) :
    Performs session (.perform operation) (onInterfaces event) := by
  refine ends_publishing (ends_bind (ends_of_run rfl (ends_bind (ends_ofExcept ?_ fun error _ =>
    refused_published session))))
  rintro ⟨changes, after⟩ answered
  have operates := performs changes after answered
  have accounts := operates.accounts isKeyed.interfaces
  refine ends_bind (ends_of_run rfl (ends_of_run (run_applyChanges isKeyed.vrfs ?_) ?_))
  · exact accounts.attributed
  · exact ⟨_, .followed operates, rfl⟩

/-! ### Operations on one VRF -/

theorem performs_announce (candidate : Candidate) :
    Performs session (.perform (.announce candidate)) (announce candidate) := by
  refine performs_accept fun checked => performs_onVrf fun vrf => ends_ofExcept ?_ ?_
  · intro rerouted answered
    exact ⟨[], session.recorded_nil.symm, .announced checked rfl answered⟩
  · exact fun error _ => ⟨[], areRejections_nil, session.recorded_nil.symm⟩

theorem performs_withdraw (vrf : UInt32) (destination : Prefix) (origin : Origin) :
    Performs session (.perform (.withdraw vrf destination origin))
      (withdraw vrf destination origin) :=
  performs_onVrf_pure fun _ => .withdrawn destination origin

theorem performs_withdrawInstance (vrf : UInt32) (destination : Prefix) (origin : Origin)
    (inst : UInt32) :
    Performs session (.perform (.withdrawInstance vrf destination origin inst))
      (withdrawInstance vrf destination origin inst) :=
  performs_onVrf_pure fun _ => .instanceWithdrawn destination origin inst

theorem performs_addStatic (vrf : UInt32) (route : StaticRoute) :
    Performs session (.perform (.addStatic vrf route)) (addStatic vrf route) :=
  ends_bind (ends_of_run rfl (performs_accept fun checked =>
    performs_onVrf_pure fun _ => .staticAdded checked))

theorem performs_removeStatic (vrf : UInt32) (route : StaticRoute) :
    Performs session (.perform (.removeStatic vrf route)) (removeStatic vrf route) := by
  refine performs_onVrf fun vrf => ends_ofExcept ?_ ?_
  · intro rerouted answered
    exact ⟨[], session.recorded_nil.symm, .staticRemoved answered⟩
  · exact fun error _ => ⟨[], areRejections_nil, session.recorded_nil.symm⟩

theorem performs_setBgp (vrf : UInt32) (config : BgpConfig) :
    Performs session (.perform (.setBgp vrf config)) (setBgp vrf config) := by
  refine performs_onVrf fun vrf => ends_bind (ends_accept (fun checked => ?_) fun error _ => ?_)
  · exact ends_of_run rfl ⟨[], session.recorded_nil.symm, .bgpSet checked⟩
  · exact ⟨_, areRejections_singleton _, rfl⟩

theorem performs_removeBgp (vrf : UInt32) :
    Performs session (.perform (.removeBgp vrf)) (removeBgp vrf) :=
  performs_onVrf_pure fun _ => .bgpRemoved

theorem performs_setDistance (vrf : UInt32) (config : DistanceConfig) :
    Performs session (.perform (.setDistance vrf config)) (setDistance vrf config) :=
  performs_accept fun checked => performs_onVrf_pure fun _ => .distanceSet checked

theorem performs_setRouterId (id : UInt32) (routerId : Option IPv4) :
    Performs session (.perform (.setRouterId id routerId)) (setRouterId id routerId) := by
  refine performs_accept fun checked => performs_onVrf fun vrf => ?_
  have performs : VrfOperation session.state id vrf (.setRouterId id routerId) _ _ :=
    .routerIdSet checked
  show Ends (if (vrf.configureRouterId routerId).routerId.routerId ≠ vrf.routerId.routerId then
      (record (.routerIdChanged vrf.id (vrf.configureRouterId routerId).routerId.routerId) >>=
        fun _ => pure ([], vrf.configureRouterId routerId) : RouterM Kernel Rerouted)
    else pure ([], vrf.configureRouterId routerId)) session _ _
  split
  next changes =>
    rw [if_pos changes] at performs
    exact ends_of_run rfl ⟨_, rfl, performs⟩
  next remains =>
    rw [if_neg remains] at performs
    exact ends_of_run rfl ⟨[], session.recorded_nil.symm, performs⟩

/-! ### Operations on interfaces -/

theorem performs_addInterface (isKeyed : session.state.IsKeyed) (config : InterfaceConfig) :
    Performs session (.perform (.addInterface config)) (addInterface config) := by
  refine performs_accept fun checked => performs_onInterfaces isKeyed ?_
  intro changes after answered
  obtain ⟨id, named, answered⟩ := exists_of_bind_eq_ok answered
  exact .added checked named answered

theorem performs_removeInterface (isKeyed : session.state.IsKeyed) (name : String) :
    Performs session (.perform (.removeInterface name)) (removeInterface name) := by
  refine performs_onInterfaces isKeyed fun changes after answered => ?_
  obtain ⟨result, disappeared, answered⟩ := exists_of_bind_eq_ok answered
  cases answered
  exact .removed disappeared

theorem performs_moveInterface (isKeyed : session.state.IsKeyed) (name vrf : String) :
    Performs session (.perform (.moveInterface name vrf)) (moveInterface name vrf) := by
  refine performs_onInterfaces isKeyed fun changes after answered => ?_
  obtain ⟨id, named, answered⟩ := exists_of_bind_eq_ok answered
  exact .moved named answered

/-! ### Operations on all VRFs -/

/-- The VRFs of a session whose VRFs were changed in place are those of before. -/
def SameIds (first second : Session Kernel) : Prop :=
  ∀ id, (second.find? id).isSome = (first.find? id).isSome

omit [KernelBackend Kernel] in
theorem sameIds_stored (session : Session Kernel) (id : UInt32) (vrf : Vrf) :
    SameIds session (session.stored id vrf) := by
  intro listed
  rw [Session.find?_stored]
  split
  · exact Option.isSome_map
  · rfl

omit [KernelBackend Kernel] in
theorem isSome_of_mem_ids {id : UInt32} (member : id ∈ session.state.vrfs.ids) :
    (session.find? id).isSome :=
  Option.isSome_iff_exists.2 (SortedMap.mem_keys_iff.1 member)

omit [KernelBackend Kernel] in
theorem run_getVrf {id : UInt32} {vrf : Vrf} (found : session.find? id = some vrf) :
    getVrf id session = .ok vrf session := by
  show ofExcept (session.state.vrfs.get id) session = _
  rw [VrfTable.get_eq_ok_iff.2 found]
  rfl

theorem run_limitPaths (maxPaths : Option UInt16) {id : UInt32}
    (exists_vrf : (session.find? id).isSome) :
    limitPaths maxPaths id session = .ok () (session.limitedAt maxPaths id) := by
  obtain ⟨vrf, found⟩ := Option.isSome_iff_exists.1 exists_vrf
  unfold limitPaths Session.limitedAt Session.resettledAt
  rw [run_bind, run_getVrf found, found]
  show (refreshVrf (vrf.setMaxPaths maxPaths) >>= storeVrf id : RouterM Kernel Unit) session = _
  rw [run_bind, run_refreshVrf]
  rfl

theorem sameIds_limitedAt (maxPaths : Option UInt16) (id : UInt32) :
    SameIds session (session.limitedAt maxPaths id) := by
  unfold Session.limitedAt Session.resettledAt
  split
  · exact fun _ => rfl
  · exact sameIds_stored _ id _

/-- A limit on paths is taken by all VRFs, unless it is invalid. -/
theorem ends_setEcmp {config : EcmpConfig} {good : Unit → Session Kernel → Prop}
    (isGood : config.validate = .ok () → good () (session.limited config).published)
    (isRefused : config.validate ≠ .ok () → ∀ error message,
      bad error (session.recorded [.configRejected message])) :
    Ends (setEcmp config) session good bad := by
  refine ends_bind (ends_accept (fun checked => ?_) fun error fails =>
    isRefused (by rw [fails]; nofun) _ _)
  refine ends_publishing (ends_bind (ends_of_run rfl ?_))
  have limits : (session.state.vrfs.ids.forM (limitPaths config.maxPaths) :
      RouterM Kernel PUnit) session =
        .ok () (session.state.vrfs.ids.foldl (Session.limitedAt config.maxPaths) session) := by
    refine run_forM (fun next => SameIds session next) (fun id member next sameIds => ?_)
      (fun id _ next sameIds listed => ?_) fun _ => rfl
    · exact run_limitPaths _ ((sameIds id).trans (isSome_of_mem_ids member))
    · exact (sameIds_limitedAt _ id listed).trans (sameIds listed)
  exact ends_bind (ends_of_run limits (ends_of_run rfl (isGood checked)))

theorem performs_setEcmp (config : EcmpConfig) :
    Performs session (.perform (.setEcmp config)) (setEcmp config) :=
  ends_setEcmp (fun checked => ⟨_, .limited checked, rfl⟩) fun _ _ _ =>
    .recorded _ (areRejections_singleton _)

theorem run_resyncVrf {id : UInt32} (exists_vrf : (session.find? id).isSome) :
    ∃ count, resyncVrf id session = .ok count (session.resyncedAt id) := by
  obtain ⟨vrf, found⟩ := Option.isSome_iff_exists.1 exists_vrf
  refine ⟨(session.retrying vrf).sync.pendingCount, ?_⟩
  unfold resyncVrf Session.resyncedAt
  rw [run_bind, run_getVrf found, found]
  rfl

theorem sameIds_resyncedAt (id : UInt32) : SameIds session (session.resyncedAt id) := by
  unfold Session.resyncedAt
  split
  · exact fun _ => rfl
  · exact sameIds_stored _ id _

theorem run_sumOver {ids : List UInt32} (exist : ∀ id ∈ ids, (session.find? id).isSome) :
    ∃ count, sumOver resyncVrf ids session = .ok count (ids.foldl Session.resyncedAt session) := by
  induction ids generalizing session with
  | nil => exact ⟨0, rfl⟩
  | cons id rest inductionHypothesis =>
    obtain ⟨first, resynced⟩ := run_resyncVrf (exist id List.mem_cons_self)
    have existLater : ∀ later ∈ rest, ((session.resyncedAt id).find? later).isSome :=
      fun later member => (sameIds_resyncedAt id later).trans
        (exist later (List.mem_cons_of_mem _ member))
    obtain ⟨others, summed⟩ := inductionHypothesis existLater
    refine ⟨first + others, ?_⟩
    rw [sumOver, run_bind, resynced]
    show (sumOver resyncVrf rest >>= fun others => pure (first + others)) _ = _
    rw [run_bind, summed]
    rfl

theorem performs_resync : Performs session (.perform .resync) resync := by
  refine ends_publishing (ends_bind (ends_of_run rfl ?_))
  obtain ⟨count, resynced⟩ := run_sumOver fun id (member : id ∈ session.state.vrfs.ids) =>
    isSome_of_mem_ids member
  exact ends_of_run resynced ⟨_, .resynced, rfl⟩

/-! ### VRFs that come and go -/

omit [KernelBackend Kernel] in
theorem ends_acceptVrf {vrf : Vrf} {config : VrfConfig} {good : Unit → Session Kernel → Prop}
    (isGood : AcceptsVrf session.state vrf config → good () session)
    (isRefused : ¬ AcceptsVrf session.state vrf config → ∀ error message,
      bad error (session.recorded [.configRejected message])) :
    Ends (acceptVrf vrf config) session good bad := by
  refine ends_bind (ends_of_run rfl
    (ends_bind (ends_accept (fun valid => ?_) fun error fails => ?_)))
  · cases configured : config.bgp with
    | none =>
      refine ends_of_run rfl (isGood ⟨valid, fun bgp isBgp => ?_⟩)
      rw [configured] at isBgp
      cases isBgp
    | some bgp =>
      refine ends_accept (fun checked => isGood ⟨valid, fun other isOther => ?_⟩) fun error fails =>
        isRefused (fun accepts => ?_) _ _
      · rw [configured] at isOther
        cases isOther
        exact checked
      · rw [accepts.instance_ok bgp configured] at fails
        cases fails
  · refine isRefused (fun accepts => ?_) _ _
    rw [accepts.valid] at fails
    cases fails

omit [KernelBackend Kernel] in
theorem ends_openKernel {netns : String} {good : Unit → Session Kernel → Prop}
    (isGood : ∀ kernels, session.state.kernels.openNamespace netns = .ok kernels →
      good () (session.withKernels kernels))
    (isBad : ∀ error, session.state.kernels.openNamespace netns = .error error →
      bad (.kernel error) session) : Ends (openKernel netns) session good bad := by
  refine ends_bind (ends_of_run rfl ?_)
  cases opened : session.state.kernels.openNamespace netns with
  | error error => exact isBad error opened
  | ok kernels => exact isGood kernels opened

theorem ends_configureVrf {vrf : Vrf} {config : VrfConfig} {good : Vrf → Session Kernel → Prop}
    (isGood : AcceptsVrf session.state vrf config →
      good (session.configuredVrf config vrf) (session.configured config vrf))
    (isRefused : ¬ AcceptsVrf session.state vrf config → ∀ error message,
      bad error (session.recorded [.configRejected message])) :
    Ends (configureVrf vrf config) session good bad := by
  refine ends_bind (ends_acceptVrf (fun accepts => ?_) isRefused)
  refine ends_bind (ends_of_run rfl (ends_bind (ends_of_run (run_program _ _) ?_)))
  exact ends_of_run (run_refreshVrf _ _) (isGood accepts)

/-- The default VRF takes a configuration, unless it is invalid beside what is there. -/
theorem ends_configureDefaultVrf {vrf : Vrf} {config : VrfConfig}
    {good : Unit → Session Kernel → Prop} (found : session.find? defaultVrfId = some vrf)
    (isGood : AcceptsVrf session.state vrf config → good () (((session.configured config vrf).stored
      defaultVrfId (session.configuredVrf config vrf)).published))
    (isRefused : ¬ AcceptsVrf session.state vrf config → ∀ error message,
      bad error (session.recorded [.configRejected message]).published) :
    Ends (configureDefaultVrf config) session good bad := by
  refine ends_publishing (ends_bind (ends_of_run (run_getVrf found) (ends_bind ?_)))
  exact ends_configureVrf (fun accepts => ends_of_run rfl (isGood accepts)) isRefused

theorem performs_configureDefaultVrf (config : VrfConfig) :
    Performs session (.configureDefault config) (configureDefaultVrf config) := by
  cases found : session.find? defaultVrfId with
  | some vrf =>
    exact ends_configureDefaultVrf found
      (fun accepts => ⟨_, .defaultConfigured found accepts, rfl⟩) fun _ _ _ =>
        .published _ (areRejections_singleton _)
  | none =>
    refine ends_publishing (ends_bind (ends_getVrf (fun vrf isFound => ?_) fun _ _ =>
      refused_published session))
    rw [found] at isFound
    cases isFound

/-- A VRF whose name and id are free is added, unless its namespace cannot be opened or its
configuration is invalid. -/
theorem ends_addVrf {config : VrfConfig} {good : UInt32 → Session Kernel → Prop}
    (nameFree : session.state.vrfs.idByName.find? config.name = none)
    (idFree : session.find? config.id = none)
    (isGood : ∀ kernels,
      session.state.kernels.openNamespace (config.netns.getD config.name) = .ok kernels →
      AcceptsVrf session.state (session.freshVrf config) config →
      good config.id ((session.withKernels kernels).vrfAdded config).published)
    (isClosed : ∀ error,
      session.state.kernels.openNamespace (config.netns.getD config.name) = .error error →
      bad (.kernel error) session.published)
    (isRefused : ∀ kernels,
      session.state.kernels.openNamespace (config.netns.getD config.name) = .ok kernels →
      ¬ AcceptsVrf session.state (session.freshVrf config) config → ∀ error message,
      bad error ((session.withKernels kernels).recorded [.configRejected message]).published) :
    Ends (addVrf config) session good bad := by
  have nameUnlisted : session.state.vrfs.idByName.contains config.name = false := by
    rw [SortedMap.contains, nameFree, Option.isSome_none]
  have idUnlisted : session.state.vrfs.contains config.id = false := by
    rw [VrfTable.contains, SortedMap.contains, ← Session.find?, idFree, Option.isSome_none]
  refine ends_publishing (ends_bind (ends_of_run rfl ?_))
  simp only [nameUnlisted, idUnlisted, Bool.false_eq_true, if_false]
  refine ends_bind (ends_openKernel (fun kernels opened => ?_) isClosed)
  refine ends_bind (ends_configureVrf (fun accepts => ?_) fun refused error message =>
    isRefused kernels opened (fun accepts => refused ⟨accepts.valid, accepts.instance_ok⟩) error
      message)
  refine ends_bind (ends_of_run rfl (ends_bind ?_))
  let opening := session.withKernels kernels
  show Ends (ofExcept (opening.state.vrfs.add
    (opening.configuredVrf config (opening.freshVrf config)))) _ _ _
  rw [opening.add_configuredVrf idFree nameFree]
  refine ends_of_run rfl (ends_bind (ends_of_run rfl (ends_bind (ends_of_run rfl
    (ends_of_run rfl ?_)))))
  exact isGood kernels opened ⟨accepts.valid, accepts.instance_ok⟩

theorem performs_addVrf (config : VrfConfig) :
    Performs session (.perform (.addVrf config)) (addVrf config) := by
  cases nameFree : session.state.vrfs.idByName.find? config.name with
  | some taken =>
    have contains : session.state.vrfs.idByName.contains config.name = true := by
      rw [SortedMap.contains, nameFree, Option.isSome_some]
    refine ends_publishing (ends_bind (ends_of_run rfl ?_))
    simp only [contains, if_true]
    exact ends_bind (ends_accept (fun passed => by cases passed) fun error _ =>
      .published _ (areRejections_singleton _))
  | none =>
    cases idFree : session.find? config.id with
    | some taken =>
      have nameUnlisted : session.state.vrfs.idByName.contains config.name = false := by
        rw [SortedMap.contains, nameFree, Option.isSome_none]
      have contains : session.state.vrfs.contains config.id = true :=
        Option.isSome_iff_exists.2 ⟨taken, idFree⟩
      refine ends_publishing (ends_bind (ends_of_run rfl ?_))
      simp only [nameUnlisted, contains, Bool.false_eq_true, if_false, if_true]
      exact ends_bind (ends_accept (fun passed => by cases passed) fun error _ =>
        .published _ (areRejections_singleton _))
    | none =>
      exact ends_addVrf nameFree idFree
        (fun _ opened accepts => ⟨_, .vrfAdded idFree nameFree opened accepts, rfl⟩)
        (fun _ _ => refused_published session) fun _ opened _ _ _ =>
          .opened opened _ (areRejections_singleton _)

omit [KernelBackend Kernel] in
theorem ends_remove {id : UInt32} {good : Vrf × VrfTable → Session Kernel → Prop}
    (isGood : ∀ vrf, session.find? id = some vrf →
      good (vrf, ⟨session.state.vrfs.byId.erase id,
        session.state.vrfs.idByName.filter fun _ own => own ≠ id⟩) session)
    (isBad : ∀ error, bad error session) :
    Ends (ofExcept (session.state.vrfs.remove id)) session good bad := by
  refine ends_ofExcept (fun result removed => ?_) fun error _ => isBad error
  obtain ⟨vrf, got, removed⟩ := exists_of_bind_eq_ok removed
  cases removed
  exact isGood vrf (VrfTable.get_eq_ok_iff.1 got)

theorem performs_removeVrf (name : String) :
    Performs session (.perform (.removeVrf name)) (removeVrf name) := by
  refine ends_publishing (ends_bind (ends_of_run rfl (ends_bind (ends_ofExcept (fun id named => ?_)
    fun error _ => refused_published session))))
  by_cases isDefault : id = defaultVrfId
  · simp only [isDefault, if_true]
    exact refused_published session
  · simp only [isDefault, if_false]
    cases idle : (session.state.interfaces.attachedTo id).isEmpty with
    | false => exact refused_published session
    | true =>
      simp only [Bool.not_true, Bool.false_eq_true, if_false]
      refine ends_bind (ends_remove (fun vrf found => ?_) fun error => refused_published session)
      refine ends_bind (ends_of_run rfl (ends_bind (ends_of_run (run_program _ _)
        (ends_of_run rfl ?_))))
      have isNamed : session.state.vrfs.idByName.find? name = some id := by
        rw [VrfTable.idOf] at named
        split at named
        next isFound =>
          cases named
          exact isFound
        next => cases named
      exact ⟨_, .vrfRemoved isNamed isDefault (List.isEmpty_iff.1 idle) found, rfl⟩

/-! ### All operations -/

/-- Every operation makes one of the listed changes and publishes it, or it is refused. -/
theorem performs_perform (isKeyed : session.state.IsKeyed) (operation : Operation) :
    Performs session (.perform operation) operation.perform := by
  cases operation with
  | addVrf config => exact performs_answer (performs_addVrf config)
  | removeVrf name => exact performs_answer (performs_removeVrf name)
  | addInterface config => exact performs_answer (performs_addInterface isKeyed config)
  | removeInterface name => exact performs_answer (performs_removeInterface isKeyed name)
  | setAdmin name isUp =>
    exact performs_answer (performs_onInterfaces isKeyed fun _ _ answered => .adminSet answered)
  | setOper name isUp =>
    exact performs_answer (performs_onInterfaces isKeyed fun _ _ answered => .operSet answered)
  | setRouting name routes =>
    exact performs_answer (performs_onInterfaces isKeyed fun _ _ answered => .routingSet answered)
  | addAddress name network =>
    exact performs_answer (performs_accept fun checked =>
      performs_onInterfaces isKeyed fun _ _ answered => .addressAdded checked answered)
  | removeAddress name network =>
    exact performs_answer
      (performs_onInterfaces isKeyed fun _ _ answered => .addressRemoved answered)
  | moveInterface name vrf => exact performs_answer (performs_moveInterface isKeyed name vrf)
  | announce candidate => exact performs_answer (performs_announce candidate)
  | withdraw vrf destination origin =>
    exact performs_answer (performs_withdraw vrf destination origin)
  | withdrawInstance vrf destination origin inst =>
    exact performs_answer (performs_withdrawInstance vrf destination origin inst)
  | addStatic vrf route => exact performs_answer (performs_addStatic vrf route)
  | removeStatic vrf route => exact performs_answer (performs_removeStatic vrf route)
  | setBgp vrf config => exact performs_answer (performs_setBgp vrf config)
  | removeBgp vrf => exact performs_answer (performs_removeBgp vrf)
  | setDistance vrf config => exact performs_answer (performs_setDistance vrf config)
  | setRouterId vrf routerId => exact performs_answer (performs_setRouterId vrf routerId)
  | setEcmp config => exact performs_answer (performs_setEcmp config)
  | resync => exact performs_answer performs_resync

end RouterM

/-! ### Steps of routers -/

namespace Router

variable {Kernel : Type} [KernelBackend Kernel] {router : Router Kernel} {operation : Operation}

theorem name_step (router : Router Kernel) (operation : Operation) :
    (router.step operation).2.name = router.name := by
  rw [step, run]
  split <;> rfl

/-- A step either succeeds, and then makes one of the listed changes and publishes it, or fails
and is refused. -/
theorem step_cases (isKeyed : router.state.IsKeyed) :
    (∃ response next, (router.step operation).1 = .ok response ∧
      Changes ⟨router.state, []⟩ (.perform operation) next ∧
      (router.step operation).2.state = next.published.state) ∨
    (∃ error after, (router.step operation).1 = .error error ∧
      Refused ⟨router.state, []⟩ after ∧ (router.step operation).2.state = after.state) := by
  have performs : RouterM.Performs ⟨router.state, []⟩ (.perform operation) operation.perform :=
    RouterM.performs_perform isKeyed operation
  rw [RouterM.Performs, RouterM.Ends] at performs
  rw [step, run]
  cases ran : operation.perform ⟨router.state, []⟩ with
  | ok response after =>
    rw [ran] at performs
    obtain ⟨next, changes, rfl⟩ := performs
    exact .inl ⟨response, next, rfl, changes, rfl⟩
  | error error after =>
    rw [ran] at performs
    exact .inr ⟨error, after, rfl, performs, rfl⟩

/-- An operation that succeeds makes one of the listed changes and publishes it. -/
theorem changes_of_step (isKeyed : router.state.IsKeyed) {response : Response}
    (succeeds : (router.step operation).1 = .ok response) :
    ∃ next, Changes ⟨router.state, []⟩ (.perform operation) next ∧
      (router.step operation).2.state = next.published.state := by
  obtain ⟨_, next, _, changes, same⟩ | ⟨error, _, fails, _⟩ := step_cases isKeyed
  · exact ⟨next, changes, same⟩
  · rw [succeeds] at fails
    cases fails

/-- An operation that fails is refused. -/
theorem refused_of_step (isKeyed : router.state.IsKeyed) {error : RouteError}
    (fails : (router.step operation).1 = .error error) :
    ∃ after, Refused ⟨router.state, []⟩ after ∧
      (router.step operation).2.state = after.state := by
  obtain ⟨_, _, succeeds, _⟩ | ⟨_, after, _, refused, same⟩ := step_cases isKeyed
  · rw [fails] at succeeds
    cases succeeds
  · exact ⟨after, refused, same⟩

end Router

end ControlPlane
