/-
This file follows one namespace through the steps of a router, as long as at most
one VRF at a time is bound to it. Then all that happens to its kernel is what the
synchronizer of this VRF does. So a property of a synchronizer together with its
kernel that its work keeps is kept by every step, and the only thing that is left
to be shown is what becomes of the kernel when the VRF is removed.
-/

import ControlPlane.Proofs.Router.Kernels

namespace ControlPlane

variable {Kernel : Type} [KernelBackend Kernel]

/-- A synchronizer that works stays in a good state with its kernel, and a new synchronizer of the
namespace is in a good state with a kernel that nobody uses. -/
structure KeepsGood (netns : String) (good : Programmed Kernel → Prop) (unspoilt : Kernel → Prop) :
    Prop where
  works : ∀ state next : Programmed Kernel, state.Works next → good state → good next
  starts : ∀ vrf attempts kernel, unspoilt kernel →
    good ⟨Synchronizer.create vrf netns attempts, kernel⟩

namespace Session

variable {before after : Session Kernel} {isOn : UInt32 → Prop} {action : Action}
  {netns : String} {good : Programmed Kernel → Prop} {unspoilt : Kernel → Prop}

/-! ### The only VRF of a namespace -/

/-- At most one VRF is bound to the namespace. -/
def IsExclusive (netns : String) (session : Session Kernel) : Prop :=
  ∀ first second, (session.sync? first).map Synchronizer.netns = some netns →
    (session.sync? second).map Synchronizer.netns = some netns → first = second

/-- The synchronizers that are bound to the namespace are in a good state with its kernel. If there
are none, nobody uses the kernel. -/
structure IsHost (good : Programmed Kernel → Prop) (unspoilt : Kernel → Prop) (netns : String)
    (session : Session Kernel) : Prop where
  used : ∀ id sync, session.sync? id = some sync → sync.netns = netns →
    good ⟨sync, session.kernel netns⟩
  unused : (∀ id, (session.sync? id).map Synchronizer.netns ≠ some netns) →
    unspoilt (session.kernel netns)

theorem IsExclusive.of_works (exclusive : after.IsExclusive netns)
    (works : Works isOn before after) : before.IsExclusive netns := by
  intro first second firstBound secondBound
  rw [← works.netns_eq] at firstBound secondBound
  exact exclusive first second firstBound secondBound

omit [KernelBackend Kernel] in
/-- The only VRF of a namespace is not bound to it before it is added. -/
theorem IsExclusive.of_enrolled {config : VrfConfig}
    (exclusive : (before.enrolled config).IsExclusive netns)
    (idFree : before.sync? config.id = none) : before.IsExclusive netns := by
  have kept (id : UInt32) (bound : (before.sync? id).map Synchronizer.netns = some netns) :
      ((before.enrolled config).sync? id).map Synchronizer.netns = some netns := by
    rw [sync?_enrolled, if_neg]
    · exact bound
    · rintro rfl
      rw [idFree] at bound
      cases bound
  exact fun first second firstBound secondBound =>
    exclusive first second (kept first firstBound) (kept second secondBound)

/-- The namespace has the same kernel, and the same synchronizers are bound to it. -/
theorem IsHost.congr (isHost : before.IsHost good unspoilt netns)
    (sameKernel : after.kernel netns = before.kernel netns)
    (sameBound : ∀ id sync, sync.netns = netns →
      (after.sync? id = some sync ↔ before.sync? id = some sync)) :
    after.IsHost good unspoilt netns where
  used id sync known bound := by
    rw [sameKernel]
    exact isHost.used id sync ((sameBound id sync bound).1 known) bound
  unused unused := by
    rw [sameKernel]
    refine isHost.unused fun id bound => unused id ?_
    obtain ⟨sync, known, own⟩ := Option.map_eq_some_iff.1 bound
    rw [(sameBound id sync own).2 known, Option.map_some, own]

/-! ### Synchronizers at work -/

/-- A synchronizer that works stays good with the kernel of its own namespace, and has nothing to
do with the others. -/
theorem IsHost.worked (isHost : before.IsHost good unspoilt netns)
    (keepsGood : KeepsGood netns good unspoilt) (exclusive : after.IsExclusive netns) {id : UInt32}
    {sync : Synchronizer} {next : Programmed Kernel} (found : before.sync? id = some sync)
    (works : Programmed.Works ⟨sync, before.kernel sync.netns⟩ next)
    (sync_eq : ∀ listed, after.sync? listed =
      if id = listed then some next.sync else before.sync? listed)
    (kernel_eq : ∀ netns, after.kernel netns =
      if sync.netns = netns then next.kernel else before.kernel netns) :
    after.IsHost good unspoilt netns := by
  have sameNetns := works.netns_eq
  by_cases here : sync.netns = netns
  · subst here
    have own : after.sync? id = some next.sync := by rw [sync_eq, if_pos rfl]
    have ownBound : (after.sync? id).map Synchronizer.netns = some sync.netns := by
      rw [own, Option.map_some, sameNetns]
    refine ⟨fun listed other known bound => ?_, fun unused => absurd ownBound (unused id)⟩
    have isOwn : id = listed :=
      exclusive id listed ownBound (by rw [known, Option.map_some, bound])
    subst isOwn
    rw [own] at known
    cases known
    rw [kernel_eq, if_pos rfl]
    exact keepsGood.works _ next works (isHost.used id sync found rfl)
  · refine isHost.congr (by rw [kernel_eq, if_neg here]) fun listed other bound => ?_
    rw [sync_eq]
    split
    next isOwn =>
      -- the synchronizer is not bound to the namespace, neither before nor after
      rw [← isOwn, found]
      constructor
      · rintro ⟨⟩
        exact absurd (sameNetns.symm.trans bound) here
      · rintro ⟨⟩
        exact absurd bound here
    next => rfl

theorem Works.isHost (works : Works isOn before after) (keepsGood : KeepsGood netns good unspoilt)
    (exclusive : after.IsExclusive netns) (isHost : before.IsHost good unspoilt netns) :
    after.IsHost good unspoilt netns := by
  induction works with
  | idle sync_eq kernel_eq =>
    exact isHost.congr (kernel_eq netns) fun id sync _ => by rw [sync_eq]
  | worked _ found works sync_eq kernel_eq =>
    exact isHost.worked keepsGood exclusive found works sync_eq kernel_eq
  | trans left right leftKept rightKept =>
    exact rightKept exclusive (leftKept (exclusive.of_works right) isHost)

/-! ### VRFs that come and go -/

/-- A VRF that is the only one of its namespace finds a kernel that nobody uses. -/
theorem IsHost.enrolled {config : VrfConfig} (isHost : before.IsHost good unspoilt netns)
    (keepsGood : KeepsGood netns good unspoilt)
    (exclusive : (before.enrolled config).IsExclusive netns)
    (idFree : before.sync? config.id = none) :
    (before.enrolled config).IsHost good unspoilt netns := by
  by_cases here : (before.freshVrf config).sync.netns = netns
  · have own : (before.enrolled config).sync? config.id = some (before.freshVrf config).sync := by
      rw [sync?_enrolled, if_pos rfl]
    have ownBound : ((before.enrolled config).sync? config.id).map Synchronizer.netns =
        some netns := by rw [own, Option.map_some, here]
    have nobody (id : UInt32) : (before.sync? id).map Synchronizer.netns ≠ some netns := by
      intro other
      by_cases isOwn : config.id = id
      · subst isOwn
        rw [idFree] at other
        cases other
      · refine isOwn (exclusive config.id id ownBound ?_)
        rw [sync?_enrolled, if_neg isOwn, other]
    refine ⟨fun id sync known bound => ?_, fun unused => absurd ownBound (unused config.id)⟩
    have isOwn : config.id = id :=
      exclusive config.id id ownBound (by rw [known, Option.map_some, bound])
    subst isOwn
    rw [own] at known
    cases known
    subst here
    exact keepsGood.starts config.id _ _ (isHost.unused nobody)
  · refine isHost.congr rfl fun id sync bound => ?_
    rw [sync?_enrolled]
    split
    next isOwn =>
      rw [← isOwn, idFree]
      constructor
      · rintro ⟨⟩
        exact absurd bound here
      · rintro ⟨⟩
    next => rfl

/-- A VRF that is gone after a step was removed by it. -/
theorem Reworks.exists_removed (reworks : before.Reworks action after) {id : UInt32}
    (there : before.sync? id ≠ none) (gone : after.sync? id = none) :
    ∃ vrf, before.find? id = some vrf ∧ before.state.interfaces.attachedTo id = [] ∧
      ∀ netns, after.kernel netns = (before.programmed vrf.purge).kernel netns := by
  have stays {isOn : UInt32 → Prop} {between : Session Kernel} (works : Works isOn between after)
      (known : between.sync? id ≠ none) : False := by
    have sameNetns := works.netns_eq id
    rw [gone, Option.map_none] at sameNetns
    exact known (Option.map_eq_none_iff.1 sameNetns.symm)
  cases reworks with
  | worked works => exact (stays works there).elim
  | @vrfAdded config _ idFree works =>
    refine (stays works ?_).elim
    rw [sync?_enrolled]
    split
    · nofun
    · exact there
  | @vrfRemoved name removed vrf _ _ idle found sync_eq kernel_eq =>
    by_cases here : removed = id
    · subst here
      exact ⟨vrf, found, idle, kernel_eq⟩
    · rw [sync_eq, if_neg here] at gone
      exact absurd gone there

/-- A VRF that is removed leaves the other namespaces alone, and nobody uses its own any more. -/
theorem isHost_vrfRemoved {id : UInt32} {vrf : Vrf} (found : before.find? id = some vrf)
    (sync_eq : ∀ listed, after.sync? listed = if id = listed then none else before.sync? listed)
    (kernel_eq : ∀ netns, after.kernel netns = (before.programmed vrf.purge).kernel netns)
    (exclusive : before.IsExclusive netns) (isHost : before.IsHost good unspoilt netns)
    (leaves : vrf.netns = netns → unspoilt (after.kernel netns)) :
    after.IsHost good unspoilt netns := by
  have known : before.sync? id = some vrf.sync := by rw [sync?, found, Option.map_some]
  by_cases here : vrf.netns = netns
  · refine ⟨fun listed sync isListed bound => ?_, fun _ => leaves here⟩
    rw [sync_eq] at isListed
    split at isListed
    next => cases isListed
    next other =>
      refine absurd (exclusive id listed ?_ ?_) other
      · rw [known]
        exact congrArg some here
      · rw [isListed, Option.map_some, bound]
  · have sameNetns : (before.programmedVrf vrf.purge).netns = vrf.netns :=
      Programmed.netns_applyAll vrf.purge.1 _
    have sameKernel : after.kernel netns = before.kernel netns := by
      rw [kernel_eq]
      show (before.state.kernels.store (before.programmedVrf vrf.purge).netns _).kernel netns = _
      rw [KernelSpace.kernel_store, sameNetns, if_neg here]
      rfl
    refine isHost.congr sameKernel fun listed sync bound => ?_
    rw [sync_eq]
    split
    next isOwn =>
      rw [← isOwn, known]
      constructor
      · rintro ⟨⟩
      · rintro ⟨⟩
        exact absurd bound here
    next => rfl

/-! ### Steps -/

/-- Every step keeps the only VRF of a namespace good with the kernel, if nobody uses the kernel of
a VRF that the step removes. -/
theorem Reworks.isHost (reworks : before.Reworks action after)
    (keepsGood : KeepsGood netns good unspoilt)
    (isHost : before.IsExclusive netns → before.IsHost good unspoilt netns)
    (exclusive : after.IsExclusive netns)
    (removes : ∀ name, action = .perform (.removeVrf name) → before.IsExclusive netns ∧
      ∀ id, (before.sync? id).map Synchronizer.netns = some netns → after.sync? id = none →
        unspoilt (after.kernel netns)) :
    after.IsHost good unspoilt netns := by
  cases reworks with
  | worked works => exact works.isHost keepsGood exclusive (isHost (exclusive.of_works works))
  | vrfAdded idFree works =>
    have enrolled := exclusive.of_works works
    have hosts := (isHost (enrolled.of_enrolled idFree)).enrolled keepsGood enrolled idFree
    exact works.isHost keepsGood exclusive hosts
  | @vrfRemoved name id vrf _ _ _ found sync_eq kernel_eq =>
    obtain ⟨exclusiveBefore, leaves⟩ := removes name rfl
    refine isHost_vrfRemoved found sync_eq kernel_eq exclusiveBefore (isHost exclusiveBefore)
      fun here => leaves id ?_ ?_
    · rw [sync?, found]
      exact congrArg some here
    · rw [sync_eq, if_pos rfl]

end Session

/-! ### Routers -/

namespace Router

omit [KernelBackend Kernel]

variable {router : Router Kernel} {netns : String}

/-- At most one VRF is bound to the namespace. -/
def IsExclusive (netns : String) (router : Router Kernel) : Prop :=
  ∀ first second vrf other, router.vrf first = .ok vrf → router.vrf second = .ok other →
    vrf.netns = netns → other.netns = netns → first = second

theorem bound_iff {id : UInt32} :
    ((Session.mk router.state []).sync? id).map Synchronizer.netns = some netns ↔
      ∃ vrf, router.vrf id = .ok vrf ∧ vrf.netns = netns := by
  rw [Session.sync?, Option.map_map, Option.map_eq_some_iff]
  exact exists_congr fun vrf => and_congr_left' VrfTable.get_eq_ok_iff.symm

theorem isExclusive_iff :
    router.IsExclusive netns ↔ Session.IsExclusive netns ⟨router.state, []⟩ := by
  unfold Session.IsExclusive
  simp only [bound_iff]
  constructor
  · rintro exclusive first second ⟨vrf, found, bound⟩ ⟨other, foundOther, otherBound⟩
    exact exclusive first second vrf other found foundOther bound otherBound
  · intro exclusive first second vrf other found foundOther bound otherBound
    exact exclusive first second ⟨vrf, found, bound⟩ ⟨other, foundOther, otherBound⟩

theorem isExclusive_iff_entries : router.IsExclusive netns ↔
    ∀ first ∈ router.state.vrfs.byId.entries, ∀ second ∈ router.state.vrfs.byId.entries,
      first.2.netns = netns → second.2.netns = netns → first.1 = second.1 := by
  have listed {id : UInt32} {vrf : Vrf} :
      router.vrf id = .ok vrf ↔ (id, vrf) ∈ router.state.vrfs.byId.entries :=
    VrfTable.get_eq_ok_iff.trans SortedMap.find?_eq_some_iff
  constructor
  · intro exclusive first member second otherMember
    exact exclusive first.1 second.1 first.2 second.2 (listed.2 member) (listed.2 otherMember)
  · intro exclusive first second vrf other found foundOther
    exact exclusive (first, vrf) (listed.1 found) (second, other) (listed.1 foundOther)

instance : Decidable (router.IsExclusive netns) :=
  decidable_of_iff _ isExclusive_iff_entries.symm

end Router

/-! ### Routers that are built up -/

/-- A router that is built up performs no operations yet, and nothing happens to its kernels. -/
def Surroundings.building (starts : KernelSpace Kernel → Prop) : Surroundings Kernel where
  starts := starts
  admits _ := False
  disturbs _ _ := False

/-- While a router is built up, VRFs only come, so a namespace with one VRF had no other one
before. -/
theorem KeepsGood.isInvariant {netns : String} {good : Programmed Kernel → Prop}
    {unspoilt : Kernel → Prop} (keepsGood : KeepsGood netns good unspoilt)
    {starts : KernelSpace Kernel → Prop}
    (first : ∀ kernels, starts kernels → unspoilt (kernels.kernel netns)) :
    IsInvariant (Surroundings.building starts) fun state =>
      Session.IsExclusive netns ⟨state, []⟩ →
        Session.IsHost good unspoilt netns ⟨state, []⟩ where
  blank _ kernels isStart := fun _ => ⟨nofun, fun _ => first kernels isStart⟩
  changed action before after allows isKeyed isHost changes := by
    intro exclusive
    have reworks := (changes.reworks isKeyed).published []
    refine reworks.isHost keepsGood (fun exclusive => ?_) exclusive ?_
    · have hosts := isHost exclusive
      exact ⟨hosts.used, hosts.unused⟩
    · rintro name rfl
      exact allows.elim
  refused before after isHost refused := by
    intro exclusive
    have works := refused.works fun _ => True
    have afterExclusive : after.IsExclusive netns := exclusive
    have beforeExclusive : before.IsExclusive netns := afterExclusive.of_works works
    have hosts := isHost beforeExclusive
    have kept : after.IsHost good unspoilt netns :=
      works.isHost keepsGood afterExclusive ⟨hosts.used, hosts.unused⟩
    exact ⟨kept.used, kept.unused⟩
  disturbed _ _ disturbs := disturbs.elim

end ControlPlane
