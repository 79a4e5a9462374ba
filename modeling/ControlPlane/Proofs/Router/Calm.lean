/-
This file proves that nothing becomes pending while nothing goes wrong. A state is
calm if nothing is pending and no fault is active in the kernel. Every operation
on the kernel then succeeds at its first try, so that a calm synchronizer stays
calm whatever it works on, and with its synchronizers a router in every step.
-/

import ControlPlane.Proofs.Router.Kernels

namespace ControlPlane

/-! ### Kernels -/

namespace MemoryKernel

/-- No fault is active. -/
def IsQuiet (kernel : MemoryKernel) : Prop :=
  kernel.faults = SortedMap.empty

/-- What answers well unless it meets a fault answers well in a quiet kernel. -/
theorem Answers.exists_ok {Value : Type} {kernel : MemoryKernel}
    {good : Value → SortedMap Prefix KernelRoute → Prop}
    {answer : Except KernelError Value × MemoryKernel} (answers : kernel.Answers good answer)
    (isQuiet : kernel.IsQuiet) :
    ∃ value after, answer = (.ok value, after) ∧ good value after.routes ∧ after.IsQuiet := by
  obtain ⟨result, after⟩ := answer
  cases result with
  | ok value => exact ⟨value, after, rfl, answers.1, answers.2.trans isQuiet⟩
  | error error =>
    obtain ⟨⟨count, active⟩, _⟩ := answers
    rw [isQuiet] at active
    cases active

end MemoryKernel

/-! ### Programming -/

namespace Programmed

/-- Nothing is pending, and no fault is active in the kernel. -/
structure IsCalm (state : Programmed MemoryKernel) : Prop where
  nonePending : state.sync.pending = SortedMap.empty
  isQuiet : state.kernel.IsQuiet

variable {state : Programmed MemoryKernel}

/-- In a quiet kernel an operation succeeds and leaves the synchronizer alone. -/
theorem exists_run {Value : Type} {good : Value → SortedMap Prefix KernelRoute → Prop}
    {operate : MemoryKernel → Except KernelError Value × MemoryKernel}
    (answers : state.kernel.Answers good (operate state.kernel))
    (isQuiet : state.kernel.IsQuiet) :
    ∃ value after, state.run operate = (.ok value, ⟨state.sync, after⟩) ∧
      good value after.routes ∧ after.IsQuiet := by
  obtain ⟨value, after, succeeds, isGood, staysQuiet⟩ := answers.exists_ok isQuiet
  exact ⟨value, after, run_of_ok succeeds, isGood, staysQuiet⟩

/-- The action that is planned for the route that a quiet kernel holds succeeds, and gives the
prefix the wanted route. -/
theorem exists_perform (state : Programmed MemoryKernel) (isQuiet : state.kernel.IsQuiet)
    {destination : Prefix} {observed wanted : Option KernelRoute}
    (holds : state.kernel.routes.find? destination = observed)
    (addressed : ∀ route, wanted = some route → route.destination = destination) :
    ∃ after, state.perform (.plan destination observed wanted) = (.ok (), ⟨state.sync, after⟩) ∧
      Rerouted state.kernel.routes destination wanted after.routes ∧ after.IsQuiet := by
  have nothing (realizes : Realizes observed wanted) : ∃ after,
      state.perform .nothing = (.ok (), ⟨state.sync, after⟩) ∧
        Rerouted state.kernel.routes destination wanted after.routes ∧ after.IsQuiet := by
    rw [← holds] at realizes
    exact ⟨state.kernel, rfl, rerouted_self realizes, isQuiet⟩
  have performs {operate : MemoryKernel → Except KernelError Unit × MemoryKernel}
      {routes : SortedMap Prefix KernelRoute}
      (answers : state.kernel.Answers (fun _ after => after = routes) (operate state.kernel))
      (rerouted : Rerouted state.kernel.routes destination wanted routes) :
      ∃ after, state.run operate = (.ok (), ⟨state.sync, after⟩) ∧
        Rerouted state.kernel.routes destination wanted after.routes ∧ after.IsQuiet := by
    obtain ⟨_, after, ran, same, staysQuiet⟩ := exists_run answers isQuiet
    exact ⟨after, ran, same ▸ rerouted, staysQuiet⟩
  cases observed with
  | none =>
    cases wanted with
    | none => exact nothing trivial
    | some route =>
      obtain rfl := addressed route rfl
      exact performs (MemoryKernel.answers_install holds) (rerouted_insert _ route)
  | some observed =>
    cases wanted with
    | none => exact performs (MemoryKernel.answers_delete holds) (rerouted_erase _ destination)
    | some route =>
      obtain rfl := addressed route rfl
      by_cases alike : observed.Matches route
      · simp only [KernelAction.plan, if_pos alike]
        exact nothing alike
      · simp only [KernelAction.plan, if_neg alike]
        exact performs (state.kernel.answers_replace route) (rerouted_insert _ route)

/-- A quiet kernel takes the desired route of a prefix. -/
theorem exists_syncKernel (isQuiet : state.kernel.IsQuiet) {destination : Prefix}
    {desired : Option ForwardingRoute} (addressed : Addressed destination desired) :
    ∃ outcome after, state.syncKernel destination desired = (.ok outcome, ⟨state.sync, after⟩) ∧
      Rerouted state.kernel.routes destination (desired.map KernelRoute.ofForwarding)
        after.routes ∧ after.IsQuiet := by
  obtain ⟨observed, looked, observes, ⟨sameRoutes, seen⟩, lookedQuiet⟩ :=
    exists_run (state.kernel.answers_observe destination) isQuiet
  have holds : looked.routes.find? destination = observed := by rw [sameRoutes, seen]
  obtain ⟨after, performed, rerouted, staysQuiet⟩ :=
    exists_perform ⟨state.sync, looked⟩ lookedQuiet holds (addressed_ofForwarding addressed)
  have observesFirst : state.run (KernelBackend.observe destination) = _ := observes
  refine ⟨(KernelAction.plan destination observed (desired.map KernelRoute.ofForwarding)).outcome,
    after, ?_, sameRoutes ▸ rerouted, staysQuiet⟩
  rw [syncKernel, observesFirst]
  dsimp only
  rw [performed]

namespace IsCalm

theorem program (isCalm : state.IsCalm) {destination : Prefix} {desired : Option ForwardingRoute}
    (addressed : Addressed destination desired) :
    (state.program destination desired).2.IsCalm := by
  obtain ⟨outcome, after, answered, _, staysQuiet⟩ := exists_syncKernel isCalm.isQuiet addressed
  rw [Programmed.program, answered]
  refine ⟨?_, staysQuiet⟩
  show state.sync.pending.erase destination = SortedMap.empty
  rw [isCalm.nonePending]
  rfl

theorem retryPending_eq (isCalm : state.IsCalm) : state.retryPending = state :=
  retryPending_of_pending_eq_empty isCalm.nonePending

theorem supersede (isCalm : state.IsCalm) (destination : Prefix) :
    (state.supersede destination).IsCalm := by
  refine ⟨?_, isCalm.isQuiet⟩
  rw [Programmed.supersede, isCalm.nonePending]
  rfl

theorem apply (isCalm : state.IsCalm) (delta : Delta) : (state.apply delta).2.IsCalm := by
  rw [apply_eq, isCalm.retryPending_eq]
  split
  · exact isCalm
  · exact (isCalm.supersede _).program delta.addressed_desired?

/-- A calm state stays calm whatever is programmed. -/
theorem applyAll (isCalm : state.IsCalm) (deltas : List Delta) :
    (state.applyAll deltas).2.IsCalm :=
  keeps_applyAll IsCalm (fun delta _ _ isCalm => isCalm.apply delta) isCalm

end IsCalm

/-- A calm synchronizer stays calm. -/
theorem Works.isCalm {after : Programmed MemoryKernel} (works : state.Works after)
    (isCalm : state.IsCalm) : after.IsCalm := by
  cases works with
  | programmed deltas => exact isCalm.applyAll deltas
  | retried => rwa [isCalm.retryPending_eq]

end Programmed

/-! ### Sessions -/

namespace Session

/-- Nothing is pending in any VRF, and no fault is active in the kernel of any namespace. -/
structure IsCalm (session : Session MemoryKernel) : Prop where
  nonePending : ∀ id vrf, session.find? id = some vrf → vrf.sync.pending = SortedMap.empty
  isQuiet : ∀ netns, (session.state.kernels.kernel netns).IsQuiet

variable {session before after : Session MemoryKernel} {isOn : UInt32 → Prop} {action : Action}

theorem isCalm_iff : session.IsCalm ↔
    (∀ id sync, session.sync? id = some sync → sync.pending = SortedMap.empty) ∧
      ∀ netns, (session.kernel netns).IsQuiet := by
  constructor
  · rintro ⟨nonePending, isQuiet⟩
    refine ⟨fun id sync known => ?_, isQuiet⟩
    obtain ⟨vrf, found, rfl⟩ := Option.map_eq_some_iff.1 known
    exact nonePending id vrf found
  · rintro ⟨nonePending, isQuiet⟩
    refine ⟨fun id vrf found => nonePending id vrf.sync ?_, isQuiet⟩
    rw [sync?, found, Option.map_some]

theorem Works.isCalm (works : Works isOn before after) (isCalm : before.IsCalm) :
    after.IsCalm := by
  induction works with
  | idle sync_eq kernel_eq =>
    obtain ⟨nonePending, isQuiet⟩ := isCalm_iff.1 isCalm
    exact isCalm_iff.2 ⟨fun id sync known => nonePending id sync (sync_eq id ▸ known),
      fun netns => kernel_eq netns ▸ isQuiet netns⟩
  | @worked before after id sync next _ found works sync_eq kernel_eq =>
    obtain ⟨nonePending, isQuiet⟩ := isCalm_iff.1 isCalm
    have nextCalm := works.isCalm ⟨nonePending id sync found, isQuiet sync.netns⟩
    refine isCalm_iff.2 ⟨fun listed other known => ?_, fun netns => ?_⟩
    · rw [sync_eq] at known
      split at known
      · cases known
        exact nextCalm.nonePending
      · exact nonePending listed other known
    · rw [kernel_eq]
      split
      · exact nextCalm.isQuiet
      · exact isQuiet netns
  | trans _ _ left right => exact right (left isCalm)

/-- Kernels stay quiet when deltas are programmed in a VRF with nothing pending. -/
theorem IsCalm.isQuiet_programmed (isCalm : session.IsCalm) {rerouted : Rerouted}
    (nonePending : rerouted.2.sync.pending = SortedMap.empty) (netns : String) :
    ((session.programmed rerouted).kernel netns).IsQuiet := by
  have programming : (session.programming rerouted).2.IsCalm :=
    Programmed.IsCalm.applyAll ⟨nonePending, isCalm.isQuiet _⟩ rerouted.1
  show ((session.state.kernels.store _ _).kernel netns).IsQuiet
  rw [KernelSpace.kernel_store]
  split
  · exact programming.isQuiet
  · exact isCalm.isQuiet netns

theorem IsCalm.enrolled (isCalm : before.IsCalm) (config : VrfConfig) :
    (before.enrolled config).IsCalm := by
  obtain ⟨nonePending, isQuiet⟩ := isCalm_iff.1 isCalm
  refine isCalm_iff.2 ⟨fun id sync known => ?_, isQuiet⟩
  rw [sync?_enrolled] at known
  split at known
  · cases known
    rfl
  · exact nonePending id sync known

/-- Without faults nothing becomes pending in any step. -/
theorem Reworks.isCalm (reworks : before.Reworks action after) (isCalm : before.IsCalm) :
    after.IsCalm := by
  cases reworks with
  | worked works => exact works.isCalm isCalm
  | vrfAdded _ works => exact works.isCalm (isCalm.enrolled _)
  | @vrfRemoved name id vrf after _ _ found sync_eq kernel_eq =>
    have isQuiet : ∀ netns, ((before.programmed vrf.purge).kernel netns).IsQuiet :=
      isCalm.isQuiet_programmed (isCalm.nonePending id vrf found)
    refine isCalm_iff.2 ⟨fun listed sync known => ?_,
      fun netns => kernel_eq netns ▸ isQuiet netns⟩
    rw [sync_eq] at known
    split at known
    · cases known
    · exact (isCalm_iff.1 isCalm).1 listed sync known

/-- In a calm router everything is programmed that an event on its interfaces changes. -/
theorem IsCalm.follow (isCalm : session.IsCalm) {changes : List InterfaceChange}
    (isKeyed : session.state.vrfs.IsKeyed)
    (attributed : RouterM.Attributed session.state.interfaces changes) :
    (session.follow changes).IsCalm :=
  (works_follow isKeyed attributed).isCalm isCalm

end Session

end ControlPlane
