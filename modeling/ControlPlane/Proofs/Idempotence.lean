/-
This file proves that to apply a delta a second time does nothing. What the first
application leaves behind is what the second one looks for: the kernel holds the
wanted route up to the order of its next hops, which is how it is compared with
what is observed, and the forwarding table holds the very route. So neither the
kernel nor the forwarding table is touched again, and its version stays.
-/

import ControlPlane.Proofs.Resync
import ControlPlane.Proofs.SortedMap

namespace ControlPlane

/-! ### Looking at a quiet kernel -/

theorem MemoryKernel.observe_of_noFault {kernel : MemoryKernel}
    (noFault : kernel.faults = SortedMap.empty) (destination : Prefix) :
    observe destination kernel = (.ok (kernel.routes.find? destination), kernel) := by
  rw [observe, fault, noFault, SortedMap.find?_empty]

/-- A quiet kernel shows the route that it holds, and to look changes nothing but the record of
calls. -/
theorem DisturbedKernel.exists_observe {kernel : DisturbedKernel} (isQuiet : kernel.IsQuiet)
    (destination : Prefix) :
    ∃ after : DisturbedKernel, after.memory = kernel.memory ∧
      KernelBackend.observe destination kernel =
        (.ok (kernel.memory.routes.find? destination), after) := by
  refine ⟨(call (MemoryKernel.observe destination) kernel).2, ?_, ?_⟩
  · rw [call, isQuiet.injectAll_eq, MemoryKernel.observe_of_noFault isQuiet.noFault]
  · show call (MemoryKernel.observe destination) kernel = _
    rw [call, isQuiet.injectAll_eq, MemoryKernel.observe_of_noFault isQuiet.noFault]

namespace Programmed

open Synchronizer

variable {state : Programmed DisturbedKernel} {destination : Prefix}
  {desired : Option ForwardingRoute}

/-! ### A prefix that has its route -/

/-- Where the kernel holds what is wanted, there is nothing to do. -/
theorem plan_of_realizes {held wanted : Option KernelRoute} (realizes : Realizes held wanted)
    (destination : Prefix) : KernelAction.plan destination held wanted = .nothing := by
  cases held with
  | none =>
    cases wanted with
    | none => rfl
    | some wanted => exact realizes.elim
  | some held =>
    cases wanted with
    | none => exact realizes.elim
    | some wanted => exact if_pos realizes

/-- The synchronizer of a prefix that has its route only counts that there was nothing to do. -/
theorem HasAt.accepted_eq (hasAt : state.HasAt destination desired) :
    state.sync.accepted destination desired .noop =
      { state.sync with stats := state.sync.stats.count .noop } := by
  have sameFib : updateFib state.sync.fib destination desired = state.sync.fib :=
    if_pos hasAt.fib_eq
  rw [accepted, SortedMap.erase_of_find?_eq_none hasAt.pending_eq, sameFib]

/-- In a quiet kernel a prefix that has its route is programmed without any effect on the kernel,
the forwarding table and what is pending. -/
theorem HasAt.exists_program (hasAt : state.HasAt destination desired)
    (isQuiet : state.kernel.IsQuiet) :
    ∃ kernel : DisturbedKernel, kernel.memory = state.kernel.memory ∧
      state.program destination desired =
        (.ok .noop, ⟨{ state.sync with stats := state.sync.stats.count .noop }, kernel⟩) := by
  obtain ⟨kernel, sameMemory, observes⟩ := DisturbedKernel.exists_observe isQuiet destination
  have syncs : state.syncKernel destination desired = (.ok .noop, ⟨state.sync, kernel⟩) := by
    rw [syncKernel, run_of_ok observes]
    dsimp only
    rw [plan_of_realizes hasAt.realizes]
    rfl
  refine ⟨kernel, sameMemory, ?_⟩
  rw [← hasAt.accepted_eq, program, syncs]
  rfl

/-! ### Twice the same delta -/

/-- A delta that was applied gave its prefix the route that it leads to. -/
theorem hasAt_apply {delta : Delta} (changes : ¬ delta.isUnchanged) {outcome : SyncOutcome}
    (succeeds : (state.apply delta).1 = .ok outcome) :
    (state.apply delta).2.HasAt delta.destination delta.desired? := by
  have applied : state.apply delta = (state.retryPending.supersede delta.destination).program
      delta.destination delta.desired? := by
    rw [apply_eq, if_neg changes]
  rw [applied] at succeeds ⊢
  exact hasAt_program delta.addressed_desired? ⟨outcome, succeeds⟩

/-- In any state, and so after every history of deltas and faults: if a delta was applied, nothing
is pending afterwards and no fault is active, then to apply it again answers that there was nothing
to do. The routes of the kernel and the number of changes made to them stay, and so do the
forwarding table with its version and what is pending. -/
theorem apply_apply (state : Programmed DisturbedKernel) (delta : Delta) {outcome : SyncOutcome}
    (succeeds : (state.apply delta).1 = .ok outcome)
    (nonePending : (state.apply delta).2.sync.pending = SortedMap.empty)
    (isQuiet : (state.apply delta).2.kernel.IsQuiet) :
    let applied := (state.apply delta).2
    let again := applied.apply delta
    again.1 = .ok .noop ∧
      again.2.kernel.memory.routes = applied.kernel.memory.routes ∧
      again.2.kernel.memory.mutations = applied.kernel.memory.mutations ∧
      again.2.sync.fib = applied.sync.fib ∧
      again.2.sync.pending = applied.sync.pending := by
  intro applied again
  have noRetry : applied.retryPending = applied := retryPending_of_pending_eq_empty nonePending
  have againEq : again =
      if delta.isUnchanged then (.ok .noop, applied)
      else (applied.supersede delta.destination).program delta.destination delta.desired? := by
    show applied.apply delta = _
    rw [apply_eq, noRetry]
  by_cases unchanged : delta.isUnchanged = true
  · rw [if_pos unchanged] at againEq
    rw [againEq]
    exact ⟨rfl, rfl, rfl, rfl, rfl⟩
  · have hasAt : applied.HasAt delta.destination delta.desired? := hasAt_apply unchanged succeeds
    obtain ⟨kernel, sameMemory, programs⟩ := hasAt.exists_program isQuiet
    rw [if_neg unchanged, supersede, SortedMap.erase_of_find?_eq_none hasAt.pending_eq, programs]
      at againEq
    rw [againEq]
    exact ⟨rfl, congrArg _ sameMemory, congrArg _ sameMemory, rfl, rfl⟩

/-- A kernel that holds a route of another protocol for a prefix, and is too busy at first to
replace it. -/
def occupiedState : Programmed DisturbedKernel :=
  let held : KernelRoute := { KernelRoute.ofForwarding retriedRoute with protocol := .bgp }
  history ⟨Synchronizer.create 0 "default" 3, MemoryKernel.empty.put held, [], []⟩
    [.inject ⟨.replace, .busy, 1⟩]

theorem apply_apply_occupiedState :
    let applied := occupiedState.apply (.add retriedRoute)
    let again := applied.2.apply (.add retriedRoute)
    applied.1 = .ok .replaced ∧ applied.2.sync.stats.retries = 1 ∧ again.1 = .ok .noop ∧
      again.2.kernel.memory.mutations = applied.2.kernel.memory.mutations ∧
      again.2.sync.fib = applied.2.sync.fib := by
  intro applied again
  have succeeds : applied.1 = .ok .replaced := by rfl
  have retried : applied.2.sync.stats.retries = 1 := by decide +kernel
  have nonePending : applied.2.sync.pending = SortedMap.empty := by decide +kernel
  have isQuiet : applied.2.kernel.IsQuiet := ⟨by decide +kernel, by decide +kernel⟩
  obtain ⟨isNoop, -, sameMutations, sameFib, -⟩ :=
    apply_apply occupiedState (.add retriedRoute) succeeds nonePending isQuiet
  exact ⟨succeeds, retried, isNoop, sameMutations, sameFib⟩

end Programmed

end ControlPlane
