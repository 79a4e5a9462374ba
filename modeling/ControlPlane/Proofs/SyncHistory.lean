/-
This file follows a synchronizer through its whole history over a kernel in
memory whose routes nobody else changes: deltas are applied, pending prefixes are
tried again, and faults are injected, between the steps and within them. The
history is a list of programmings of single prefixes. The kernel and the
forwarding table agree on every prefix of which one programming succeeded, and on
the others nothing ever changed.
-/

import ControlPlane.Proofs.Synchronizer

namespace ControlPlane

/-! ### Histories -/

/-- What happens to a synchronizer over a kernel in memory. -/
inductive SyncStep
  | apply (delta : Delta)
  | resync
  | inject (injection : Injection)

/-- One programming of a prefix: the state in which it starts, and the desired route. -/
structure Programming where
  before : Programmed DisturbedKernel
  destination : Prefix
  desired : Option ForwardingRoute

namespace Programming

/-- What the programming answers. -/
def result (programming : Programming) : Except RouteError SyncOutcome :=
  (programming.before.program programming.destination programming.desired).1

def Succeeds (programming : Programming) : Prop :=
  ∃ outcome, programming.result = .ok outcome

end Programming

namespace Programmed

open Synchronizer

/-- The state after a step. -/
def step (state : Programmed DisturbedKernel) : SyncStep → Programmed DisturbedKernel
  | .apply delta => (state.apply delta).2
  | .resync => state.resync.2
  | .inject injection =>
    { state with
      kernel := { state.kernel with memory := state.kernel.memory.injectAll [injection] } }

/-- The state after some steps. -/
def history (state : Programmed DisturbedKernel) (steps : List SyncStep) :
    Programmed DisturbedKernel :=
  steps.foldl step state

/-- The programmings of a list of prefixes. -/
def programmingsOf :
    List (Prefix × Option ForwardingRoute) → Programmed DisturbedKernel → List Programming
  | [], _ => []
  | (destination, desired) :: rest, state =>
    ⟨state, destination, desired⟩ :: programmingsOf rest (state.program destination desired).2

/-- The programmings of a step: those of the pending prefixes and that of the delta. -/
def programmingsIn (state : Programmed DisturbedKernel) : SyncStep → List Programming
  | .apply delta =>
    programmingsOf state.sync.pending.entries state.cleared ++
      if delta.isUnchanged then []
      else [⟨state.retryPending.supersede delta.destination, delta.destination, delta.desired?⟩]
  | .resync => programmingsOf state.sync.pending.entries state.cleared
  | .inject _ => []

/-- All programmings of some steps. -/
def programmings : Programmed DisturbedKernel → List SyncStep → List Programming
  | _, [] => []
  | state, step :: rest => state.programmingsIn step ++ programmings (state.step step) rest

/-! ### What programming keeps -/

/-- What is pending is listed under its own prefix. -/
def PendingAddressed (pending : SortedMap Prefix (Option ForwardingRoute)) : Prop :=
  ∀ destination desired, pending.find? destination = some desired → Addressed destination desired

/-- A state since the kernel was `initial`: no kernel operation failed without a fault, the kernel
and the forwarding table agree on the prefixes that were programmed, and on the others nothing
changed. -/
structure Mirrors (initial : MemoryKernel) (programmed : Prefix → Prop)
    (state : Programmed DisturbedKernel) : Prop where
  isBlameless : state.kernel.IsBlameless
  addressed : PendingAddressed state.sync.pending
  agrees : ∀ destination, programmed destination → state.AgreesAt destination
  untouched : ∀ destination, ¬ programmed destination →
    state.kernel.memory.routes.find? destination = initial.routes.find? destination ∧
      state.sync.fib.find? destination = none

/-- Some listed programming of the prefix succeeded. -/
def SucceededFor (destination : Prefix) (listed : List Programming) : Prop :=
  ∃ programming ∈ listed, programming.destination = destination ∧ programming.Succeeds

theorem succeededFor_append {destination : Prefix} {first second : List Programming} :
    SucceededFor destination (first ++ second) ↔
      SucceededFor destination first ∨ SucceededFor destination second := by
  simp only [SucceededFor, List.mem_append, or_and_right, exists_or]

theorem pendingAddressed_erase {pending : SortedMap Prefix (Option ForwardingRoute)}
    (addressed : PendingAddressed pending) (erased : Prefix) :
    PendingAddressed (pending.erase erased) := by
  intro destination desired found
  rw [SortedMap.find?_erase] at found
  split at found
  · cases found
  · exact addressed destination desired found

theorem pendingAddressed_insert {pending : SortedMap Prefix (Option ForwardingRoute)}
    (addressed : PendingAddressed pending) {inserted : Prefix} {wanted : Option ForwardingRoute}
    (insertedAddressed : Addressed inserted wanted) :
    PendingAddressed (pending.insert inserted wanted) := by
  intro destination desired found
  rw [SortedMap.find?_insert] at found
  split at found
  next same =>
    cases found
    exact same ▸ insertedAddressed
  next => exact addressed destination desired found

theorem succeededFor_singleton {destination : Prefix} {programming : Programming} :
    SucceededFor destination [programming] ↔
      programming.destination = destination ∧ programming.Succeeds := by
  simp [SucceededFor]

/-- The kernel took the route: the prefix agrees from now on, and no other prefix changes. -/
theorem mirrors_accepted {initial : MemoryKernel} {programmed : Prefix → Prop}
    {state after : Programmed DisturbedKernel} (mirrors : Mirrors initial programmed state)
    {destination : Prefix} {desired : Option ForwardingRoute}
    (addressed : Addressed destination desired) (same : state.sync.SameTables after.sync)
    (rerouted : Rerouted state.kernel.memory.routes destination
      (desired.map KernelRoute.ofForwarding) after.kernel.memory.routes)
    (isBlameless : after.kernel.IsBlameless) (outcome : SyncOutcome) :
    Mirrors initial (fun listed => programmed listed ∨ destination = listed)
      ⟨after.sync.accepted destination desired outcome, after.kernel⟩ where
  isBlameless := isBlameless
  addressed := pendingAddressed_erase (same.pending_eq ▸ mirrors.addressed) destination
  agrees listed isProgrammed := by
    show Realizes _ ((updateFib after.sync.fib destination desired).find? listed |>.map _)
    rw [find?_updateFib addressed, same.fib_eq]
    by_cases here : destination = listed
    · rw [if_pos here, ← here]
      exact rerouted.realizes
    · rw [if_neg here, rerouted.others listed here]
      exact mirrors.agrees listed (isProgrammed.resolve_right here)
  untouched listed notProgrammed := by
    obtain ⟨notBefore, elsewhere⟩ := not_or.1 notProgrammed
    obtain ⟨sameRoute, noRoute⟩ := mirrors.untouched listed notBefore
    refine ⟨(rerouted.others listed elsewhere).trans sameRoute, ?_⟩
    show (updateFib after.sync.fib destination desired).find? listed = none
    rw [find?_updateFib addressed, if_neg elsewhere, same.fib_eq, noRoute]

/-- The kernel refused the route: nothing changes but what is pending. -/
theorem mirrors_postponed {initial : MemoryKernel} {programmed : Prefix → Prop}
    {state after : Programmed DisturbedKernel} (mirrors : Mirrors initial programmed state)
    {destination : Prefix} {desired : Option ForwardingRoute}
    (addressed : Addressed destination desired) (same : state.sync.SameTables after.sync)
    (sameRoutes : after.kernel.memory.routes = state.kernel.memory.routes)
    (isBlameless : after.kernel.IsBlameless) :
    Mirrors initial programmed ⟨after.sync.postponed destination desired, after.kernel⟩ where
  isBlameless := isBlameless
  addressed := pendingAddressed_insert (same.pending_eq ▸ mirrors.addressed) addressed
  agrees listed isProgrammed := by
    have agrees := mirrors.agrees listed isProgrammed
    rw [AgreesAt, ← sameRoutes, ← same.fib_eq] at agrees
    exact agrees
  untouched listed notProgrammed := by
    have untouched := mirrors.untouched listed notProgrammed
    rw [← sameRoutes, ← same.fib_eq] at untouched
    exact untouched

theorem mirrors_program {initial : MemoryKernel} {programmed : Prefix → Prop}
    {state : Programmed DisturbedKernel} (mirrors : Mirrors initial programmed state)
    {destination : Prefix} {desired : Option ForwardingRoute}
    (addressed : Addressed destination desired) :
    Mirrors initial
      (fun listed => programmed listed ∨ SucceededFor listed [⟨state, destination, desired⟩])
      (state.program destination desired).2 := by
  have same := sameTables_syncKernel destination desired state
  have answers := answers_syncKernel addressed state
  simp only [succeededFor_singleton, Programming.Succeeds, Programming.result]
  rcases program_cases destination desired state with
    ⟨outcome, after, answered, programs⟩ | ⟨error, after, answered, programs⟩
  · rw [answered] at same answers
    rw [programs]
    have accepted := mirrors_accepted mirrors addressed same (answers.isGood outcome rfl)
      (answers.isBlameless mirrors.isBlameless) outcome
    simpa using accepted
  · rw [answered] at same answers
    rw [programs]
    have postponed := mirrors_postponed mirrors addressed same (answers.routes_eq error rfl)
      (answers.isBlameless mirrors.isBlameless)
    simpa using postponed

/-! ### What a list of programmings keeps -/

/-- Every listed route is listed under its own prefix. -/
def AllAddressed (entries : List (Prefix × Option ForwardingRoute)) : Prop :=
  ∀ entry ∈ entries, Addressed entry.1 entry.2

theorem allAddressed_entries {pending : SortedMap Prefix (Option ForwardingRoute)}
    (addressed : PendingAddressed pending) : AllAddressed pending.entries :=
  fun entry member => addressed entry.1 entry.2 (SortedMap.find?_eq_some_iff.2 member)

theorem mirrors_syncEach {initial : MemoryKernel} {programmed : Prefix → Prop}
    {state : Programmed DisturbedKernel} (mirrors : Mirrors initial programmed state)
    {entries : List (Prefix × Option ForwardingRoute)} (addressed : AllAddressed entries) :
    Mirrors initial
      (fun listed => programmed listed ∨ SucceededFor listed (programmingsOf entries state))
      (state.syncEach entries) := by
  induction entries generalizing state programmed with
  | nil => simpa [programmingsOf, SucceededFor, syncEach] using mirrors
  | cons entry rest inductionHypothesis =>
    obtain ⟨destination, desired⟩ := entry
    have first := mirrors_program mirrors (addressed _ List.mem_cons_self)
    have later := inductionHypothesis first
      fun entry member => addressed entry (List.mem_cons_of_mem _ member)
    have split : ∀ listed, SucceededFor listed
        (programmingsOf ((destination, desired) :: rest) state) ↔
        SucceededFor listed [⟨state, destination, desired⟩] ∨
          SucceededFor listed (programmingsOf rest (state.program destination desired).2) := by
      intro listed
      rw [← succeededFor_append]
      rfl
    show Mirrors initial _ ((state.program destination desired).2.syncEach rest)
    simpa only [split, ← or_assoc] using later

/-! ### What a step keeps -/

theorem mirrors_cleared {initial : MemoryKernel} {programmed : Prefix → Prop}
    {state : Programmed DisturbedKernel} (mirrors : Mirrors initial programmed state) :
    Mirrors initial programmed state.cleared where
  isBlameless := mirrors.isBlameless
  addressed _ _ found := nomatch found
  agrees := mirrors.agrees
  untouched := mirrors.untouched

theorem mirrors_supersede {initial : MemoryKernel} {programmed : Prefix → Prop}
    {state : Programmed DisturbedKernel} (mirrors : Mirrors initial programmed state)
    (destination : Prefix) : Mirrors initial programmed (state.supersede destination) where
  isBlameless := mirrors.isBlameless
  addressed := pendingAddressed_erase mirrors.addressed destination
  agrees := mirrors.agrees
  untouched := mirrors.untouched

/-- To inject a fault changes no routes. -/
theorem mirrors_inject {initial : MemoryKernel} {programmed : Prefix → Prop}
    {state : Programmed DisturbedKernel} (mirrors : Mirrors initial programmed state)
    (injection : Injection) : Mirrors initial programmed (state.step (.inject injection)) := by
  have sameRoutes := state.kernel.memory.routes_injectAll [injection]
  refine ⟨mirrors.isBlameless, mirrors.addressed, fun listed isProgrammed => ?_,
    fun listed notProgrammed => ?_⟩
  · show Realizes ((state.kernel.memory.injectAll [injection]).routes.find? listed) _
    rw [sameRoutes]
    exact mirrors.agrees listed isProgrammed
  · show (state.kernel.memory.injectAll [injection]).routes.find? listed = _ ∧ _
    rw [sameRoutes]
    exact mirrors.untouched listed notProgrammed

theorem mirrors_step {initial : MemoryKernel} {programmed : Prefix → Prop}
    {state : Programmed DisturbedKernel} (mirrors : Mirrors initial programmed state)
    (step : SyncStep) :
    Mirrors initial
      (fun listed => programmed listed ∨ SucceededFor listed (state.programmingsIn step))
      (state.step step) := by
  have retried := mirrors_syncEach (mirrors_cleared mirrors)
    (allAddressed_entries mirrors.addressed)
  rw [← retryPending_eq] at retried
  cases step with
  | apply delta =>
    simp only [Programmed.step, programmingsIn, apply_eq]
    cases delta.isUnchanged with
    | true =>
      simp only [if_true, List.append_nil]
      exact retried
    | false =>
      have applied := mirrors_program (mirrors_supersede retried delta.destination)
        delta.addressed_desired?
      simp only [Bool.false_eq_true, if_false]
      simpa only [succeededFor_append, ← or_assoc] using applied
  | resync => exact retried
  | inject injection =>
    have injected := mirrors_inject mirrors injection
    simpa [programmingsIn, SucceededFor] using injected

/-! ### What a history keeps -/

theorem mirrors_history {initial : MemoryKernel} {programmed : Prefix → Prop}
    {state : Programmed DisturbedKernel} (mirrors : Mirrors initial programmed state)
    (steps : List SyncStep) :
    Mirrors initial
      (fun listed => programmed listed ∨ SucceededFor listed (state.programmings steps))
      (state.history steps) := by
  induction steps generalizing state programmed with
  | nil => simpa [programmings, SucceededFor, history] using mirrors
  | cons step rest inductionHypothesis =>
    have first := mirrors_step mirrors step
    have later := inductionHypothesis first
    show Mirrors initial _ ((state.step step).history rest)
    simpa only [programmings, succeededFor_append, ← or_assoc] using later

theorem mirrors_create (vrf : UInt32) (netns : String) (attempts : Nat) (kernel : MemoryKernel)
    (upcoming : List (List Injection)) :
    Mirrors kernel (fun _ => False)
      ⟨Synchronizer.create vrf netns attempts, kernel, upcoming, []⟩ where
  isBlameless _ member := nomatch member
  addressed _ _ found := nomatch found
  agrees _ isProgrammed := isProgrammed.elim
  untouched _ _ := ⟨rfl, rfl⟩

/-- After every history of a new synchronizer over a kernel in memory, whatever faults are injected
between its steps and before any of its kernel operations: pending or not, a prefix of which no
programming succeeded has the kernel route it had at first and no forwarding route, and any other
prefix has the same route in the kernel and in the forwarding table, if it has one. No kernel
operation ever failed but by a fault that was active. -/
theorem history_agrees (vrf : UInt32) (netns : String) (attempts : Nat) (kernel : MemoryKernel)
    (upcoming : List (List Injection)) (steps : List SyncStep) :
    let start : Programmed DisturbedKernel :=
      ⟨Synchronizer.create vrf netns attempts, kernel, upcoming, []⟩
    let state := start.history steps
    (∀ destination,
      (¬ SucceededFor destination (start.programmings steps) →
        state.kernel.memory.routes.find? destination = kernel.routes.find? destination ∧
          state.sync.fib.find? destination = none) ∧
      (SucceededFor destination (start.programmings steps) → state.AgreesAt destination)) ∧
    ∀ call ∈ state.kernel.calls, call.FailsByFault := by
  intro start state
  have mirrors := mirrors_history (mirrors_create vrf netns attempts kernel upcoming) steps
  refine ⟨fun destination => ⟨fun never => ?_, fun succeeded => ?_⟩, mirrors.isBlameless⟩
  · exact mirrors.untouched destination (by rwa [false_or])
  · exact mirrors.agrees destination (Or.inr succeeded)

end Programmed

end ControlPlane
