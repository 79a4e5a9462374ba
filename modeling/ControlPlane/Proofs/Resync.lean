/-
This file proves what becomes of pending prefixes when they are tried again. Each
of them is programmed once with its desired route, and stays pending with this
route exactly if that fails; the other prefixes are left alone. Once no fault is
active any more, every programming succeeds, so that nothing stays pending and
the kernel and the forwarding table have caught up.
-/

import ControlPlane.Proofs.SyncHistory

namespace ControlPlane

namespace Programmed

open Synchronizer

variable {state : Programmed DisturbedKernel} {destination listed : Prefix}
  {desired : Option ForwardingRoute} {entries : List (Prefix × Option ForwardingRoute)}

/-! ### One programming -/

/-- A prefix has the same routes before and after, and the same route is pending for it. -/
structure SameAt (before after : Programmed DisturbedKernel) (listed : Prefix) : Prop where
  kernel_eq : after.kernel.memory.routes.find? listed = before.kernel.memory.routes.find? listed
  fib_eq : after.sync.fib.find? listed = before.sync.fib.find? listed
  pending_eq : after.sync.pending.find? listed = before.sync.pending.find? listed

theorem SameAt.trans {first second third : Programmed DisturbedKernel}
    (left : SameAt first second listed) (right : SameAt second third listed) :
    SameAt first third listed :=
  ⟨right.kernel_eq.trans left.kernel_eq, right.fib_eq.trans left.fib_eq,
    right.pending_eq.trans left.pending_eq⟩

/-- A prefix has its desired route in the kernel and in the forwarding table, and nothing is
pending for it. -/
structure HasAt (state : Programmed DisturbedKernel) (destination : Prefix)
    (desired : Option ForwardingRoute) : Prop where
  realizes : Realizes (state.kernel.memory.routes.find? destination)
    (desired.map KernelRoute.ofForwarding)
  fib_eq : state.sync.fib.find? destination = desired
  pending_eq : state.sync.pending.find? destination = none

theorem SameAt.hasAt {before after : Programmed DisturbedKernel}
    (same : SameAt before after destination) (hasAt : before.HasAt destination desired) :
    after.HasAt destination desired :=
  ⟨same.kernel_eq ▸ hasAt.realizes, same.fib_eq.trans hasAt.fib_eq,
    same.pending_eq.trans hasAt.pending_eq⟩

/-- Programming a prefix leaves the others alone. -/
theorem sameAt_program (addressed : Addressed destination desired)
    (elsewhere : destination ≠ listed) :
    SameAt state (state.program destination desired).2 listed := by
  have same := sameTables_syncKernel destination desired state
  have answers := answers_syncKernel addressed state
  rcases program_cases destination desired state with
    ⟨outcome, after, answered, programs⟩ | ⟨error, after, answered, programs⟩
  · rw [answered] at same answers
    rw [programs]
    refine ⟨(answers.isGood outcome rfl).others listed elsewhere, ?_, ?_⟩
    · show (updateFib after.sync.fib destination desired).find? listed = _
      rw [find?_updateFib addressed, if_neg elsewhere, same.fib_eq]
    · show (after.sync.pending.erase destination).find? listed = _
      rw [SortedMap.find?_erase, if_neg elsewhere, same.pending_eq]
  · rw [answered] at same answers
    rw [programs]
    refine ⟨congrArg (SortedMap.find? · listed) (answers.routes_eq error rfl),
      congrArg (Fib.find? · listed) same.fib_eq, ?_⟩
    show (after.sync.pending.insert destination desired).find? listed = _
    rw [SortedMap.find?_insert, if_neg elsewhere, same.pending_eq]

/-- A programming that succeeded gave its prefix the desired route. -/
theorem hasAt_program (addressed : Addressed destination desired)
    (succeeds : (Programming.mk state destination desired).Succeeds) :
    (state.program destination desired).2.HasAt destination desired := by
  have answers := answers_syncKernel addressed state
  rcases program_cases destination desired state with
    ⟨outcome, after, answered, programs⟩ | ⟨error, after, answered, programs⟩
  · rw [answered] at answers
    rw [programs]
    refine ⟨(answers.isGood outcome rfl).realizes, ?_, ?_⟩
    · show (updateFib after.sync.fib destination desired).find? destination = _
      rw [find?_updateFib addressed, if_pos rfl]
    · show (after.sync.pending.erase destination).find? destination = _
      rw [SortedMap.find?_erase, if_pos rfl]
  · obtain ⟨outcome, isOk⟩ := succeeds
    rw [Programming.result, programs] at isOk
    cases isOk

/-- A programming that failed leaves its prefix pending. -/
theorem pending_program (fails : ¬ (Programming.mk state destination desired).Succeeds) :
    (state.program destination desired).2.sync.pending.find? destination = some desired := by
  rcases program_cases destination desired state with
    ⟨outcome, after, answered, programs⟩ | ⟨error, after, answered, programs⟩
  · exact absurd ⟨outcome, by rw [Programming.result, programs]⟩ fails
  · rw [programs]
    show (after.sync.pending.insert destination desired).find? destination = _
    rw [SortedMap.find?_insert, if_pos rfl]

/-- Nothing fails in a quiet kernel, and it stays quiet. -/
theorem succeeds_of_isQuiet (addressed : Addressed destination desired)
    (isQuiet : state.kernel.IsQuiet) :
    (Programming.mk state destination desired).Succeeds ∧
      (state.program destination desired).2.kernel.IsQuiet := by
  have answers := answers_syncKernel addressed state
  rcases program_cases destination desired state with
    ⟨outcome, after, answered, programs⟩ | ⟨error, after, answered, programs⟩
  · rw [answered] at answers
    rw [Programming.Succeeds, Programming.result, programs]
    exact ⟨⟨outcome, rfl⟩, answers.isQuiet isQuiet⟩
  · rw [answered] at answers
    exact absurd isQuiet (answers.not_isQuiet rfl)

/-! ### Programming a list of prefixes -/

/-- The listed prefixes are programmed in their order, each with its desired route. -/
theorem map_programmingsOf (entries : List (Prefix × Option ForwardingRoute))
    (state : Programmed DisturbedKernel) :
    (programmingsOf entries state).map
      (fun programming => (programming.destination, programming.desired)) = entries := by
  induction entries generalizing state with
  | nil => rfl
  | cons entry rest inductionHypothesis =>
    exact congrArg (entry :: ·) (inductionHypothesis _)

/-- A prefix that is not listed is left alone. -/
theorem sameAt_syncEach (addressed : AllAddressed entries)
    (absent : ∀ entry ∈ entries, entry.1 ≠ listed) :
    SameAt state (state.syncEach entries) listed := by
  induction entries generalizing state with
  | nil => exact ⟨rfl, rfl, rfl⟩
  | cons entry rest inductionHypothesis =>
    have first : SameAt state (state.program entry.1 entry.2).2 listed :=
      sameAt_program (addressed entry List.mem_cons_self) (absent entry List.mem_cons_self)
    exact first.trans (inductionHypothesis
      (fun later member => addressed later (List.mem_cons_of_mem _ member))
      fun later member => absent later (List.mem_cons_of_mem _ member))

/-- What became of each programming of distinct prefixes: no later one changes what it did. -/
theorem syncEach_of_mem (addressed : AllAddressed entries)
    (distinct : entries.Pairwise fun earlier later => earlier.1 ≠ later.1)
    {programming : Programming} (member : programming ∈ programmingsOf entries state) :
    (programming.Succeeds →
      (state.syncEach entries).HasAt programming.destination programming.desired) ∧
    (¬ programming.Succeeds →
      (state.syncEach entries).sync.pending.find? programming.destination =
        some programming.desired) := by
  induction entries generalizing state with
  | nil => cases member
  | cons entry rest inductionHypothesis =>
    obtain ⟨others, restDistinct⟩ := List.pairwise_cons.1 distinct
    have restAddressed : AllAddressed rest :=
      fun later inRest => addressed later (List.mem_cons_of_mem _ inRest)
    rcases List.mem_cons.1 member with rfl | inRest
    · have same : SameAt (state.program entry.1 entry.2).2
          ((state.program entry.1 entry.2).2.syncEach rest) entry.1 :=
        sameAt_syncEach restAddressed fun later inRest => (others later inRest).symm
      exact ⟨fun succeeds =>
          same.hasAt (hasAt_program (addressed entry List.mem_cons_self) succeeds),
        fun fails => same.pending_eq.trans (pending_program fails)⟩
    · exact inductionHypothesis restAddressed restDistinct inRest

/-- In a quiet kernel all programmings succeed. -/
theorem succeeds_of_mem (addressed : AllAddressed entries) (isQuiet : state.kernel.IsQuiet)
    {programming : Programming} (member : programming ∈ programmingsOf entries state) :
    programming.Succeeds := by
  induction entries generalizing state with
  | nil => cases member
  | cons entry rest inductionHypothesis =>
    have first := succeeds_of_isQuiet (addressed entry List.mem_cons_self) isQuiet
    rcases List.mem_cons.1 member with rfl | inRest
    · exact first.1
    · exact inductionHypothesis
        (fun later inRest => addressed later (List.mem_cons_of_mem _ inRest)) first.2 inRest

/-! ### Trying again -/

/-- What a retry programs is what was pending. -/
theorem exists_programming_iff :
    (∃ programming ∈ state.programmingsIn .resync,
      programming.destination = destination ∧ programming.desired = desired) ↔
    state.sync.pending.find? destination = some desired := by
  have listed : (state.programmingsIn .resync).map
      (fun programming => (programming.destination, programming.desired)) =
        state.sync.pending.entries := map_programmingsOf _ _
  rw [SortedMap.find?_eq_some_iff, ← listed, List.mem_map]
  simp only [Prod.mk.injEq]

section Retry

variable (addressed : PendingAddressed state.sync.pending)
include addressed

/-- What became of each programming of a retry. -/
theorem retryPending_of_mem {programming : Programming}
    (member : programming ∈ state.programmingsIn .resync) :
    (programming.Succeeds →
      state.retryPending.HasAt programming.destination programming.desired) ∧
    (¬ programming.Succeeds →
      state.retryPending.sync.pending.find? programming.destination =
        some programming.desired) :=
  syncEach_of_mem (allAddressed_entries addressed)
    (state.sync.pending.ascending.imp fun before => before.ne) member

/-- A prefix that is not pending keeps its routes and does not become pending. -/
theorem sameAt_retryPending (notPending : state.sync.pending.find? destination = none) :
    SameAt state state.retryPending destination := by
  have same : SameAt state.cleared state.retryPending destination :=
    sameAt_syncEach (allAddressed_entries addressed) fun entry member isListed => by
      rw [← isListed, SortedMap.find?_eq_some_iff.2 member] at notPending
      cases notPending
  exact ⟨same.kernel_eq, same.fib_eq, same.pending_eq.trans notPending.symm⟩

/-- After a retry a prefix is pending exactly if its programming failed. -/
theorem pending_retryPending_iff :
    state.retryPending.sync.pending.find? destination = some desired ↔
      ∃ programming ∈ state.programmingsIn .resync, programming.destination = destination ∧
        programming.desired = desired ∧ ¬ programming.Succeeds := by
  constructor
  · intro isPending
    cases before : state.sync.pending.find? destination with
    | none =>
      rw [(sameAt_retryPending addressed before).pending_eq, before] at isPending
      cases isPending
    | some wanted =>
      obtain ⟨programming, member, rfl, rfl⟩ := exists_programming_iff.2 before
      obtain ⟨succeeded, failed⟩ := retryPending_of_mem addressed member
      have fails : ¬ programming.Succeeds := fun succeeds => by
        rw [(succeeded succeeds).pending_eq] at isPending
        cases isPending
      rw [failed fails] at isPending
      exact ⟨programming, member, rfl, Option.some.inj isPending, fails⟩
  · rintro ⟨programming, member, rfl, rfl, fails⟩
    exact (retryPending_of_mem addressed member).2 fails

/-- In a quiet kernel every programming of a retry succeeds. -/
theorem succeeds_of_mem_resync (isQuiet : state.kernel.IsQuiet) {programming : Programming}
    (member : programming ∈ state.programmingsIn .resync) : programming.Succeeds := by
  have quiet : state.cleared.kernel.IsQuiet := isQuiet
  exact succeeds_of_mem (allAddressed_entries addressed) quiet member

/-- In a quiet kernel a retry gives every pending prefix its desired route. -/
theorem hasAt_retryPending (isQuiet : state.kernel.IsQuiet)
    (isPending : state.sync.pending.find? destination = some desired) :
    state.retryPending.HasAt destination desired := by
  obtain ⟨programming, member, rfl, rfl⟩ := exists_programming_iff.2 isPending
  exact (retryPending_of_mem addressed member).1 (succeeds_of_mem_resync addressed isQuiet member)

/-- In a quiet kernel nothing is pending after a retry. -/
theorem pending_retryPending_eq_empty (isQuiet : state.kernel.IsQuiet) :
    state.retryPending.sync.pending = SortedMap.empty := by
  refine SortedMap.ext_find? fun destination => ?_
  refine Option.eq_none_iff_forall_ne_some.2 fun desired isPending => ?_
  obtain ⟨programming, member, _, _, fails⟩ := (pending_retryPending_iff addressed).1 isPending
  exact fails (succeeds_of_mem_resync addressed isQuiet member)

end Retry

/-- After every history of a new synchronizer over a kernel in memory, with faults injected at any
time: trying the pending prefixes again programs each of them once with its desired route, answers
the number of those for which this failed, keeps exactly these pending with the same routes, and
leaves the routes of all other prefixes alone. If no fault is active any more and none is injected
meanwhile, it answers zero and leaves nothing pending, and what was to be had for a prefix is now
in the forwarding table and in the kernel. -/
theorem history_resync (vrf : UInt32) (netns : String) (attempts : Nat) (kernel : MemoryKernel)
    (upcoming : List (List Injection)) (steps : List SyncStep) :
    let start : Programmed DisturbedKernel :=
      ⟨Synchronizer.create vrf netns attempts, kernel, upcoming, []⟩
    let before := start.history steps
    let after := before.resync.2
    (before.programmingsIn .resync).map
        (fun programming => (programming.destination, programming.desired)) =
      before.sync.pending.entries ∧
    before.resync.1 = after.sync.pending.size ∧
    (∀ destination desired, after.sync.pending.find? destination = some desired ↔
      ∃ programming ∈ before.programmingsIn .resync, programming.destination = destination ∧
        programming.desired = desired ∧ ¬ programming.Succeeds) ∧
    (∀ destination desired, after.sync.pending.find? destination = some desired →
      before.sync.pending.find? destination = some desired) ∧
    (∀ destination, before.sync.pending.find? destination = none →
      after.sync.fib.find? destination = before.sync.fib.find? destination ∧
      after.kernel.memory.routes.find? destination =
        before.kernel.memory.routes.find? destination) ∧
    (before.kernel.IsQuiet →
      before.resync.1 = 0 ∧ after.sync.pending = SortedMap.empty ∧
      ∀ destination desired, before.sync.pending.find? destination = some desired →
        after.sync.fib.find? destination = desired ∧
        Realizes (after.kernel.memory.routes.find? destination)
          (desired.map KernelRoute.ofForwarding)) := by
  intro start before after
  have addressed : PendingAddressed before.sync.pending :=
    (mirrors_history (mirrors_create vrf netns attempts kernel upcoming) steps).addressed
  refine ⟨map_programmingsOf _ _, rfl, fun _ _ => pending_retryPending_iff addressed,
    fun destination desired isPending => ?_, fun destination notPending => ?_,
    fun isQuiet => ⟨?_, pending_retryPending_eq_empty addressed isQuiet,
      fun destination desired wanted => ?_⟩⟩
  · obtain ⟨programming, member, same, wanted, _⟩ :=
      (pending_retryPending_iff addressed).1 isPending
    exact exists_programming_iff.1 ⟨programming, member, same, wanted⟩
  · have same := sameAt_retryPending addressed notPending
    exact ⟨same.fib_eq, same.kernel_eq⟩
  · exact congrArg SortedMap.size (pending_retryPending_eq_empty addressed isQuiet)
  · have hasAt := hasAt_retryPending addressed isQuiet wanted
    exact ⟨hasAt.fib_eq, hasAt.realizes⟩

/-- A route over an interface. -/
def retriedRoute : ForwardingRoute where
  destination := .ofNetwork ⟨.v4 0x0A000000, 8, by decide⟩
  origin := .static
  distance := 1
  metric := 0
  hops := [⟨none, "eth0", 1⟩]

/-- The kernel refuses to install the route once. -/
def retriedSteps : List SyncStep :=
  [.inject ⟨.install, .notPermitted, 1⟩, .apply (.add retriedRoute)]

/-- A state in which the refused route is pending and no fault is active any more. -/
def retriedState : Programmed DisturbedKernel :=
  history ⟨Synchronizer.create 0 "default" 3, MemoryKernel.empty, [], []⟩ retriedSteps

theorem history_resync_retriedState :
    retriedState.sync.pending.find? retriedRoute.destination = some (some retriedRoute) ∧
      retriedState.sync.fib.find? retriedRoute.destination = none ∧
      retriedState.resync.1 = 0 ∧
      retriedState.resync.2.sync.fib.find? retriedRoute.destination = some retriedRoute := by
  have isPending : retriedState.sync.pending.find? retriedRoute.destination =
      some (some retriedRoute) := by decide +kernel
  have notYet : retriedState.sync.fib.find? retriedRoute.destination = none := by
    decide +kernel
  have isQuiet : retriedState.kernel.IsQuiet := ⟨by decide +kernel, by decide +kernel⟩
  have resynced := history_resync 0 "default" 3 MemoryKernel.empty [] retriedSteps
  obtain ⟨noneLeft, _, caughtUp⟩ := resynced.2.2.2.2.2 isQuiet
  exact ⟨isPending, notYet, noneLeft, (caughtUp _ _ isPending).1⟩

end Programmed

end ControlPlane
