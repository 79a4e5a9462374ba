/-
This file proves that the statistics of a synchronizer account for what it does. An
operation is tried again only while it fails for a cause that may pass, and no more
often than the synchronizer allows; each further try is counted. Every programming
of a prefix ends in one of five ways, and the statistics count how often it ended in
each. In a kernel in memory that nobody else changes, as many changes were made as
programmings ended with one.
-/

import ControlPlane.Proofs.Record
import ControlPlane.Proofs.SyncHistory

namespace ControlPlane

/-! ### Tries -/

/-- An operation was tried and failed with the listed errors, one after the other, each time on the
kernel that the try before had left. -/
inductive FailsWith {Kernel Value : Type} (operate : Kernel → Except KernelError Value × Kernel) :
    Kernel → List KernelError → Kernel → Prop
  | untried (kernel : Kernel) : FailsWith operate kernel [] kernel
  | tried {kernel between after : Kernel} {error : KernelError} {errors : List KernelError}
      (failed : operate kernel = (.error error, between))
      (later : FailsWith operate between errors after) :
      FailsWith operate kernel (error :: errors) after

/-- The causes of a failure that may pass. -/
def Errno.passing : List Errno :=
  [.again, .interrupted, .busy, .noBufferSpace]

theorem KernelError.isTransient_iff {error : KernelError} :
    error.isTransient = true ↔ error.errno ∈ Errno.passing := by
  obtain ⟨op, errno⟩ := error
  cases errno <;> simp [isTransient, Errno.passing]

/-- Before the answer that counts, an operation failed for causes that may pass, as often as it was
tried again. If the answer is such a failure too, no further try was left. -/
theorem exists_failsWith {Kernel Value : Type}
    (operate : Kernel → Except KernelError Value × Kernel) (further : Nat) (kernel : Kernel) :
    let attempted := attempt operate further kernel
    ∃ errors found, FailsWith operate kernel errors found ∧
      operate found = (attempted.result, attempted.kernel) ∧
      (∀ error ∈ errors, error.isTransient = true) ∧
      attempted.retries = errors.length ∧ errors.length ≤ further ∧
      ∀ error, attempted.result = .error error → error.isTransient = true →
        errors.length = further := by
  induction further generalizing kernel with
  | zero =>
    exact ⟨[], kernel, .untried kernel, rfl, List.forall_mem_nil _, rfl, Nat.le_refl 0,
      fun _ _ _ => rfl⟩
  | succ further inductionHypothesis =>
    rw [attempt]
    split
    next value after answered =>
      refine ⟨[], kernel, .untried kernel, answered, List.forall_mem_nil _, rfl, Nat.zero_le _,
        fun cause failed => ?_⟩
      cases failed
    next error after answered =>
      split
      next passing =>
        obtain ⟨errors, found, fails, last, transient, retries, bounded, exhausted⟩ :=
          inductionHypothesis after
        refine ⟨error :: errors, found, .tried answered fails, last,
          List.forall_mem_cons.2 ⟨passing, transient⟩, congrArg (· + 1) retries,
          Nat.succ_le_succ bounded, fun cause failed isTransient => ?_⟩
        exact congrArg (· + 1) (exhausted cause failed isTransient)
      next final =>
        refine ⟨[], kernel, .untried kernel, answered, List.forall_mem_nil _, rfl, Nat.zero_le _,
          fun cause failed isTransient => ?_⟩
        cases failed
        exact absurd isTransient final

/-! ### Endings -/

/-- How often programmings ended with an outcome, or with none as the kernel refused the route. -/
def SyncStats.ended (stats : SyncStats) : Option SyncOutcome → Nat
  | some .noop => stats.noops
  | some .installed => stats.installed
  | some .replaced => stats.replaced
  | some .deleted => stats.deleted
  | none => stats.failures

/-- How often programmings ended with a change of the kernel. -/
def SyncStats.changes (stats : SyncStats) : Nat :=
  stats.installed + stats.replaced + stats.deleted

/-- The number of changes of the kernel that an outcome stands for. -/
def SyncOutcome.changes : SyncOutcome → Nat
  | .noop => 0
  | .installed | .replaced | .deleted => 1

namespace SyncStats

theorem ended_count (stats : SyncStats) (outcome : SyncOutcome) (ending : Option SyncOutcome) :
    (stats.count outcome).ended ending =
      stats.ended ending + if some outcome = ending then 1 else 0 := by
  rcases ending with _ | ending
  · cases outcome <;> rfl
  · cases outcome <;> cases ending <;> rfl

theorem ended_failed (stats : SyncStats) (ending : Option SyncOutcome) :
    ({ stats with failures := stats.failures + 1 } : SyncStats).ended ending =
      stats.ended ending + if none = ending then 1 else 0 := by
  rcases ending with _ | ending
  · rfl
  · cases ending <;> rfl

theorem changes_count (stats : SyncStats) (outcome : SyncOutcome) :
    (stats.count outcome).changes = stats.changes + outcome.changes := by
  cases outcome <;> simp only [count, changes, SyncOutcome.changes] <;> omega

theorem changes_eq_of_ended_eq {first second : SyncStats}
    (same : ∀ ending, second.ended ending = first.ended ending) :
    second.changes = first.changes := by
  have installed : second.installed = first.installed := same (some .installed)
  have replaced : second.replaced = first.replaced := same (some .replaced)
  have deleted : second.deleted = first.deleted := same (some .deleted)
  rw [changes, changes, installed, replaced, deleted]

end SyncStats

namespace Programmed

open Synchronizer

section AnyKernel

variable {Kernel : Type} [KernelBackend Kernel] (ending : Option SyncOutcome)

omit [KernelBackend Kernel] in
theorem ended_run {Value : Type} (operate : Kernel → Except KernelError Value × Kernel)
    (state : Programmed Kernel) :
    (state.run operate).2.sync.stats.ended ending = state.sync.stats.ended ending := by
  rcases ending with _ | ending
  · rfl
  · cases ending <;> rfl

theorem ended_perform (action : KernelAction) (state : Programmed Kernel) :
    (state.perform action).2.sync.stats.ended ending = state.sync.stats.ended ending := by
  cases action with
  | nothing => rfl
  | install route => exact ended_run ending _ _
  | replace route => exact ended_run ending _ _
  | delete destination => exact ended_run ending _ _

/-- To look at the kernel and to act on it ends nothing yet. -/
theorem ended_syncKernel (destination : Prefix) (desired : Option ForwardingRoute)
    (state : Programmed Kernel) :
    (state.syncKernel destination desired).2.sync.stats.ended ending =
      state.sync.stats.ended ending := by
  have observed := ended_run ending (KernelBackend.observe destination) state
  rcases syncKernel_cases destination desired state with
    ⟨error, after, answered, syncs⟩ | ⟨held, after, answered, syncs⟩
  · rw [answered] at observed
    rw [syncs]
    exact observed
  · rw [answered] at observed
    rw [syncs]
    exact (ended_perform ending _ after).trans observed

/-- Of the five counters of endings, a programming adds one to that of its own. -/
theorem ended_program (destination : Prefix) (desired : Option ForwardingRoute)
    (state : Programmed Kernel) :
    (state.program destination desired).2.sync.stats.ended ending =
      state.sync.stats.ended ending +
        if (state.program destination desired).1.toOption = ending then 1 else 0 := by
  have synced := ended_syncKernel ending destination desired state
  rcases program_cases destination desired state with
    ⟨outcome, after, answered, programs⟩ | ⟨error, after, answered, programs⟩
  · rw [answered] at synced
    rw [programs, ← synced]
    exact after.sync.stats.ended_count outcome ending
  · rw [answered] at synced
    rw [programs, ← synced]
    exact after.sync.stats.ended_failed ending

end AnyKernel

end Programmed

/-! ### Changes of a kernel in memory -/

/-- If an operation succeeds, so many changes were made to the kernel, and none if it fails. -/
def CountsFrom {Kernel Value : Type} (mutationsOf : Kernel → Nat) (mutations : Nat)
    (changes : Value → Nat) (answer : Except KernelError Value × Kernel) : Prop :=
  AnswersOr (fun value after => mutationsOf after = mutations + changes value)
    (fun after => mutationsOf after = mutations) answer

/-- What is made of an answered value does not matter to the kernel. -/
theorem CountsFrom.map_const {Kernel Value Image : Type} {mutationsOf : Kernel → Nat}
    {mutations : Nat} {changes : Image → Nat} {image : Image}
    {answer : Except KernelError Value × Kernel}
    (counts : CountsFrom mutationsOf mutations (fun _ => changes image) answer) :
    CountsFrom mutationsOf mutations changes (answer.1.map fun _ => image, answer.2) := by
  obtain ⟨result, after⟩ := answer
  cases result <;> exact counts

namespace MemoryKernel

theorem mutations_fault (kernel : MemoryKernel) (op : KernelOp) :
    (kernel.fault op).2.mutations = kernel.mutations := by
  unfold fault
  split <;> rfl

theorem mutations_inject (kernel : MemoryKernel) (op : KernelOp) (errno : Errno) (count : Nat) :
    (kernel.inject op errno count).mutations = kernel.mutations := by
  unfold inject
  split <;> rfl

theorem mutations_injectAll (injections : List Injection) (kernel : MemoryKernel) :
    (kernel.injectAll injections).mutations = kernel.mutations := by
  induction injections generalizing kernel with
  | nil => rfl
  | cons injection rest inductionHypothesis =>
    exact (inductionHypothesis _).trans (kernel.mutations_inject _ _ _)

theorem countsFrom_observe (destination : Prefix) (kernel : MemoryKernel) :
    CountsFrom mutations kernel.mutations (fun _ => 0) (observe destination kernel) := by
  have same := kernel.mutations_fault .observe
  unfold observe
  split
  next error after met =>
    rw [met] at same
    exact same
  next after met =>
    rw [met] at same
    exact same

theorem countsFrom_install (route : KernelRoute) (kernel : MemoryKernel) :
    CountsFrom mutations kernel.mutations (fun _ => 1) (install route kernel) := by
  have same := kernel.mutations_fault .install
  unfold install
  split
  next error after met =>
    rw [met] at same
    exact same
  next after met =>
    rw [met] at same
    split
    · exact same
    · exact congrArg (· + 1) same

theorem countsFrom_replace (route : KernelRoute) (kernel : MemoryKernel) :
    CountsFrom mutations kernel.mutations (fun _ => 1) (replace route kernel) := by
  have same := kernel.mutations_fault .replace
  unfold replace
  split
  next error after met =>
    rw [met] at same
    exact same
  next after met =>
    rw [met] at same
    exact congrArg (· + 1) same

theorem countsFrom_delete (destination : Prefix) (kernel : MemoryKernel) :
    CountsFrom mutations kernel.mutations (fun _ => 1) (delete destination kernel) := by
  have same := kernel.mutations_fault .delete
  unfold delete
  split
  next error after met =>
    rw [met] at same
    exact same
  next after met =>
    rw [met] at same
    split
    · exact congrArg (· + 1) same
    · exact same

end MemoryKernel

namespace DisturbedKernel

/-- The number of changes that were made to the kernel so far. -/
def mutations (kernel : DisturbedKernel) : Nat :=
  kernel.memory.mutations

/-- The faults that are injected before an operation change no route. -/
theorem countsFrom_call {Value : Type} {changes : Value → Nat}
    {operate : MemoryKernel → Except KernelError Value × MemoryKernel}
    (kernel : DisturbedKernel)
    (each : ∀ memory : MemoryKernel,
      CountsFrom MemoryKernel.mutations memory.mutations changes (operate memory)) :
    CountsFrom mutations kernel.mutations changes (kernel.call operate) := by
  have counts := each (kernel.memory.injectAll (kernel.upcoming.headD []))
  rw [MemoryKernel.mutations_injectAll] at counts
  unfold call
  dsimp only
  generalize operate _ = answer at counts ⊢
  obtain ⟨result, after⟩ := answer
  cases result <;> exact counts

end DisturbedKernel

namespace Programmed

open Synchronizer

/-- Tries that fail change nothing. -/
theorem countsFrom_run {Value : Type} {changes : Value → Nat}
    {operate : MemoryKernel → Except KernelError Value × MemoryKernel}
    (each : ∀ memory : MemoryKernel,
      CountsFrom MemoryKernel.mutations memory.mutations changes (operate memory))
    (state : Programmed DisturbedKernel) :
    CountsFrom DisturbedKernel.mutations state.kernel.mutations changes
      ((state.run (DisturbedKernel.call operate)).1,
        (state.run (DisturbedKernel.call operate)).2.kernel) := by
  have eachTry : ∀ kernel : DisturbedKernel, kernel.mutations = state.kernel.mutations →
      CountsFrom DisturbedKernel.mutations state.kernel.mutations changes
        (kernel.call operate) := by
    intro kernel same
    rw [← same]
    exact kernel.countsFrom_call each
  exact answersOr_run eachTry rfl

theorem countsFrom_perform (action : KernelAction) (state : Programmed DisturbedKernel) :
    CountsFrom DisturbedKernel.mutations state.kernel.mutations
      (fun _ => action.outcome.changes)
      ((state.perform action).1, (state.perform action).2.kernel) := by
  cases action with
  | nothing => exact Eq.refl state.kernel.mutations
  | install route => exact countsFrom_run (MemoryKernel.countsFrom_install route) state
  | replace route => exact countsFrom_run (MemoryKernel.countsFrom_replace route) state
  | delete destination => exact countsFrom_run (MemoryKernel.countsFrom_delete destination) state

theorem countsFrom_syncKernel (destination : Prefix) (desired : Option ForwardingRoute)
    (state : Programmed DisturbedKernel) :
    CountsFrom DisturbedKernel.mutations state.kernel.mutations SyncOutcome.changes
      ((state.syncKernel destination desired).1,
        (state.syncKernel destination desired).2.kernel) := by
  have observed : CountsFrom DisturbedKernel.mutations state.kernel.mutations (fun _ => 0)
      ((state.run (KernelBackend.observe destination)).1,
        (state.run (KernelBackend.observe destination)).2.kernel) :=
    countsFrom_run (MemoryKernel.countsFrom_observe destination) state
  rcases syncKernel_cases destination desired state with
    ⟨error, after, answered, syncs⟩ | ⟨held, after, answered, syncs⟩
  · rw [answered] at observed
    rw [syncs]
    exact observed
  · rw [answered] at observed
    have same : after.kernel.mutations = state.kernel.mutations := observed
    have performed := countsFrom_perform
      (.plan destination held (desired.map KernelRoute.ofForwarding)) after
    rw [same] at performed
    rw [syncs]
    exact performed.map_const

/-! ### Accounts of programmings -/

/-- How often one of the listed programmings ended so. -/
def endings (ending : Option SyncOutcome) (listed : List Programming) : Nat :=
  listed.countP fun programming => programming.result.toOption = ending

/-- From one state to another the statistics grew by the endings of the listed programmings, and
the changes of the kernel by those that the statistics count. -/
structure Balances (before after : Programmed DisturbedKernel) (listed : List Programming) :
    Prop where
  ended : ∀ ending,
    after.sync.stats.ended ending = before.sync.stats.ended ending + endings ending listed
  changed : ∃ changes,
    after.sync.stats.changes = before.sync.stats.changes + changes ∧
      after.kernel.mutations = before.kernel.mutations + changes

/-- Where nothing is programmed, neither the statistics grow nor the kernel changes. -/
theorem balances_nil {before after : Programmed DisturbedKernel}
    (sameStats : after.sync.stats = before.sync.stats)
    (sameMutations : after.kernel.mutations = before.kernel.mutations) :
    Balances before after [] where
  ended ending := by rw [sameStats]; rfl
  changed := ⟨0, congrArg SyncStats.changes sameStats, sameMutations⟩

theorem Balances.append {before between after : Programmed DisturbedKernel}
    {first second : List Programming} (earlier : Balances before between first)
    (later : Balances between after second) : Balances before after (first ++ second) where
  ended ending := by
    rw [later.ended, earlier.ended, endings, endings, endings, List.countP_append, Nat.add_assoc]
  changed := by
    obtain ⟨changes, counted, made⟩ := earlier.changed
    obtain ⟨more, moreCounted, moreMade⟩ := later.changed
    refine ⟨changes + more, ?_, ?_⟩
    · rw [moreCounted, counted, Nat.add_assoc]
    · rw [moreMade, made, Nat.add_assoc]

theorem balances_program (destination : Prefix) (desired : Option ForwardingRoute)
    (state : Programmed DisturbedKernel) :
    Balances state (state.program destination desired).2 [⟨state, destination, desired⟩] where
  ended ending := by
    have atLast : Programming.result ⟨state, destination, desired⟩ =
        (state.program destination desired).1 := rfl
    rw [ended_program, endings, List.countP_singleton]
    simp only [atLast, decide_eq_true_eq]
  changed := by
    have counts := countsFrom_syncKernel destination desired state
    have same := SyncStats.changes_eq_of_ended_eq
      fun ending => ended_syncKernel ending destination desired state
    rcases program_cases destination desired state with
      ⟨outcome, after, answered, programs⟩ | ⟨error, after, answered, programs⟩
    · rw [answered] at counts same
      rw [programs, ← same]
      exact ⟨outcome.changes, after.sync.stats.changes_count outcome, counts⟩
    · rw [answered] at counts same
      rw [programs, ← same]
      exact ⟨0, rfl, counts⟩

theorem balances_syncEach (entries : List (Prefix × Option ForwardingRoute))
    (state : Programmed DisturbedKernel) :
    Balances state (state.syncEach entries) (programmingsOf entries state) := by
  induction entries generalizing state with
  | nil => exact balances_nil rfl rfl
  | cons entry rest inductionHypothesis =>
    have first := balances_program entry.1 entry.2 state
    exact first.append (inductionHypothesis (state.program entry.1 entry.2).2)

theorem balances_retryPending (state : Programmed DisturbedKernel) :
    Balances state state.retryPending
      (programmingsOf state.sync.pending.entries state.cleared) := by
  have cleared : Balances state state.cleared [] := balances_nil rfl rfl
  rw [retryPending_eq]
  exact cleared.append (balances_syncEach _ _)

theorem balances_step (state : Programmed DisturbedKernel) (step : SyncStep) :
    Balances state (state.step step) (state.programmingsIn step) := by
  have retried := balances_retryPending state
  cases step with
  | apply delta =>
    simp only [Programmed.step, programmingsIn, apply_eq]
    split
    next => rwa [List.append_nil]
    next =>
      have superseded :
          Balances state.retryPending (state.retryPending.supersede delta.destination) [] :=
        balances_nil rfl rfl
      exact retried.append (superseded.append (balances_program _ _ _))
  | resync => exact retried
  | inject injection =>
    exact balances_nil rfl (state.kernel.memory.mutations_injectAll [injection])

theorem balances_history (state : Programmed DisturbedKernel) (steps : List SyncStep) :
    Balances state (state.history steps) (state.programmings steps) := by
  induction steps generalizing state with
  | nil => exact balances_nil rfl rfl
  | cons step rest inductionHypothesis =>
    exact (balances_step state step).append (inductionHypothesis (state.step step))

/-- For every kernel, however its operations answer: an operation is tried at least once and at most
as often as the synchronizer allows, and again only while it fails for a cause that may pass. What
the last try answers is the answer, and if that is such a failure too then no further try was left.
The counter of retries grows by the number of tries but one. A programming adds one to the counter
of its ending and leaves the other four.

Over every history over a kernel in memory that nobody else changes, the counters grow by the
endings of its programmings, and the kernel was changed once for each that ended with a change. -/
theorem stats_account :
    (∀ {Kernel Value : Type} (operate : Kernel → Except KernelError Value × Kernel)
        (state : Programmed Kernel),
      ∃ errors found, FailsWith operate state.kernel errors found ∧
        operate found = ((state.run operate).1, (state.run operate).2.kernel) ∧
        errors.length + 1 ≤ max 1 state.sync.attempts ∧
        (∀ error ∈ errors, error.errno ∈ Errno.passing) ∧
        (∀ error, (state.run operate).1 = .error error → error.errno ∈ Errno.passing →
          errors.length + 1 = max 1 state.sync.attempts) ∧
        (state.run operate).2.sync.stats.retries = state.sync.stats.retries + errors.length) ∧
    (∀ {Kernel : Type} [KernelBackend Kernel] (state : Programmed Kernel)
        (destination : Prefix) (desired : Option ForwardingRoute) (ending : Option SyncOutcome),
      let programmed := state.program destination desired
      programmed.2.sync.stats.ended ending =
        state.sync.stats.ended ending + if programmed.1.toOption = ending then 1 else 0) ∧
    ∀ (state : Programmed DisturbedKernel) (steps : List SyncStep),
      Balances state (state.history steps) (state.programmings steps) := by
  refine ⟨fun operate state => ?_, fun state destination desired ending =>
    ended_program ending destination desired state, balances_history⟩
  obtain ⟨errors, found, fails, last, transient, retries, bounded, exhausted⟩ :=
    exists_failsWith operate (state.sync.attempts - 1) state.kernel
  refine ⟨errors, found, fails, last, by omega, fun error member => ?_,
    fun error failed passes => ?_, congrArg (state.sync.stats.retries + ·) retries⟩
  · exact KernelError.isTransient_iff.1 (transient error member)
  · have all := exhausted error failed (KernelError.isTransient_iff.2 passes)
    omega

end Programmed

end ControlPlane
