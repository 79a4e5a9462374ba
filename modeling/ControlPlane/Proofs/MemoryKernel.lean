/-
This file proves what a kernel in memory answers while faults are injected into
it. An operation that its caller may expect to succeed fails only by a fault that
is active when it runs, and a failure leaves the routes as they were. Trying
again changes nothing about this, whatever is injected between two tries. In
particular nothing fails any more in a kernel without faults.
-/

import ControlPlane.Kernel.Synchronizer

namespace ControlPlane

/-! ### Single operations -/

namespace MemoryKernel

/-- The error is that of a fault which is active. -/
def HasFault (kernel : MemoryKernel) (error : KernelError) : Prop :=
  ∃ count, kernel.faults.find? error.op = some (error.errno, count)

/-- Without a fault nothing happens; a fault gives its error and leaves the routes alone. -/
theorem fault_cases (kernel : MemoryKernel) (op : KernelOp) :
    kernel.fault op = (none, kernel) ∨
      ∃ error after, kernel.fault op = (some error, after) ∧ kernel.HasFault error ∧
        after.routes = kernel.routes := by
  cases found : kernel.faults.find? op with
  | none =>
    left
    rw [fault, found]
  | some active =>
    obtain ⟨errno, count⟩ := active
    right
    refine ⟨⟨op, errno⟩, (kernel.fault op).2, ?_, ⟨count, found⟩, ?_⟩ <;> rw [fault, found]

/-- An operation answered well and met no fault, or it met a fault and left the routes as they
were. -/
def Answers {Value : Type} (kernel : MemoryKernel)
    (good : Value → SortedMap Prefix KernelRoute → Prop)
    (answer : Except KernelError Value × MemoryKernel) : Prop :=
  match answer with
  | (.ok value, after) => good value after.routes ∧ after.faults = kernel.faults
  | (.error error, after) => kernel.HasFault error ∧ after.routes = kernel.routes

theorem answers_observe (kernel : MemoryKernel) (destination : Prefix) :
    kernel.Answers (fun observed routes => routes = kernel.routes ∧
      observed = kernel.routes.find? destination) (observe destination kernel) := by
  rcases kernel.fault_cases .observe with quiet | ⟨error, after, met, facts⟩
  · rw [observe, quiet]
    exact ⟨⟨rfl, rfl⟩, rfl⟩
  · rw [observe, met]
    exact facts

theorem answers_install {kernel : MemoryKernel} {route : KernelRoute}
    (absent : kernel.routes.find? route.destination = none) :
    kernel.Answers (fun _ routes => routes = kernel.routes.insert route.destination route)
      (install route kernel) := by
  rcases kernel.fault_cases .install with quiet | ⟨error, after, met, facts⟩
  · have free : kernel.routes.contains route.destination = false := by
      rw [SortedMap.contains, absent]
      rfl
    rw [install, quiet]
    simp only [free]
    exact ⟨rfl, rfl⟩
  · rw [install, met]
    exact facts

theorem answers_replace (kernel : MemoryKernel) (route : KernelRoute) :
    kernel.Answers (fun _ routes => routes = kernel.routes.insert route.destination route)
      (replace route kernel) := by
  rcases kernel.fault_cases .replace with quiet | ⟨error, after, met, facts⟩
  · rw [replace, quiet]
    exact ⟨rfl, rfl⟩
  · rw [replace, met]
    exact facts

theorem answers_delete {kernel : MemoryKernel} {destination : Prefix} {route : KernelRoute}
    (present : kernel.routes.find? destination = some route) :
    kernel.Answers (fun _ routes => routes = kernel.routes.erase destination)
      (delete destination kernel) := by
  rcases kernel.fault_cases .delete with quiet | ⟨error, after, met, facts⟩
  · have taken : kernel.routes.contains destination = true := by
      rw [SortedMap.contains, present]
      rfl
    rw [delete, quiet]
    simp only [taken]
    exact ⟨rfl, rfl⟩
  · rw [delete, met]
    exact facts

theorem Answers.imp {Value : Type} {kernel : MemoryKernel}
    {good better : Value → SortedMap Prefix KernelRoute → Prop}
    {answer : Except KernelError Value × MemoryKernel} (answers : kernel.Answers good answer)
    (improve : ∀ value routes, good value routes → better value routes) :
    kernel.Answers better answer := by
  obtain ⟨result, after⟩ := answer
  cases result with
  | ok value => exact ⟨improve value after.routes answers.1, answers.2⟩
  | error error => exact answers

/-- The routes are as they were unless the operation answered well. -/
theorem Answers.routes_cases {Value : Type} {kernel : MemoryKernel}
    {good : Value → SortedMap Prefix KernelRoute → Prop}
    {answer : Except KernelError Value × MemoryKernel} (answers : kernel.Answers good answer) :
    answer.2.routes = kernel.routes ∨ ∃ value, good value answer.2.routes := by
  obtain ⟨result, after⟩ := answer
  cases result with
  | ok value => exact .inr ⟨value, answers.1⟩
  | error error => exact .inl answers.2

/-- A route is not installed over another one. -/
theorem routes_install_of_some {kernel : MemoryKernel} {route held : KernelRoute}
    (present : kernel.routes.find? route.destination = some held) :
    (install route kernel).2.routes = kernel.routes := by
  rcases kernel.fault_cases .install with quiet | ⟨error, after, met, _, same⟩
  · have taken : kernel.routes.contains route.destination = true := by
      rw [SortedMap.contains, present]
      rfl
    rw [install, quiet]
    simp only [taken, if_true]
  · rw [install, met]
    exact same

/-- No route is deleted where there is none. -/
theorem routes_delete_of_none {kernel : MemoryKernel} {destination : Prefix}
    (absent : kernel.routes.find? destination = none) :
    (delete destination kernel).2.routes = kernel.routes := by
  rcases kernel.fault_cases .delete with quiet | ⟨error, after, met, _, same⟩
  · have free : kernel.routes.contains destination = false := by
      rw [SortedMap.contains, absent]
      rfl
    rw [delete, quiet]
    simp only [free]
    rfl
  · rw [delete, met]
    exact same

end MemoryKernel

/-! ### Injected faults -/

/-- A fault to be injected: the operation that fails, its error, and how often it fails. -/
structure Injection where
  op : KernelOp
  errno : Errno
  count : Nat

namespace MemoryKernel

/-- The kernel after faults were injected, one after the other. -/
def injectAll (injections : List Injection) (kernel : MemoryKernel) : MemoryKernel :=
  injections.foldl (fun kernel injection =>
    kernel.inject injection.op injection.errno injection.count) kernel

theorem routes_inject (kernel : MemoryKernel) (op : KernelOp) (errno : Errno) (count : Nat) :
    (kernel.inject op errno count).routes = kernel.routes := by
  unfold inject
  split <;> rfl

theorem routes_injectAll (injections : List Injection) (kernel : MemoryKernel) :
    (kernel.injectAll injections).routes = kernel.routes := by
  induction injections generalizing kernel with
  | nil => rfl
  | cons injection rest inductionHypothesis =>
    exact (inductionHypothesis _).trans (kernel.routes_inject _ _ _)

end MemoryKernel

/-- An operation that was run: the kernel that it found, and whether it succeeded. -/
structure KernelCall where
  found : MemoryKernel
  result : Except KernelError Unit

/-- The operation succeeded, or a fault was active that made it fail. To install a route over
another one and to delete a route that is not there would be failures without a fault. -/
def KernelCall.FailsByFault (call : KernelCall) : Prop :=
  ∀ error, call.result = .error error → call.found.HasFault error

/-- A kernel in memory into which faults are injected at any time: before each of its next
operations, those that are due by then. It records the operations that were run. -/
structure DisturbedKernel where
  memory : MemoryKernel
  upcoming : List (List Injection)
  calls : List KernelCall

namespace DisturbedKernel

/-- Runs an operation after the faults that are due were injected. -/
def call {Value : Type} (operate : MemoryKernel → Except KernelError Value × MemoryKernel)
    (kernel : DisturbedKernel) : Except KernelError Value × DisturbedKernel :=
  let found := kernel.memory.injectAll (kernel.upcoming.headD [])
  let answer := operate found
  (answer.1,
    { memory := answer.2
      upcoming := kernel.upcoming.tail
      calls := kernel.calls ++ [⟨found, answer.1.map fun _ => ()⟩] })

instance : KernelBackend DisturbedKernel where
  default := ⟨MemoryKernel.empty, [], []⟩
  observe destination := call (MemoryKernel.observe destination)
  install route := call (MemoryKernel.install route)
  replace route := call (MemoryKernel.replace route)
  delete destination := call (MemoryKernel.delete destination)
  routes kernel := kernel.memory.routes.values

/-- No fault is active, and none is injected any more. -/
structure IsQuiet (kernel : DisturbedKernel) : Prop where
  noFault : kernel.memory.faults = SortedMap.empty
  noInjection : ∀ due ∈ kernel.upcoming, due = []

/-- No operation failed without a fault so far. -/
def IsBlameless (kernel : DisturbedKernel) : Prop :=
  ∀ call ∈ kernel.calls, call.FailsByFault

/-- What was run answered well, or it left the routes as they were, and whatever failed on the
way failed by a fault. In a quiet kernel it answered. -/
structure Answers {Value : Type} (kernel : DisturbedKernel)
    (good : Value → SortedMap Prefix KernelRoute → Prop)
    (answer : Except KernelError Value × DisturbedKernel) : Prop where
  isBlameless : kernel.IsBlameless → answer.2.IsBlameless
  isGood : ∀ value, answer.1 = .ok value → good value answer.2.memory.routes
  routes_eq : ∀ error, answer.1 = .error error → answer.2.memory.routes = kernel.memory.routes
  succeeds : kernel.IsQuiet → ∃ value, answer.1 = .ok value
  isQuiet : kernel.IsQuiet → answer.2.IsQuiet

variable {Value : Type} {kernel : DisturbedKernel}
  {good : Value → SortedMap Prefix KernelRoute → Prop}

/-- What failed was not run in a quiet kernel. -/
theorem Answers.not_isQuiet {answer : Except KernelError Value × DisturbedKernel}
    (answers : kernel.Answers good answer) {error : KernelError}
    (failed : answer.1 = .error error) : ¬ kernel.IsQuiet := by
  intro isQuiet
  obtain ⟨value, succeeded⟩ := answers.succeeds isQuiet
  rw [failed] at succeeded
  cases succeeded

/-- What is made of an answered value does not matter to the routes. -/
theorem Answers.map {Image : Type} {good : SortedMap Prefix KernelRoute → Prop}
    {answer : Except KernelError Value × DisturbedKernel}
    (answers : kernel.Answers (fun _ => good) answer) (change : Value → Image) :
    kernel.Answers (fun _ => good) (answer.1.map change, answer.2) := by
  obtain ⟨result, after⟩ := answer
  cases result with
  | ok value =>
    exact ⟨answers.isBlameless, fun _ _ => answers.isGood value rfl, nofun, fun _ => ⟨_, rfl⟩,
      answers.isQuiet⟩
  | error error =>
    exact ⟨answers.isBlameless, nofun, fun _ _ => answers.routes_eq error rfl,
      fun before => absurd before (answers.not_isQuiet rfl), answers.isQuiet⟩

/-- Before the next operation of a quiet kernel nothing is injected. -/
theorem IsQuiet.injectAll_eq (isQuiet : kernel.IsQuiet) :
    kernel.memory.injectAll (kernel.upcoming.headD []) = kernel.memory := by
  have nothing : kernel.upcoming.headD [] = [] := by
    cases upcoming : kernel.upcoming with
    | nil => rfl
    | cons due rest => exact isQuiet.noInjection due (upcoming ▸ List.mem_cons_self)
  rw [nothing]
  rfl

theorem answers_call {operate : MemoryKernel → Except KernelError Value × MemoryKernel}
    (each : ∀ memory : MemoryKernel, memory.routes = kernel.memory.routes →
      memory.Answers good (operate memory)) : kernel.Answers good (kernel.call operate) := by
  have sameRoutes := kernel.memory.routes_injectAll (kernel.upcoming.headD [])
  have answers := each _ sameRoutes
  have noFault : kernel.IsQuiet →
      (kernel.memory.injectAll (kernel.upcoming.headD [])).faults = SortedMap.empty :=
    fun isQuiet => by rw [isQuiet.injectAll_eq, isQuiet.noFault]
  unfold call
  dsimp only
  generalize kernel.memory.injectAll _ = found at sameRoutes answers noFault ⊢
  generalize operate found = answer at answers ⊢
  obtain ⟨result, after⟩ := answer
  cases result with
  | ok value =>
    obtain ⟨isGood, sameFaults⟩ := answers
    refine ⟨fun isBlameless => ?_, fun _ isOk => ?_, nofun, fun _ => ⟨value, rfl⟩,
      fun isQuiet => ⟨sameFaults.trans (noFault isQuiet), fun due member => ?_⟩⟩
    · exact List.forall_mem_append.2 ⟨isBlameless, List.forall_mem_singleton.2 nofun⟩
    · cases isOk
      exact isGood
    · exact isQuiet.noInjection due (List.mem_of_mem_tail member)
  | error error =>
    obtain ⟨⟨count, active⟩, unchanged⟩ := answers
    have notQuiet : ¬ kernel.IsQuiet := fun isQuiet => by
      rw [noFault isQuiet] at active
      cases active
    refine ⟨fun isBlameless => ?_, nofun, fun _ _ => unchanged.trans sameRoutes,
      fun isQuiet => absurd isQuiet notQuiet, fun isQuiet => absurd isQuiet notQuiet⟩
    refine List.forall_mem_append.2 ⟨isBlameless, List.forall_mem_singleton.2 fun _ failed => ?_⟩
    cases failed
    exact ⟨count, active⟩

/-- If every try answers well on the routes that there are, so do several tries. -/
theorem answers_attempt
    {operate : DisturbedKernel → Except KernelError Value × DisturbedKernel}
    (each : ∀ later : DisturbedKernel, later.memory.routes = kernel.memory.routes →
      later.Answers good (operate later)) (further : Nat) :
    kernel.Answers good
      ((attempt operate further kernel).result, (attempt operate further kernel).kernel) := by
  have now := each kernel rfl
  induction further generalizing kernel with
  | zero => exact now
  | succ further inductionHypothesis =>
    rw [attempt]
    split
    next value after answered => rwa [answered] at now
    next error after answered =>
      rw [answered] at now
      split
      · have sameRoutes : after.memory.routes = kernel.memory.routes := now.routes_eq error rfl
        have eachLater : ∀ later : DisturbedKernel, later.memory.routes = after.memory.routes →
            later.Answers good (operate later) :=
          fun later same => each later (same.trans sameRoutes)
        have later := inductionHypothesis eachLater (eachLater after rfl)
        exact ⟨fun isBlameless => later.isBlameless (now.isBlameless isBlameless), later.isGood,
          fun cause failed => (later.routes_eq cause failed).trans sameRoutes,
          fun isQuiet => later.succeeds (now.isQuiet isQuiet),
          fun isQuiet => later.isQuiet (now.isQuiet isQuiet)⟩
      · exact now

end DisturbedKernel

end ControlPlane
