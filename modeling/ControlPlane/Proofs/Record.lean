/-
This file says what a synchronizer asks of its kernel. To give a prefix the route
it should have, it only asks for that prefix and only writes that route, so
whatever such requests keep, programming keeps. A kernel of any kind can be made
to record what it is asked for and what became of it, which changes nothing else:
the synchronizer answers and programs as it does without the record.
-/

import ControlPlane.Proofs.Synchronizer

namespace ControlPlane

/-! ### Requests -/

/-- What a kernel can be asked for. -/
inductive KernelRequest
  | observe (destination : Prefix)
  | install (route : KernelRoute)
  | replace (route : KernelRoute)
  | delete (destination : Prefix)
  deriving DecidableEq

namespace KernelRequest

/-- The prefix whose route a request changes if it succeeds. -/
def changed? : KernelRequest → Option Prefix
  | observe _ => none
  | install route => some route.destination
  | replace route => some route.destination
  | delete destination => some destination

/-- The route that a request writes if it succeeds. -/
def written? : KernelRequest → Option KernelRoute
  | observe _ => none
  | install route => some route
  | replace route => some route
  | delete _ => none

/-- The request is one of those by which a prefix is given the route that it should have. -/
def Serves (destination : Prefix) (wanted : Option KernelRoute) : KernelRequest → Prop
  | observe asked => asked = destination
  | install route => wanted = some route
  | replace route => wanted = some route
  | delete asked => asked = destination ∧ wanted = none

section AnyKernel

variable {Kernel : Type} [KernelBackend Kernel]

/-- The kernel after a request. -/
def after : KernelRequest → Kernel → Kernel
  | observe destination, kernel => (KernelBackend.observe destination kernel).2
  | install route, kernel => (KernelBackend.install route kernel).2
  | replace route, kernel => (KernelBackend.replace route kernel).2
  | delete destination, kernel => (KernelBackend.delete destination kernel).2

/-- Whether a kernel does what is asked for. -/
def succeeds : KernelRequest → Kernel → Bool
  | observe destination, kernel => (KernelBackend.observe destination kernel).1.isOk
  | install route, kernel => (KernelBackend.install route kernel).1.isOk
  | replace route, kernel => (KernelBackend.replace route kernel).1.isOk
  | delete destination, kernel => (KernelBackend.delete destination kernel).1.isOk

/-- Every request by which the prefix is given the route keeps a property of kernels. -/
def Keeps (clean : Kernel → Prop) (destination : Prefix) (wanted : Option KernelRoute) : Prop :=
  ∀ request : KernelRequest, request.Serves destination wanted →
    ∀ kernel, clean kernel → clean (request.after kernel)

end AnyKernel

/-- What is asked for to give a prefix its route concerns no other prefix. -/
theorem Serves.changed?_eq {destination : Prefix} {wanted : Option KernelRoute}
    (addressed : ∀ route, wanted = some route → route.destination = destination)
    {request : KernelRequest} (serves : request.Serves destination wanted) :
    request.changed? = none ∨ request.changed? = some destination := by
  cases request with
  | observe asked => exact .inl rfl
  | install route => exact .inr (congrArg some (addressed route serves))
  | replace route => exact .inr (congrArg some (addressed route serves))
  | delete asked => exact .inr (congrArg some serves.1)

end KernelRequest

/-! ### What requests keep -/

/-- An operation answered well, or it failed and kept what held before. -/
def AnswersOr {Kernel Value : Type} (good : Value → Kernel → Prop) (holds : Kernel → Prop)
    (answer : Except KernelError Value × Kernel) : Prop :=
  match answer with
  | (.ok value, after) => good value after
  | (.error _, after) => holds after

theorem answersOr_of {Kernel Value : Type} {good : Value → Kernel → Prop} {holds : Kernel → Prop}
    {answer : Except KernelError Value × Kernel}
    (succeeds : ∀ value, answer.1 = .ok value → good value answer.2)
    (fails : ∀ error, answer.1 = .error error → holds answer.2) : AnswersOr good holds answer := by
  obtain ⟨result, after⟩ := answer
  cases result with
  | ok value => exact succeeds value rfl
  | error error => exact fails error rfl

theorem answersOr_of_keeps {Kernel Value : Type} {clean : Kernel → Prop}
    {answer : Except KernelError Value × Kernel} (isClean : clean answer.2) :
    AnswersOr (fun _ => clean) clean answer :=
  answersOr_of (fun _ _ => isClean) fun _ _ => isClean

/-- Of the tries of an operation only the last one can succeed. -/
theorem answersOr_attempt {Kernel Value : Type} {good : Value → Kernel → Prop}
    {holds : Kernel → Prop} {operate : Kernel → Except KernelError Value × Kernel}
    (each : ∀ kernel, holds kernel → AnswersOr good holds (operate kernel)) (further : Nat)
    {kernel : Kernel} (before : holds kernel) :
    AnswersOr good holds
      ((attempt operate further kernel).result, (attempt operate further kernel).kernel) := by
  have now := each kernel before
  induction further generalizing kernel with
  | zero => exact now
  | succ further inductionHypothesis =>
    rw [attempt]
    split
    next value after answered => rwa [answered] at now
    next error after answered =>
      rw [answered] at now
      split
      · exact inductionHypothesis now (each after now)
      · exact now

namespace Programmed

open Synchronizer

section AnyKernel

variable {Kernel : Type} [KernelBackend Kernel] {clean : Kernel → Prop}
  {state : Programmed Kernel}

omit [KernelBackend Kernel] in
theorem answersOr_run {Value : Type} {good : Value → Kernel → Prop} {holds : Kernel → Prop}
    {operate : Kernel → Except KernelError Value × Kernel}
    (each : ∀ kernel, holds kernel → AnswersOr good holds (operate kernel))
    (before : holds state.kernel) :
    AnswersOr good holds ((state.run operate).1, (state.run operate).2.kernel) :=
  answersOr_attempt each _ before

omit [KernelBackend Kernel] in
theorem keeps_run {Value : Type} {operate : Kernel → Except KernelError Value × Kernel}
    (keeps : ∀ kernel, clean kernel → clean (operate kernel).2) (isClean : clean state.kernel) :
    clean (state.run operate).2.kernel := by
  have answers : AnswersOr (fun _ => clean) clean
      ((state.run operate).1, (state.run operate).2.kernel) :=
    answersOr_run (fun kernel before => answersOr_of_keeps (keeps kernel before)) isClean
  cases answered : (state.run operate).1 <;> rw [answered] at answers <;> exact answers

theorem keeps_perform {destination : Prefix} {wanted : Option KernelRoute}
    (keeps : KernelRequest.Keeps clean destination wanted) (observed : Option KernelRoute)
    (isClean : clean state.kernel) :
    clean (state.perform (.plan destination observed wanted)).2.kernel := by
  cases observed with
  | none =>
    cases wanted with
    | none => exact isClean
    | some route => exact keeps_run (keeps (.install route) rfl) isClean
  | some observed =>
    cases wanted with
    | none => exact keeps_run (keeps (.delete destination) ⟨rfl, rfl⟩) isClean
    | some route =>
      by_cases alike : observed.Matches route
      · simp only [KernelAction.plan, if_pos alike]
        exact isClean
      · simp only [KernelAction.plan, if_neg alike]
        exact keeps_run (keeps (.replace route) rfl) isClean

theorem keeps_syncKernel {destination : Prefix} {desired : Option ForwardingRoute}
    (keeps : KernelRequest.Keeps clean destination (desired.map KernelRoute.ofForwarding))
    (isClean : clean state.kernel) :
    clean (state.syncKernel destination desired).2.kernel := by
  have observed : clean (state.run (KernelBackend.observe destination)).2.kernel :=
    keeps_run (keeps (.observe destination) rfl) isClean
  rcases syncKernel_cases destination desired state with
    ⟨error, after, answered, syncs⟩ | ⟨held, after, answered, syncs⟩
  · rw [answered] at observed
    rw [syncs]
    exact observed
  · rw [answered] at observed
    rw [syncs]
    exact keeps_perform keeps held observed

/-- Programming a prefix leaves the kernel as looking at it and acting on it does. -/
theorem kernel_program (destination : Prefix) (desired : Option ForwardingRoute)
    (state : Programmed Kernel) :
    (state.program destination desired).2.kernel =
      (state.syncKernel destination desired).2.kernel := by
  rcases program_cases destination desired state with
    ⟨_, after, answered, programs⟩ | ⟨_, after, answered, programs⟩ <;> rw [programs, answered]

theorem keeps_program {destination : Prefix} {desired : Option ForwardingRoute}
    (keeps : KernelRequest.Keeps clean destination (desired.map KernelRoute.ofForwarding))
    (isClean : clean state.kernel) : clean (state.program destination desired).2.kernel := by
  rw [kernel_program]
  exact keeps_syncKernel keeps isClean

/-- What programming each listed prefix keeps, programming all of them keeps. -/
theorem keeps_syncEach {entries : List (Prefix × Option ForwardingRoute)}
    (keeps : ∀ entry ∈ entries,
      KernelRequest.Keeps clean entry.1 (entry.2.map KernelRoute.ofForwarding))
    (isClean : clean state.kernel) : clean (state.syncEach entries).kernel :=
  List.foldlRecOn (motive := fun next : Programmed Kernel => clean next.kernel) entries _ isClean
    fun _ nextClean entry member => keeps_program (keeps entry member) nextClean

theorem keeps_retryPending
    (keeps : ∀ destination desired, state.sync.pending.find? destination = some desired →
      KernelRequest.Keeps clean destination (desired.map KernelRoute.ofForwarding))
    (isClean : clean state.kernel) : clean state.retryPending.kernel :=
  keeps_syncEach (fun entry member => keeps entry.1 entry.2 (SortedMap.find?_eq_some_iff.2 member))
    isClean

/-- Deltas are applied by requests for the routes that were pending and for those that they lead
to. -/
theorem keeps_apply {delta : Delta}
    (pending : ∀ destination desired, state.sync.pending.find? destination = some desired →
      KernelRequest.Keeps clean destination (desired.map KernelRoute.ofForwarding))
    (own : KernelRequest.Keeps clean delta.destination
      (delta.desired?.map KernelRoute.ofForwarding))
    (isClean : clean state.kernel) : clean (state.apply delta).2.kernel := by
  have retried := keeps_retryPending pending isClean
  rw [apply_eq]
  split
  · exact retried
  · exact keeps_program own retried

end AnyKernel

end Programmed

/-! ### Recording -/

/-- What a kernel was asked for, whether it did it, and the kernel after it. -/
structure Transaction (Kernel : Type) where
  request : KernelRequest
  succeeded : Bool
  after : Kernel

/-- A kernel that records what it is asked for. -/
structure Recorded (Kernel : Type) where
  kernel : Kernel
  record : List (Transaction Kernel)

namespace Recorded

variable {Kernel : Type}

/-- Runs an operation and records it. -/
def transact {Value : Type} (request : KernelRequest)
    (operate : Kernel → Except KernelError Value × Kernel) (recorded : Recorded Kernel) :
    Except KernelError Value × Recorded Kernel :=
  let answer := operate recorded.kernel
  (answer.1,
    { kernel := answer.2
      record := recorded.record ++ [⟨request, answer.1.isOk, answer.2⟩] })

variable [KernelBackend Kernel]

instance : KernelBackend (Recorded Kernel) where
  default := ⟨default, []⟩
  observe destination := transact (.observe destination) (KernelBackend.observe destination)
  install route := transact (.install route) (KernelBackend.install route)
  replace route := transact (.replace route) (KernelBackend.replace route)
  delete destination := transact (.delete destination) (KernelBackend.delete destination)
  routes recorded := KernelBackend.routes recorded.kernel

theorem after_eq (request : KernelRequest) (recorded : Recorded Kernel) :
    request.after recorded =
      ⟨request.after recorded.kernel, recorded.record ++
        [⟨request, request.succeeds recorded.kernel, request.after recorded.kernel⟩]⟩ := by
  cases request <;> rfl

end Recorded

/-! ### Recording changes nothing -/

namespace Programmed

variable {Kernel : Type}

/-- The state without the record of its kernel. -/
def unrecorded (state : Programmed (Recorded Kernel)) : Programmed Kernel :=
  ⟨state.sync, state.kernel.kernel⟩

/-- The state with a record that starts. -/
def recording (state : Programmed Kernel) : Programmed (Recorded Kernel) :=
  ⟨state.sync, state.kernel, []⟩

/-- An answer without the record. -/
def forget {Value : Type} (answer : Value × Programmed (Recorded Kernel)) :
    Value × Programmed Kernel :=
  (answer.1, answer.2.unrecorded)

theorem attempt_transact {Value : Type} (request : KernelRequest)
    (operate : Kernel → Except KernelError Value × Kernel) (further : Nat)
    (recorded : Recorded Kernel) :
    let attempted := attempt (Recorded.transact request operate) further recorded
    (⟨attempted.result, attempted.kernel.kernel, attempted.retries⟩ : Attempted Kernel Value) =
      attempt operate further recorded.kernel := by
  induction further generalizing recorded with
  | zero => rfl
  | succ further inductionHypothesis =>
    simp only [attempt, Recorded.transact]
    obtain ⟨result, after⟩ := operate recorded.kernel
    cases result with
    | ok value => rfl
    | error error =>
      dsimp only
      split
      · exact congrArg (fun later : Attempted Kernel Value =>
          { later with retries := later.retries + 1 }) (inductionHypothesis _)
      · rfl

theorem forget_run {Value : Type} (request : KernelRequest)
    (operate : Kernel → Except KernelError Value × Kernel) (state : Programmed (Recorded Kernel)) :
    forget (state.run (Recorded.transact request operate)) = state.unrecorded.run operate := by
  unfold run
  dsimp only [unrecorded]
  rw [← attempt_transact request]
  rfl

variable [KernelBackend Kernel]

theorem forget_perform (action : KernelAction) (state : Programmed (Recorded Kernel)) :
    forget (state.perform action) = state.unrecorded.perform action := by
  cases action with
  | nothing => rfl
  | install route => exact forget_run _ _ state
  | replace route => exact forget_run _ _ state
  | delete destination => exact forget_run _ _ state

theorem forget_syncKernel (destination : Prefix) (desired : Option ForwardingRoute)
    (state : Programmed (Recorded Kernel)) :
    forget (state.syncKernel destination desired) =
      state.unrecorded.syncKernel destination desired := by
  have observed : forget (state.run (KernelBackend.observe destination)) =
      state.unrecorded.run (KernelBackend.observe destination) := forget_run _ _ state
  unfold syncKernel
  rw [← observed]
  obtain ⟨result, after⟩ := state.run (KernelBackend.observe destination)
  cases result with
  | error error => rfl
  | ok held =>
    have performed := forget_perform
      (.plan destination held (desired.map KernelRoute.ofForwarding)) after
    simp only [forget]
    rw [← performed]
    obtain ⟨done, last⟩ := after.perform
      (.plan destination held (desired.map KernelRoute.ofForwarding))
    cases done <;> rfl

theorem forget_program (destination : Prefix) (desired : Option ForwardingRoute)
    (state : Programmed (Recorded Kernel)) :
    forget (state.program destination desired) =
      state.unrecorded.program destination desired := by
  have synced := forget_syncKernel destination desired state
  unfold program
  rw [← synced]
  obtain ⟨result, after⟩ := state.syncKernel destination desired
  cases result <;> rfl

theorem unrecorded_syncEach (entries : List (Prefix × Option ForwardingRoute))
    (state : Programmed (Recorded Kernel)) :
    (state.syncEach entries).unrecorded = state.unrecorded.syncEach entries := by
  induction entries generalizing state with
  | nil => rfl
  | cons entry rest inductionHypothesis =>
    have first := congrArg Prod.snd (forget_program entry.1 entry.2 state)
    refine (inductionHypothesis (state.program entry.1 entry.2).2).trans ?_
    exact congrArg (fun next : Programmed Kernel => next.syncEach rest) first

/-- Deltas are applied, and answered, as they are without the record. -/
theorem forget_apply (delta : Delta) (state : Programmed (Recorded Kernel)) :
    forget (state.apply delta) = state.unrecorded.apply delta := by
  have retried : state.retryPending.unrecorded = state.unrecorded.retryPending :=
    unrecorded_syncEach _ state.cleared
  rw [apply_eq, apply_eq, ← retried]
  cases delta.isUnchanged with
  | true => rfl
  | false => exact forget_program _ _ (state.retryPending.supersede delta.destination)

end Programmed

end ControlPlane
