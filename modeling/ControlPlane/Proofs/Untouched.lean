/-
This file follows a recorded kernel in memory from the time when a synchronizer
starts to work on it. To program a prefix either makes the kernel and the
forwarding table agree on it, or changes nothing at all about it: a request that
fails leaves the routes alone, and the forwarding table waits for the kernel. So
the kernel has what is forwarded for every prefix but those that the synchronizer
never touched, whatever faults are injected. On these nothing is forwarded, and
the kernel still has the route that was there at first.
-/

import ControlPlane.Proofs.InPlace

namespace ControlPlane

namespace Recorded

/-! ### What is left alone -/

/-- The route of a prefix is still the one that the earlier kernel had, and no request since then
changed it. -/
structure Untouched (destination : Prefix) (before after : Recorded DisturbedKernel) : Prop where
  route_eq : after.kernel.memory.routes.find? destination =
    before.kernel.memory.routes.find? destination
  changes_eq : after.changesOf destination = before.changesOf destination

variable {destination : Prefix} {first recorded : Recorded DisturbedKernel}

theorem Untouched.refl (recorded : Recorded DisturbedKernel) :
    recorded.Untouched destination recorded :=
  ⟨rfl, rfl⟩

theorem Untouched.trans {second third : Recorded DisturbedKernel}
    (left : Untouched destination first second) (right : Untouched destination second third) :
    Untouched destination first third :=
  ⟨right.route_eq.trans left.route_eq, right.changes_eq.trans left.changes_eq⟩

/-- Faults are injected now, and others fall due before the next operations. -/
def disturb (injections : List Injection) (upcoming : List (List Injection))
    (recorded : Recorded DisturbedKernel) : Recorded DisturbedKernel :=
  { recorded with
    kernel :=
      { recorded.kernel with
        memory := recorded.kernel.memory.injectAll injections
        upcoming } }

/-- Faults change no routes. -/
theorem untouched_disturb (injections : List Injection) (upcoming : List (List Injection))
    (recorded : Recorded DisturbedKernel) :
    recorded.Untouched destination (recorded.disturb injections upcoming) :=
  ⟨congrArg (SortedMap.find? · destination) (recorded.kernel.memory.routes_injectAll injections),
    rfl⟩

/-! ### Requests that change nothing -/

/-- A request that fails, or that is about another prefix, is no change of a prefix. -/
theorem changesOf_transact_of_idle {Value : Type} {request : KernelRequest}
    {operate : DisturbedKernel → Except KernelError Value × DisturbedKernel}
    (idle : (operate recorded.kernel).1.isOk = false ∨ request.changed? ≠ some destination) :
    (transact request operate recorded).2.changesOf destination =
      recorded.changesOf destination := by
  rw [changesOf_transact, if_neg, List.append_nil]
  rintro ⟨succeeded, changes⟩
  rcases idle with failed | elsewhere
  · rw [failed] at succeeded
    cases succeeded
  · exact elsewhere changes

/-- An operation that fails was no change of any prefix. -/
theorem answersOr_transact {Value : Type} (request : KernelRequest)
    (operate : DisturbedKernel → Except KernelError Value × DisturbedKernel)
    {changes : List KernelRequest} (same : recorded.changesOf destination = changes) :
    AnswersOr (fun _ _ => True) (fun after => after.changesOf destination = changes)
      (transact request operate recorded) := by
  refine answersOr_of (fun _ _ => trivial) fun error answered => ?_
  refine (changesOf_transact_of_idle (.inl ?_)).trans same
  exact congrArg Except.isOk answered

end Recorded

/-! ### Programming -/

namespace Programmed

open Synchronizer Recorded

variable {state : Programmed (Recorded DisturbedKernel)} {destination listed : Prefix}
  {desired : Option ForwardingRoute} {changes : List KernelRequest}

theorem answersOr_perform (action : KernelAction)
    (same : state.kernel.changesOf listed = changes) :
    AnswersOr (fun _ _ => True) (fun after => after.changesOf listed = changes)
      ((state.perform action).1, (state.perform action).2.kernel) := by
  cases action with
  | nothing => trivial
  | install route =>
    exact answersOr_run
      (fun _ => answersOr_transact (.install route) (KernelBackend.install route)) same
  | replace route =>
    exact answersOr_run
      (fun _ => answersOr_transact (.replace route) (KernelBackend.replace route)) same
  | delete destination =>
    exact answersOr_run
      (fun _ => answersOr_transact (.delete destination) (KernelBackend.delete destination)) same

/-- Where the kernel does not take the route of a prefix, no request changed any prefix. -/
theorem changesOf_syncKernel_of_error {error : KernelError}
    (failed : (state.syncKernel destination desired).1 = .error error) :
    (state.syncKernel destination desired).2.kernel.changesOf listed =
      state.kernel.changesOf listed := by
  have looks (kernel : Recorded DisturbedKernel)
      (same : kernel.changesOf listed = state.kernel.changesOf listed) :
      (KernelBackend.observe destination kernel).2.changesOf listed =
        state.kernel.changesOf listed := by
    have elsewhere : (KernelRequest.observe destination).changed? ≠ some listed := nofun
    exact (changesOf_transact_of_idle (.inr elsewhere)).trans same
  have observed := keeps_run looks rfl
  rcases syncKernel_cases destination desired state with
    ⟨_, after, answered, syncs⟩ | ⟨held, after, answered, syncs⟩
  · rw [answered] at observed
    rw [syncs]
    exact observed
  · rw [answered] at observed
    have performed := answersOr_perform
      (.plan destination held (desired.map KernelRoute.ofForwarding)) observed
    rw [syncs] at failed ⊢
    cases done : (after.perform
        (.plan destination held (desired.map KernelRoute.ofForwarding))).1 with
    | error _ =>
      rw [done] at performed
      exact performed
    | ok _ =>
      rw [done] at failed
      cases failed

/-- No request by which a prefix is programmed changes another one. -/
theorem changesOf_program_of_ne (addressed : Addressed destination desired)
    (elsewhere : destination ≠ listed) :
    (state.program destination desired).2.kernel.changesOf listed =
      state.kernel.changesOf listed := by
  have keeps : KernelRequest.Keeps
      (fun kernel : Recorded DisturbedKernel =>
        kernel.changesOf listed = state.kernel.changesOf listed)
      destination (desired.map KernelRoute.ofForwarding) := by
    intro request serves kernel same
    refine (changesOf_after_of_ne ?_).trans same
    rcases serves.changed?_eq (addressed_ofForwarding addressed) with nothing | other
    · rw [nothing]
      nofun
    · rw [other]
      exact fun same => elsewhere (Option.some.inj same)
  exact keeps_program keeps rfl

/-- What a programming that fails leaves as it was. -/
theorem untouched_program_of_error {error : KernelError}
    (addressed : Addressed destination desired)
    (failed : (state.syncKernel destination desired).1 = .error error) :
    (state.program destination desired).2.sync.fib.find? listed = state.sync.fib.find? listed ∧
      state.kernel.Untouched listed (state.program destination desired).2.kernel := by
  have same := sameTables_syncKernel destination desired state
  have sameChanges : (state.syncKernel destination desired).2.kernel.changesOf listed =
      state.kernel.changesOf listed := changesOf_syncKernel_of_error failed
  have synced := forget_syncKernel destination desired state
  have answers := answers_syncKernel addressed state.unrecorded
  rw [← synced] at answers
  have sameRoutes := answers.routes_eq error failed
  rcases program_cases destination desired state with
    ⟨_, after, answered, _⟩ | ⟨_, after, answered, programs⟩
  · rw [answered] at failed
    cases failed
  · rw [answered] at same sameChanges sameRoutes
    rw [programs]
    exact ⟨congrArg (Fib.find? · listed) same.fib_eq,
      congrArg (SortedMap.find? · listed) sameRoutes, sameChanges⟩

/-- After a prefix was programmed, the kernel and the forwarding table agree on it, or nothing
changed about it. About any other prefix nothing changed. -/
theorem agreesAt_or_untouched_program (addressed : Addressed destination desired)
    (listed : Prefix) :
    (state.program destination desired).2.unrecorded.AgreesAt listed ∨
      (state.program destination desired).2.sync.fib.find? listed = state.sync.fib.find? listed ∧
        state.kernel.Untouched listed (state.program destination desired).2.kernel := by
  have unrecorded : (state.program destination desired).2.unrecorded =
      (state.unrecorded.program destination desired).2 :=
    congrArg Prod.snd (forget_program destination desired state)
  by_cases here : destination = listed
  · subst here
    rcases program_cases destination desired state with
      ⟨outcome, after, answered, programs⟩ | ⟨error, after, answered, programs⟩
    · have sameResult : (state.program destination desired).1 =
          (state.unrecorded.program destination desired).1 :=
        congrArg Prod.fst (forget_program destination desired state)
      have succeeds : (Programming.mk state.unrecorded destination desired).Succeeds :=
        ⟨outcome, sameResult.symm.trans (congrArg Prod.fst programs)⟩
      have hasAt := hasAt_program addressed succeeds
      rw [unrecorded, AgreesAt, hasAt.fib_eq]
      exact .inl hasAt.realizes
    · exact .inr (untouched_program_of_error addressed (congrArg Prod.fst answered))
  · have same : SameAt state.unrecorded (state.unrecorded.program destination desired).2 listed :=
      sameAt_program addressed here
    rw [← unrecorded] at same
    exact .inr ⟨same.fib_eq, same.kernel_eq, changesOf_program_of_ne addressed here⟩

/-! ### Since a synchronizer started -/

/-- For every prefix the kernel has what is forwarded, or nothing is forwarded and the prefix was
not touched since the first kernel. -/
structure AgreesSince (first : Recorded DisturbedKernel)
    (state : Programmed (Recorded DisturbedKernel)) : Prop where
  addressed : PendingAddressed state.sync.pending
  agrees : ∀ destination, state.unrecorded.AgreesAt destination ∨
    state.sync.fib.find? destination = none ∧ first.Untouched destination state.kernel

namespace AgreesSince

variable {first : Recorded DisturbedKernel}

theorem create (vrf : UInt32) (netns : String) (attempts : Nat)
    (first : Recorded DisturbedKernel) :
    AgreesSince first ⟨Synchronizer.create vrf netns attempts, first⟩ where
  addressed _ _ found := nomatch found
  agrees _ := .inr ⟨rfl, .refl first⟩

/-- Where nothing changed, what held before holds again. -/
theorem at_of_untouched (agrees : state.AgreesSince first)
    {after : Programmed (Recorded DisturbedKernel)}
    (sameFib : after.sync.fib.find? listed = state.sync.fib.find? listed)
    (untouched : state.kernel.Untouched listed after.kernel) :
    after.unrecorded.AgreesAt listed ∨
      after.sync.fib.find? listed = none ∧ first.Untouched listed after.kernel := by
  rcases agrees.agrees listed with agreesAt | ⟨forwardsNone, untouchedBefore⟩
  · left
    have sameRoute : after.unrecorded.kernel.memory.routes.find? listed =
        state.unrecorded.kernel.memory.routes.find? listed := untouched.route_eq
    have sameForwarding : after.unrecorded.sync.fib.find? listed =
        state.unrecorded.sync.fib.find? listed := sameFib
    rw [AgreesAt, sameRoute, sameForwarding]
    exact agreesAt
  · exact .inr ⟨sameFib.trans forwardsNone, untouchedBefore.trans untouched⟩

theorem program (agrees : state.AgreesSince first) (addressed : Addressed destination desired) :
    (state.program destination desired).2.AgreesSince first where
  addressed := by
    have same := sameTables_syncKernel destination desired state
    rcases program_cases destination desired state with
      ⟨_, after, answered, programs⟩ | ⟨_, after, answered, programs⟩
    · rw [answered] at same
      rw [programs]
      exact pendingAddressed_erase (same.pending_eq ▸ agrees.addressed) destination
    · rw [answered] at same
      rw [programs]
      exact pendingAddressed_insert (same.pending_eq ▸ agrees.addressed) addressed
  agrees listed := by
    rcases agreesAt_or_untouched_program addressed listed with agreesAt | ⟨sameFib, untouched⟩
    · exact .inl agreesAt
    · exact agrees.at_of_untouched sameFib untouched

theorem retryPending (agrees : state.AgreesSince first) : state.retryPending.AgreesSince first := by
  have noneAddressed : PendingAddressed state.cleared.sync.pending := fun _ _ found => nomatch found
  have cleared : state.cleared.AgreesSince first := ⟨noneAddressed, agrees.agrees⟩
  exact List.foldlRecOn (motive := AgreesSince first) state.sync.pending.entries _ cleared
    fun _ nextAgrees entry member =>
      nextAgrees.program (allAddressed_entries agrees.addressed entry member)

theorem apply (agrees : state.AgreesSince first) (delta : Delta) :
    (state.apply delta).2.AgreesSince first := by
  have retried := agrees.retryPending
  rw [apply_eq]
  split
  · exact retried
  · have superseded : (state.retryPending.supersede delta.destination).AgreesSince first :=
      ⟨pendingAddressed_erase retried.addressed delta.destination, retried.agrees⟩
    exact superseded.program delta.addressed_desired?

theorem applyAll (agrees : state.AgreesSince first) (deltas : List Delta) :
    (state.applyAll deltas).2.AgreesSince first :=
  keeps_applyAll (AgreesSince first) (fun delta _ _ agrees => agrees.apply delta) agrees

/-- Faults are no change. -/
theorem disturb (agrees : state.AgreesSince first) (injections : List Injection)
    (upcoming : List (List Injection)) :
    AgreesSince first ⟨state.sync, state.kernel.disturb injections upcoming⟩ where
  addressed := agrees.addressed
  agrees _ := agrees.at_of_untouched rfl (untouched_disturb injections upcoming _)

end AgreesSince

end Programmed

end ControlPlane
