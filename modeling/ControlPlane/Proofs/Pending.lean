/-
This file proves that a synchronizer always knows the selected routes, over any
kernel. A prefix that is pending is to get its selected route, and any other
prefix has it in the forwarding table. Programming a prefix makes this true of
the prefix whether the kernel takes the route or refuses it, and retrying never
brings an older route back, since what is pending for a prefix is dropped when a
newer route of it is programmed.
-/

import ControlPlane.Proofs.Synchronizer

namespace ControlPlane

namespace Synchronizer

/-- The synchronizer knows the wanted route of a prefix: it is pending or in the forwarding
table. -/
structure TracksAt (sync : Synchronizer) (wanted : RouteMap) (destination : Prefix) : Prop where
  pending_eq : ∀ desired, sync.pending.find? destination = some desired →
    desired = wanted destination
  fib_eq : sync.pending.find? destination = none →
    sync.fib.find? destination = wanted destination

/-- The synchronizer knows the wanted routes of all prefixes. -/
def Tracks (sync : Synchronizer) (wanted : RouteMap) : Prop :=
  ∀ destination, sync.TracksAt wanted destination

theorem tracks_create (vrf : UInt32) (netns : String) (attempts : Nat) {wanted : RouteMap}
    (nothing : ∀ destination, wanted destination = none) :
    (create vrf netns attempts).Tracks wanted :=
  fun destination => ⟨fun _ found => (nomatch found), fun _ => (nothing destination).symm⟩

variable {sync after : Synchronizer} {wanted : RouteMap} {destination : Prefix}
  {desired : Option ForwardingRoute}

/-- The kernel took the wanted route of a prefix. -/
theorem tracksAt_accepted (same : sync.SameTables after) (isWanted : desired = wanted destination)
    (addressed : Addressed destination desired) (outcome : SyncOutcome) {listed : Prefix}
    (known : destination = listed ∨ sync.TracksAt wanted listed) :
    (after.accepted destination desired outcome).TracksAt wanted listed := by
  have pending : (after.accepted destination desired outcome).pending.find? listed =
      if destination = listed then none else sync.pending.find? listed := by
    rw [accepted, SortedMap.find?_erase, same.pending_eq]
  have fib : (after.accepted destination desired outcome).fib.find? listed =
      if destination = listed then desired else sync.fib.find? listed := by
    rw [accepted, find?_updateFib addressed, same.fib_eq]
  by_cases here : destination = listed
  · rw [if_pos here] at pending fib
    refine ⟨fun _ found => ?_, fun _ => ?_⟩
    · rw [pending] at found
      cases found
    · rw [fib, isWanted, here]
  · rw [if_neg here] at pending fib
    have before := known.resolve_left here
    exact ⟨by rw [pending]; exact before.pending_eq, by rw [pending, fib]; exact before.fib_eq⟩

/-- The kernel refused the wanted route of a prefix. -/
theorem tracksAt_postponed (same : sync.SameTables after) (isWanted : desired = wanted destination)
    {listed : Prefix} (known : destination = listed ∨ sync.TracksAt wanted listed) :
    (after.postponed destination desired).TracksAt wanted listed := by
  have pending : (after.postponed destination desired).pending.find? listed =
      if destination = listed then some desired else sync.pending.find? listed := by
    rw [postponed, SortedMap.find?_insert, same.pending_eq]
  have fib : (after.postponed destination desired).fib.find? listed = sync.fib.find? listed := by
    rw [postponed, same.fib_eq]
  by_cases here : destination = listed
  · rw [if_pos here] at pending
    refine ⟨fun found isFound => ?_, fun absent => ?_⟩
    · rw [pending] at isFound
      rw [← Option.some.inj isFound, isWanted, here]
    · rw [pending] at absent
      cases absent
  · rw [if_neg here] at pending
    have before := known.resolve_left here
    exact ⟨by rw [pending]; exact before.pending_eq, by rw [pending, fib]; exact before.fib_eq⟩

end Synchronizer

namespace Programmed

open Synchronizer

variable {Kernel : Type} [KernelBackend Kernel] {wanted : RouteMap}

/-! ### One prefix after the other -/

/-- After its wanted route was programmed, a prefix is known, and so are those known before. -/
theorem tracksAt_program {destination : Prefix} {desired : Option ForwardingRoute}
    (isWanted : desired = wanted destination) (addressed : Addressed destination desired)
    (state : Programmed Kernel) {listed : Prefix}
    (known : destination = listed ∨ state.sync.TracksAt wanted listed) :
    (state.program destination desired).2.sync.TracksAt wanted listed := by
  have same := sameTables_syncKernel destination desired state
  rcases program_cases destination desired state with
    ⟨outcome, after, answered, programs⟩ | ⟨error, after, answered, programs⟩
  · rw [answered] at same
    rw [programs]
    exact tracksAt_accepted same isWanted addressed outcome known
  · rw [answered] at same
    rw [programs]
    exact tracksAt_postponed same isWanted known

theorem tracksAt_syncEach {entries : List (Prefix × Option ForwardingRoute)}
    (areWanted : ∀ entry ∈ entries, entry.2 = wanted entry.1)
    (addressed : ∀ destination, Addressed destination (wanted destination))
    (state : Programmed Kernel) {listed : Prefix}
    (known : (∃ entry ∈ entries, entry.1 = listed) ∨ state.sync.TracksAt wanted listed) :
    (state.syncEach entries).sync.TracksAt wanted listed := by
  induction entries generalizing state with
  | nil =>
    rcases known with ⟨_, member, _⟩ | known
    · cases member
    · exact known
  | cons entry rest inductionHypothesis =>
    have isWanted := areWanted entry List.mem_cons_self
    have entryAddressed : Addressed entry.1 entry.2 := isWanted ▸ addressed entry.1
    refine inductionHypothesis (fun later member => areWanted later (List.mem_cons_of_mem _ member))
      (state.program entry.1 entry.2).2 ?_
    rcases known with ⟨found, member, here⟩ | known
    · rcases List.mem_cons.1 member with rfl | inRest
      · exact Or.inr (tracksAt_program isWanted entryAddressed state (Or.inl here))
      · exact Or.inl ⟨found, inRest, here⟩
    · exact Or.inr (tracksAt_program isWanted entryAddressed state (Or.inr known))

/-! ### Deltas -/

variable (addressed : ∀ destination, Addressed destination (wanted destination))

include addressed

/-- Trying the pending prefixes again keeps what is known. -/
theorem tracks_retryPending {state : Programmed Kernel} (tracks : state.sync.Tracks wanted) :
    state.retryPending.sync.Tracks wanted := by
  intro listed
  have areWanted : ∀ entry ∈ state.sync.pending.entries, entry.2 = wanted entry.1 :=
    fun entry member => (tracks entry.1).pending_eq entry.2 (SortedMap.find?_eq_some_iff.2 member)
  refine tracksAt_syncEach areWanted addressed state.cleared ?_
  cases pending : state.sync.pending.find? listed with
  | none => exact Or.inr ⟨fun _ found => (nomatch found), fun _ => (tracks listed).fib_eq pending⟩
  | some desired => exact Or.inl ⟨_, SortedMap.find?_eq_some_iff.1 pending, rfl⟩

/-- After a delta the synchronizer knows the routes that the delta leads to. -/
theorem tracks_apply {delta : Delta} {changed : RouteMap} (carries : delta.Carries wanted changed)
    {state : Programmed Kernel} (tracks : state.sync.Tracks wanted) :
    (state.apply delta).2.sync.Tracks changed := by
  have retried := tracks_retryPending addressed tracks
  rw [apply_eq]
  split
  next isUnchanged => rwa [carries.eq_of_isUnchanged isUnchanged]
  next changes =>
    intro listed
    refine tracksAt_program (carries.desired?_eq changes) delta.addressed_desired? _ ?_
    -- what was pending for the prefix of the delta is superseded, and so is not known
    by_cases here : delta.destination = listed
    · exact Or.inl here
    · have pending : (state.retryPending.supersede delta.destination).sync.pending.find? listed =
          state.retryPending.sync.pending.find? listed := by
        rw [supersede, SortedMap.find?_erase, if_neg here]
      have sameRoute := carries.others listed here
      refine Or.inr ⟨?_, ?_⟩
      · rw [pending, sameRoute]
        exact (retried listed).pending_eq
      · rw [pending, sameRoute]
        exact (retried listed).fib_eq

omit addressed in
/-- After some deltas the synchronizer knows the routes that they lead to. -/
theorem tracks_applyAll {deltas : List Delta} {before after : RouteMap}
    (carryAll : Delta.CarryAll deltas before after)
    (addressed : ∀ destination, Addressed destination (before destination))
    {state : Programmed Kernel} (tracks : state.sync.Tracks before) :
    (state.applyAll deltas).2.sync.Tracks after := by
  induction deltas generalizing before state with
  | nil =>
    have same : after = before := carryAll
    rwa [same]
  | cons delta rest inductionHypothesis =>
    obtain ⟨middle, carries, restCarries⟩ := carryAll
    rw [snd_applyAll_cons]
    have first := tracks_apply addressed carries tracks
    exact inductionHypothesis restCarries (carries.addressed addressed) first

end Programmed

end ControlPlane
