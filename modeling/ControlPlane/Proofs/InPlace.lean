/-
This file follows the kernel while a delta is applied that leads to a route of a
prefix for which the kernel already holds one. Unless a removal of the prefix is
pending, its deletion is never asked for, and the kernel holds a route for it all
the time. If nothing else is pending for the prefix, its route is replaced at most
once, and not at all if it is the right one. A removal that is pending is tried
again before the delta supersedes it, and then the route is deleted and installed
anew.
-/

import ControlPlane.Proofs.Record
import ControlPlane.Proofs.Resync

namespace ControlPlane

/-! ### One request -/

/-- A request leaves the routes of a kernel in memory alone, writes its route or deletes that of
its prefix. -/
theorem MemoryKernel.routes_after (request : KernelRequest) (kernel : MemoryKernel) :
    (request.after kernel).routes = kernel.routes ∨
      (∃ route, request.written? = some route ∧
        (request.after kernel).routes = kernel.routes.insert route.destination route) ∨
      ∃ destination, request = .delete destination ∧
        (request.after kernel).routes = kernel.routes.erase destination := by
  cases request with
  | observe destination =>
    left
    rcases (kernel.answers_observe destination).routes_cases with same | ⟨_, same, _⟩
    · exact same
    · exact same
  | install route =>
    cases found : kernel.routes.find? route.destination with
    | none =>
      rcases (answers_install found).routes_cases with same | ⟨_, installed⟩
      · exact .inl same
      · exact .inr (.inl ⟨route, rfl, installed⟩)
    | some held => exact .inl (routes_install_of_some found)
  | replace route =>
    rcases (kernel.answers_replace route).routes_cases with same | ⟨_, replaced⟩
    · exact .inl same
    · exact .inr (.inl ⟨route, rfl, replaced⟩)
  | delete destination =>
    cases found : kernel.routes.find? destination with
    | none => exact .inl (routes_delete_of_none found)
    | some held =>
      rcases (answers_delete found).routes_cases with same | ⟨_, deleted⟩
      · exact .inl same
      · exact .inr (.inr ⟨destination, rfl, deleted⟩)

namespace DisturbedKernel

/-- The kernel holds the route for the prefix. -/
def HoldsAt (kernel : DisturbedKernel) (destination : Prefix) (route : KernelRoute) : Prop :=
  kernel.memory.routes.find? destination = some route

/-- Before a request is run, faults are injected. -/
theorem memory_after (request : KernelRequest) (kernel : DisturbedKernel) :
    (request.after kernel).memory =
      request.after (kernel.memory.injectAll (kernel.upcoming.headD [])) := by
  cases request <;> rfl

theorem routes_after (request : KernelRequest) (kernel : DisturbedKernel) :
    (request.after kernel).memory.routes = kernel.memory.routes ∨
      (∃ route, request.written? = some route ∧
        (request.after kernel).memory.routes =
          kernel.memory.routes.insert route.destination route) ∨
      ∃ destination, request = .delete destination ∧
        (request.after kernel).memory.routes = kernel.memory.routes.erase destination := by
  have routes := MemoryKernel.routes_after request
    (kernel.memory.injectAll (kernel.upcoming.headD []))
  rwa [← memory_after, MemoryKernel.routes_injectAll] at routes

variable {request : KernelRequest} {destination : Prefix} {kernel : DisturbedKernel}

/-- A request for another prefix leaves the route of a prefix as it was. -/
theorem find?_after (elsewhere : request.changed? ≠ some destination) :
    (request.after kernel).memory.routes.find? destination =
      kernel.memory.routes.find? destination := by
  rcases kernel.routes_after request with same | ⟨route, writes, same⟩ | ⟨asked, rfl, same⟩
  · rw [same]
  · have different : route.destination ≠ destination := by
      rintro rfl
      cases request <;> cases writes <;> exact elsewhere rfl
    rw [same, SortedMap.find?_insert, if_neg different]
  · have different : asked ≠ destination := fun here => elsewhere (congrArg some here)
    rw [same, SortedMap.find?_erase, if_neg different]

/-- Whatever is asked for but its deletion, a prefix keeps a route. -/
theorem exists_holdsAt_after (kept : request ≠ .delete destination)
    (held : ∃ route, kernel.HoldsAt destination route) :
    ∃ route, (request.after kernel).HoldsAt destination route := by
  by_cases elsewhere : request.changed? = some destination
  · rcases kernel.routes_after request with same | ⟨route, writes, same⟩ | ⟨asked, rfl, same⟩
    · simp only [HoldsAt, same]
      exact held
    · have here : route.destination = destination := by
        cases request <;> cases writes <;> exact Option.some.inj elsewhere
      refine ⟨route, ?_⟩
      rw [HoldsAt, same, SortedMap.find?_insert, if_pos here]
    · exact absurd (congrArg KernelRequest.delete (Option.some.inj elsewhere)) kept
  · simp only [HoldsAt, find?_after elsewhere]
    exact held

end DisturbedKernel

/-! ### What is recorded of a prefix -/

namespace Recorded

/-- The prefix has a route now, it had one after all that is recorded, and its deletion was never
asked for. -/
structure IsCovered (destination : Prefix) (recorded : Recorded DisturbedKernel) : Prop where
  now : ∃ route, recorded.kernel.HoldsAt destination route
  always : ∀ transaction ∈ recorded.record,
    transaction.request ≠ .delete destination ∧
      ∃ route, transaction.after.HoldsAt destination route

/-- The requests that changed the route of a prefix. -/
def changesOf (destination : Prefix) (recorded : Recorded DisturbedKernel) : List KernelRequest :=
  (recorded.record.filter fun transaction =>
    transaction.succeeded ∧ transaction.request.changed? = some destination).map (·.request)

/-- The prefix still has the route that was held, or this was replaced once, because it was not the
wanted one. -/
def IsInPlace (held wanted : KernelRoute) (destination : Prefix)
    (recorded : Recorded DisturbedKernel) : Prop :=
  (recorded.kernel.HoldsAt destination held ∧ recorded.changesOf destination = []) ∨
    (recorded.kernel.HoldsAt destination wanted ∧ ¬ held.Matches wanted ∧
      recorded.changesOf destination = [.replace wanted])

variable {destination : Prefix} {recorded : Recorded DisturbedKernel}

/-- The other prefixes are left alone, and a route that the prefix should have is no reason to
delete the one it has. -/
theorem keeps_isCovered {asked : Prefix} {wanted : Option KernelRoute}
    (allowed : asked = destination → wanted ≠ none) :
    KernelRequest.Keeps (IsCovered destination) asked wanted := by
  intro request serves recorded isCovered
  have kept : request ≠ .delete destination := by
    rintro rfl
    exact allowed serves.1.symm serves.2
  have later := DisturbedKernel.exists_holdsAt_after kept isCovered.now
  rw [after_eq]
  refine ⟨later, List.forall_mem_append.2 ⟨isCovered.always, ?_⟩⟩
  exact List.forall_mem_singleton.2 ⟨kept, later⟩

/-- A request is recorded as a change of the prefix if it changed it. -/
theorem changesOf_transact {Value : Type} (request : KernelRequest)
    (operate : DisturbedKernel → Except KernelError Value × DisturbedKernel)
    (destination : Prefix) (recorded : Recorded DisturbedKernel) :
    (transact request operate recorded).2.changesOf destination =
      recorded.changesOf destination ++
        if (operate recorded.kernel).1.isOk ∧ request.changed? = some destination then [request]
        else [] := by
  rw [changesOf, transact, List.filter_append, List.map_append, List.filter_cons]
  by_cases changed : (operate recorded.kernel).1.isOk ∧ request.changed? = some destination
  · rw [if_pos changed, if_pos (decide_eq_true changed)]
    rfl
  · rw [if_neg changed, if_neg fun isChange => changed (of_decide_eq_true isChange)]
    rfl

theorem changesOf_after (destination : Prefix) (recorded : Recorded DisturbedKernel)
    (request : KernelRequest) :
    (request.after recorded).changesOf destination =
      recorded.changesOf destination ++
        if request.succeeds recorded.kernel ∧ request.changed? = some destination then [request]
        else [] := by
  cases request <;> exact changesOf_transact _ _ destination recorded

theorem changesOf_after_of_ne {request : KernelRequest}
    (elsewhere : request.changed? ≠ some destination) :
    (request.after recorded).changesOf destination = recorded.changesOf destination := by
  rw [changesOf_after, if_neg fun both => elsewhere both.2, List.append_nil]

/-- A request for another prefix changes nothing about the prefix. -/
theorem isInPlace_after_of_ne {held wanted : KernelRoute} {request : KernelRequest}
    (elsewhere : request.changed? ≠ some destination)
    (isInPlace : recorded.IsInPlace held wanted destination) :
    (request.after recorded).IsInPlace held wanted destination := by
  have sameRoute : (request.after recorded).kernel.memory.routes.find? destination =
      recorded.kernel.memory.routes.find? destination := by
    rw [after_eq]
    exact DisturbedKernel.find?_after elsewhere
  simp only [IsInPlace, changesOf_after_of_ne elsewhere, DisturbedKernel.HoldsAt, sameRoute]
  exact isInPlace

theorem keeps_isInPlace {held wanted : KernelRoute} {asked : Prefix}
    {others : Option KernelRoute}
    (addressed : ∀ route, others = some route → route.destination = asked)
    (different : asked ≠ destination) :
    KernelRequest.Keeps (IsInPlace held wanted destination) asked others := by
  intro request serves recorded isInPlace
  refine isInPlace_after_of_ne ?_ isInPlace
  rcases serves.changed?_eq addressed with nothing | other
  · rw [nothing]
    nofun
  · rw [other]
    exact fun same => different (Option.some.inj same)

/-- Looking at the route of the prefix changes nothing, and it is seen as it is. -/
theorem answersOr_observe {held wanted : KernelRoute}
    (isInPlace : recorded.IsInPlace held wanted destination) :
    AnswersOr
      (fun seen after => after.IsInPlace held wanted destination ∧
        seen = after.kernel.memory.routes.find? destination)
      (IsInPlace held wanted destination) (KernelBackend.observe destination recorded) := by
  have still : ((KernelRequest.observe destination).after recorded).IsInPlace held wanted
      destination := isInPlace_after_of_ne (Option.some_ne_none _).symm isInPlace
  have answers : recorded.kernel.Answers (fun seen routes => seen = routes.find? destination)
      (KernelBackend.observe destination recorded.kernel) := by
    refine DisturbedKernel.answers_call fun memory _ => ?_
    refine (memory.answers_observe destination).imp fun seen routes ⟨same, isSeen⟩ => ?_
    rw [same, isSeen]
  exact answersOr_of (fun seen answered => ⟨still, answers.isGood seen answered⟩) fun _ _ => still

/-- The route that is not the wanted one is replaced by it, or it is still there. -/
theorem answersOr_replace {held wanted : KernelRoute}
    (different : ¬ held.Matches wanted)
    (before : recorded.kernel.HoldsAt wanted.destination held ∧
      recorded.changesOf wanted.destination = []) :
    AnswersOr (fun _ => IsInPlace held wanted wanted.destination)
      (fun after => after.kernel.HoldsAt wanted.destination held ∧
        after.changesOf wanted.destination = []) (KernelBackend.replace wanted recorded) := by
  have answers : recorded.kernel.Answers
      (fun _ routes => routes.find? wanted.destination = some wanted)
      (KernelBackend.replace wanted recorded.kernel) := by
    refine DisturbedKernel.answers_call fun memory _ => ?_
    refine (memory.answers_replace wanted).imp fun _ routes same => ?_
    rw [same, SortedMap.find?_insert, if_pos rfl]
  have changes := changesOf_after wanted.destination recorded (.replace wanted)
  rw [before.2, List.nil_append] at changes
  refine answersOr_of (fun value answered => .inr ⟨answers.isGood value answered, different, ?_⟩)
    fun error answered => ⟨?_, ?_⟩
  · exact changes.trans (if_pos ⟨congrArg Except.isOk answered, rfl⟩)
  · have unchanged := answers.routes_eq error answered
    exact (congrArg (SortedMap.find? · wanted.destination) unchanged).trans before.1
  · refine changes.trans (if_neg fun both => ?_)
    have failed : (KernelRequest.replace wanted).succeeds recorded.kernel = false :=
      congrArg Except.isOk answered
    rw [failed] at both
    cases both.1

end Recorded

/-! ### One delta -/

namespace Programmed

open Synchronizer

variable {state : Programmed (Recorded DisturbedKernel)} {held : KernelRoute}
  {route : ForwardingRoute}

/-- A route that is seen to be the wanted one is left alone, and another one is replaced. -/
theorem isInPlace_perform {seen : Option KernelRoute}
    (isInPlace : state.kernel.IsInPlace held (.ofForwarding route) route.destination)
    (isSeen : seen = state.kernel.kernel.memory.routes.find? route.destination) :
    (state.perform (.plan route.destination seen (some (.ofForwarding route)))).2.kernel.IsInPlace
      held (.ofForwarding route) route.destination := by
  rcases isInPlace with ⟨holdsHeld, unchanged⟩ | ⟨holdsWanted, different, once⟩
  · obtain rfl : seen = some held := isSeen.trans holdsHeld
    by_cases alike : held.Matches (.ofForwarding route)
    · simp only [KernelAction.plan, if_pos alike]
      exact .inl ⟨holdsHeld, unchanged⟩
    · simp only [KernelAction.plan, if_neg alike]
      have replaced := answersOr_run
        (fun _ => Recorded.answersOr_replace alike) ⟨holdsHeld, unchanged⟩
      cases done : (state.run (KernelBackend.replace (KernelRoute.ofForwarding route))).1 with
      | error error =>
        rw [done] at replaced
        exact .inl replaced
      | ok value =>
        rw [done] at replaced
        exact replaced
  · obtain rfl : seen = some (.ofForwarding route) := isSeen.trans holdsWanted
    have alike : (KernelRoute.ofForwarding route).Matches (.ofForwarding route) := .refl _
    simp only [KernelAction.plan, if_pos alike]
    exact .inr ⟨holdsWanted, different, once⟩

/-- To give the prefix the wanted route keeps it in place. -/
theorem isInPlace_program
    (isInPlace : state.kernel.IsInPlace held (.ofForwarding route) route.destination) :
    (state.program route.destination (some route)).2.kernel.IsInPlace held (.ofForwarding route)
      route.destination := by
  have observed := answersOr_run (fun _ => Recorded.answersOr_observe) isInPlace
  rw [kernel_program]
  rcases syncKernel_cases route.destination (some route) state with
    ⟨error, after, answered, syncs⟩ | ⟨seen, after, answered, syncs⟩
  · rw [answered] at observed
    rw [syncs]
    exact observed
  · rw [answered] at observed
    rw [syncs]
    exact isInPlace_perform observed.1 observed.2

/-- Whatever else is pending, the prefix stays in place while the pending prefixes are tried
again. -/
theorem isInPlace_retryPending (addressed : PendingAddressed state.sync.pending)
    (superseded : ∀ desired, state.sync.pending.find? route.destination = some desired →
      desired = some route)
    (isInPlace : state.kernel.IsInPlace held (.ofForwarding route) route.destination) :
    state.retryPending.kernel.IsInPlace held (.ofForwarding route) route.destination := by
  refine List.foldlRecOn (motive := fun next : Programmed (Recorded DisturbedKernel) =>
    next.kernel.IsInPlace held (.ofForwarding route) route.destination)
    state.sync.pending.entries _ isInPlace fun next nextInPlace entry member => ?_
  obtain ⟨destination, desired⟩ := entry
  have found := SortedMap.find?_eq_some_iff.2 member
  by_cases here : destination = route.destination
  · subst here
    rw [superseded desired found]
    exact isInPlace_program nextInPlace
  · have others := addressed_ofForwarding (addressed destination desired found)
    exact keeps_program (Recorded.keeps_isInPlace others here) nextInPlace

/-- A removal of the prefix is the only thing whose retry deletes its route. -/
theorem isCovered_apply {delta : Delta} (leads : delta.desired? = some route)
    (noRemoval : state.sync.pending.find? delta.destination ≠ some none)
    (isCovered : state.kernel.IsCovered delta.destination) :
    (state.apply delta).2.kernel.IsCovered delta.destination := by
  refine keeps_apply (fun destination desired found => ?_) ?_ isCovered
  · refine Recorded.keeps_isCovered fun here removed => noRemoval ?_
    rw [← here, found, Option.map_eq_none_iff.1 removed]
  · refine Recorded.keeps_isCovered fun _ removed => ?_
    rw [leads] at removed
    cases removed

theorem isInPlace_apply {delta : Delta} (leads : delta.desired? = some route)
    (addressed : PendingAddressed state.sync.pending)
    (superseded : ∀ desired, state.sync.pending.find? delta.destination = some desired →
      desired = some route)
    (isInPlace : state.kernel.IsInPlace held (.ofForwarding route) delta.destination) :
    (state.apply delta).2.kernel.IsInPlace held (.ofForwarding route) delta.destination := by
  have here : route.destination = delta.destination := delta.addressed_desired? route leads
  rw [← here] at superseded isInPlace ⊢
  have retried := isInPlace_retryPending addressed superseded isInPlace
  rw [apply_eq]
  split
  · exact retried
  · rw [← here, leads]
    exact isInPlace_program retried

/-! ### Routes are changed in place -/

/-- After every history of a new synchronizer over a kernel in memory, whatever faults are injected,
a delta is applied that leads to a route of a prefix for which the kernel holds one. What the kernel
is asked for on the way is recorded, which changes nothing else. If no removal of the prefix is
pending, its deletion is never asked for, and it has a route after every request. If nothing is
pending for it, or the same route, then it is replaced at most once, and not at all if the route
that was held is the right one. -/
theorem history_inPlace (vrf : UInt32) (netns : String) (attempts : Nat) (kernel : MemoryKernel)
    (upcoming : List (List Injection)) (steps : List SyncStep) (delta : Delta)
    (route : ForwardingRoute) (held : KernelRoute) :
    let start : Programmed DisturbedKernel :=
      ⟨Synchronizer.create vrf netns attempts, kernel, upcoming, []⟩
    let state := start.history steps
    let applied := state.recording.apply delta
    delta.desired? = some route → state.kernel.HoldsAt delta.destination held →
      forget applied = state.apply delta ∧
      (state.sync.pending.find? delta.destination ≠ some none →
        applied.2.kernel.IsCovered delta.destination) ∧
      ((∀ desired, state.sync.pending.find? delta.destination = some desired →
          desired = some route) →
        applied.2.kernel.IsInPlace held (.ofForwarding route) delta.destination) := by
  intro start state applied leads holdsHeld
  have addressed : PendingAddressed state.sync.pending :=
    (mirrors_history (mirrors_create vrf netns attempts kernel upcoming) steps).addressed
  refine ⟨forget_apply delta state.recording, fun noRemoval => ?_, fun superseded => ?_⟩
  · exact isCovered_apply leads noRemoval ⟨⟨held, holdsHeld⟩, fun _ member => nomatch member⟩
  · exact isInPlace_apply leads addressed superseded (.inl ⟨holdsHeld, rfl⟩)

/-- A route over an interface. -/
def routeOver (name : String) (index : UInt32) : ForwardingRoute :=
  { retriedRoute with hops := [⟨none, name, index⟩] }

/-- The kernel refuses once to replace the route over one interface by that over another. -/
def refusedReplacement : List SyncStep :=
  [.apply (.add (routeOver "eth0" 1)), .inject ⟨.replace, .notPermitted, 1⟩,
    .apply (.replace (routeOver "eth0" 1) (routeOver "eth1" 2))]

theorem history_inPlace_refusedReplacement :
    let destination := (routeOver "eth0" 1).destination
    let wanted := KernelRoute.ofForwarding (routeOver "eth1" 2)
    let state : Programmed DisturbedKernel :=
      history ⟨Synchronizer.create 0 "default" 3, MemoryKernel.empty, [], []⟩ refusedReplacement
    let applied := state.recording.apply (.replace (routeOver "eth0" 1) (routeOver "eth1" 2))
    state.kernel.HoldsAt destination (.ofForwarding (routeOver "eth0" 1)) ∧
      state.sync.pending.find? destination = some (some (routeOver "eth1" 2)) ∧
      applied.2.kernel.IsCovered destination ∧
      applied.2.kernel.changesOf destination = [.replace wanted] := by
  intro destination wanted state applied
  have holdsHeld : state.kernel.HoldsAt destination (.ofForwarding (routeOver "eth0" 1)) :=
    show state.kernel.memory.routes.find? destination = _ by decide +kernel
  have isPending : state.sync.pending.find? destination = some (some (routeOver "eth1" 2)) := by
    decide +kernel
  obtain ⟨-, covered, inPlace⟩ := history_inPlace 0 "default" 3 MemoryKernel.empty []
    refusedReplacement (.replace (routeOver "eth0" 1) (routeOver "eth1" 2)) (routeOver "eth1" 2)
    (.ofForwarding (routeOver "eth0" 1)) rfl holdsHeld
  have noRemoval : state.sync.pending.find? destination ≠ some none := by
    rw [isPending]
    nofun
  have isCovered : applied.2.kernel.IsCovered destination := covered noRemoval
  have isInPlace := inPlace fun desired found => Option.some.inj (found.symm.trans isPending)
  have changed : applied.2.kernel.changesOf destination ≠ [] := by decide +kernel
  obtain ⟨-, -, once⟩ := isInPlace.resolve_left (changed ·.2)
  exact ⟨holdsHeld, isPending, isCovered, once⟩

/-- The kernel refuses once to delete a route. When the route is added again, the removal that is
still pending deletes it first, and for a while the kernel has no route for the prefix. -/
theorem exists_gap_of_pending_removal :
    let route := routeOver "eth0" 1
    let start : Programmed DisturbedKernel :=
      ⟨Synchronizer.create 0 "default" 3, MemoryKernel.empty, [], []⟩
    let state := start.history
      [.apply (.add route), .inject ⟨.delete, .notPermitted, 1⟩, .apply (.remove route)]
    let applied := state.recording.apply (.add route)
    state.kernel.HoldsAt route.destination (.ofForwarding route) ∧
      applied.2.kernel.changesOf route.destination =
        [.delete route.destination, .install (.ofForwarding route)] ∧
      ∃ transaction ∈ applied.2.kernel.record,
        ∀ held, ¬ transaction.after.HoldsAt route.destination held := by
  intro route start state applied
  have holdsHeld : state.kernel.HoldsAt route.destination (.ofForwarding route) :=
    show state.kernel.memory.routes.find? route.destination = _ by decide +kernel
  have gap : ∃ transaction ∈ applied.2.kernel.record,
      transaction.after.memory.routes.find? route.destination = none := by decide +kernel
  obtain ⟨transaction, member, noRoute⟩ := gap
  refine ⟨holdsHeld, by decide +kernel, transaction, member, fun held holdsAny => ?_⟩
  exact nomatch noRoute.symm.trans holdsAny

end Programmed

end ControlPlane
