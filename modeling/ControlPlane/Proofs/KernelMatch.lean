/-
This file proves what it means that two kernel routes match. Two lists sort to
the same list exactly when one is the other one in a different order, so routes
match exactly when they have the prefix and the protocol in common and the same
next hops, each as often, in any order. That is an equivalence. What to do with a
prefix depends on the observed route only through what it matches, so a kernel
that shows a matching route in its place is programmed in the same way.
-/

import ControlPlane.Proofs.Ranking
import ControlPlane.Proofs.Synchronizer

namespace ControlPlane

/-! ### Lists that sort alike -/

/-- Two lists sort to the same list exactly when they hold the same keys, each as often. -/
theorem OrderKey.sort_eq_sort_iff {Key : Type} [OrderKey Key] {first second : List Key} :
    sort first = sort second ↔ first.Perm second := by
  constructor
  · intro same
    exact (sort_perm first).symm.trans ((List.Perm.of_eq same).trans (sort_perm second))
  · intro reordered
    have sorted : (sort first).Perm (sort second) :=
      (sort_perm first).trans (reordered.trans (sort_perm second).symm)
    exact sorted.eq_of_pairwise
      (fun _ _ _ _ notLater notEarlier => eq_of_not_before notEarlier notLater)
      (sort_pairwise first) (sort_pairwise second)

/-! ### Routes that match -/

namespace KernelRoute

/-- Next hops in a different order are as many, so their number decides nothing more. -/
theorem matches_iff {first second : KernelRoute} :
    first.Matches second ↔
      first.destination = second.destination ∧ first.protocol = second.protocol ∧
        first.hops.Perm second.hops := by
  rw [Matches, OrderKey.sort_eq_sort_iff]
  exact and_congr_right fun _ => and_congr_right fun _ =>
    and_iff_right_of_imp List.Perm.length_eq

theorem equivalence_matches : Equivalence Matches where
  refl := Matches.refl
  symm := Matches.symm
  trans := Matches.trans

/-- Routes that match each other match the same routes. -/
theorem Matches.congr {first second : KernelRoute} (alike : first.Matches second)
    (wanted : KernelRoute) : first.Matches wanted ↔ second.Matches wanted :=
  ⟨alike.symm.trans, alike.trans⟩

end KernelRoute

/-! ### What a kernel shows -/

/-- Two looks at a prefix end alike: both fail with the same error, both find no route, or they
find routes that match. They leave the same behind. -/
inductive LookAlike {State : Type} :
    Except KernelError (Option KernelRoute) × State →
      Except KernelError (Option KernelRoute) × State → Prop
  | failed (error : KernelError) (after : State) :
      LookAlike (.error error, after) (.error error, after)
  | found {first second : Option KernelRoute} (alike : Programmed.Realizes first second)
      (after : State) : LookAlike (.ok first, after) (.ok second, after)

/-- A kernel that is looked at in another way. -/
@[reducible]
def KernelBackend.seenThrough {Kernel : Type} [backend : KernelBackend Kernel]
    (look : Prefix → Kernel → Except KernelError (Option KernelRoute) × Kernel) :
    KernelBackend Kernel :=
  { backend with observe := look }

/-- Routes that match call for the same action. -/
theorem KernelAction.plan_eq_of_realizes {first second : Option KernelRoute}
    (alike : Programmed.Realizes first second) (destination : Prefix)
    (wanted : Option KernelRoute) :
    plan destination first wanted = plan destination second wanted := by
  cases first with
  | none =>
    cases second with
    | none => rfl
    | some second => exact alike.elim
  | some first =>
    cases second with
    | none => exact alike.elim
    | some second =>
      cases wanted with
      | none => rfl
      | some wanted => simp only [plan, alike.congr wanted]

/-- Looks that end alike are tried again equally often, and end alike after that. -/
theorem attempt_lookAlike {Kernel : Type}
    {first second : Kernel → Except KernelError (Option KernelRoute) × Kernel}
    (alike : ∀ kernel, LookAlike (first kernel) (second kernel)) (further : Nat)
    (kernel : Kernel) :
    LookAlike ((attempt first further kernel).result, (attempt first further kernel).kernel)
        ((attempt second further kernel).result, (attempt second further kernel).kernel) ∧
      (attempt first further kernel).retries = (attempt second further kernel).retries := by
  induction further generalizing kernel with
  | zero => exact ⟨alike kernel, rfl⟩
  | succ further inductionHypothesis =>
    have here := alike kernel
    simp only [attempt]
    generalize first kernel = firstLook at here
    generalize second kernel = secondLook at here
    cases here with
    | failed error after =>
      by_cases transient : error.isTransient
      · simp only [if_pos transient]
        obtain ⟨later, sameRetries⟩ := inductionHypothesis after
        exact ⟨later, congrArg (· + 1) sameRetries⟩
      · simp only [if_neg transient, and_true]
        exact .failed error after
    | found same after => exact ⟨.found same after, rfl⟩

namespace Programmed

section AnyKernel

variable {Kernel : Type}

/-- Looks that end alike end alike for a synchronizer as well, which tries them again. -/
theorem run_lookAlike {first second : Kernel → Except KernelError (Option KernelRoute) × Kernel}
    (alike : ∀ kernel, LookAlike (first kernel) (second kernel)) (state : Programmed Kernel) :
    LookAlike (state.run first) (state.run second) := by
  have same := attempt_lookAlike alike (state.sync.attempts - 1) state.kernel
  simp only [run]
  generalize attempt first (state.sync.attempts - 1) state.kernel = firstTries at same
  generalize attempt second (state.sync.attempts - 1) state.kernel = secondTries at same
  obtain ⟨firstResult, firstKernel, firstRetries⟩ := firstTries
  obtain ⟨secondResult, secondKernel, secondRetries⟩ := secondTries
  obtain ⟨looks, rfl⟩ := same
  cases looks with
  | failed error after => exact .failed error _
  | found matching after => exact .found matching _

variable [backend : KernelBackend Kernel]

/-- How a kernel is looked at does not matter to an action on it. -/
theorem perform_seenThrough
    (look : Prefix → Kernel → Except KernelError (Option KernelRoute) × Kernel)
    (action : KernelAction) (state : Programmed Kernel) :
    @perform Kernel (.seenThrough look) action state = state.perform action := by
  cases action with
  | nothing => rfl
  | install route => rfl
  | replace route => rfl
  | delete destination => rfl

/-- A kernel that shows, wherever it shows a route, one that matches it is programmed in the same
way: the same is answered, the same is done to the kernel, and the same is counted. -/
theorem syncKernel_seenThrough
    {look : Prefix → Kernel → Except KernelError (Option KernelRoute) × Kernel}
    (alike : ∀ destination kernel, LookAlike (backend.observe destination kernel)
      (look destination kernel))
    (destination : Prefix) (desired : Option ForwardingRoute) (state : Programmed Kernel) :
    @syncKernel Kernel (.seenThrough look) destination desired state =
      state.syncKernel destination desired := by
  have same := state.run_lookAlike (alike destination)
  simp only [syncKernel, perform_seenThrough]
  generalize state.run (backend.observe destination) = observed at same
  generalize state.run (look destination) = shown at same
  cases same with
  | failed error after => rfl
  | found matching after =>
    simp only [KernelAction.plan_eq_of_realizes matching]

end AnyKernel

end Programmed

/-! ### Next hops shown in reverse -/

namespace MemoryKernel

/-- A look at a prefix that shows the next hops of a route in reverse. -/
def observeReversed (destination : Prefix) (kernel : MemoryKernel) :
    Except KernelError (Option KernelRoute) × MemoryKernel :=
  ((kernel.observe destination).1.map
      (Option.map fun route => { route with hops := route.hops.reverse }),
    (kernel.observe destination).2)

theorem lookAlike_observeReversed (destination : Prefix) (kernel : MemoryKernel) :
    LookAlike (KernelBackend.observe destination kernel) (observeReversed destination kernel) := by
  show LookAlike (observe destination kernel) _
  unfold observeReversed
  generalize observe destination kernel = look
  obtain ⟨answer, after⟩ := look
  cases answer with
  | error error => exact .failed error after
  | ok shown =>
    refine .found ?_ after
    cases shown with
    | none => trivial
    | some route => exact KernelRoute.matches_iff.2 ⟨rfl, rfl, (List.reverse_perm _).symm⟩

end MemoryKernel

/-! ### The theorem -/

/-- Routes match exactly when they have the prefix, the protocol and, up to order, the next hops
in common. That is an equivalence, and no kernel is programmed in another way, nor is anything
else answered, when it shows a route that matches the one it has. -/
theorem KernelRoute.matches_iff_and_syncKernel_eq :
    (∀ first second : KernelRoute, first.Matches second ↔
      first.destination = second.destination ∧ first.protocol = second.protocol ∧
        first.hops.Perm second.hops) ∧
    Equivalence Matches ∧
    ∀ (Kernel : Type) [backend : KernelBackend Kernel]
      (look : Prefix → Kernel → Except KernelError (Option KernelRoute) × Kernel),
      (∀ destination kernel, LookAlike (backend.observe destination kernel)
        (look destination kernel)) →
      ∀ destination desired (state : Programmed Kernel),
        @Programmed.syncKernel Kernel (.seenThrough look) destination desired state =
          state.syncKernel destination desired :=
  ⟨fun _ _ => matches_iff, equivalence_matches,
    fun _ _ _ alike destination desired state =>
      state.syncKernel_seenThrough alike destination desired⟩

/-- A route over two gateways. -/
def balancedRoute : ForwardingRoute where
  destination := .ofNetwork ⟨.v4 0x0A200000, 11, by decide⟩
  origin := .static
  distance := 1
  metric := 0
  hops := [⟨some (.v4 0xC0000201), "eth0", 1⟩, ⟨some (.v4 0xC0000202), "eth1", 2⟩]

/-- A kernel that holds the route. -/
def balancedState : Programmed MemoryKernel :=
  ⟨Synchronizer.create 0 "default" 3,
    MemoryKernel.empty.put (KernelRoute.ofForwarding balancedRoute)⟩

theorem syncKernel_balancedState :
    let destination := balancedRoute.destination
    let synced := @Programmed.syncKernel MemoryKernel (.seenThrough MemoryKernel.observeReversed)
      destination (some balancedRoute) balancedState
    (MemoryKernel.observeReversed destination balancedState.kernel).1.toOption ≠
        (MemoryKernel.observe destination balancedState.kernel).1.toOption ∧
      synced.1 = .ok .noop ∧ synced.2.kernel = balancedState.kernel := by
  intro destination synced
  have same : synced = balancedState.syncKernel destination (some balancedRoute) :=
    KernelRoute.matches_iff_and_syncKernel_eq.2.2 MemoryKernel _
      MemoryKernel.lookAlike_observeReversed destination (some balancedRoute) balancedState
  rw [same]
  exact ⟨by decide +kernel, by rfl, by decide +kernel⟩

end ControlPlane
