/-
This file proves that a synchronizer keeps its forwarding table in line with the
kernel. Every step takes the pending prefixes away and then programs a list of
prefixes, one after the other. Programming a prefix either gives the kernel and
the forwarding table the same route for it, or leaves both as they were and
leaves the prefix pending. It fails only by a fault that is active in the kernel.
-/

import ControlPlane.Proofs.Delta
import ControlPlane.Proofs.MemoryKernel

namespace ControlPlane

/-! ### One prefix -/

namespace Synchronizer

/-- The synchronizer after the kernel took the desired route of a prefix. -/
def accepted (sync : Synchronizer) (destination : Prefix) (desired : Option ForwardingRoute)
    (outcome : SyncOutcome) : Synchronizer :=
  { sync with
    stats := sync.stats.count outcome
    pending := sync.pending.erase destination
    fib := updateFib sync.fib destination desired }

/-- The synchronizer after the kernel refused the desired route of a prefix. -/
def postponed (sync : Synchronizer) (destination : Prefix) (desired : Option ForwardingRoute) :
    Synchronizer :=
  { sync with
    stats := { sync.stats with failures := sync.stats.failures + 1 }
    pending := sync.pending.insert destination desired }

/-- Two synchronizers differ in their statistics at most. -/
structure SameTables (first second : Synchronizer) : Prop where
  netns_eq : second.netns = first.netns
  attempts_eq : second.attempts = first.attempts
  fib_eq : second.fib = first.fib
  pending_eq : second.pending = first.pending

theorem SameTables.refl (sync : Synchronizer) : sync.SameTables sync :=
  ⟨rfl, rfl, rfl, rfl⟩

theorem SameTables.trans {first second third : Synchronizer} (left : first.SameTables second)
    (right : second.SameTables third) : first.SameTables third :=
  ⟨right.netns_eq.trans left.netns_eq, right.attempts_eq.trans left.attempts_eq,
    right.fib_eq.trans left.fib_eq, right.pending_eq.trans left.pending_eq⟩

theorem find?_updateFib {destination : Prefix} {desired : Option ForwardingRoute}
    (addressed : Addressed destination desired) (fib : Fib) (listed : Prefix) :
    (updateFib fib destination desired).find? listed =
      if destination = listed then desired else fib.find? listed := by
  unfold updateFib
  split
  next same =>
    split
    next here => rw [← here, same]
    next => rfl
  next =>
    cases desired with
    | none => exact SortedMap.find?_erase fib.routes destination listed
    | some route =>
      have here : route.destination = destination := addressed route rfl
      subst here
      exact SortedMap.find?_insert fib.routes route.destination listed route

/-- A route of the forwarding table was there before, or it is the one that a prefix was given. -/
theorem find?_of_updateFib {fib : Fib} {destination listed : Prefix}
    {desired : Option ForwardingRoute} {route : ForwardingRoute}
    (found : (updateFib fib destination desired).find? listed = some route) :
    fib.find? listed = some route ∨ desired = some route := by
  unfold updateFib at found
  split at found
  · exact Or.inl found
  · split at found
    next new =>
      rw [Fib.find?, Fib.add, SortedMap.find?_insert] at found
      split at found
      · exact Or.inr found
      · exact Or.inl found
    next =>
      rw [Fib.find?, Fib.remove, SortedMap.find?_erase] at found
      split at found
      · cases found
      · exact Or.inl found

/-- The routes of the forwarding table and those that are still to be programmed have a
property. -/
structure Holds (good : ForwardingRoute → Prop) (sync : Synchronizer) : Prop where
  fib : ∀ destination route, sync.fib.find? destination = some route → good route
  pending : ∀ destination route, sync.pending.find? destination = some (some route) → good route

/-- A new synchronizer holds no routes. -/
theorem holds_create (good : ForwardingRoute → Prop) (vrf : UInt32) (netns : String)
    (attempts : Nat) : (create vrf netns attempts).Holds good where
  fib _ _ found := nomatch found
  pending _ _ found := nomatch found

end Synchronizer

namespace Programmed

open Synchronizer

section AnyKernel

variable {Kernel : Type} [KernelBackend Kernel]

/-- The state whose pending prefixes were taken away. -/
def cleared (state : Programmed Kernel) : Programmed Kernel :=
  { state with sync := { state.sync with pending := SortedMap.empty } }

/-- The state in which what was pending for a prefix is superseded. -/
def supersede (destination : Prefix) (state : Programmed Kernel) : Programmed Kernel :=
  { state with sync := { state.sync with pending := state.sync.pending.erase destination } }

omit [KernelBackend Kernel] in
theorem sameTables_run {Value : Type} (operate : Kernel → Except KernelError Value × Kernel)
    (state : Programmed Kernel) : state.sync.SameTables (state.run operate).2.sync :=
  ⟨rfl, rfl, rfl, rfl⟩

omit [KernelBackend Kernel] in
/-- An operation that succeeds is not tried again. -/
theorem run_of_ok {Value : Type} {operate : Kernel → Except KernelError Value × Kernel}
    {state : Programmed Kernel} {value : Value} {after : Kernel}
    (succeeds : operate state.kernel = (.ok value, after)) :
    state.run operate = (.ok value, ⟨state.sync, after⟩) := by
  have attempted : attempt operate (state.sync.attempts - 1) state.kernel =
      ⟨.ok value, after, 0⟩ := by
    cases state.sync.attempts - 1 with
    | zero => rw [attempt, succeeds]
    | succ further => rw [attempt, succeeds]
  rw [run, attempted]
  rfl

theorem sameTables_perform (action : KernelAction) (state : Programmed Kernel) :
    state.sync.SameTables (state.perform action).2.sync := by
  cases action with
  | nothing => exact SameTables.refl _
  | install route => exact sameTables_run _ _
  | replace route => exact sameTables_run _ _
  | delete destination => exact sameTables_run _ _

/-- To look at the kernel and to act on what was seen ends as the look does if that fails, and as
the action does otherwise. -/
theorem syncKernel_cases (destination : Prefix) (desired : Option ForwardingRoute)
    (state : Programmed Kernel) :
    (∃ error after, state.run (KernelBackend.observe destination) = (.error error, after) ∧
      state.syncKernel destination desired = (.error error, after)) ∨
    ∃ held after, state.run (KernelBackend.observe destination) = (.ok held, after) ∧
      let action := KernelAction.plan destination held (desired.map KernelRoute.ofForwarding)
      state.syncKernel destination desired =
        ((after.perform action).1.map fun _ => action.outcome, (after.perform action).2) := by
  unfold syncKernel
  split
  next error after answered => exact .inl ⟨error, after, answered, rfl⟩
  next held after answered =>
    refine .inr ⟨held, after, answered, ?_⟩
    dsimp only
    split
    next error last done => rw [done]; rfl
    next last done => rw [done]; rfl

theorem sameTables_syncKernel (destination : Prefix) (desired : Option ForwardingRoute)
    (state : Programmed Kernel) :
    state.sync.SameTables (state.syncKernel destination desired).2.sync := by
  have observed := sameTables_run (KernelBackend.observe destination) state
  rcases syncKernel_cases destination desired state with
    ⟨error, after, answered, syncs⟩ | ⟨held, after, answered, syncs⟩
  · rw [answered] at observed
    rw [syncs]
    exact observed
  · rw [answered] at observed
    rw [syncs]
    exact observed.trans (sameTables_perform _ after)

/-- Programming a prefix ends in one of two ways, as the kernel takes the route or refuses it. -/
theorem program_cases (destination : Prefix) (desired : Option ForwardingRoute)
    (state : Programmed Kernel) :
    (∃ outcome after, state.syncKernel destination desired = (.ok outcome, after) ∧
        state.program destination desired =
          (.ok outcome, ⟨after.sync.accepted destination desired outcome, after.kernel⟩)) ∨
      ∃ error after, state.syncKernel destination desired = (.error error, after) ∧
        state.program destination desired =
          (.error (.kernelSync destination error),
            ⟨after.sync.postponed destination desired, after.kernel⟩) := by
  unfold program
  split
  next outcome after answered => exact Or.inl ⟨outcome, after, answered, rfl⟩
  next error after answered => exact Or.inr ⟨error, after, answered, rfl⟩

theorem retryPending_eq (state : Programmed Kernel) :
    state.retryPending = state.cleared.syncEach state.sync.pending.entries :=
  rfl

/-- Where nothing is pending there is nothing to try again. -/
theorem retryPending_of_pending_eq_empty {state : Programmed Kernel}
    (nonePending : state.sync.pending = SortedMap.empty) : state.retryPending = state := by
  obtain ⟨sync, kernel⟩ := state
  rw [retryPending_eq, nonePending]
  show (⟨{ sync with pending := SortedMap.empty }, kernel⟩ : Programmed Kernel) = _
  rw [← nonePending]

theorem apply_eq (delta : Delta) (state : Programmed Kernel) :
    state.apply delta =
      if delta.isUnchanged then (.ok .noop, state.retryPending)
      else (state.retryPending.supersede delta.destination).program delta.destination
        delta.desired? :=
  rfl

/-! ### The namespace -/

theorem netns_program (destination : Prefix) (desired : Option ForwardingRoute)
    (state : Programmed Kernel) :
    (state.program destination desired).2.sync.netns = state.sync.netns := by
  have same := sameTables_syncKernel destination desired state
  rcases program_cases destination desired state with
    ⟨_, after, answered, programs⟩ | ⟨_, after, answered, programs⟩
  · rw [answered] at same
    rw [programs]
    exact same.netns_eq
  · rw [answered] at same
    rw [programs]
    exact same.netns_eq

theorem netns_retryPending (state : Programmed Kernel) :
    state.retryPending.sync.netns = state.sync.netns :=
  List.foldlRecOn (motive := fun next : Programmed Kernel => next.sync.netns = state.sync.netns)
    state.sync.pending.entries _ rfl fun next same entry _ =>
      (netns_program entry.1 entry.2 next).trans same

theorem netns_apply (delta : Delta) (state : Programmed Kernel) :
    (state.apply delta).2.sync.netns = state.sync.netns := by
  rw [apply_eq]
  split
  · exact netns_retryPending state
  · exact (netns_program _ _ _).trans (netns_retryPending state)

/-- A delta is followed by the others, whether it could be applied or not. -/
theorem snd_applyAll_cons (delta : Delta) (rest : List Delta) (state : Programmed Kernel) :
    (state.applyAll (delta :: rest)).2 = ((state.apply delta).2.applyAll rest).2 := by
  rw [applyAll]
  split
  next answered => rw [answered]
  next answered => rw [answered]

/-- What each of the deltas keeps, all of them keep. -/
theorem keeps_applyAll (good : Programmed Kernel → Prop) {deltas : List Delta}
    (keeps : ∀ delta ∈ deltas, ∀ state, good state → good (state.apply delta).2)
    {state : Programmed Kernel} (isGood : good state) : good (state.applyAll deltas).2 := by
  induction deltas generalizing state with
  | nil => exact isGood
  | cons delta rest inductionHypothesis =>
    rw [snd_applyAll_cons]
    exact inductionHypothesis (fun later member => keeps later (List.mem_cons_of_mem _ member))
      (keeps delta List.mem_cons_self state isGood)

/-- A synchronizer stays in its namespace. -/
theorem netns_applyAll (deltas : List Delta) (state : Programmed Kernel) :
    (state.applyAll deltas).2.sync.netns = state.sync.netns :=
  keeps_applyAll (fun next => next.sync.netns = state.sync.netns)
    (fun delta _ next same => (netns_apply delta next).trans same) rfl

/-! ### What is held -/

section Holding

variable {good : ForwardingRoute → Prop} {state : Programmed Kernel}

/-- Programming a prefix brings in nothing but the route that it should have. -/
theorem holds_program {destination : Prefix} {desired : Option ForwardingRoute}
    (isGood : ∀ route, desired = some route → good route) (holds : state.sync.Holds good) :
    (state.program destination desired).2.sync.Holds good := by
  have same := sameTables_syncKernel destination desired state
  rcases program_cases destination desired state with
    ⟨_, after, answered, programs⟩ | ⟨_, after, answered, programs⟩
  · rw [answered] at same
    rw [programs]
    refine ⟨fun listed route found => ?_, fun listed route found => ?_⟩
    · rcases find?_of_updateFib found with found | isDesired
      · rw [same.fib_eq] at found
        exact holds.fib listed route found
      · exact isGood route isDesired
    · rw [accepted, SortedMap.find?_erase, same.pending_eq] at found
      split at found
      · cases found
      · exact holds.pending listed route found
  · rw [answered] at same
    rw [programs]
    refine ⟨fun listed route found => ?_, fun listed route found => ?_⟩
    · rw [postponed, same.fib_eq] at found
      exact holds.fib listed route found
    · rw [postponed, SortedMap.find?_insert, same.pending_eq] at found
      split at found
      · exact isGood route (Option.some.inj found)
      · exact holds.pending listed route found

/-- Trying the pending prefixes again brings in nothing. -/
theorem holds_retryPending (holds : state.sync.Holds good) :
    state.retryPending.sync.Holds good := by
  have cleared : state.cleared.sync.Holds good := ⟨holds.fib, fun _ _ found => nomatch found⟩
  refine List.foldlRecOn (motive := fun next : Programmed Kernel => next.sync.Holds good)
    state.sync.pending.entries _ cleared fun next known entry member => ?_
  refine holds_program (fun route isDesired => ?_) known
  exact holds.pending entry.1 route (SortedMap.find?_eq_some_iff.2 (isDesired ▸ member))

theorem holds_apply {delta : Delta} (isGood : ∀ route, delta.desired? = some route → good route)
    (holds : state.sync.Holds good) : (state.apply delta).2.sync.Holds good := by
  have retried := holds_retryPending holds
  rw [apply_eq]
  split
  · exact retried
  · refine holds_program isGood ⟨retried.fib, fun listed route found => ?_⟩
    rw [supersede, SortedMap.find?_erase] at found
    split at found
    · cases found
    · exact retried.pending listed route found

/-- Deltas bring in nothing but the routes that they lead to. -/
theorem holds_applyAll {deltas : List Delta}
    (areGood : ∀ delta ∈ deltas, ∀ route, delta.desired? = some route → good route)
    (holds : state.sync.Holds good) : (state.applyAll deltas).2.sync.Holds good :=
  keeps_applyAll (fun next => next.sync.Holds good)
    (fun delta member _ known => holds_apply (areGood delta member) known) holds

end Holding

end AnyKernel

/-! ### One prefix of a kernel in memory -/

/-- The kernel holds what was wanted for a prefix, up to the order of next hops. -/
def Realizes (held wanted : Option KernelRoute) : Prop :=
  match held, wanted with
  | none, none => True
  | some held, some wanted => held.Matches wanted
  | _, _ => False

/-- The kernel and the forwarding table have the same route for a prefix. -/
def AgreesAt (state : Programmed DisturbedKernel) (destination : Prefix) : Prop :=
  Realizes (state.kernel.memory.routes.find? destination)
    ((state.sync.fib.find? destination).map KernelRoute.ofForwarding)

theorem realizes_self (wanted : Option KernelRoute) : Realizes wanted wanted := by
  cases wanted with
  | none => trivial
  | some route => exact KernelRoute.Matches.refl route

theorem realizes_none_iff {held : Option KernelRoute} : Realizes held none ↔ held = none := by
  cases held with
  | none => exact ⟨fun _ => rfl, fun _ => trivial⟩
  | some route => exact ⟨False.elim, nofun⟩

/-- The routes realize what was wanted for a prefix, and are the earlier ones for all others. -/
structure Rerouted (earlier : SortedMap Prefix KernelRoute) (destination : Prefix)
    (wanted : Option KernelRoute) (later : SortedMap Prefix KernelRoute) : Prop where
  realizes : Realizes (later.find? destination) wanted
  others : ∀ other, destination ≠ other → later.find? other = earlier.find? other

theorem rerouted_self {routes : SortedMap Prefix KernelRoute} {destination : Prefix}
    {wanted : Option KernelRoute} (realizes : Realizes (routes.find? destination) wanted) :
    Rerouted routes destination wanted routes :=
  ⟨realizes, fun _ _ => rfl⟩

theorem rerouted_insert (routes : SortedMap Prefix KernelRoute) (route : KernelRoute) :
    Rerouted routes route.destination (some route) (routes.insert route.destination route) where
  realizes := by
    rw [SortedMap.find?_insert, if_pos rfl]
    exact realizes_self _
  others other different := by rw [SortedMap.find?_insert, if_neg different]

theorem rerouted_erase (routes : SortedMap Prefix KernelRoute) (destination : Prefix) :
    Rerouted routes destination none (routes.erase destination) where
  realizes := by
    rw [SortedMap.find?_erase, if_pos rfl]
    trivial
  others other different := by rw [SortedMap.find?_erase, if_neg different]

/-- An operation of a kernel in memory, tried as often as the synchronizer allows. -/
theorem answers_run {Value : Type} {good : Value → SortedMap Prefix KernelRoute → Prop}
    {operate : MemoryKernel → Except KernelError Value × MemoryKernel}
    (state : Programmed DisturbedKernel)
    (each : ∀ memory : MemoryKernel, memory.routes = state.kernel.memory.routes →
      memory.Answers good (operate memory)) :
    state.kernel.Answers good ((state.run (DisturbedKernel.call operate)).1,
      (state.run (DisturbedKernel.call operate)).2.kernel) := by
  refine DisturbedKernel.answers_attempt (fun later same => ?_) _
  exact DisturbedKernel.answers_call fun memory sameMemory => each memory (sameMemory.trans same)

/-- The action that is planned for the route that the kernel holds gives it the wanted route,
unless it meets a fault. It neither installs a route where there is one nor deletes one where there
is none. -/
theorem answers_perform (state : Programmed DisturbedKernel) {destination : Prefix}
    {observed wanted : Option KernelRoute}
    (holds : state.kernel.memory.routes.find? destination = observed)
    (addressed : ∀ route, wanted = some route → route.destination = destination) :
    state.kernel.Answers
      (fun _ routes => Rerouted state.kernel.memory.routes destination wanted routes)
      ((state.perform (.plan destination observed wanted)).1,
        (state.perform (.plan destination observed wanted)).2.kernel) := by
  have nothing : Realizes observed wanted → state.kernel.Answers
      (fun _ routes => Rerouted state.kernel.memory.routes destination wanted routes)
      ((state.perform .nothing).1, (state.perform .nothing).2.kernel) := by
    intro realizes
    rw [← holds] at realizes
    exact ⟨id, fun _ _ => rerouted_self realizes, nofun, fun _ => ⟨(), rfl⟩, id⟩
  cases observed with
  | none =>
    cases wanted with
    | none => exact nothing trivial
    | some route =>
      obtain rfl := addressed route rfl
      refine answers_run state fun memory same => ?_
      have absent : memory.routes.find? route.destination = none := by rw [same, holds]
      refine (MemoryKernel.answers_install absent).imp fun _ routes installed => ?_
      rw [installed, same]
      exact rerouted_insert _ route
  | some observed =>
    cases wanted with
    | none =>
      refine answers_run state fun memory same => ?_
      have present : memory.routes.find? destination = some observed := by rw [same, holds]
      refine (MemoryKernel.answers_delete present).imp fun _ routes deleted => ?_
      rw [deleted, same]
      exact rerouted_erase _ destination
    | some route =>
      obtain rfl := addressed route rfl
      by_cases alike : observed.Matches route
      · simp only [KernelAction.plan, if_pos alike]
        exact nothing alike
      · simp only [KernelAction.plan, if_neg alike]
        refine answers_run state fun memory same => ?_
        refine (memory.answers_replace route).imp fun _ routes replaced => ?_
        rw [replaced, same]
        exact rerouted_insert _ route

theorem addressed_ofForwarding {destination : Prefix} {desired : Option ForwardingRoute}
    (addressed : Addressed destination desired) (route : KernelRoute)
    (wanted : desired.map KernelRoute.ofForwarding = some route) :
    route.destination = destination := by
  obtain ⟨forwarding, isDesired, rfl⟩ := Option.map_eq_some_iff.1 wanted
  exact addressed forwarding isDesired

/-- Looking at the kernel and acting on what was seen gives it the desired route, unless one of
the two meets a fault. -/
theorem answers_syncKernel {destination : Prefix} {desired : Option ForwardingRoute}
    (addressed : Addressed destination desired) (state : Programmed DisturbedKernel) :
    state.kernel.Answers
      (fun _ routes => Rerouted state.kernel.memory.routes destination
        (desired.map KernelRoute.ofForwarding) routes)
      ((state.syncKernel destination desired).1,
        (state.syncKernel destination desired).2.kernel) := by
  have observed : state.kernel.Answers
      (fun held routes => routes = state.kernel.memory.routes ∧
        held = state.kernel.memory.routes.find? destination)
      ((state.run (KernelBackend.observe destination)).1,
        (state.run (KernelBackend.observe destination)).2.kernel) := by
    refine answers_run state fun memory same => ?_
    rw [← same]
    exact memory.answers_observe destination
  rcases syncKernel_cases destination desired state with
    ⟨error, after, answered, syncs⟩ | ⟨held, after, answered, syncs⟩
  · rw [answered] at observed
    rw [syncs]
    exact ⟨observed.isBlameless, nofun, fun _ _ => observed.routes_eq error rfl,
      fun before => absurd before (observed.not_isQuiet rfl), observed.isQuiet⟩
  · rw [answered] at observed
    obtain ⟨sameRoutes, seen⟩ : after.kernel.memory.routes = state.kernel.memory.routes ∧
      held = state.kernel.memory.routes.find? destination := observed.isGood held rfl
    have performed := (answers_perform after (sameRoutes ▸ seen.symm)
      (addressed_ofForwarding addressed)).map
        fun _ => (KernelAction.plan destination held (desired.map .ofForwarding)).outcome
    rw [sameRoutes] at performed
    rw [syncs]
    exact ⟨fun before => performed.isBlameless (observed.isBlameless before), performed.isGood,
      fun cause failed => (performed.routes_eq cause failed).trans sameRoutes,
      fun before => performed.succeeds (observed.isQuiet before),
      fun before => performed.isQuiet (observed.isQuiet before)⟩

end Programmed

end ControlPlane
