/-
This file proves that an operation that fails leaves a router as it was. An error
is found before anything is changed, or after no more than a namespace was
opened. What differs afterwards is the journal, the number of the last mutation
and which namespaces are open: interfaces, VRFs with all that they hold, settings
and every kernel are the same, and so is the published count of pending prefixes,
because what was published before was still right.
-/

import ControlPlane.Proofs.Router.Tracking

namespace ControlPlane

variable {Kernel : Type}

/-- The state with other open namespaces and another number of the last mutation. -/
def RoutingState.renumbered (opened : SortedSet String) (generation : Nat)
    (state : RoutingState Kernel) : RoutingState Kernel :=
  { state with
    kernels := { state.kernels with opened }
    settled := { state.settled with generation } }

/-- To publish a count that is published already changes the generation alone. -/
theorem RouterM.publish_eq {state : RoutingState Kernel}
    (published : state.settled.pending = state.vrfs.pendingCount) :
    publish state = state.renumbered state.kernels.opened (state.settled.generation + 1) := by
  rw [publish, ← published]
  rfl

/-- A step that is refused changes at most the generation and the open namespaces. -/
theorem Refused.state_eq {before after : Session Kernel} (refused : Refused before after)
    (published : before.state.settled.pending = before.state.vrfs.pendingCount) :
    ∃ opened generation, after.state = before.state.renumbered opened generation := by
  cases refused with
  | recorded events => exact ⟨_, _, rfl⟩
  | published events => exact ⟨_, _, RouterM.publish_eq published⟩
  | @opened netns kernels opens events =>
    have opening : (before.withKernels kernels).state =
        before.state.renumbered kernels.opened before.state.settled.generation := by
      rw [Session.withKernels, KernelSpace.openNamespace_eq opens]
      rfl
    refine ⟨kernels.opened, before.state.settled.generation + 1, ?_⟩
    show RouterM.publish (before.withKernels kernels).state = _
    rw [opening]
    exact RouterM.publish_eq published

variable [KernelBackend Kernel]

/-- In every router that can be reached, an operation that fails changes nothing beside the
journal, the generation and which namespaces are open: the name, the interfaces, the VRFs with
their routes, policies, configurations, router-ids, forwarding tables and pending prefixes, the
limits on paths, all kernels, and the published count stay. -/
theorem step_eq_of_error {surroundings : Surroundings Kernel} {router : Router Kernel}
    (reachable : Reachable surroundings router) (operation : Operation) (error : RouteError)
    (fails : (router.step operation).1 = .error error) :
    ∃ opened generation journal, (router.step operation).2 =
      ⟨router.name, router.state.renumbered opened generation, journal⟩ := by
  obtain ⟨isKeyed, isTracked⟩ := (isInvariant_isTracked surroundings).good_of_reachable reachable
  obtain ⟨after, refused, same⟩ := Router.refused_of_step isKeyed fails
  obtain ⟨opened, generation, kept⟩ := refused.state_eq isTracked.published
  refine ⟨opened, generation, (router.step operation).2.journal, ?_⟩
  rw [← kept, ← same, ← Router.name_step router operation]

/-- A VRF that is refused after its namespace was opened: its router-id is unspecified. -/
def unspecifiedRouterId : VrfConfig :=
  { name := "red", id := 1, routerId := some 0 }

theorem step_eq_of_unspecifiedRouterId : ∃ (router : Router MemoryKernel) (error : RouteError),
    Reachable Surroundings.any router ∧
      (router.step (.addVrf unspecifiedRouterId)).1 = .error error ∧
      ∃ opened generation journal, (router.step (.addVrf unspecifiedRouterId)).2 =
        ⟨router.name, router.state.renumbered opened generation, journal⟩ := by
  have refused : (sampleRouter?.filter fun router =>
      (router.step (.addVrf unspecifiedRouterId)).1.toOption = none).isSome = true := by
    decide +kernel
  obtain ⟨router, sample⟩ := Option.isSome_iff_exists.1 refused
  obtain ⟨built, fails⟩ := Option.filter_eq_some_iff.1 sample
  have reachable : Reachable Surroundings.any router :=
    reachable_sampleRouter trivial trivial built
  cases answered : (router.step (.addVrf unspecifiedRouterId)).1 with
  | ok response =>
    rw [answered] at fails
    cases of_decide_eq_true fails
  | error error =>
    exact ⟨router, error, reachable, answered, step_eq_of_error reachable _ error answered⟩

end ControlPlane
