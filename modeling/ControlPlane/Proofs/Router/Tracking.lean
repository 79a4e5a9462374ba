/-
This file proves that nothing is lost between the selection and the kernel. In
every router that can be reached, over any kernels, a prefix that is pending in a
VRF is to get the selected route, and any other prefix has the selected route in
the forwarding table. The published count is the number of pending prefixes of
all VRFs, so that a router with a count of zero forwards just what it selects.
-/

import ControlPlane.Proofs.Pending
import ControlPlane.Proofs.Router.EachVrf

namespace ControlPlane

variable {Kernel : Type} [KernelBackend Kernel]

/-- The synchronizer of a VRF knows the installed routes. -/
structure Vrf.InLine (vrf : Vrf) : Prop where
  isProper : vrf.IsProper
  tracks : vrf.sync.Tracks vrf.installed

namespace Vrf

theorem InLine.of_same {first second : Vrf} (inLine : first.InLine)
    (same : first.SameRoutes second) (sameSync : second.sync = first.sync) : second.InLine where
  isProper := same.isProper inLine.isProper
  tracks := by
    rw [sameSync, same.installed_eq]
    exact inLine.tracks

theorem inLine_create (name : String) (id : UInt32) (netns : String) (attempts : Nat) :
    (create name id netns attempts).InLine where
  isProper := isProper_create name id netns attempts
  tracks := Synchronizer.tracks_create id netns attempts (installed_create name id netns attempts)

end Vrf

namespace Session

variable {session : Session Kernel} {vrf : Vrf}

/-- Programming the deltas of an operation keeps a VRF in line. -/
theorem inLine_programmedVrf {resolver : Resolver} {rerouted : Rerouted}
    (reroutes : Vrf.Reroutes resolver vrf rerouted) (inLine : vrf.InLine)
    (session : Session Kernel) : (session.programmedVrf rerouted).InLine := by
  have same := sameRoutes_programmedVrf rerouted session
  refine ⟨same.isProper (reroutes.isProper inLine.isProper), ?_⟩
  rw [same.installed_eq]
  refine Programmed.tracks_applyAll (reroutes.carryAll inLine.isProper) inLine.isProper.addressed ?_
  show rerouted.2.sync.Tracks vrf.installed
  rw [reroutes.sync_eq]
  exact inLine.tracks

/-- Trying the pending prefixes again keeps a VRF in line. -/
theorem inLine_retrying (inLine : vrf.InLine) (session : Session Kernel) :
    Vrf.InLine { vrf with sync := (session.retrying vrf).sync } := by
  have same : vrf.SameRoutes { vrf with sync := (session.retrying vrf).sync } :=
    .of_ribs rfl rfl rfl rfl
  refine ⟨same.isProper inLine.isProper, ?_⟩
  rw [same.installed_eq]
  exact Programmed.tracks_retryPending inLine.isProper.addressed inLine.tracks

/-- All VRFs are in line. -/
def AllInLine (session : Session Kernel) : Prop :=
  ∀ id vrf, session.find? id = some vrf → vrf.InLine

end Session

/-! ### The invariant -/

/-- Each VRF stays in line by itself. -/
theorem isOwnInvariant_inLine : IsOwnInvariant Kernel Vrf.InLine where
  created := Vrf.inLine_create
  same _ _ same _ sameSync inLine := inLine.of_same same sameSync
  moved session _ _ moves inLine := by
    obtain ⟨_, reroutes⟩ := moves.reroutes
    exact Session.inLine_programmedVrf reroutes inLine session
  retried session _ inLine := Session.inLine_retrying inLine session

theorem Changes.allInLine {before after : Session Kernel} {action : Action}
    (changes : Changes before action after) (isKeyed : before.state.IsKeyed)
    (allInLine : before.AllInLine) : after.AllInLine :=
  changes.each isOwnInvariant_inLine isKeyed allInLine

/-- All VRFs of a state are in line, and the published count is the number of pending prefixes. -/
structure IsTracked (state : RoutingState Kernel) : Prop where
  inLine : ∀ id vrf, state.vrfs.byId.find? id = some vrf → vrf.InLine
  published : state.settled.pending = state.vrfs.pendingCount

/-- No operation loses a delta or publishes a wrong count, whatever the kernels do. -/
theorem isInvariant_isTracked (surroundings : Surroundings Kernel) :
    IsInvariant surroundings IsTracked where
  blank _ _ _ := ⟨fun _ _ found => (nomatch found), rfl⟩
  changed _ _ _ _ isKeyed isTracked changes := ⟨changes.allInLine isKeyed isTracked.inLine, rfl⟩
  refused _ _ isTracked refused := by
    cases refused with
    | recorded => exact ⟨isTracked.inLine, isTracked.published⟩
    | published => exact ⟨isTracked.inLine, rfl⟩
    | opened => exact ⟨isTracked.inLine, rfl⟩
  disturbed _ _ _ isTracked := ⟨isTracked.inLine, isTracked.published⟩

theorem VrfTable.find?_pending_of_pendingCount {table : VrfTable}
    (nonePending : table.pendingCount = 0) {id : UInt32} {vrf : Vrf}
    (found : table.byId.find? id = some vrf) (destination : Prefix) :
    vrf.sync.pending.find? destination = none := by
  have listed : vrf ∈ table.vrfs := SortedMap.mem_values_iff.2 ⟨id, found⟩
  have counts := List.sum_eq_zero_iff_forall_eq_nat.1 nonePending
  have empty : vrf.sync.pending.size = 0 := counts _ (List.mem_map_of_mem listed)
  have noKeys : vrf.sync.pending.keys = [] := by
    rw [SortedMap.keys, List.length_eq_zero_iff.1 empty, List.map_nil]
  exact SortedMap.find?_eq_none_of_notMem (noKeys ▸ List.not_mem_nil)

/-- In every router that can be reached, for every VRF and every prefix, what is pending is the
installed route, and what is not pending has the installed route in the forwarding table. The
published count adds up the pending prefixes of all VRFs, and if it is zero, every VRF forwards
just the routes that it selected. -/
theorem fib_eq_of_reachable {surroundings : Surroundings Kernel} {router : Router Kernel}
    (reachable : Reachable surroundings router) :
    (∀ id vrf, router.vrf id = .ok vrf → ∀ destination,
      (∀ desired, vrf.sync.pending.find? destination = some desired →
        desired = ((vrf.rib destination.family).find? destination).bind CandidateSet.installed) ∧
      (vrf.sync.pending.find? destination = none →
        vrf.sync.fib.find? destination =
          ((vrf.rib destination.family).find? destination).bind CandidateSet.installed)) ∧
    router.state.settled.pending =
      (router.state.vrfs.vrfs.map fun vrf => vrf.sync.pending.size).sum ∧
    (router.state.settled.pending = 0 → ∀ id vrf, router.vrf id = .ok vrf → ∀ destination,
      vrf.sync.fib.find? destination =
        ((vrf.rib destination.family).find? destination).bind CandidateSet.installed) := by
  have isTracked := (isInvariant_isTracked surroundings).of_reachable reachable
  have tracks : ∀ id vrf, router.vrf id = .ok vrf → vrf.sync.Tracks vrf.installed :=
    fun id vrf found => (isTracked.inLine id vrf (VrfTable.get_eq_ok_iff.1 found)).tracks
  refine ⟨fun id vrf found destination => ?_, isTracked.published,
    fun nonePending id vrf found destination => ?_⟩
  · have tracksAt := tracks id vrf found destination
    exact ⟨tracksAt.pending_eq, tracksAt.fib_eq⟩
  · refine (tracks id vrf found destination).fib_eq ?_
    rw [isTracked.published] at nonePending
    exact VrfTable.find?_pending_of_pendingCount nonePending (VrfTable.get_eq_ok_iff.1 found)
      destination

theorem fib_eq_of_sampleRouter : ∃ (router : Router MemoryKernel) (vrf : Vrf)
    (route : ForwardingRoute), router.state.settled.pending = 0 ∧
      router.vrf defaultVrfId = .ok vrf ∧
      vrf.sync.fib.find? (Prefix.ofNetwork sampleNetwork) = some route := by
  obtain ⟨router, vrf, set, route, reachable, nonePending, found, listed, installed⟩ :=
    exists_sampleRouter
  have forwards := (fib_eq_of_reachable reachable).2.2 nonePending defaultVrfId vrf found
    (Prefix.ofNetwork sampleNetwork)
  have isIPv4 : (Prefix.ofNetwork sampleNetwork).family = .ipv4 := rfl
  refine ⟨router, vrf, route, nonePending, found, ?_⟩
  rw [forwards, isIPv4, listed, Option.bind_some, installed]

end ControlPlane
