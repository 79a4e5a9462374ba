/-
This file keeps the kernel and the forwarding table of a VRF in line with its
selected routes. The forwarding table only shows what the kernel accepted. A
prefix that could not be programmed stays pending with the route it should have,
and is tried again before anything else is programmed.
-/

import ControlPlane.Fib
import ControlPlane.Kernel.Backend

namespace ControlPlane

/-! ### Trying again -/

/-- What a kernel operation answered, the kernel after it, and how often it was tried again. -/
structure Attempted (Kernel Value : Type) where
  result : Except KernelError Value
  kernel : Kernel
  retries : Nat

/-- Tries a kernel operation again, up to a number of further times, while it fails for a cause
that may pass. -/
def attempt {Kernel Value : Type} (operate : Kernel → Except KernelError Value × Kernel) :
    Nat → Kernel → Attempted Kernel Value
  | 0, kernel => ⟨(operate kernel).1, (operate kernel).2, 0⟩
  | further + 1, kernel =>
    match operate kernel with
    | (.ok value, after) => ⟨.ok value, after, 0⟩
    | (.error error, after) =>
      if error.isTransient then
        let later := attempt operate further after
        { later with retries := later.retries + 1 }
      else ⟨.error error, after, 0⟩

/-! ### What to do -/

/-- What it takes to give a prefix of the kernel the route it should have. -/
inductive KernelAction
  | nothing
  | install (route : KernelRoute)
  | replace (route : KernelRoute)
  | delete (destination : Prefix)
  deriving DecidableEq

/-- The action that turns the observed route of a prefix into the wanted one. -/
def KernelAction.plan (destination : Prefix) (observed wanted : Option KernelRoute) :
    KernelAction :=
  match observed, wanted with
  | none, none => nothing
  | none, some wanted => install wanted
  | some observed, some wanted => if observed.Matches wanted then nothing else replace wanted
  | some _, none => delete destination

/-- What was done to program a prefix. -/
inductive SyncOutcome
  | noop
  | installed
  | replaced
  | deleted
  deriving DecidableEq

def KernelAction.outcome : KernelAction → SyncOutcome
  | nothing => .noop
  | install _ => .installed
  | replace _ => .replaced
  | delete _ => .deleted

/-! ### The state of a synchronizer -/

/-- How often the outcomes occurred. -/
structure SyncStats where
  installed : Nat := 0
  replaced : Nat := 0
  deleted : Nat := 0
  noops : Nat := 0
  retries : Nat := 0
  failures : Nat := 0
  deriving DecidableEq

def SyncStats.count (stats : SyncStats) : SyncOutcome → SyncStats
  | .noop => { stats with noops := stats.noops + 1 }
  | .installed => { stats with installed := stats.installed + 1 }
  | .replaced => { stats with replaced := stats.replaced + 1 }
  | .deleted => { stats with deleted := stats.deleted + 1 }

/-- The forwarding table of a VRF, the prefixes that are still to be programmed, and the number
of times an operation is tried. -/
structure Synchronizer where
  netns : String
  attempts : Nat
  fib : Fib
  pending : SortedMap Prefix (Option ForwardingRoute)
  stats : SyncStats
  deriving DecidableEq

/-- A synchronizer together with the kernel it programs. -/
structure Programmed (Kernel : Type) where
  sync : Synchronizer
  kernel : Kernel

namespace Synchronizer

/-- The synchronizer of a VRF without routes. -/
def create (vrf : UInt32) (netns : String) (attempts : Nat) : Synchronizer where
  netns := netns
  attempts := attempts
  fib := Fib.empty vrf
  pending := SortedMap.empty
  stats := {}

def pendingCount (sync : Synchronizer) : Nat :=
  sync.pending.size

/-- Gives a prefix of the forwarding table the route that the kernel accepted. -/
def updateFib (fib : Fib) (destination : Prefix) (desired : Option ForwardingRoute) : Fib :=
  if fib.find? destination = desired then fib
  else
    match desired with
    | some route => fib.add route
    | none => fib.remove destination

end Synchronizer

namespace Programmed

variable {Kernel : Type} [KernelBackend Kernel]

/-! ### Programming -/

/-- Runs a kernel operation, tried again as often as the synchronizer allows, and counts the
further tries. -/
def run {Value : Type} (operate : Kernel → Except KernelError Value × Kernel)
    (state : Programmed Kernel) : Except KernelError Value × Programmed Kernel :=
  let attempted := attempt operate (state.sync.attempts - 1) state.kernel
  (attempted.result,
    { kernel := attempted.kernel
      sync :=
        { state.sync with
          stats := { state.sync.stats with
            retries := state.sync.stats.retries + attempted.retries } } })

/-- Carries out an action on the kernel. -/
def perform (action : KernelAction) (state : Programmed Kernel) :
    Except KernelError Unit × Programmed Kernel :=
  match action with
  | .nothing => (.ok (), state)
  | .install route => state.run (KernelBackend.install route)
  | .replace route => state.run (KernelBackend.replace route)
  | .delete destination => state.run (KernelBackend.delete destination)

/-- Gives a prefix of the kernel the route it should have, after looking at the one it has. -/
def syncKernel (destination : Prefix) (desired : Option ForwardingRoute)
    (state : Programmed Kernel) : Except KernelError SyncOutcome × Programmed Kernel :=
  match state.run (KernelBackend.observe destination) with
  | (.error error, state) => (.error error, state)
  | (.ok observed, state) =>
    let action :=
      KernelAction.plan destination observed (desired.map KernelRoute.ofForwarding)
    match state.perform action with
    | (.error error, state) => (.error error, state)
    | (.ok (), state) => (.ok action.outcome, state)

/-- Programs a prefix. On success its forwarding route is the desired one and it is not pending;
on failure it is pending. -/
def program (destination : Prefix) (desired : Option ForwardingRoute) (state : Programmed Kernel) :
    Except RouteError SyncOutcome × Programmed Kernel :=
  match state.syncKernel destination desired with
  | (.ok outcome, state) =>
    (.ok outcome,
      { state with
        sync :=
          { state.sync with
            stats := state.sync.stats.count outcome
            pending := state.sync.pending.erase destination
            fib := Synchronizer.updateFib state.sync.fib destination desired } })
  | (.error error, state) =>
    (.error (.kernelSync destination error),
      { state with
        sync :=
          { state.sync with
            stats := { state.sync.stats with failures := state.sync.stats.failures + 1 }
            pending := state.sync.pending.insert destination desired } })

/-- Programs prefixes in order, whatever becomes of each. -/
def syncEach (entries : List (Prefix × Option ForwardingRoute)) (state : Programmed Kernel) :
    Programmed Kernel :=
  entries.foldl (fun state entry => (state.program entry.1 entry.2).2) state

/-- Tries all pending prefixes again. -/
def retryPending (state : Programmed Kernel) : Programmed Kernel :=
  ({ state with sync := { state.sync with pending := SortedMap.empty } } :
    Programmed Kernel).syncEach state.sync.pending.entries

/-- Programs a delta, after the pending prefixes were tried again. What was pending for its
prefix is superseded. -/
def apply (delta : Delta) (state : Programmed Kernel) :
    Except RouteError SyncOutcome × Programmed Kernel :=
  let state := state.retryPending
  if delta.isUnchanged then (.ok .noop, state)
  else
    ({ state with
        sync := { state.sync with pending := state.sync.pending.erase delta.destination } } :
      Programmed Kernel).program delta.destination delta.desired?

/-- Programs deltas in order and answers with the failures. -/
def applyAll (deltas : List Delta) (state : Programmed Kernel) :
    List RouteError × Programmed Kernel :=
  match deltas with
  | [] => ([], state)
  | delta :: rest =>
    match state.apply delta with
    | (.ok _, state) => state.applyAll rest
    | (.error error, state) =>
      let later := state.applyAll rest
      (error :: later.1, later.2)

/-- Tries all pending prefixes again and answers how many are left. -/
def resync (state : Programmed Kernel) : Nat × Programmed Kernel :=
  let after := state.retryPending
  (after.sync.pendingCount, after)

end Programmed

end ControlPlane
