/-
This file defines the state of a router and the programs that work on it. A
program reads and changes the state, records events, and may fail; what it did
before a failure stays. The file builds the programs that all operations share:
programming the deltas of a VRF, reacting to changes of interfaces, and
publishing how many prefixes are still to be programmed.
-/

import ControlPlane.RoutingEvent
import ControlPlane.Vrf.Table

namespace ControlPlane

/-! ### State -/

/-- The number of finished mutations and of the prefixes still to be programmed after the last
one. -/
structure Settled where
  generation : Nat
  pending : Nat
  deriving DecidableEq

/-- The interfaces, VRFs and settings of a router, and the kernels of its namespaces. -/
structure RoutingState (Kernel : Type) where
  attempts : Nat
  interfaces : InterfaceTable
  listing : InterfaceTable.Listing
  vrfs : VrfTable
  ecmp : EcmpConfig
  kernels : KernelSpace Kernel
  settled : Settled

/-- The candidates for the router-id of a VRF, as the interfaces are listed now. -/
def RoutingState.routerIdCandidates {Kernel : Type} (state : RoutingState Kernel)
    (vrf : UInt32) : List RouterIdCandidate :=
  InterfaceTable.candidatesAmong
    (state.listing.interfacesAt state.settled.generation state.interfaces) vrf

/-- The state an operation works on, with the events it has recorded so far. -/
structure Session (Kernel : Type) where
  state : RoutingState Kernel
  events : List RoutingEvent

/-- A program on the state of a router. -/
abbrev RouterM (Kernel : Type) : Type → Type :=
  EStateM RouteError (Session Kernel)

namespace RouterM

variable {Kernel Value : Type}

/-! ### Parts of the state -/

def getState : RouterM Kernel (RoutingState Kernel) := do
  return (← get).state

def modifyState (change : RoutingState Kernel → RoutingState Kernel) : RouterM Kernel Unit :=
  modify fun session => { session with state := change session.state }

def record (event : RoutingEvent) : RouterM Kernel Unit :=
  modify fun session => { session with events := session.events ++ [event] }

/-- Goes on with a value or fails. -/
def ofExcept (result : Except RouteError Value) : RouterM Kernel Value :=
  match result with
  | .ok value => pure value
  | .error error => throw error

/-- Goes on after a check that passed. A configuration that is refused is recorded. -/
def accept (result : ConfigResult) : RouterM Kernel Unit :=
  match result with
  | .ok () => pure ()
  | .error error => do
    record (.configRejected error.message)
    throw (.invalidConfig error)

/-- The resolver of the next hops of a VRF. -/
def resolver (vrf : UInt32) : RouterM Kernel Resolver := do
  return (← getState).interfaces.resolver vrf

def getVrf (id : UInt32) : RouterM Kernel Vrf := do
  ofExcept ((← getState).vrfs.get id)

def storeVrf (id : UInt32) (vrf : Vrf) : RouterM Kernel Unit :=
  modifyState fun state => { state with vrfs := state.vrfs.store id vrf }

/-! ### Publishing -/

/-- Counts a finished mutation and the prefixes still to be programmed. -/
def publish (state : RoutingState Kernel) : RoutingState Kernel :=
  { state with
    settled :=
      { generation := state.settled.generation + 1
        pending := state.vrfs.pendingCount } }

/-- Runs a mutation and publishes its outcome, whether it failed or not. -/
def publishing (mutation : RouterM Kernel Value) : RouterM Kernel Value := fun session =>
  match mutation session with
  | .ok value after => .ok value { after with state := publish after.state }
  | .error error after => .error error { after with state := publish after.state }

/-! ### Programming -/

/-- The event of a failure to program a prefix. -/
def failureEvent? (vrf : UInt32) : RouteError → Option RoutingEvent
  | .kernelSync destination error => some (.syncFailed vrf destination error)
  | _ => none

variable [KernelBackend Kernel]

/-- Programs the deltas of a VRF and records the failures. -/
def program (rerouted : Rerouted) : RouterM Kernel Vrf := do
  let (deltas, vrf) := rerouted
  let state ← getState
  let (errors, vrf, kernel) := vrf.program deltas (state.kernels.kernel vrf.netns)
  modifyState fun state => { state with kernels := state.kernels.store vrf.netns kernel }
  (errors.filterMap (failureEvent? vrf.id)).forM record
  return vrf

/-- Selects the routes of a VRF anew and evaluates its router-id. -/
def refreshVrf (vrf : Vrf) : RouterM Kernel Vrf := do
  let vrf ← program (vrf.refresh (← resolver vrf.id))
  let selection := vrf.routerId.update ((← getState).routerIdCandidates vrf.id)
  if selection.routerId ≠ vrf.routerId.routerId then
    record (.routerIdChanged vrf.id selection.routerId)
  return { vrf with routerId := selection }

/-- Runs an operation on the routes of a VRF, programs its deltas and publishes the outcome. -/
def onVrf (id : UInt32) (operate : Resolver → Vrf → RouterM Kernel Rerouted) :
    RouterM Kernel Unit :=
  publishing do
    let vrf ← getVrf id
    let rerouted ← operate (← resolver id) vrf
    storeVrf id (← program rerouted)

/-! ### Changes of interfaces -/

/-- The connected candidate that an interface still contributes for a prefix. -/
def remainingConnected? (interfaces : InterfaceTable) (name : String) (destination : Prefix) :
    Option Candidate :=
  ((interfaces.find? name).toList.flatMap Interface.connected).find? fun candidate =>
    candidate.destination = destination

/-- How the routes of a VRF follow a change of an interface: connected candidates come and go,
and static next hops go with an interface that stops routing. -/
def reroute (interfaces : InterfaceTable) (change : InterfaceChange) (vrf : Vrf) :
    Except RouteError Rerouted :=
  let resolver := interfaces.resolver change.vrf
  match change.what with
  | .usable _ => .ok ([], vrf)
  | .routingDisabled => .ok (vrf.purgeStatics resolver change.name)
  | .addressAdded network =>
    vrf.announce resolver (connectedCandidate change.vrf change.name change.index network)
  | .addressRemoved network =>
    let destination := Prefix.ofNetwork network
    match remainingConnected? interfaces change.name destination with
    | some candidate => vrf.announce resolver candidate
    | none => .ok (vrf.withdrawInstance resolver destination .connected change.index)
  | .attached =>
    vrf.announceAll resolver ((interfaces.find? change.name).toList.flatMap Interface.connected)
  | .detached => .ok (vrf.withdrawConnected resolver change.index)

/-- Follows a change of an interface, if its VRF exists. -/
def applyChange (change : InterfaceChange) : RouterM Kernel Unit := do
  record (.interface change)
  let state ← getState
  match state.vrfs.get change.vrf with
  | .error _ => pure ()
  | .ok vrf =>
    let rerouted ← ofExcept (reroute state.interfaces change vrf)
    storeVrf change.vrf (← program rerouted)

/-- Refreshes the VRF of an id, if it exists. -/
def refreshStored (id : UInt32) : RouterM Kernel Unit := do
  match (← getState).vrfs.get id with
  | .error _ => pure ()
  | .ok vrf => storeVrf id (← refreshVrf vrf)

/-- Follows changes of interfaces in order, and then refreshes the VRFs they concern by
ascending id. -/
def applyChanges (changes : List InterfaceChange) : RouterM Kernel Unit := do
  changes.forM applyChange
  (SortedSet.ofList (changes.map InterfaceChange.vrf)).keys.forM refreshStored

/-- Runs an event on the interfaces, follows the changes it answers and publishes the outcome. -/
def onInterfaces (event : VrfTable → InterfaceTable → Tracked) : RouterM Kernel Unit :=
  publishing do
    let state ← getState
    let (changes, interfaces) ← ofExcept (event state.vrfs state.interfaces)
    modifyState fun state => { state with interfaces }
    applyChanges changes

end RouterM

end ControlPlane
