/-
This file defines the operations on a router: VRFs, interfaces, routes and
settings. Configurations are checked before anything is changed, and a refused
one is recorded. Every mutation that is begun publishes its outcome.
-/

import ControlPlane.Config.System
import ControlPlane.Router.State

namespace ControlPlane.RouterM

variable {Kernel : Type} [KernelBackend Kernel]

/-! ### VRFs -/

/-- Accepts the settings of a VRF beside its interfaces and the BGP router it has. -/
def acceptVrf (vrf : Vrf) (config : VrfConfig) : RouterM Kernel Unit := do
  accept (config.validate ((← getState).interfaces.localAddresses vrf.id))
  match config.bgp with
  | some bgp => accept (BgpConfig.checkInstance vrf.bgp bgp)
  | none => pure ()

/-- Applies the settings of a VRF, static routes included. -/
def configureVrf (vrf : Vrf) (config : VrfConfig) : RouterM Kernel Vrf := do
  acceptVrf vrf config
  let vrf := ((vrf.setDistance config.distance).setBgp config.bgp).configureRouterId
    config.routerId
  let resolver ← resolver vrf.id
  refreshVrf (← program (Vrf.inTurn (Vrf.addStatic resolver) config.staticRoutes vrf))

/-- Applies settings to the VRF that always exists. -/
def configureDefaultVrf (config : VrfConfig) : RouterM Kernel Unit :=
  publishing do
    let vrf ← getVrf defaultVrfId
    storeVrf defaultVrfId (← configureVrf vrf config)

/-- Opens the kernel of a namespace. -/
def openKernel (netns : String) : RouterM Kernel Unit := do
  match (← getState).kernels.openNamespace netns with
  | .ok kernels => modifyState fun state => { state with kernels }
  | .error error => throw (.kernel error)

/-- Creates a VRF. Its kernel is that of the configured namespace, or else of the namespace of
its own name. -/
def addVrf (config : VrfConfig) : RouterM Kernel UInt32 :=
  publishing do
    let state ← getState
    if state.vrfs.idByName.contains config.name then
      accept (.error (.duplicateVrfName config.name))
    if state.vrfs.contains config.id then
      accept (.error (.duplicateVrfId config.id))
    let netns := config.netns.getD config.name
    openKernel netns
    let vrf := (Vrf.create config.name config.id netns state.attempts).setMaxPaths
      state.ecmp.maxPaths
    let vrf ← configureVrf vrf config
    let vrfs ← ofExcept ((← getState).vrfs.add vrf)
    modifyState fun state => { state with vrfs }
    record (.vrfAdded config.name)
    return config.id

/-- Removes a VRF without interfaces, and its routes from the kernel. -/
def removeVrf (name : String) : RouterM Kernel Unit :=
  publishing do
    let state ← getState
    let id ← ofExcept (state.vrfs.idOf name)
    if id = defaultVrfId then
      throw .defaultVrf
    if !(state.interfaces.attachedTo id).isEmpty then
      throw (.vrfBusy name)
    let (vrf, vrfs) ← ofExcept (state.vrfs.remove id)
    modifyState fun state => { state with vrfs }
    let _ ← program vrf.purge
    record (.vrfRemoved name)

/-! ### Interfaces -/

def addInterface (config : InterfaceConfig) : RouterM Kernel Unit := do
  accept config.validate
  onInterfaces fun vrfs interfaces => do
    interfaces.appear (Interface.ofConfig config (← vrfs.idOf config.vrf))

def removeInterface (name : String) : RouterM Kernel Unit :=
  onInterfaces fun _ interfaces => do
    let (_, changes, after) ← interfaces.disappear name
    return (changes, after)

def setAdmin (name : String) (isUp : Bool) : RouterM Kernel Unit :=
  onInterfaces fun _ interfaces => interfaces.setAdmin name isUp

def setOper (name : String) (isUp : Bool) : RouterM Kernel Unit :=
  onInterfaces fun _ interfaces => interfaces.setOper name isUp

/-- Switches an interface to routing or to bridging, which drops the static next hops bound to
it. -/
def setRouting (name : String) (routes : Bool) : RouterM Kernel Unit :=
  onInterfaces fun _ interfaces => interfaces.setRouting name routes

def addAddress (name : String) (network : Network) : RouterM Kernel Unit := do
  accept (checkInterfaceAddress name network)
  onInterfaces fun _ interfaces => interfaces.addAddress name network

def removeAddress (name : String) (network : Network) : RouterM Kernel Unit :=
  onInterfaces fun _ interfaces => interfaces.removeAddress name network

/-- Moves an interface to the VRF of a name. -/
def moveInterface (name vrf : String) : RouterM Kernel Unit :=
  onInterfaces fun vrfs interfaces => do
    interfaces.moveTo name (← vrfs.idOf vrf)

/-! ### Routes -/

/-- Checks the gateways of next hops in order. -/
def checkGateways : List Hop → ConfigResult
  | [] => .ok ()
  | hop :: rest => do
    match hop.nextHop with
    | .gateway address pinned => checkGateway address pinned.isSome
    | .interface _ => pure ()
    checkGateways rest

/-- Accepts candidates for usable destinations through usable gateways. -/
def checkCandidate (candidate : Candidate) : ConfigResult := do
  checkDestination candidate.destination.network
  checkGateways candidate.hops

def announce (candidate : Candidate) : RouterM Kernel Unit := do
  accept (checkCandidate candidate)
  onVrf candidate.vrf fun resolver vrf => ofExcept (vrf.announce resolver candidate)

def withdraw (vrf : UInt32) (destination : Prefix) (origin : Origin) : RouterM Kernel Unit :=
  onVrf vrf fun resolver vrf => pure (vrf.withdraw resolver destination origin)

def withdrawInstance (vrf : UInt32) (destination : Prefix) (origin : Origin) (inst : UInt32) :
    RouterM Kernel Unit :=
  onVrf vrf fun resolver vrf => pure (vrf.withdrawInstance resolver destination origin inst)

def addStatic (vrf : UInt32) (route : StaticRoute) : RouterM Kernel Unit := do
  accept (route.validate ((← getState).interfaces.localAddresses vrf))
  onVrf vrf fun resolver vrf => pure (vrf.addStatic resolver route)

def removeStatic (vrf : UInt32) (route : StaticRoute) : RouterM Kernel Unit :=
  onVrf vrf fun resolver vrf => ofExcept (vrf.removeStatic resolver route)

/-! ### Settings -/

/-- Configures the BGP router of a VRF, which has at most one. -/
def setBgp (vrf : UInt32) (config : BgpConfig) : RouterM Kernel Unit :=
  onVrf vrf fun resolver vrf => do
    accept (BgpConfig.checkInstance vrf.bgp config)
    return (vrf.setBgp (some config)).refresh resolver

def removeBgp (vrf : UInt32) : RouterM Kernel Unit :=
  onVrf vrf fun resolver vrf => pure ((vrf.setBgp none).refresh resolver)

/-- Overrides the distances of dynamic protocols for the routes announced from now on. -/
def setDistance (vrf : UInt32) (config : DistanceConfig) : RouterM Kernel Unit := do
  accept config.validate
  onVrf vrf fun _ vrf => pure ([], vrf.setDistance config)

/-- Sets or clears the configured router-id of a VRF. -/
def setRouterId (vrf : UInt32) (routerId : Option IPv4) : RouterM Kernel Unit := do
  accept (checkRouterId routerId)
  onVrf vrf fun _ vrf => do
    let changed := vrf.configureRouterId routerId
    if changed.routerId.routerId ≠ vrf.routerId.routerId then
      record (.routerIdChanged vrf.id changed.routerId.routerId)
    return ([], changed)

/-- Gives the VRF of an id a limit on paths. -/
def limitPaths (maxPaths : Option UInt16) (id : UInt32) : RouterM Kernel Unit := do
  let vrf ← getVrf id
  storeVrf id (← refreshVrf (vrf.setMaxPaths maxPaths))

/-- Changes the limit on paths of all VRFs. -/
def setEcmp (config : EcmpConfig) : RouterM Kernel Unit := do
  accept config.validate
  publishing do
    (← getState).vrfs.ids.forM (limitPaths config.maxPaths)
    modifyState fun state => { state with ecmp := config }

/-! ### Programming again -/

/-- Tries the pending prefixes of the VRF of an id again and answers how many are left. -/
def resyncVrf (id : UInt32) : RouterM Kernel Nat := do
  let vrf ← getVrf id
  let state ← getState
  let (count, vrf, kernel) := vrf.resync (state.kernels.kernel vrf.netns)
  modifyState fun state => { state with kernels := state.kernels.store vrf.netns kernel }
  storeVrf id vrf
  return count

/-- Runs a counting program for every item and adds the counts up. -/
def sumOver {Item : Type} (program : Item → RouterM Kernel Nat) : List Item → RouterM Kernel Nat
  | [] => pure 0
  | item :: rest => do
    let count ← program item
    return count + (← sumOver program rest)

/-- Tries all pending prefixes again and answers how many are left. -/
def resync : RouterM Kernel Nat :=
  publishing do
    sumOver resyncVrf (← getState).vrfs.ids

end ControlPlane.RouterM
