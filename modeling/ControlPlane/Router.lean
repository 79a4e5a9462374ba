/-
This file defines routers. A router is a routing state with a journal of what
happened to it. It starts with the default VRF alone or from a configuration,
and is changed by operations, which are values, so that a history of a router is
a list of operations.
-/

import ControlPlane.Journal
import ControlPlane.Router.Operation
import ControlPlane.Text.Duration
import ControlPlane.Vrf.Show

namespace ControlPlane

open Text

/-! ### Parameters -/

/-- How a router is set up: its name, how often a kernel operation is tried and after which
delay in nanoseconds, the capacity of its journal, and how its interfaces are listed. -/
structure RouterParameters where
  name : String := "ribd"
  attempts : Nat := 3
  initialDelay : Nat := 10 ^ 6
  journalCapacity : Nat := 256
  listing : InterfaceTable.Listing := .byName

def RouterParameters.text (parameters : RouterParameters) : String :=
  lines ["RIB manager config",
    "  name      : " ++ parameters.name,
    "  retries   : " ++ decimal parameters.attempts ++ " (initial delay " ++
      duration parameters.initialDelay ++ ")",
    "  event log : " ++ decimal parameters.journalCapacity]

/-! ### Operations -/

/-- An operation on a router. -/
inductive Operation
  | addVrf (config : VrfConfig)
  | removeVrf (name : String)
  | addInterface (config : InterfaceConfig)
  | removeInterface (name : String)
  | setAdmin (name : String) (isUp : Bool)
  | setOper (name : String) (isUp : Bool)
  | setRouting (name : String) (routes : Bool)
  | addAddress (name : String) (network : Network)
  | removeAddress (name : String) (network : Network)
  | moveInterface (name vrf : String)
  | announce (candidate : Candidate)
  | withdraw (vrf : UInt32) (destination : Prefix) (origin : Origin)
  | withdrawInstance (vrf : UInt32) (destination : Prefix) (origin : Origin) (inst : UInt32)
  | addStatic (vrf : UInt32) (route : StaticRoute)
  | removeStatic (vrf : UInt32) (route : StaticRoute)
  | setBgp (vrf : UInt32) (config : BgpConfig)
  | removeBgp (vrf : UInt32)
  | setDistance (vrf : UInt32) (config : DistanceConfig)
  | setRouterId (vrf : UInt32) (routerId : Option IPv4)
  | setEcmp (config : EcmpConfig)
  | resync

/-- What an operation answers when it succeeds. -/
inductive Response
  | done
  | vrf (id : UInt32)
  | pending (count : Nat)
  deriving DecidableEq

section Operations

variable {Kernel : Type} [KernelBackend Kernel]

/-- The program of an operation. -/
def Operation.perform : Operation → RouterM Kernel Response
  | addVrf config => do return .vrf (← RouterM.addVrf config)
  | removeVrf name => do RouterM.removeVrf name; return .done
  | addInterface config => do RouterM.addInterface config; return .done
  | removeInterface name => do RouterM.removeInterface name; return .done
  | setAdmin name isUp => do RouterM.setAdmin name isUp; return .done
  | setOper name isUp => do RouterM.setOper name isUp; return .done
  | setRouting name routes => do RouterM.setRouting name routes; return .done
  | addAddress name network => do RouterM.addAddress name network; return .done
  | removeAddress name network => do RouterM.removeAddress name network; return .done
  | moveInterface name vrf => do RouterM.moveInterface name vrf; return .done
  | announce candidate => do RouterM.announce candidate; return .done
  | withdraw vrf destination origin => do
    RouterM.withdraw vrf destination origin
    return .done
  | withdrawInstance vrf destination origin inst => do
    RouterM.withdrawInstance vrf destination origin inst
    return .done
  | addStatic vrf route => do RouterM.addStatic vrf route; return .done
  | removeStatic vrf route => do RouterM.removeStatic vrf route; return .done
  | setBgp vrf config => do RouterM.setBgp vrf config; return .done
  | removeBgp vrf => do RouterM.removeBgp vrf; return .done
  | setDistance vrf config => do RouterM.setDistance vrf config; return .done
  | setRouterId vrf routerId => do RouterM.setRouterId vrf routerId; return .done
  | setEcmp config => do RouterM.setEcmp config; return .done
  | resync => do return .pending (← RouterM.resync)

/-! ### Routers -/

/-- A routing state with a name and a journal. -/
structure Router (Kernel : Type) where
  name : String
  state : RoutingState Kernel
  journal : Journal RoutingEvent

namespace Router

/-- Runs a program on a router and enters what it recorded into the journal. -/
def run {Value : Type} (program : RouterM Kernel Value) (router : Router Kernel) :
    Except RouteError Value × Router Kernel :=
  match program ⟨router.state, []⟩ with
  | .ok value session =>
    (.ok value,
      { router with state := session.state, journal := router.journal.addAll session.events })
  | .error error session =>
    (.error error,
      { router with state := session.state, journal := router.journal.addAll session.events })

/-- Performs an operation. -/
def step (router : Router Kernel) (operation : Operation) :
    Except RouteError Response × Router Kernel :=
  router.run operation.perform

/-- The router without VRFs. -/
def blank (parameters : RouterParameters) (kernels : KernelSpace Kernel) : Router Kernel where
  name := parameters.name
  state :=
    { attempts := parameters.attempts
      interfaces := InterfaceTable.empty
      listing := parameters.listing
      vrfs := VrfTable.empty
      ecmp := {}
      kernels
      settled := ⟨0, 0⟩ }
  journal := Journal.create (parameters.name ++ " events") parameters.journalCapacity

/-- Runs a program on a blank router. There is no router if the program fails. -/
def start {Value : Type} (parameters : RouterParameters) (kernels : KernelSpace Kernel)
    (program : RouterM Kernel Value) : Except RouteError (Router Kernel) :=
  match (blank parameters kernels).run program with
  | (.ok _, router) => .ok router
  | (.error error, _) => .error error

/-- A router with the default VRF alone. -/
def create (parameters : RouterParameters) (kernels : KernelSpace Kernel) :
    Except RouteError (Router Kernel) :=
  start parameters kernels (RouterM.addVrf VrfConfig.standard)

/-- Applies the settings of a VRF, which exists already if it is the default one. -/
def configureVrf (config : VrfConfig) : RouterM Kernel Unit :=
  if config.name = defaultVrfName then RouterM.configureDefaultVrf config
  else do
    let _ ← RouterM.addVrf config

/-- Builds up a router: the default VRF, the limit on paths, the VRFs and the interfaces. -/
def configure (config : SystemConfig) : RouterM Kernel Unit := do
  let _ ← RouterM.addVrf VrfConfig.standard
  RouterM.setEcmp config.ecmp
  config.vrfs.forM configureVrf
  config.interfaces.forM RouterM.addInterface

/-- Applies the tracing part of a configuration. -/
def applyTracing (targets : Tracing.TargetTable) (config : SystemConfig) :
    ConfigResult × Tracing.TargetTable :=
  match config.tracing with
  | some tracing => tracing.apply targets
  | none => (.ok (), targets)

/-- A router made from a configuration, which is validated first, and the tracing targets after
the tracing part was applied. -/
def ofConfig (parameters : RouterParameters) (kernels : KernelSpace Kernel)
    (targets : Tracing.TargetTable) (config : SystemConfig) :
    Except RouteError (Router Kernel) × Tracing.TargetTable :=
  match config.validate targets with
  | .error error => (.error (.invalidConfig error), targets)
  | .ok () =>
    match applyTracing targets config with
    | (.error error, targets) => (.error (.invalidConfig error), targets)
    | (.ok (), targets) => (start parameters kernels (configure config), targets)

/-! ### Queries -/

/-- The VRF of an id. -/
def vrf (router : Router Kernel) (id : UInt32) : Except RouteError Vrf :=
  router.state.vrfs.get id

/-- The kernel of a namespace. -/
def kernel (router : Router Kernel) (netns : String) : Kernel :=
  router.state.kernels.kernel netns

/-- Changes the kernel of a namespace from outside. -/
def onKernel (router : Router Kernel) (netns : String) (change : Kernel → Kernel) :
    Router Kernel :=
  { router with
    state :=
      { router.state with
        kernels := router.state.kernels.store netns (change (router.kernel netns)) } }

end Router

end Operations

end ControlPlane
