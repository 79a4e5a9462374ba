/-
This file defines the interfaces of a router as they are at run time: their
states, the addresses they have, and when they can be used for forwarding.
-/

import ControlPlane.Config.Interface
import ControlPlane.SortedMap

namespace ControlPlane

/-- The administrative or operational state of an interface. Nothing is known of a state before it
is first set, but interfaces have both states from the start. -/
inductive LinkState
  | unknown
  | down
  | up
  deriving DecidableEq

namespace LinkState

def ofBool (isUp : Bool) : LinkState :=
  if isUp then up else down

def name : LinkState → String
  | unknown => "unknown"
  | down => "down"
  | up => "up"

end LinkState

/-- Whether an interface routes packets or bridges them. -/
inductive LinkMode
  | routing
  | bridging
  deriving DecidableEq

namespace LinkMode

def ofBool (routes : Bool) : LinkMode :=
  if routes then routing else bridging

def name : LinkMode → String
  | routing => "routing"
  | bridging => "bridging"

end LinkMode

/-- An interface, attached to a VRF by its id. -/
structure Interface where
  name : String
  index : UInt32
  kind : InterfaceKind
  lag : Option String
  admin : LinkState
  oper : LinkState
  mode : LinkMode
  addresses : SortedSet Network
  vrf : UInt32
  deriving DecidableEq

namespace Interface

/-- A routing interface without addresses. A LAG is down until a member of it is up. -/
def create (name : String) (index : UInt32) (kind : InterfaceKind) : Interface where
  name := name
  index := index
  kind := kind
  lag := none
  admin := .up
  oper := if kind = .lag then .down else .up
  mode := .routing
  addresses := SortedMap.empty
  vrf := defaultVrfId

/-- The operational state in which a configured interface starts: loopbacks are up, LAGs are
down until a member of them is up, and the others follow their administrative state. -/
def initialOper (kind : InterfaceKind) (adminUp : Bool) : LinkState :=
  match kind with
  | .loopback => .up
  | .lag => .down
  | .ethernet | .subinterface => LinkState.ofBool adminUp

/-- A configured interface, attached to a VRF. -/
def ofConfig (config : InterfaceConfig) (vrf : UInt32) : Interface where
  name := config.name
  index := config.index
  kind := config.kind
  lag := config.lag
  admin := LinkState.ofBool config.adminUp
  oper := initialOper config.kind config.adminUp
  mode := LinkMode.ofBool config.routing
  addresses := SortedSet.ofList config.addresses
  vrf := vrf

def isLoopback (interface : Interface) : Bool :=
  interface.kind = .loopback

def isUp (interface : Interface) : Bool :=
  interface.admin = .up && interface.oper = .up

/-- Whether packets can be routed over the interface. -/
def isUsable (interface : Interface) : Bool :=
  interface.isUp && interface.mode = .routing

/-- The addresses of an interface with their mask lengths, in ascending order. -/
def networks (interface : Interface) : List Network :=
  interface.addresses.keys

def hasAddress (interface : Interface) (address : Address) : Bool :=
  interface.networks.any fun network => network.address = address

/-- The length of the longest subnet of the interface that covers an address. -/
def subnetMatch? (interface : Interface) (address : Address) : Option Nat :=
  ((interface.networks.filter fun network => network.covers address).map Network.length).max?

/-- The addresses of version 4, in ascending order. -/
def ipv4Addresses (interface : Interface) : List IPv4 :=
  interface.networks.filterMap fun network =>
    match network.address with
    | .v4 word => some word
    | .v6 _ => none

def egress (interface : Interface) : Egress :=
  ⟨interface.index, interface.name⟩

end Interface

end ControlPlane
