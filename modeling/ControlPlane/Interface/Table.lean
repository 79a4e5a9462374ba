/-
This file defines the table of the interfaces of a router, with interfaces under
their names and no index twice, and the resolution of next hops over the usable
interfaces of a VRF.
-/

import ControlPlane.Interface
import ControlPlane.RouteError

namespace ControlPlane

/-- The interfaces of a router by name. -/
structure InterfaceTable where
  byName : SortedMap String Interface
  deriving DecidableEq

namespace InterfaceTable

/-- The table without interfaces. -/
def empty : InterfaceTable :=
  ⟨SortedMap.empty⟩

def size (table : InterfaceTable) : Nat :=
  table.byName.size

def names (table : InterfaceTable) : List String :=
  table.byName.keys

/-- The interfaces in the order of their names. -/
def interfaces (table : InterfaceTable) : List Interface :=
  table.byName.values

def find? (table : InterfaceTable) (name : String) : Option Interface :=
  table.byName.find? name

def get (table : InterfaceTable) (name : String) : Except RouteError Interface :=
  match table.find? name with
  | some interface => .ok interface
  | none => .error (.unknownInterface name)

/-- The interface with an index. -/
def findIndex? (table : InterfaceTable) (index : UInt32) : Option Interface :=
  table.interfaces.find? fun interface => interface.index = index

/-- Adds an interface whose name and index are not taken. -/
def add (table : InterfaceTable) (interface : Interface) : Except RouteError InterfaceTable :=
  if table.byName.contains interface.name || (table.findIndex? interface.index).isSome then
    .error (.interfaceExists interface.name)
  else .ok ⟨table.byName.insert interface.name interface⟩

/-- Removes an interface and gives it back. -/
def remove (table : InterfaceTable) (name : String) :
    Except RouteError (Interface × InterfaceTable) := do
  let interface ← table.get name
  return (interface, ⟨table.byName.erase name⟩)

/-- Changes an interface in place. -/
def modify (table : InterfaceTable) (name : String) (change : Interface → Interface) :
    InterfaceTable :=
  ⟨table.byName.modify name change⟩

/-- The interfaces that belong to a LAG. -/
def lagMembers (table : InterfaceTable) (lag : String) : List Interface :=
  table.interfaces.filter fun interface => interface.lag = some lag

/-- The interfaces that are attached to a VRF. -/
def attachedTo (table : InterfaceTable) (vrf : UInt32) : List Interface :=
  table.interfaces.filter fun interface => interface.vrf = vrf

/-- The addresses of the interfaces that are attached to a VRF. -/
def localAddresses (table : InterfaceTable) (vrf : UInt32) : List Address :=
  (table.attachedTo vrf).flatMap fun interface => interface.networks.map Network.address

/-! ### Resolution -/

/-- Whether the first of two interfaces with matching subnets of the given lengths is preferred:
the longer subnet wins, and the smaller name wins a tie. -/
def isPreferred (first second : Nat × Interface) : Bool :=
  second.1 < first.1 || (first.1 = second.1 && OrderKey.Before first.2.name second.2.name)

/-- The preferred one of some interfaces with matching subnets. -/
def preferred? : List (Nat × Interface) → Option (Nat × Interface)
  | [] => none
  | candidate :: rest =>
    match preferred? rest with
    | none => some candidate
    | some best => if isPreferred best candidate then some best else some candidate

/-- The interface that resolves a gateway among some interfaces in any order: a usable one of the
VRF with the longest subnet that covers the gateway, and of these the one with the smallest
name. -/
def gatewayEgress? (interfaces : List Interface) (vrf : UInt32) (address : Address) :
    Option Egress :=
  let candidates := interfaces.filterMap fun interface =>
    if interface.vrf = vrf && interface.isUsable then
      (interface.subnetMatch? address).map fun length => (length, interface)
    else none
  (preferred? candidates).map fun best => best.2.egress

/-- A usable interface of a VRF, by name. -/
def usable? (table : InterfaceTable) (vrf : UInt32) (name : String) : Option Interface :=
  (table.find? name).filter fun interface => interface.vrf = vrf && interface.isUsable

/-- Resolves next hops over the usable interfaces of a VRF. A pinned gateway needs a subnet of
its interface. -/
def resolver (table : InterfaceTable) (vrf : UInt32) : Resolver
  | .interface name => (table.usable? vrf name).map Interface.egress
  | .gateway address (some name) =>
    ((table.usable? vrf name).filter fun interface =>
      (interface.subnetMatch? address).isSome).map Interface.egress
  | .gateway address none => gatewayEgress? table.interfaces vrf address

end InterfaceTable

end ControlPlane
