/-
This file tracks the interfaces of a router. Every event on an interface updates
the table and answers with the changes that matter to routing: interfaces that
became usable or unusable, that stopped routing, that won or lost an address,
and that joined or left a VRF. The operational state of a LAG is derived: it is
up when a member of it is up.
-/

import ControlPlane.Interface.Table
import ControlPlane.RouterId

namespace ControlPlane

open Text

/-! ### Changes -/

/-- What changed on an interface. -/
inductive InterfaceEvent
  | usable (now : Bool)
  | routingDisabled
  | addressAdded (network : Network)
  | addressRemoved (network : Network)
  | attached
  | detached
  deriving DecidableEq

def InterfaceEvent.text : InterfaceEvent → String
  | usable true => "usable"
  | usable false => "unusable"
  | routingDisabled => "no routing"
  | addressAdded network => "address " ++ network.text ++ " added"
  | addressRemoved network => "address " ++ network.text ++ " removed"
  | attached => "attached"
  | detached => "detached"

/-- A change on an interface, seen from the VRF that it concerns. -/
structure InterfaceChange where
  name : String
  index : UInt32
  vrf : UInt32
  what : InterfaceEvent
  deriving DecidableEq

namespace InterfaceChange

def of (interface : Interface) (what : InterfaceEvent) : InterfaceChange :=
  ⟨interface.name, interface.index, interface.vrf, what⟩

def text (change : InterfaceChange) : String :=
  "interface " ++ change.name ++ " (vrf " ++ decimal change.vrf.toNat ++ "): " ++ change.what.text

end InterfaceChange

/-- What an event on an interface answers. -/
abbrev Tracked : Type :=
  Except RouteError (List InterfaceChange × InterfaceTable)

namespace InterfaceTable

/-! ### Usability -/

/-- Whether the interface of a name is there and usable. -/
def isUsable (table : InterfaceTable) (name : String) : Bool :=
  (table.find? name).any Interface.isUsable

/-- The changes of usability of some interfaces since an earlier table. -/
def usabilityChanges (before after : InterfaceTable) (names : List String) :
    List InterfaceChange :=
  names.filterMap fun name =>
    match after.find? name with
    | none => none
    | some interface =>
      if interface.isUsable = before.isUsable name then none
      else some (.of interface (.usable interface.isUsable))

/-- The LAG that an interface belongs to. -/
def lagOf? (table : InterfaceTable) (name : String) : Option String :=
  (table.find? name).bind Interface.lag

/-- An interface and its LAG. -/
def withLag (table : InterfaceTable) (name : String) : List String :=
  name :: (table.lagOf? name).toList

/-- Derives the operational state of a LAG from those of its members. -/
def refreshLag (table : InterfaceTable) (lag : String) : InterfaceTable :=
  let oper := LinkState.ofBool ((table.lagMembers lag).any Interface.isUp)
  table.modify lag fun interface =>
    if interface.kind = .lag then { interface with oper } else interface

/-- Derives the state of the LAG of an interface. -/
def refreshLagOf (table : InterfaceTable) (name : String) : InterfaceTable :=
  match table.lagOf? name with
  | some lag => table.refreshLag lag
  | none => table

/-! ### Events -/

/-- An interface appears and joins its VRF. -/
def appear (table : InterfaceTable) (interface : Interface) : Tracked := do
  let added ← table.add interface
  let own := if interface.kind = .lag then added.refreshLag interface.name else added
  let after := own.refreshLagOf interface.name
  let attached := (after.find? interface.name).toList.map (.of · .attached)
  return (attached ++ usabilityChanges table after interface.lag.toList, after)

/-- An interface disappears and leaves its VRF. -/
def disappear (table : InterfaceTable) (name : String) :
    Except RouteError (Interface × List InterfaceChange × InterfaceTable) := do
  let (interface, remaining) ← table.remove name
  let after :=
    match interface.lag with
    | some lag => remaining.refreshLag lag
    | none => remaining
  return (interface, .of interface .detached :: usabilityChanges table after interface.lag.toList,
    after)

/-- An interface is switched on or off. Loopbacks follow at once. -/
def setAdmin (table : InterfaceTable) (name : String) (isUp : Bool) : Tracked := do
  let _ ← table.get name
  let state := LinkState.ofBool isUp
  let changed := table.modify name fun interface =>
    { interface with
      admin := state
      oper := if interface.kind = .loopback then state else interface.oper }
  let after := changed.refreshLagOf name
  return (usabilityChanges table after (table.withLag name), after)

/-- The link of an interface goes up or down. LAGs have no link of their own. -/
def setOper (table : InterfaceTable) (name : String) (isUp : Bool) : Tracked := do
  let interface ← table.get name
  if interface.kind = .lag then
    return ([], table)
  let changed := table.modify name fun interface => { interface with oper := .ofBool isUp }
  let after := changed.refreshLagOf name
  return (usabilityChanges table after (table.withLag name), after)

/-- An interface is switched between routing and bridging. -/
def setRouting (table : InterfaceTable) (name : String) (routes : Bool) : Tracked := do
  let interface ← table.get name
  let mode := LinkMode.ofBool routes
  if interface.mode = mode then
    return ([], table)
  let after := table.modify name fun interface => { interface with mode }
  let disabled := if mode = .bridging then [.of interface .routingDisabled] else []
  return (disabled ++ usabilityChanges table after [name], after)

/-- An address is configured on an interface. -/
def addAddress (table : InterfaceTable) (name : String) (network : Network) : Tracked := do
  let interface ← table.get name
  if interface.addresses.contains network then
    return ([], table)
  let after := table.modify name fun interface =>
    { interface with addresses := interface.addresses.insert network () }
  return ([.of interface (.addressAdded network)], after)

/-- An address is removed from an interface. -/
def removeAddress (table : InterfaceTable) (name : String) (network : Network) : Tracked := do
  let interface ← table.get name
  if !interface.addresses.contains network then
    return ([], table)
  let after := table.modify name fun interface =>
    { interface with addresses := interface.addresses.erase network }
  return ([.of interface (.addressRemoved network)], after)

/-- An interface moves to another VRF. -/
def moveTo (table : InterfaceTable) (name : String) (vrf : UInt32) : Tracked := do
  let interface ← table.get name
  if interface.vrf = vrf then
    return ([], table)
  let after := table.modify name fun interface => { interface with vrf }
  return ([.of interface .detached, .of { interface with vrf } .attached], after)

/-! ### Candidates for router-ids -/

/-- The candidates for the router-id of a VRF among some interfaces in any order: the addresses of
version 4 of the usable interfaces of the VRF. -/
def candidatesAmong (interfaces : List Interface) (vrf : UInt32) : List RouterIdCandidate :=
  ((interfaces.filter fun interface => interface.vrf = vrf).filter Interface.isUsable).flatMap
    fun interface => interface.ipv4Addresses.map fun address =>
      ⟨interface.name, address, interface.isLoopback⟩

/-- The candidates for the router-id of a VRF by the names of their interfaces. -/
def routerIdCandidates (table : InterfaceTable) (vrf : UInt32) : List RouterIdCandidate :=
  candidatesAmong table.interfaces vrf

/-- How the interfaces of a table are listed. The table is hashed, so that the order has no
meaning, and it may be another one after every mutation. -/
structure Listing where
  interfacesAt : Nat → InterfaceTable → List Interface
  isPerm : ∀ generation table, (interfacesAt generation table).Perm table.interfaces

/-- The interfaces are always listed by name. -/
def Listing.byName : Listing where
  interfacesAt _ table := table.interfaces
  isPerm _ _ := .refl _

end InterfaceTable

end ControlPlane
