/-
This file defines a VRF: its tables of candidates, its settings, its static
routes, its router-id, and the synchronizer that programs its kernel. Operations
on routes work on the tables alone and answer with deltas; a separate step
programs deltas. Connected candidates are derived from the addresses of
interfaces, and every interface contributes its own, so that a subnet found on
several interfaces has several next hops.
-/

import ControlPlane.Interface
import ControlPlane.Kernel.Synchronizer
import ControlPlane.Rib
import ControlPlane.RouterId
import ControlPlane.StaticTable

namespace ControlPlane

/-! ### Connected candidates -/

/-- The connected candidate for an address of an interface, with the index as instance. -/
def connectedCandidate (vrf : UInt32) (name : String) (index : UInt32) (network : Network) :
    Candidate :=
  ({ Candidate.create vrf (Prefix.ofNetwork network) .connected with
    inst := index }).addHop (.interface name)

/-- The connected candidates of an interface, in the order of its addresses. -/
def Interface.connected (interface : Interface) : List Candidate :=
  interface.networks.map (connectedCandidate interface.vrf interface.name interface.index)

/-! ### VRFs -/

/-- The routes and settings of a VRF. -/
structure Vrf where
  name : String
  id : UInt32
  rib4 : Rib
  rib6 : Rib
  policy : SelectionPolicy
  distance : DistanceConfig
  routerId : RouterIdSelection
  statics : StaticTable
  bgp : Option BgpConfig
  sync : Synchronizer
  deriving DecidableEq

/-- The deltas of an operation with the VRF after it. -/
abbrev Rerouted : Type :=
  List Delta × Vrf

namespace Vrf

/-- A VRF without routes whose kernel is that of a namespace. -/
def create (name : String) (id : UInt32) (netns : String) (attempts : Nat) : Vrf where
  name := name
  id := id
  rib4 := Rib.empty .ipv4
  rib6 := Rib.empty .ipv6
  policy := {}
  distance := {}
  routerId := RouterIdSelection.empty
  statics := StaticTable.empty
  bgp := none
  sync := Synchronizer.create id netns attempts

def netns (vrf : Vrf) : String :=
  vrf.sync.netns

/-- The table of a family. -/
def rib (vrf : Vrf) : Family → Rib
  | .ipv4 => vrf.rib4
  | .ipv6 => vrf.rib6

/-- Exchanges the table of a family. -/
def setRib (vrf : Vrf) (family : Family) (rib : Rib) : Vrf :=
  match family with
  | .ipv4 => { vrf with rib4 := rib }
  | .ipv6 => { vrf with rib6 := rib }

/-- Runs an operation with one delta on the table of a family. -/
def onRib (vrf : Vrf) (family : Family) (operate : SelectionPolicy → Rib → Delta × Rib) :
    Rerouted :=
  let (delta, rib) := operate vrf.policy (vrf.rib family)
  ([delta], vrf.setRib family rib)

/-- Runs operations one after the other and joins their deltas. -/
def inTurn {Item : Type} (operate : Item → Vrf → Rerouted) : List Item → Vrf → Rerouted
  | [], vrf => ([], vrf)
  | item :: rest, vrf =>
    let (deltas, vrf) := operate item vrf
    let (later, vrf) := inTurn operate rest vrf
    (deltas ++ later, vrf)

/-! ### Settings -/

def setMaxPaths (vrf : Vrf) (maxPaths : Option UInt16) : Vrf :=
  { vrf with policy := { vrf.policy with maxPaths } }

def setDistance (vrf : Vrf) (distance : DistanceConfig) : Vrf :=
  { vrf with distance }

/-- Sets or clears the BGP router, which limits the paths of BGP routes. -/
def setBgp (vrf : Vrf) (bgp : Option BgpConfig) : Vrf :=
  { vrf with
    policy := { vrf.policy with bgpMaxPaths := bgp.map BgpConfig.maximumPaths }
    bgp }

def configureRouterId (vrf : Vrf) (routerId : Option IPv4) : Vrf :=
  { vrf with routerId := vrf.routerId.configure routerId }

/-! ### Routes -/

/-- The distance that the settings of a VRF give a candidate: the overrides come first, then the
distances of the BGP router. -/
def configuredDistance? (vrf : Vrf) (candidate : Candidate) : Option UInt8 :=
  match candidate.origin with
  | .ospf => vrf.distance.ospf
  | .bgp =>
    match vrf.distance.bgp with
    | some distance => some distance
    | none => vrf.bgp.map fun bgp => bgp.distance candidate.internal
  | .connected | .static => none

/-- Adds a candidate at its configured distance. -/
def announce (resolver : Resolver) (vrf : Vrf) (candidate : Candidate) :
    Except RouteError Rerouted :=
  if candidate.vrf ≠ vrf.id then .error (.vrfMismatch candidate.destination vrf.id)
  else
    let adjusted :=
      { candidate with
        distance := (vrf.configuredDistance? candidate).getD candidate.distance }
    .ok (vrf.onRib candidate.destination.family fun policy rib =>
      rib.insert resolver policy adjusted)

/-- Adds candidates in order. -/
def announceAll (resolver : Resolver) (vrf : Vrf) : List Candidate → Except RouteError Rerouted
  | [] => .ok ([], vrf)
  | candidate :: rest => do
    let (deltas, vrf) ← vrf.announce resolver candidate
    let (later, vrf) ← vrf.announceAll resolver rest
    return (deltas ++ later, vrf)

/-- Removes the candidates of an origin for a prefix. -/
def withdraw (resolver : Resolver) (vrf : Vrf) (destination : Prefix) (origin : Origin) :
    Rerouted :=
  vrf.onRib destination.family fun policy rib => rib.withdraw resolver policy destination origin

/-- Removes one candidate of an origin for a prefix. -/
def withdrawInstance (resolver : Resolver) (vrf : Vrf) (destination : Prefix) (origin : Origin)
    (inst : UInt32) : Rerouted :=
  vrf.onRib destination.family fun policy rib =>
    rib.withdrawInstance resolver policy destination origin inst

/-- The prefixes to which the interface of an index contributes a connected candidate. -/
def connectedPrefixes (vrf : Vrf) (index : UInt32) : List Prefix :=
  ((vrf.rib4.sets.entries ++ vrf.rib6.sets.entries).filter fun entry =>
    entry.2.list.any fun candidate =>
      candidate.origin = .connected && candidate.inst = index).map Prod.fst

/-- Removes the connected candidates of the interface of an index. -/
def withdrawConnected (resolver : Resolver) (vrf : Vrf) (index : UInt32) : Rerouted :=
  inTurn (fun destination vrf => vrf.withdrawInstance resolver destination .connected index)
    (vrf.connectedPrefixes index) vrf

/-- Selects all routes anew. -/
def refresh (resolver : Resolver) (vrf : Vrf) : Rerouted :=
  let (deltas4, rib4) := vrf.rib4.refresh resolver vrf.policy
  let (deltas6, rib6) := vrf.rib6.refresh resolver vrf.policy
  (deltas4 ++ deltas6, { vrf with rib4, rib6 })

/-- Derives the static candidates of a prefix from the static routes. -/
def refreshStatic (resolver : Resolver) (destination : Prefix) (vrf : Vrf) : Rerouted :=
  vrf.onRib destination.family fun policy rib =>
    rib.replaceOrigin resolver policy destination .static
      (vrf.statics.candidates vrf.id destination)

def addStatic (resolver : Resolver) (route : StaticRoute) (vrf : Vrf) : Rerouted :=
  let (destination, statics) := vrf.statics.add route
  refreshStatic resolver destination { vrf with statics }

def removeStatic (resolver : Resolver) (route : StaticRoute) (vrf : Vrf) :
    Except RouteError Rerouted := do
  let (destination, statics) ← vrf.statics.remove route
  return refreshStatic resolver destination { vrf with statics }

/-- The static next hops that name an interface or were last resolved over it. -/
def boundStatics (vrf : Vrf) (name : String) : List (Prefix × NextHop) :=
  ((vrf.rib4.hops ++ vrf.rib6.hops).filter fun (_, candidate, hop) =>
    candidate.origin = .static && hop.isBoundTo name).map fun (destination, _, hop) =>
      (destination, hop.nextHop)

/-- Drops the static next hops bound to an interface that stops routing. What a gateway is bound
to was noted when it was last resolved, so this comes before selection sees the new state of the
interface. -/
def purgeStatics (resolver : Resolver) (name : String) (vrf : Vrf) : Rerouted :=
  let (affected, statics) := vrf.statics.purge name (vrf.boundStatics name)
  inTurn (refreshStatic resolver) affected { vrf with statics }

/-- Removes all candidates. -/
def purge (vrf : Vrf) : Rerouted :=
  let (deltas4, rib4) := vrf.rib4.purge
  let (deltas6, rib6) := vrf.rib6.purge
  (deltas4 ++ deltas6, { vrf with rib4, rib6 })

/-- The candidates for a prefix. -/
def candidatesAt (vrf : Vrf) (destination : Prefix) : List Candidate :=
  ((vrf.rib destination.family).setAt destination).list

/-! ### Programming -/

section Programming

variable {Kernel : Type} [KernelBackend Kernel]

/-- Programs the deltas of an operation and answers with the failures. -/
def program (deltas : List Delta) (vrf : Vrf) (kernel : Kernel) : List RouteError × Vrf × Kernel :=
  let (errors, state) := (Programmed.mk vrf.sync kernel).applyAll deltas
  (errors, { vrf with sync := state.sync }, state.kernel)

/-- Tries the pending prefixes again and answers how many are left. -/
def resync (vrf : Vrf) (kernel : Kernel) : Nat × Vrf × Kernel :=
  let (count, state) := (Programmed.mk vrf.sync kernel).resync
  (count, { vrf with sync := state.sync }, state.kernel)

end Programming

end Vrf

end ControlPlane
