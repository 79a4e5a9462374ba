/-
This file holds the forwarding table of a VRF. An address is forwarded by the
route of the longest prefix that covers it.
-/

import ControlPlane.Route

namespace ControlPlane

/-- The forwarding routes of a VRF by prefix, with the number of changes so far. -/
structure Fib where
  vrf : UInt32
  version : Nat
  routes : SortedMap Prefix ForwardingRoute
  deriving DecidableEq

namespace Fib

def empty (vrf : UInt32) : Fib :=
  ⟨vrf, 0, SortedMap.empty⟩

/-- Adds a route under its prefix. -/
def add (fib : Fib) (route : ForwardingRoute) : Fib :=
  { fib with
    version := fib.version + 1
    routes := fib.routes.insert route.destination route }

/-- Removes the route of a prefix; it counts as a change even if there is none. -/
def remove (fib : Fib) (destination : Prefix) : Fib :=
  { fib with
    version := fib.version + 1
    routes := fib.routes.erase destination }

/-- The route of a prefix. -/
def find? (fib : Fib) (destination : Prefix) : Option ForwardingRoute :=
  fib.routes.find? destination

/-- The entry with the longest prefix. -/
def longest? : List (Prefix × ForwardingRoute) → Option (Prefix × ForwardingRoute)
  | [] => none
  | entry :: rest =>
    match longest? rest with
    | none => some entry
    | some best => if best.1.length < entry.1.length then some entry else some best

/-- The route by which an address is forwarded. -/
def lookup (fib : Fib) (address : Address) : Option ForwardingRoute :=
  (longest? (fib.routes.entries.filter fun entry => entry.1.covers address)).map Prod.snd

def size (fib : Fib) : Nat :=
  fib.routes.size

def isEmpty (fib : Fib) : Bool :=
  fib.routes.isEmpty

/-- The routes of a family, by address and then by length. -/
def routesOf (fib : Fib) (family : Family) : List ForwardingRoute :=
  (fib.routes.entries.filter fun entry => entry.1.family = family).map Prod.snd

end Fib

end ControlPlane
