/-
This file holds the static routes of a VRF: for every prefix its next hops with
their distances. The routes of a prefix become one candidate per distance, with
the distance as instance.
-/

import ControlPlane.Route
import ControlPlane.RouteError

namespace ControlPlane

/-- The static routes by prefix and next hop. A prefix is listed while it has next hops. -/
structure StaticTable where
  routes : SortedMap Prefix (SortedMap NextHop UInt8)
  deriving DecidableEq

namespace StaticTable

/-- The table without routes. -/
def empty : StaticTable :=
  ⟨SortedMap.empty⟩

def size (table : StaticTable) : Nat :=
  (table.routes.values.map SortedMap.size).sum

def isEmpty (table : StaticTable) : Bool :=
  table.routes.isEmpty

/-- The next hops of a prefix with their distances. -/
def hopsOf (table : StaticTable) (destination : Prefix) : SortedMap NextHop UInt8 :=
  (table.routes.find? destination).getD SortedMap.empty

/-- Adds a static route. The next hop of a prefix takes the distance it was last given. -/
def add (table : StaticTable) (route : StaticRoute) : Prefix × StaticTable :=
  let destination := Prefix.ofNetwork route.destination
  (destination,
    ⟨table.routes.insert destination
      ((table.hopsOf destination).insert route.nextHop route.distance)⟩)

/-- Removes a static route, whatever its distance is. -/
def remove (table : StaticTable) (route : StaticRoute) :
    Except RouteError (Prefix × StaticTable) :=
  let destination := Prefix.ofNetwork route.destination
  if (table.hopsOf destination).contains route.nextHop then
    let kept := (table.hopsOf destination).erase route.nextHop
    .ok (destination,
      ⟨if kept.isEmpty then table.routes.erase destination
        else table.routes.insert destination kept⟩)
  else .error (.unknownRoute destination)

/-- Adds a next hop to the candidate of its distance. -/
def addToDistance (vrf : UInt32) (destination : Prefix) (byDistance : SortedMap UInt8 Candidate)
    (entry : NextHop × UInt8) : SortedMap UInt8 Candidate :=
  let fresh : Candidate :=
    { Candidate.create vrf destination .static with
      distance := entry.2
      inst := entry.2.toUInt32 }
  byDistance.insert entry.2 (((byDistance.find? entry.2).getD fresh).addHop entry.1)

/-- The candidates for a prefix, by ascending distance. -/
def candidates (table : StaticTable) (vrf : UInt32) (destination : Prefix) : List Candidate :=
  ((table.hopsOf destination).entries.foldl (addToDistance vrf destination)
    SortedMap.empty).values

/-- Removes the next hops that name an interface or are listed with their prefix as resolved over
it. The prefixes that lost a next hop are answered in order. -/
def purge (table : StaticTable) (name : String) (resolved : List (Prefix × NextHop)) :
    List Prefix × StaticTable :=
  let bound := fun destination nextHop =>
    nextHop.names name || resolved.contains (destination, nextHop)
  let kept := table.routes.map fun destination hops =>
    hops.filter fun nextHop _ => !bound destination nextHop
  let affected := table.routes.entries.filter fun entry =>
    entry.2.entries.any fun hop => bound entry.1 hop.1
  (affected.map Prod.fst, ⟨kept.filter fun _ hops => !hops.isEmpty⟩)

/-- The static routes of the table as they are configured. -/
def configs (table : StaticTable) : List StaticRoute :=
  table.routes.entries.flatMap fun entry =>
    entry.2.entries.map fun hop => ⟨entry.1.network, hop.1, hop.2⟩

end StaticTable

end ControlPlane
