/-
This file writes the tables of a VRF: the candidates of every prefix, with the
selected ones marked, and the routes in use for forwarding.
-/

import ControlPlane.Vrf

namespace ControlPlane

open Text

/-- The mark of what is selected. -/
def selectedMark (selected : Bool) : String :=
  if selected then "*" else ""

/-- The line of a next hop of a candidate. -/
def candidateHopText (candidate : Candidate) (hop : Hop) : String :=
  "\t" ++ selectedMark (candidate.selected && hop.selected) ++ "via  " ++ hop.nextHop.text ++
    ",  " ++ ForwardingRoute.costText candidate.distance candidate.metric ++ ",  " ++
    candidate.origin.name ++ "\n"

/-- The lines of a prefix: the number of its next hops, and each of them. -/
def candidateSetText (destination : Prefix) (set : CandidateSet) : String :=
  selectedMark set.installed.isSome ++ destination.text ++ ",  " ++ decimal set.hopCount ++
    " unicast next-hops\n" ++
    String.join (set.list.flatMap fun candidate =>
      candidate.hops.map (candidateHopText candidate))

/-- The candidates of a family, or nothing if there are none. -/
def Rib.text (rib : Rib) : String :=
  if rib.isEmpty then ""
  else
    "Displaying " ++ rib.family.name ++ " rib entries\n\n'*' denotes selected\n" ++
      "'[x/y]' denotes [distance/metric]\n\n" ++
      String.join (rib.sets.entries.map fun entry => candidateSetText entry.1 entry.2) ++ "\n"

/-- The forwarding routes of a family, or nothing if there are none. -/
def Fib.text (fib : Fib) (family : Family) : String :=
  let routes := fib.routesOf family
  if routes.isEmpty then ""
  else
    "Displaying " ++ family.name ++ " routes selected for forwarding\n\n" ++
      "'[x/y]' denotes [distance/metric]\n\n" ++
      String.join (routes.map ForwardingRoute.text) ++ "\n"

/-- The candidates of both families. -/
def Vrf.ribText (vrf : Vrf) : String :=
  vrf.rib4.text ++ vrf.rib6.text

/-- The forwarding routes of a family. -/
def Vrf.fibText (vrf : Vrf) (family : Family) : String :=
  vrf.sync.fib.text family

end ControlPlane
