/-
This file selects the route of a prefix among its candidates. The eligible
candidates with the least distance win, and among equal distances those of the
origin that comes first. The distinct next hops of all winners are merged, ranked
by metric and then by the order of forwarding hops, and cut to the limits that
apply.
-/

import ControlPlane.Route

namespace ControlPlane

/-- Limits on the number of next hops of a route. -/
structure SelectionPolicy where
  maxPaths : Option UInt16 := none
  bgpMaxPaths : Option UInt16 := none
  deriving DecidableEq

namespace SelectionPolicy

/-- The limit for the routes of an origin: the lower one of those that apply. -/
def cap? (policy : SelectionPolicy) (origin : Origin) : Option Nat :=
  let bgp := if origin = .bgp then policy.bgpMaxPaths else none
  match policy.maxPaths, bgp with
  | some general, some own => some (min general.toNat own.toNat)
  | some general, none => some general.toNat
  | none, some own => some own.toNat
  | none, none => none

end SelectionPolicy

/-- The candidates for a prefix and the route selected among them. -/
structure CandidateSet where
  candidates : SortedMap CandidateKey Candidate
  installed : Option ForwardingRoute
  deriving DecidableEq

/-! ### Winners -/

namespace Candidate

/-- The number by which candidates compare: their distance, and then their origin. -/
def preference (candidate : Candidate) : Nat :=
  candidate.distance.toNat * 4 + candidate.origin.rank

/-- Resolves the next hops of a candidate again and clears its mark. -/
def refresh (resolver : Resolver) (candidate : Candidate) : Candidate :=
  { candidate with selected := false, hops := candidate.hops.map (Hop.refresh resolver) }

/-- The forwarding hops that a candidate offers, each with its metric. -/
def offers (candidate : Candidate) : List (UInt32 × ForwardingHop) :=
  candidate.selectedHops.filterMap fun hop =>
    hop.egress.map fun egress =>
      (candidate.metric, ⟨hop.nextHop.gateway?, egress.name, egress.index⟩)

end Candidate

/-- The first of the candidates that no other one is preferred to. -/
def preferredCandidate? : List Candidate → Option Candidate
  | [] => none
  | candidate :: rest =>
    match preferredCandidate? rest with
    | none => some candidate
    | some best => if best.preference < candidate.preference then some best else some candidate

/-! ### Next hops of the route -/

/-- Keeps the first offer of every forwarding hop. -/
def distinctOffers : List (UInt32 × ForwardingHop) → List (UInt32 × ForwardingHop)
  | [] => []
  | offer :: rest => offer :: (distinctOffers rest).filter fun later => later.2 ≠ offer.2

/-- The offers in the order of metric and forwarding hop, each hop once, up to a limit. -/
def rankedOffers (cap : Option Nat) (offers : List (UInt32 × ForwardingHop)) :
    List (UInt32 × ForwardingHop) :=
  let ranked := distinctOffers (OrderKey.sort offers)
  match cap with
  | some limit => ranked.take limit
  | none => ranked

/-- The metric of a route that keeps no next hop. -/
def unreachableMetric : UInt32 := 0xFFFFFFFF

/-- The route made of the winning candidates. Its metric is the one of its first next hop. -/
def winningRoute (policy : SelectionPolicy) (destination : Prefix) (best : Candidate)
    (winners : List Candidate) : ForwardingRoute :=
  let offers := rankedOffers (policy.cap? best.origin) (winners.flatMap Candidate.offers)
  { destination
    origin := best.origin
    distance := best.distance
    metric := (offers.head?.map Prod.fst).getD unreachableMetric
    hops := offers.map Prod.snd }

/-! ### Selection -/

namespace CandidateSet

/-- The set without candidates. -/
def empty : CandidateSet :=
  ⟨SortedMap.empty, none⟩

/-- The candidates in the order of their keys. -/
def list (set : CandidateSet) : List Candidate :=
  set.candidates.values

def hopCount (set : CandidateSet) : Nat :=
  (set.list.map fun candidate => candidate.hops.length).sum

/-- Marks the candidates that share the preference of the best one. -/
def markWinners (best : Candidate) (candidate : Candidate) : Candidate :=
  { candidate with
    selected := candidate.isEligible && candidate.preference = best.preference }

/-- Selects the route of a prefix and answers how its forwarding changes. -/
def select (resolver : Resolver) (policy : SelectionPolicy) (destination : Prefix)
    (set : CandidateSet) : Delta × CandidateSet :=
  let refreshed := set.candidates.map fun _ candidate => candidate.refresh resolver
  match preferredCandidate? (refreshed.values.filter Candidate.isEligible) with
  | none => (.transition destination set.installed none, ⟨refreshed, none⟩)
  | some best =>
    let marked := refreshed.map fun _ candidate => markWinners best candidate
    let route :=
      winningRoute policy destination best (marked.values.filter Candidate.selected)
    (.transition destination set.installed (some route), ⟨marked, some route⟩)

end CandidateSet

end ControlPlane
