/-
This file defines routes: the candidates that protocols contribute for a prefix,
the forwarding routes that selection makes out of them, and the deltas between
successive forwarding routes of a prefix.
-/

import ControlPlane.Config.Protocol
import ControlPlane.SortedMap

namespace ControlPlane

open Text

/-! ### Candidates -/

/-- The protocol that a route comes from. -/
inductive Origin
  | connected
  | static
  | ospf
  | bgp
  deriving DecidableEq

namespace Origin

/-- The place of an origin among others at the same distance. -/
def rank : Origin → Nat
  | connected => 0
  | static => 1
  | ospf => 2
  | bgp => 3

theorem rank_injective {first second : Origin} (same : first.rank = second.rank) :
    first = second := by
  cases first <;> cases second <;> first | rfl | cases same

instance : OrderKey Origin where
  code origin := [origin.rank]
  split_code same := by
    have parts := List.cons.inj same
    exact ⟨rank_injective parts.1, parts.2⟩

def name : Origin → String
  | connected => "connected"
  | static => "static"
  | ospf => "ospf"
  | bgp => "bgp"

def ofName? (name : String) : Option Origin :=
  [connected, static, ospf, bgp].find? fun origin => origin.name = name

/-- The distance of the routes of an origin that do not say theirs. -/
def standardDistance : Origin → UInt8
  | connected => 0
  | static => StaticRoute.standardDistance
  | ospf => 110
  | bgp => externalDistance

end Origin

/-- A next hop of a candidate. Selection marks it when it can be reached and notes over which
interface. -/
structure Hop where
  nextHop : NextHop
  selected : Bool
  egress : Option Egress
  deriving DecidableEq

namespace Hop

/-- A next hop that has not been resolved yet. -/
def unresolved (nextHop : NextHop) : Hop :=
  ⟨nextHop, false, none⟩

/-- Resolves a next hop again. -/
def refresh (resolver : Resolver) (hop : Hop) : Hop :=
  let egress := resolver hop.nextHop
  { hop with selected := egress.isSome, egress }

/-- Whether the next hop names an interface or was last resolved over it. -/
def isBoundTo (hop : Hop) (name : String) : Bool :=
  hop.nextHop.names name || hop.egress.any fun egress => egress.name = name

end Hop

/-- What tells the candidates of a prefix apart: their origin and an instance of it. -/
abbrev CandidateKey : Type :=
  Origin × UInt32

/-- A route contributed by a protocol. -/
structure Candidate where
  vrf : UInt32
  destination : Prefix
  origin : Origin
  inst : UInt32
  distance : UInt8
  metric : UInt32
  hops : List Hop
  selected : Bool
  internal : Bool
  deriving DecidableEq

namespace Candidate

/-- A candidate without next hops, at the distance of its origin. -/
def create (vrf : UInt32) (destination : Prefix) (origin : Origin) : Candidate where
  vrf := vrf
  destination := destination
  origin := origin
  inst := 0
  distance := origin.standardDistance
  metric := 0
  hops := []
  selected := false
  internal := false

/-- Marks a candidate as learnt from an internal peer. A BGP route at the distance of external
peers moves to the one of internal peers. -/
def asInternal (candidate : Candidate) : Candidate :=
  { candidate with
    internal := true
    distance :=
      if candidate.origin = .bgp && candidate.distance = externalDistance then internalDistance
      else candidate.distance }

/-- Adds a next hop, unless the candidate has it. -/
def addHop (candidate : Candidate) (nextHop : NextHop) : Candidate :=
  if candidate.hops.any fun hop => hop.nextHop = nextHop then candidate
  else { candidate with hops := candidate.hops ++ [.unresolved nextHop] }

def key (candidate : Candidate) : CandidateKey :=
  (candidate.origin, candidate.inst)

def selectedHops (candidate : Candidate) : List Hop :=
  candidate.hops.filter Hop.selected

/-- Only candidates with a next hop that can be reached take part in the selection. -/
def isEligible (candidate : Candidate) : Bool :=
  candidate.hops.any Hop.selected

end Candidate

/-! ### Forwarding routes -/

/-- A resolved next hop. -/
structure ForwardingHop where
  gateway : Option Address
  name : String
  index : UInt32
  deriving DecidableEq

/-- Forwarding hops are ordered by gateway, none first, then by interface name and index. -/
instance : OrderKey ForwardingHop where
  code hop := OrderKey.code (hop.gateway, hop.name, hop.index)
  split_code {first second rest rest'} same := by
    have parts := OrderKey.split_code same
    refine ⟨?_, parts.2⟩
    cases first
    cases second
    cases parts.1
    rfl

/-- The route that packets to a prefix take. -/
structure ForwardingRoute where
  destination : Prefix
  origin : Origin
  distance : UInt8
  metric : UInt32
  hops : List ForwardingHop
  deriving DecidableEq

namespace ForwardingRoute

/-- The distance and metric of a route in brackets. -/
def costText (distance : UInt8) (metric : UInt32) : String :=
  "[" ++ decimal distance.toNat ++ "/" ++ decimal metric.toNat ++ "]"

def hopText (route : ForwardingRoute) (hop : ForwardingHop) : String :=
  "\tvia  " ++ (hop.gateway.map Address.text).getD hop.name ++ ",  " ++
    costText route.distance route.metric ++ ",  " ++ route.origin.name ++ "\n"

def text (route : ForwardingRoute) : String :=
  route.destination.text ++ ",  " ++ decimal route.hops.length ++ " unicast next-hops\n" ++
    String.join (route.hops.map route.hopText)

end ForwardingRoute

/-! ### Deltas -/

/-- How the forwarding of a prefix changes. -/
inductive Delta
  | unchanged (destination : Prefix)
  | add (new : ForwardingRoute)
  | replace (old new : ForwardingRoute)
  | remove (old : ForwardingRoute)
  deriving DecidableEq

namespace Delta

/-- The change from one forwarding route of a prefix to the next. -/
def transition (destination : Prefix) (old new : Option ForwardingRoute) : Delta :=
  match old, new with
  | none, none => unchanged destination
  | none, some new => add new
  | some old, none => remove old
  | some old, some new => if old = new then unchanged destination else replace old new

def destination : Delta → Prefix
  | unchanged destination => destination
  | add new => new.destination
  | replace _ new => new.destination
  | remove old => old.destination

def isUnchanged : Delta → Bool
  | unchanged _ => true
  | _ => false

/-- The route that forwarding should have after the change. -/
def desired? : Delta → Option ForwardingRoute
  | unchanged _ => none
  | add new => some new
  | replace _ new => some new
  | remove _ => none

/-- The number of next hops of a route and its origin. -/
def hopsText (route : ForwardingRoute) : String :=
  decimal route.hops.length ++ " nhops (" ++ route.origin.name ++ ")"

def text : Delta → String
  | unchanged destination => destination.text ++ ": unchanged"
  | add new => new.destination.text ++ ": add " ++ hopsText new
  | replace old new =>
    new.destination.text ++ ": replace " ++ hopsText old ++ " with " ++ hopsText new
  | remove old => old.destination.text ++ ": remove"

end Delta

end ControlPlane
