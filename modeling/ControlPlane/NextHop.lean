/-
This file defines next hops and what they are resolved to. A next hop is a
gateway, which may be pinned to an interface, or an interface. A resolver tells
over which interface, if any, a next hop can currently be reached.
-/

import ControlPlane.Network

namespace ControlPlane

open Text

/-- Where packets are sent next. -/
inductive NextHop
  | gateway (address : Address) (pinned : Option String)
  | interface (name : String)
  deriving DecidableEq

namespace NextHop

/-- Gateways come before interfaces. -/
instance : OrderKey NextHop where
  code
    | gateway address pinned => 0 :: (OrderKey.code address ++ OrderKey.code pinned)
    | interface name => 1 :: OrderKey.code name
  split_code {first second rest rest'} same := by
    cases first with
    | gateway address pinned =>
      cases second with
      | gateway address' pinned' =>
        have tails := (List.cons.inj same).2
        rw [List.append_eq, List.append_eq, List.append_assoc, List.append_assoc] at tails
        have addresses := OrderKey.split_code tails
        have pins := OrderKey.split_code addresses.2
        exact ⟨by rw [addresses.1, pins.1], pins.2⟩
      | interface name => cases (List.cons.inj same).1
    | interface name =>
      cases second with
      | gateway address pinned => cases (List.cons.inj same).1
      | interface name' =>
        have names := OrderKey.split_code (List.cons.inj same).2
        exact ⟨by rw [names.1], names.2⟩

/-- Whether the next hop is, or is pinned to, the interface of a name. -/
def names (nextHop : NextHop) (name : String) : Bool :=
  match nextHop with
  | gateway _ (some pinned) => pinned = name
  | gateway _ none => false
  | interface own => own = name

def gateway? : NextHop → Option Address
  | gateway address _ => some address
  | interface _ => none

/-- The next hop as tables show it. -/
def text : NextHop → String
  | gateway address none => address.text
  | gateway address (some pinned) => address.text ++ " (" ++ pinned ++ ")"
  | interface name => name

/-- The next hop as it is configured. -/
def configText : NextHop → String
  | gateway address none => address.text
  | gateway address (some pinned) => address.text ++ " " ++ pinned
  | interface name => name

end NextHop

/-- The interface over which a next hop is reached. -/
structure Egress where
  index : UInt32
  name : String
  deriving DecidableEq

/-- Tells over which interface a next hop can be reached, if it can. -/
abbrev Resolver : Type :=
  NextHop → Option Egress

end ControlPlane
