/-
This file classifies the addresses that are never forwarded to as a unicast
destination, and tells which of them an interface, a route or a router-id may
not use.
-/

import ControlPlane.Network

namespace ControlPlane

/-- A kind of address that is set aside. -/
inductive AddressClass
  | broadcast
  | multicast
  | loopback
  | unspecified
  | linkLocal
  | reserved
  deriving DecidableEq

def AddressClass.name : AddressClass → String
  | broadcast => "broadcast"
  | multicast => "multicast"
  | loopback => "loopback"
  | unspecified => "unspecified"
  | linkLocal => "link-local"
  | reserved => "reserved"

/-! ### Kinds of addresses -/

namespace IPv4

def firstOctet (word : IPv4) : Nat :=
  word.toNat / 2 ^ 24

def isBroadcast (word : IPv4) : Bool :=
  word.toNat = 2 ^ 32 - 1

/-- The addresses of 224.0.0.0/4. -/
def isMulticast (word : IPv4) : Bool :=
  word.toNat / 2 ^ 28 = 14

/-- The addresses of 127.0.0.0/8. -/
def isLoopback (word : IPv4) : Bool :=
  IPv4.firstOctet word = 127

def isUnspecified (word : IPv4) : Bool :=
  word.toNat = 0

/-- The kind of an address of version 4. The broadcast address comes first. -/
def class? (word : IPv4) : Option AddressClass :=
  if IPv4.isBroadcast word then some .broadcast
  else if IPv4.isMulticast word then some .multicast
  else if IPv4.isLoopback word then some .loopback
  else if IPv4.isUnspecified word then some .unspecified
  else none

/-- Whether an address may not serve as a router-id. -/
def isBadRouterId (word : IPv4) : Bool :=
  IPv4.isUnspecified word || IPv4.isMulticast word || IPv4.isBroadcast word

end IPv4

namespace IPv6

/-- The addresses of ff00::/8. -/
def isMulticast (word : IPv6) : Bool :=
  word.toNat / 2 ^ 120 = 255

def isLoopback (word : IPv6) : Bool :=
  word.toNat = 1

def isUnspecified (word : IPv6) : Bool :=
  word.toNat = 0

/-- The addresses of fe80::/10. -/
def isLinkLocal (word : IPv6) : Bool :=
  word.toNat / 2 ^ 118 = 1018

/-- The kind of an address of version 6, link-local addresses apart. -/
def class? (word : IPv6) : Option AddressClass :=
  if IPv6.isMulticast word then some .multicast
  else if IPv6.isLoopback word then some .loopback
  else if IPv6.isUnspecified word then some .unspecified
  else none

end IPv6

/-! ### What may be used where -/

namespace Address

def isLinkLocal : Address → Bool
  | v4 _ => false
  | v6 word => IPv6.isLinkLocal word

end Address

/-- The class that keeps a network from being the destination of a route. The default routes
are destinations although their address is unspecified. -/
def Network.destinationClass? (network : Network) : Option AddressClass :=
  match network.base with
  | .v4 word =>
    match IPv4.class? word with
    | some .unspecified => if network.length = 0 then none else some .unspecified
    | other => other
  | .v6 word =>
    if IPv6.isUnspecified word && network.length = 0 then none
    else if IPv6.isLinkLocal word then some .linkLocal
    else IPv6.class? word

/-- The class that keeps an address from being a gateway, link-local addresses apart. -/
def Address.gatewayClass? : Address → Option AddressClass
  | .v4 word =>
    match IPv4.class? word with
    | some kind => some kind
    | none => if 240 ≤ IPv4.firstOctet word then some .reserved else none
  | .v6 word => IPv6.class? word

/-- The class that keeps an address from being that of an interface. -/
def Address.interfaceClass? : Address → Option AddressClass
  | .v4 word =>
    if IPv4.isMulticast word then some .multicast
    else if IPv4.isBroadcast word then some .broadcast
    else if IPv4.isUnspecified word then some .unspecified
    else none
  | .v6 word =>
    if IPv6.isMulticast word then some .multicast
    else if IPv6.isUnspecified word then some .unspecified
    else none

end ControlPlane
