/-
This file lists the events that a router records for its operator.
-/

import ControlPlane.Interface.Change

namespace ControlPlane

open Text

/-- Something an operator may want to know about afterwards. -/
inductive RoutingEvent
  | configRejected (reason : String)
  | syncFailed (vrf : UInt32) (destination : Prefix) (error : KernelError)
  | interface (change : InterfaceChange)
  | routerIdChanged (vrf : UInt32) (routerId : Option IPv4)
  | vrfAdded (name : String)
  | vrfRemoved (name : String)
  deriving DecidableEq

def RoutingEvent.text : RoutingEvent → String
  | configRejected reason => "configuration rejected: " ++ reason
  | syncFailed vrf destination error =>
    "vrf " ++ decimal vrf.toNat ++ ": failed to sync " ++ destination.text ++ ": " ++ error.message
  | interface change => change.text
  | routerIdChanged vrf (some word) =>
    "vrf " ++ decimal vrf.toNat ++ ": router-id is now " ++ IPv4.text word
  | routerIdChanged vrf none => "vrf " ++ decimal vrf.toNat ++ ": no router-id"
  | vrfAdded name => "vrf " ++ name ++ " added"
  | vrfRemoved name => "vrf " ++ name ++ " removed"

end ControlPlane
