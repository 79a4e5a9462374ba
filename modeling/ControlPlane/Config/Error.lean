/-
This file lists the reasons for which a configuration is refused and gives each
its message.
-/

import ControlPlane.Reserved
import ControlPlane.Tracing.Level

namespace ControlPlane

open Text

/-- Why a configuration is refused. -/
inductive ConfigError
  | missingMask (text : String)
  | malformedDestination (text : String)
  | malformedNextHop (text : String)
  | reservedDestination (network : Network) (kind : AddressClass)
  | reservedNextHop (address : Address) (kind : AddressClass)
  | localNextHop (address : Address)
  | familyMismatch (address : Address) (network : Network)
  | unboundLinkLocal (address : Address)
  | badDistance (distance : Nat)
  | otherAsnConfigured (asn : UInt32)
  | badAsn (asn : UInt32)
  | ecmpDisabled
  | badMaxPaths
  | duplicateVrfName (name : String)
  | duplicateVrfId (id : UInt32)
  | unknownVrf (name : String)
  | duplicateInterfaceName (name : String)
  | duplicateInterfaceIndex (index : UInt32)
  | unknownLag (name lag : String)
  | badInterfaceAddress (network : Network) (name : String) (kind : AddressClass)
  | badRouterId (routerId : IPv4)
  | tracing (error : Tracing.TraceError)
  | unreadable (reason : String)
  deriving DecidableEq

def ConfigError.message : ConfigError → String
  | missingMask text => "Prefix '" ++ text ++ "' has no mask length"
  | malformedDestination text => "Malformed prefix '" ++ text ++ "'"
  | malformedNextHop text => "Malformed next-hop '" ++ text ++ "'"
  | reservedDestination network kind =>
    "Prefix " ++ network.text ++ " is a " ++ kind.name ++ " address"
  | reservedNextHop address kind =>
    "Next-hop " ++ address.text ++ " is a " ++ kind.name ++ " address"
  | localNextHop address => "Next-hop " ++ address.text ++ " is a local address"
  | familyMismatch address network =>
    "Next-hop " ++ address.text ++ " and prefix " ++ network.text ++
      " belong to different address families"
  | unboundLinkLocal address => "Link-local next-hop " ++ address.text ++ " requires an interface"
  | badDistance distance =>
    "Administrative distance " ++ decimal distance ++ " out of range [1, 255]"
  | otherAsnConfigured asn => "Another BGP with ASN " ++ decimal asn.toNat ++ " already exists"
  | badAsn asn => "Invalid ASN " ++ decimal asn.toNat
  | ecmpDisabled => "ECMP cannot be disabled"
  | badMaxPaths => "Maximum paths must be at least 1"
  | duplicateVrfName name => "A VRF with name '" ++ name ++ "' already exists"
  | duplicateVrfId id => "A VRF with id " ++ decimal id.toNat ++ " already exists"
  | unknownVrf name => "No VRF named '" ++ name ++ "'"
  | duplicateInterfaceName name => "An interface with name '" ++ name ++ "' already exists"
  | duplicateInterfaceIndex index =>
    "An interface with ifindex " ++ decimal index.toNat ++ " already exists"
  | unknownLag name lag => "Interface '" ++ name ++ "' refers to unknown LAG '" ++ lag ++ "'"
  | badInterfaceAddress network name kind =>
    "Address " ++ network.text ++ " of interface '" ++ name ++ "' is invalid: " ++ kind.name
  | badRouterId routerId => "Router-id " ++ IPv4.text routerId ++ " is invalid"
  | tracing error => "Tracing: " ++ error.message
  | unreadable reason => "Could not parse configuration: " ++ reason

/-- What a check of a configuration answers. -/
abbrev ConfigResult : Type :=
  Except ConfigError Unit

/-- The text of what a check answers. -/
def ConfigResult.text : ConfigResult → String
  | .ok () => "Ok"
  | .error error => "FAILED: " ++ error.message

/-! ### Checks of addresses -/

/-- Accepts the networks that may be the destination of a route. -/
def checkDestination (network : Network) : ConfigResult :=
  match network.destinationClass? with
  | some kind => .error (.reservedDestination network kind)
  | none => .ok ()

/-- Accepts the addresses that may be a gateway. A link-local one must be pinned to an
interface. -/
def checkGateway (address : Address) (pinned : Bool) : ConfigResult :=
  if address.isLinkLocal && !pinned then .error (.unboundLinkLocal address)
  else
    match address.gatewayClass? with
    | some kind => .error (.reservedNextHop address kind)
    | none => .ok ()

/-- Accepts the addresses that an interface may have. -/
def checkInterfaceAddress (name : String) (network : Network) : ConfigResult :=
  match network.address.interfaceClass? with
  | some kind => .error (.badInterfaceAddress network name kind)
  | none => .ok ()

/-- Accepts the addresses that may be configured as a router-id. -/
def checkRouterId (routerId : Option IPv4) : ConfigResult :=
  match routerId with
  | some word => if IPv4.isBadRouterId word then .error (.badRouterId word) else .ok ()
  | none => .ok ()

/-- Reads a destination, which must have a mask length. -/
def readDestination (letters : List Char) : Except ConfigError Network :=
  let trimmed := trim letters
  if trimmed.contains '/' then
    match Network.ofLetters? trimmed with
    | some network => .ok network
    | none => .error (.malformedDestination (String.ofList trimmed))
  else .error (.missingMask (String.ofList trimmed))

end ControlPlane
