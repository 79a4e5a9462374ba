/-
This file defines the settings of routing protocols as route selection sees
them: the BGP router of a VRF, the limits on equal-cost paths and the distances
that replace those of dynamic protocols.
-/

import ControlPlane.Config.StaticRoute

namespace ControlPlane

/-! ### BGP -/

/-- The distance of routes learnt from external peers. -/
def externalDistance : UInt8 := 20

/-- The distance of routes learnt from internal peers. -/
def internalDistance : UInt8 := 200

/-- The settings of a BGP router. -/
structure BgpConfig where
  asn : UInt32
  routerId : Option IPv4 := none
  maximumPaths : UInt16 := 1
  distanceExternal : UInt8 := externalDistance
  distanceInternal : UInt8 := internalDistance
  deriving DecidableEq

namespace BgpConfig

/-- The distance of a route learnt from an internal or an external peer. -/
def distance (config : BgpConfig) (internal : Bool) : UInt8 :=
  if internal then config.distanceInternal else config.distanceExternal

def validate (config : BgpConfig) : ConfigResult := do
  if config.asn = 0 then
    throw (.badAsn config.asn)
  if config.maximumPaths = 0 then
    throw .badMaxPaths
  if config.distanceExternal = 0 || config.distanceInternal = 0 then
    throw (.badDistance 0)
  checkRouterId config.routerId

/-- Accepts the BGP router of a VRF beside the one it has: there is one number per VRF. -/
def checkInstance (existing : Option BgpConfig) (config : BgpConfig) : ConfigResult :=
  match existing with
  | some current =>
    if current.asn ≠ config.asn then .error (.otherAsnConfigured current.asn) else config.validate
  | none => config.validate

def readRouterId? (data : Data) : Option IPv4 :=
  data.text?.bind IPv4.ofText?

def ofData? (data : Data) : Option BgpConfig := do
  let entries ← data.record?
    ["asn", "router_id", "maximum_paths", "distance_ebgp", "distance_ibgp"]
  let asn ← Data.required? "asn" Data.uint32? entries
  let routerId ← Data.given? "router_id" (Data.optional? readRouterId?) none entries
  let maximumPaths ← Data.given? "maximum_paths" Data.uint16? 1 entries
  let distanceExternal ← Data.given? "distance_ebgp" Data.uint8? externalDistance entries
  let distanceInternal ← Data.given? "distance_ibgp" Data.uint8? internalDistance entries
  return { asn, routerId, maximumPaths, distanceExternal, distanceInternal }

def toData (config : BgpConfig) : Data :=
  .fields [("asn", .ofNat config.asn.toNat),
    ("router_id", .ofOption (fun word => .text (IPv4.text word)) config.routerId),
    ("maximum_paths", .ofNat config.maximumPaths.toNat),
    ("distance_ebgp", .ofNat config.distanceExternal.toNat),
    ("distance_ibgp", .ofNat config.distanceInternal.toNat)]

end BgpConfig

/-! ### Equal-cost paths -/

/-- The settings of equal-cost paths; without a limit all of them are used. -/
structure EcmpConfig where
  enabled : Bool := true
  maxPaths : Option UInt16 := none
  deriving DecidableEq

namespace EcmpConfig

def validate (config : EcmpConfig) : ConfigResult := do
  if !config.enabled then
    throw .ecmpDisabled
  if config.maxPaths = some 0 then
    throw .badMaxPaths

def ofData? (data : Data) : Option EcmpConfig := do
  let entries ← data.record? ["enabled", "max_paths"]
  let enabled ← Data.given? "enabled" Data.flag? true entries
  let maxPaths ← Data.given? "max_paths" (Data.optional? Data.uint16?) none entries
  return { enabled, maxPaths }

def toData (config : EcmpConfig) : Data :=
  .fields [("enabled", .flag config.enabled),
    ("max_paths", .ofOption (fun limit => .ofNat limit.toNat) config.maxPaths)]

end EcmpConfig

/-! ### Distances -/

/-- The distances that replace those of dynamic protocols. -/
structure DistanceConfig where
  ospf : Option UInt8 := none
  bgp : Option UInt8 := none
  deriving DecidableEq

namespace DistanceConfig

/-- Refuses a distance of zero. -/
def validate (config : DistanceConfig) : ConfigResult :=
  if config.ospf = some 0 || config.bgp = some 0 then .error (.badDistance 0) else .ok ()

def ofData? (data : Data) : Option DistanceConfig := do
  let entries ← data.record? ["ospf", "bgp"]
  let ospf ← Data.given? "ospf" (Data.optional? Data.uint8?) none entries
  let bgp ← Data.given? "bgp" (Data.optional? Data.uint8?) none entries
  return { ospf, bgp }

def toData (config : DistanceConfig) : Data :=
  .fields [("ospf", .ofOption (fun distance => .ofNat distance.toNat) config.ospf),
    ("bgp", .ofOption (fun distance => .ofNat distance.toNat) config.bgp)]

end DistanceConfig

end ControlPlane
