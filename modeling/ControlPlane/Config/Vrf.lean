/-
This file defines the configuration of a VRF and what makes it valid beside the
addresses of its interfaces.
-/

import ControlPlane.Config.Interface
import ControlPlane.Config.Protocol

namespace ControlPlane

/-- The settings of a VRF. -/
structure VrfConfig where
  name : String
  id : UInt32
  netns : Option String := none
  routerId : Option IPv4 := none
  bgp : Option BgpConfig := none
  distance : DistanceConfig := {}
  staticRoutes : List StaticRoute := []
  deriving DecidableEq

namespace VrfConfig

/-- The VRF that always exists. -/
def standard : VrfConfig :=
  { name := defaultVrfName, id := defaultVrfId }

/-- Sets the BGP router, unless one with another number is set. -/
def setBgp (config : VrfConfig) (bgp : BgpConfig) : Except ConfigError VrfConfig := do
  BgpConfig.checkInstance config.bgp bgp
  return { config with bgp := some bgp }

/-- Checks static routes in order. -/
def checkStaticRoutes (localAddresses : List Address) : List StaticRoute → ConfigResult
  | [] => .ok ()
  | route :: rest => do
    route.validate localAddresses
    checkStaticRoutes localAddresses rest

/-- Accepts the settings of a VRF whose interfaces have the given addresses. -/
def validate (localAddresses : List Address) (config : VrfConfig) : ConfigResult := do
  checkRouterId config.routerId
  match config.bgp with
  | some bgp => bgp.validate
  | none => pure ()
  config.distance.validate
  checkStaticRoutes localAddresses config.staticRoutes

def ofData? (data : Data) : Option VrfConfig := do
  let entries ← data.record?
    ["name", "id", "netns", "router_id", "bgp", "distance", "static_routes"]
  let name ← Data.required? "name" Data.text? entries
  let id ← Data.required? "id" Data.uint32? entries
  let netns ← Data.given? "netns" (Data.optional? Data.text?) none entries
  let routerId ← Data.given? "router_id" (Data.optional? BgpConfig.readRouterId?) none entries
  let bgp ← Data.given? "bgp" (Data.optional? BgpConfig.ofData?) none entries
  let distance ← Data.given? "distance" DistanceConfig.ofData? {} entries
  let staticRoutes ← Data.given? "static_routes" (Data.list? StaticRoute.ofData?) [] entries
  return { name, id, netns, routerId, bgp, distance, staticRoutes }

def toData (config : VrfConfig) : Data :=
  .fields [("name", .text config.name), ("id", .ofNat config.id.toNat),
    ("netns", .ofOption .text config.netns),
    ("router_id", .ofOption (fun word => .text (IPv4.text word)) config.routerId),
    ("bgp", .ofOption BgpConfig.toData config.bgp), ("distance", config.distance.toData),
    ("static_routes", .list (config.staticRoutes.map StaticRoute.toData))]

end VrfConfig

end ControlPlane
