/-
This file defines the configuration of a whole router and its validation, which
names the first thing that is wrong: the limits on paths come first, then the
interfaces, the LAGs they belong to, the VRFs, and the tracing tags.
-/

import ControlPlane.Config.Tracing
import ControlPlane.Config.Vrf

namespace ControlPlane

/-- The configuration of a router. -/
structure SystemConfig where
  vrfs : List VrfConfig := []
  interfaces : List InterfaceConfig := []
  ecmp : EcmpConfig := {}
  tracing : Option TracingConfig := none
  deriving DecidableEq

namespace SystemConfig

/-- The addresses of the interfaces that are attached to a VRF. -/
def localAddresses (config : SystemConfig) (vrf : String) : List Address :=
  (config.interfaces.filter fun interface => interface.vrf = vrf).flatMap fun interface =>
    interface.addresses.map Network.address

/-! ### Validation -/

/-- Checks interfaces in order, given those in front of them. -/
def checkInterfaces (config : SystemConfig) (earlier : List InterfaceConfig) :
    List InterfaceConfig → ConfigResult
  | [] => .ok ()
  | interface :: rest => do
    if earlier.any fun other => other.name = interface.name then
      throw (.duplicateInterfaceName interface.name)
    if earlier.any fun other => other.index = interface.index then
      throw (.duplicateInterfaceIndex interface.index)
    if interface.vrf ≠ defaultVrfName && !config.vrfs.any fun vrf => vrf.name = interface.vrf then
      throw (.unknownVrf interface.vrf)
    interface.validate
    checkInterfaces config (interface :: earlier) rest

/-- Whether a name is that of a configured LAG. -/
def hasLag (config : SystemConfig) (name : String) : Bool :=
  config.interfaces.any fun interface => interface.name = name && interface.kind = .lag

/-- Checks that members of LAGs name one. -/
def checkLags (config : SystemConfig) : List InterfaceConfig → ConfigResult
  | [] => .ok ()
  | interface :: rest => do
    match interface.lag with
    | some lag => if !config.hasLag lag then throw (.unknownLag interface.name lag)
    | none => pure ()
    checkLags config rest

/-- Checks VRFs in order, given those in front of them. -/
def checkVrfs (config : SystemConfig) (earlier : List VrfConfig) : List VrfConfig → ConfigResult
  | [] => .ok ()
  | vrf :: rest => do
    if earlier.any fun other => other.name = vrf.name then
      throw (.duplicateVrfName vrf.name)
    if earlier.any fun other => other.id = vrf.id then
      throw (.duplicateVrfId vrf.id)
    if vrf.name = defaultVrfName && vrf.id ≠ defaultVrfId then
      throw (.duplicateVrfName vrf.name)
    if vrf.name ≠ defaultVrfName && vrf.id = defaultVrfId then
      throw (.duplicateVrfId vrf.id)
    vrf.validate (config.localAddresses vrf.name)
    checkVrfs config (vrf :: earlier) rest

/-- Accepts the configurations that a router with the given tracing targets can take. -/
def validate (targets : Tracing.TargetTable) (config : SystemConfig) : ConfigResult := do
  config.ecmp.validate
  checkInterfaces config [] config.interfaces
  checkLags config config.interfaces
  checkVrfs config [] config.vrfs
  match config.tracing with
  | some tracing => tracing.validate targets
  | none => pure ()

/-! ### Data -/

def ofData? (data : Data) : Option SystemConfig := do
  let entries ← data.record? ["vrfs", "interfaces", "ecmp", "tracing"]
  let vrfs ← Data.given? "vrfs" (Data.list? VrfConfig.ofData?) [] entries
  let interfaces ← Data.given? "interfaces" (Data.list? InterfaceConfig.ofData?) [] entries
  let ecmp ← Data.given? "ecmp" EcmpConfig.ofData? {} entries
  let tracing ← Data.given? "tracing" (Data.optional? TracingConfig.ofData?) none entries
  return { vrfs, interfaces, ecmp, tracing }

def toData (config : SystemConfig) : Data :=
  .fields [("vrfs", .list (config.vrfs.map VrfConfig.toData)),
    ("interfaces", .list (config.interfaces.map InterfaceConfig.toData)),
    ("ecmp", config.ecmp.toData), ("tracing", .ofOption TracingConfig.toData config.tracing)]

end SystemConfig

end ControlPlane
