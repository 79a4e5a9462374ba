/-
This file defines the configuration of an interface: its name and index, which
have to be given, and its other settings, which have defaults.
-/

import ControlPlane.Config.StaticRoute

namespace ControlPlane

/-- The kind of an interface. -/
inductive InterfaceKind
  | ethernet
  | loopback
  | lag
  | subinterface
  deriving DecidableEq

namespace InterfaceKind

def name : InterfaceKind → String
  | ethernet => "ethernet"
  | loopback => "loopback"
  | lag => "lag"
  | subinterface => "subinterface"

def ofName? (name : String) : Option InterfaceKind :=
  [ethernet, loopback, lag, subinterface].find? fun kind => kind.name = name

end InterfaceKind

/-- The name of the VRF that always exists. -/
def defaultVrfName : String := "vrf_default"

/-- The id of the VRF that always exists. -/
def defaultVrfId : UInt32 := 0

/-- The settings of an interface. -/
structure InterfaceConfig where
  name : String
  index : UInt32
  kind : InterfaceKind := .ethernet
  lag : Option String := none
  adminUp : Bool := true
  routing : Bool := true
  addresses : List Network := []
  vrf : String := defaultVrfName
  deriving DecidableEq

/-- An interface of which the name or the index may not be known yet. -/
structure InterfaceDraft where
  name : Option String := none
  index : Option UInt32 := none
  kind : InterfaceKind := .ethernet
  lag : Option String := none
  adminUp : Bool := true
  routing : Bool := true
  addresses : List Network := []
  vrf : String := defaultVrfName

/-- The settings without which an interface cannot be built. -/
inductive MissingSetting
  | name
  | index
  deriving DecidableEq

def MissingSetting.message : MissingSetting → String
  | name => "`name` must be initialized"
  | index => "`ifindex` must be initialized"

/-- The interface of a draft. The name is asked for before the index. -/
def InterfaceDraft.build (draft : InterfaceDraft) : Except MissingSetting InterfaceConfig := do
  let name ← (draft.name.elim (throw .name) pure : Except MissingSetting String)
  let index ← (draft.index.elim (throw .index) pure : Except MissingSetting UInt32)
  return { name, index, kind := draft.kind, lag := draft.lag, adminUp := draft.adminUp,
           routing := draft.routing, addresses := draft.addresses, vrf := draft.vrf }

namespace InterfaceConfig

/-- Checks addresses in order. -/
def checkAddresses (name : String) : List Network → ConfigResult
  | [] => .ok ()
  | network :: rest => do
    checkInterfaceAddress name network
    checkAddresses name rest

def validate (config : InterfaceConfig) : ConfigResult :=
  checkAddresses config.name config.addresses

def readKind? (data : Data) : Option InterfaceKind :=
  data.choice?.bind InterfaceKind.ofName?

def ofData? (data : Data) : Option InterfaceConfig := do
  let entries ← data.record?
    ["name", "ifindex", "kind", "lag", "admin_up", "routing", "addresses", "vrf"]
  let name ← Data.required? "name" Data.text? entries
  let index ← Data.required? "ifindex" Data.uint32? entries
  let kind ← Data.given? "kind" readKind? .ethernet entries
  let lag ← Data.given? "lag" (Data.optional? Data.text?) none entries
  let adminUp ← Data.given? "admin_up" Data.flag? true entries
  let routing ← Data.given? "routing" Data.flag? true entries
  let addresses ← Data.given? "addresses" (Data.list? StaticRoute.readNetwork?) [] entries
  let vrf ← Data.given? "vrf" Data.text? defaultVrfName entries
  return { name, index, kind, lag, adminUp, routing, addresses, vrf }

def toData (config : InterfaceConfig) : Data :=
  .fields [("name", .text config.name), ("ifindex", .ofNat config.index.toNat),
    ("kind", .text config.kind.name), ("lag", .ofOption .text config.lag),
    ("admin_up", .flag config.adminUp), ("routing", .flag config.routing),
    ("addresses", .list (config.addresses.map .ofNetwork)), ("vrf", .text config.vrf)]

end InterfaceConfig

end ControlPlane
