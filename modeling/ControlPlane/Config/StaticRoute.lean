/-
This file defines static routes, their text form `<prefix> <nexthop> [distance]`
and what makes them valid.
-/

import ControlPlane.Config.Data
import ControlPlane.Config.Error
import ControlPlane.NextHop

namespace ControlPlane

open Text

/-- A destination reached through a next hop at some distance. -/
structure StaticRoute where
  destination : Network
  nextHop : NextHop
  distance : UInt8
  deriving DecidableEq

namespace StaticRoute

/-- The distance of static routes that do not say theirs. -/
def standardDistance : UInt8 := 1

/-- Accepts the static routes that a router with the given addresses may use. -/
def validate (localAddresses : List Address) (route : StaticRoute) : ConfigResult := do
  checkDestination route.destination
  if route.distance = 0 then
    throw (.badDistance 0)
  match route.nextHop with
  | .gateway address pinned =>
    if address.family ≠ route.destination.family then
      throw (.familyMismatch address route.destination)
    checkGateway address pinned.isSome
    if localAddresses.contains address then
      throw (.localNextHop address)
  | .interface _ => pure ()

/-! ### Text -/

/-- Reads the second word of a static route: an address, or the name of an interface, which has
neither a dot nor a colon. -/
def readNextHop (letters : List Char) : Except ConfigError NextHop :=
  match Address.ofLetters? letters with
  | some address => .ok (.gateway address none)
  | none =>
    if letters.contains '.' || letters.contains ':' then
      .error (.malformedNextHop (String.ofList letters))
    else .ok (.interface (String.ofList letters))

/-- Reads the third word of a static route. -/
def readDistance (letters : List Char) : Except ConfigError UInt8 :=
  match decimalBelow? UInt16.size letters with
  | none => .error (.unreadable ("bad distance '" ++ String.ofList letters ++ "'"))
  | some distance =>
    if 0 < distance ∧ distance < UInt8.size then .ok (UInt8.ofNat distance)
    else .error (.badDistance distance)

/-- Reads a static route from its words. -/
def ofWords : List (List Char) → Except ConfigError StaticRoute
  | [] => do
    let _ ← readDestination []
    throw (.malformedNextHop "")
  | [destination] => do
    let _ ← readDestination destination
    throw (.malformedNextHop "")
  | [destination, nextHop] => do
    let destination ← readDestination destination
    let nextHop ← readNextHop nextHop
    return ⟨destination, nextHop, standardDistance⟩
  | destination :: nextHop :: distance :: rest => do
    let destination ← readDestination destination
    let nextHop ← readNextHop nextHop
    let distance ← readDistance distance
    match rest with
    | [] => return ⟨destination, nextHop, distance⟩
    | extra :: _ => throw (.unreadable ("unexpected '" ++ String.ofList extra ++ "'"))

def ofText (text : String) : Except ConfigError StaticRoute :=
  ofWords (words text.toList)

/-- The command word of a family. -/
def commandWord : Family → String
  | .ipv4 => "ip"
  | .ipv6 => "ipv6"

/-- The words of a static route after the command, without a standard distance. -/
def argumentText (route : StaticRoute) : String :=
  route.destination.text ++ " " ++ route.nextHop.configText ++
    if route.distance = standardDistance then "" else " " ++ decimal route.distance.toNat

def text (route : StaticRoute) : String :=
  commandWord route.destination.family ++ " route " ++ route.argumentText

/-! ### Data -/

/-- Reads an address. -/
def readAddress? (data : Data) : Option Address :=
  data.text?.bind Address.ofText?

def readNetwork? (data : Data) : Option Network :=
  data.text?.bind Network.ofText?

/-- Reads a gateway from its fields. -/
def readGateway? (data : Data) : Option NextHop := do
  let entries ← data.record? ["address", "interface"]
  let address ← Data.required? "address" readAddress? entries
  let pinned ← Data.given? "interface" (Data.optional? Data.text?) none entries
  return .gateway address pinned

/-- Reads a next hop of a named kind. -/
def readNextHopOf? (name : String) (data : Data) : Option NextHop :=
  if name = "gateway" then readGateway? data
  else if name = "interface" then data.text?.map .interface
  else none

/-- Reads a next hop from the only field of a record, which has no private tag. -/
def readNextHopData? : Data → Option NextHop
  | .fields [(name, data)] => readNextHopOf? name data
  | .tagged tag (.fields [(name, data)]) =>
    if tag.toList.head? = some '!' then none else readNextHopOf? name data
  | _ => none

def ofData? (data : Data) : Option StaticRoute := do
  let entries ← data.record? ["prefix", "nexthop", "distance"]
  let destination ← Data.required? "prefix" readNetwork? entries
  let nextHop ← Data.required? "nexthop" readNextHopData? entries
  let distance ← Data.given? "distance" Data.uint8? standardDistance entries
  return ⟨destination, nextHop, distance⟩

/-- The data of a next hop. The interface of a gateway is left out when there is none. -/
def nextHopData : NextHop → Data
  | .gateway address none =>
    .fields [("gateway", .fields [("address", .ofAddress address)])]
  | .gateway address (some pinned) =>
    .fields [("gateway", .fields [("address", .ofAddress address), ("interface", .text pinned)])]
  | .interface name => .fields [("interface", .text name)]

def toData (route : StaticRoute) : Data :=
  .fields [("prefix", .ofNetwork route.destination), ("nexthop", nextHopData route.nextHop),
    ("distance", .ofNat route.distance.toNat)]

end StaticRoute

end ControlPlane
