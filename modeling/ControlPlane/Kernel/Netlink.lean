/-
This file defines the route messages by which a kernel is programmed over
netlink: how a route becomes a message, how a message is read back, and where the
namespaces of kernels are mounted. Numbers in messages are those of the kernel.
-/

import ControlPlane.Kernel.Route

namespace ControlPlane.Netlink

open Text

/-! ### Messages -/

/-- An attribute of one next hop of several. Bytes that are not an address can be a gateway, and
attributes of other kinds say nothing about the next hop. -/
inductive HopAttribute
  | gateway (address : Address)
  | rawGateway (bytes : List UInt8)
  | other (kind : UInt16) (bytes : List UInt8)
  deriving DecidableEq

/-- A next hop of several. -/
structure MessageHop where
  index : UInt32
  attributes : List HopAttribute
  deriving DecidableEq

/-- An attribute of a route message. Bytes that are not an address can be a destination. -/
inductive Attribute
  | destination (address : Address)
  | rawDestination (bytes : List UInt8)
  | outputInterface (index : UInt32)
  | hop (part : HopAttribute)
  | multipath (hops : List MessageHop)
  | table (id : UInt32)
  | priority (value : UInt32)
  deriving DecidableEq

/-- A route message: its header and its attributes. -/
structure Message where
  family : UInt8
  length : UInt8
  table : UInt8
  protocol : UInt8
  scope : UInt8
  kind : UInt8
  attributes : List Attribute
  deriving DecidableEq

/-! ### Numbers of the kernel -/

/-- The main routing table. -/
def mainTable : UInt8 := 254

/-- The kind of routes to a single destination. -/
def unicastKind : UInt8 := 1

def familyNumber : Family → UInt8
  | .ipv4 => 2
  | .ipv6 => 10

/-- The family of a number; every number but that of version 6 stands for version 4. -/
def familyOfNumber (number : UInt8) : Family :=
  if number = 10 then .ipv6 else .ipv4

def protocolNumber : Origin → UInt8
  | .connected => 2
  | .static => 4
  | .ospf => 188
  | .bgp => 186

/-- The origin of a protocol number. Routes of unknown protocols count as static. -/
def originOfNumber (number : UInt8) : Origin :=
  if number = 2 then .connected
  else if number = 188 then .ospf
  else if number = 186 then .bgp
  else .static

def universeScope : UInt8 := 0

def linkScope : UInt8 := 253

def nowhereScope : UInt8 := 255

/-! ### Writing -/

/-- A message for a destination in the main table. -/
def baseMessage (destination : Prefix) (protocol scope : UInt8) : Message where
  family := familyNumber destination.family
  length := UInt8.ofNat destination.length
  table := mainTable
  protocol := protocol
  scope := scope
  kind := unicastKind
  attributes := [.destination destination.address]

/-- The scope of a route: the link, if its only next hop has no gateway. -/
def scopeOf : List ForwardingHop → UInt8
  | [hop] => if hop.gateway.isNone then linkScope else universeScope
  | _ => universeScope

def gatewayAttributes (hop : ForwardingHop) : List HopAttribute :=
  hop.gateway.toList.map .gateway

/-- The attributes of the next hops of a route. A single one is given by the message itself. -/
def hopAttributes : List ForwardingHop → List Attribute
  | [] => []
  | [hop] => .outputInterface hop.index :: (gatewayAttributes hop).map .hop
  | hops => [.multipath (hops.map fun hop => ⟨hop.index, gatewayAttributes hop⟩)]

/-- A way to build the message for a destination, a protocol and a scope. -/
def MessageBuilder : Type :=
  Prefix → UInt8 → UInt8 → Message

/-- The message that adds or replaces a route, on top of what a builder makes. -/
def Message.ofRouteBy (build : MessageBuilder) (route : KernelRoute) : Message :=
  let base := build route.destination (protocolNumber route.protocol) (scopeOf route.hops)
  { base with attributes := base.attributes ++ hopAttributes route.hops }

/-- The message that adds or replaces a route. -/
def Message.ofRoute (route : KernelRoute) : Message :=
  Message.ofRouteBy baseMessage route

/-- The message that deletes the route of a prefix, whatever its protocol and scope are. -/
def Message.toDelete (destination : Prefix) : Message :=
  baseMessage destination 0 nowhereScope

/-! ### Reading -/

/-- The first gateway that is an address. -/
def gatewayOf? : List HopAttribute → Option Address
  | [] => none
  | .gateway address :: _ => some address
  | .rawGateway _ :: rest => gatewayOf? rest
  | .other _ _ :: rest => gatewayOf? rest

/-- The name of the interface of an index; unknown interfaces are named after their index. -/
def interfaceName (names : SortedMap UInt32 String) (index : UInt32) : String :=
  (names.find? index).getD (decimal index.toNat)

/-- The last value that a choice finds in a list. -/
def last? {Item Value : Type} (choose : Item → Option Value) (items : List Item) : Option Value :=
  (items.filterMap choose).getLast?

namespace Attribute

def table? : Attribute → Option UInt32
  | .table id => some id
  | _ => none

/-- The destination that an attribute gives, which may be none. -/
def destination? : Attribute → Option (Option Address)
  | .destination address => some (some address)
  | .rawDestination _ => some none
  | _ => none

def outputInterface? : Attribute → Option UInt32
  | .outputInterface index => some index
  | _ => none

def hop? : Attribute → Option HopAttribute
  | .hop part => some part
  | _ => none

def multipath? : Attribute → Option (List MessageHop)
  | .multipath hops => some hops
  | _ => none

end Attribute

namespace Message

/-- The table of a route: that of its last table attribute, or else that of the header. -/
def tableId (message : Message) : UInt32 :=
  (last? Attribute.table? message.attributes).getD message.table.toUInt32

/-- The destination of a route, which is unspecified if the last attribute for it is not an
address, or if there is none. -/
def destinationAddress (message : Message) : Address :=
  (last? Attribute.destination? message.attributes).join.getD
    (Address.unspecified (familyOfNumber message.family))

/-- The gateway of the only next hop. -/
def gateway? (message : Message) : Option Address :=
  gatewayOf? (message.attributes.filterMap Attribute.hop?)

def outputInterface? (message : Message) : Option UInt32 :=
  last? Attribute.outputInterface? message.attributes

/-- The several next hops of a message, as gateways and indexes. -/
def multipath (message : Message) : List (Option Address × UInt32) :=
  ((last? Attribute.multipath? message.attributes).getD []).map fun hop =>
    (gatewayOf? hop.attributes, hop.index)

/-- The next hops of a message: the several ones, or else the only one. -/
def hops (message : Message) : List (Option Address × UInt32) :=
  if message.multipath.isEmpty then
    message.outputInterface?.toList.map fun index => (message.gateway?, index)
  else message.multipath

/-- Reads a unicast route of the main table. -/
def route? (names : SortedMap UInt32 String) (message : Message) : Option KernelRoute :=
  if message.kind ≠ unicastKind || message.tableId ≠ mainTable.toUInt32 then none
  else
    match Prefix.make message.destinationAddress message.length.toNat with
    | .error _ => none
    | .ok destination =>
      some
        { destination
          protocol := originOfNumber message.protocol
          hops := message.hops.map fun (gateway, index) =>
            ⟨gateway, interfaceName names index, index⟩ }

end Message

/-! ### Namespaces -/

/-- Where named namespaces are mounted. -/
def standardDirectory : String := "/run/netns"

/-- The namespace that the process runs in and the directory of the others. -/
structure NamespaceMounts where
  host : String
  directory : String := standardDirectory

/-- A path under a directory. An absolute one stays as it is. -/
def joinPath (directory name : String) : String :=
  if name.toList.head? = some '/' then name
  else if directory.isEmpty || directory.toList.getLast? = some '/' then directory ++ name
  else directory ++ "/" ++ name

/-- Where a namespace is mounted; the one of the process has no place. -/
def NamespaceMounts.path? (mounts : NamespaceMounts) (name : String) : Option String :=
  if name = mounts.host then none else some (joinPath mounts.directory name)

/-- The failure to open a namespace that is not mounted. -/
def notMounted : KernelError :=
  ⟨.openNamespace, .noEntry⟩

end ControlPlane.Netlink
