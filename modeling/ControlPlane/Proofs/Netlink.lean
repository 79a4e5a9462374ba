/-
This file proves that a kernel route survives its way through a route message.
Whatever way of building messages is used, as long as it puts what it is asked
for into the message, a route whose next hops have the names of their interfaces
is read back as it was written, and what is read from any message is such a
route: writing and reading it again changes nothing.
-/

import ControlPlane.Kernel.Netlink
import ControlPlane.Proofs.Prefix

namespace ControlPlane

namespace Netlink

/-! ### The last value of a list -/

section Last

variable {Item Value : Type} {choose : Item → Option Value} {items rest : List Item}

theorem filterMap_eq_nil_of_none (none_of_mem : ∀ item ∈ items, choose item = none) :
    items.filterMap choose = [] :=
  List.filterMap_eq_nil_iff.2 none_of_mem

theorem last?_append_left (none_of_mem : ∀ item ∈ rest, choose item = none) :
    last? choose (items ++ rest) = last? choose items := by
  rw [last?, List.filterMap_append, filterMap_eq_nil_of_none none_of_mem, List.append_nil, last?]

theorem last?_append_right (none_of_mem : ∀ item ∈ items, choose item = none) :
    last? choose (items ++ rest) = last? choose rest := by
  rw [last?, List.filterMap_append, filterMap_eq_nil_of_none none_of_mem, List.nil_append, last?]

/-- If all that is found is one value, this is the last one. -/
theorem last?_eq_some {value : Value} {found : Item} (member : found ∈ items)
    (chosen : choose found = some value)
    (unique : ∀ item ∈ items, choose item = none ∨ choose item = some value) :
    last? choose items = some value := by
  have valueMem : value ∈ items.filterMap choose := List.mem_filterMap.2 ⟨found, member, chosen⟩
  have nonempty := List.ne_nil_of_mem valueMem
  have lastMem := List.getLast_mem nonempty
  obtain ⟨item, itemMem, itemChosen⟩ := List.mem_filterMap.1 lastMem
  rw [last?, List.getLast?_eq_some_getLast nonempty]
  rcases unique item itemMem with nothing | same
  · rw [nothing] at itemChosen
    cases itemChosen
  · exact itemChosen.symm.trans same

end Last

/-! ### Builders of messages -/

/-- A builder puts what it is asked for into the message: a unicast route of the main table, with
its destination, protocol and scope. The table may also be given by an attribute. -/
structure MessageBuilder.IsFaithful (build : MessageBuilder) : Prop where
  family : ∀ destination protocol scope,
    (build destination protocol scope).family = familyNumber destination.family
  length : ∀ destination protocol scope,
    (build destination protocol scope).length = UInt8.ofNat destination.length
  protocol : ∀ destination protocol scope, (build destination protocol scope).protocol = protocol
  scope : ∀ destination protocol scope, (build destination protocol scope).scope = scope
  kind : ∀ destination protocol scope, (build destination protocol scope).kind = unicastKind
  tableId : ∀ destination protocol scope,
    (build destination protocol scope).tableId = mainTable.toUInt32
  destination : ∀ destination protocol scope,
    .destination destination.address ∈ (build destination protocol scope).attributes
  attributes : ∀ destination protocol scope,
    ∀ item ∈ (build destination protocol scope).attributes,
      item = .destination destination.address ∨ ∃ id, item = .table id

theorem isFaithful_baseMessage : MessageBuilder.IsFaithful baseMessage where
  family _ _ _ := rfl
  length _ _ _ := rfl
  protocol _ _ _ := rfl
  scope _ _ _ := rfl
  kind _ _ _ := rfl
  tableId _ _ _ := rfl
  destination _ _ _ := List.mem_singleton_self _
  attributes _ _ _ _ member := .inl (List.mem_singleton.1 member)

/-- The next hops of a route are named as the interfaces of their indexes are. -/
def IsNamedBy (names : SortedMap UInt32 String) (route : KernelRoute) : Prop :=
  ∀ hop ∈ route.hops, hop.name = interfaceName names hop.index

/-! ### Reading what was written -/

theorem originOfNumber_protocolNumber (origin : Origin) :
    originOfNumber (protocolNumber origin) = origin := by
  cases origin <;> rfl

theorem gatewayOf?_gatewayAttributes (hop : ForwardingHop) :
    gatewayOf? (gatewayAttributes hop) = hop.gateway := by
  unfold gatewayAttributes
  cases hop.gateway <;> rfl

/-- What the next hops of a route add to a message gives neither a table nor a destination. -/
theorem of_mem_hopAttributes {hops : List ForwardingHop} {item : Attribute}
    (member : item ∈ hopAttributes hops) : item.table? = none ∧ item.destination? = none := by
  match hops with
  | [] => cases member
  | [hop] =>
    rcases List.mem_cons.1 member with rfl | gateway
    · exact ⟨rfl, rfl⟩
    · obtain ⟨part, -, rfl⟩ := List.mem_map.1 gateway
      exact ⟨rfl, rfl⟩
  | _ :: _ :: _ =>
    cases List.mem_singleton.1 member
    exact ⟨rfl, rfl⟩

/-- What a message says itself about the only next hop of a route is its gateway. -/
theorem filterMap_hop?_hopAttributes (hop : ForwardingHop) :
    (hopAttributes [hop]).filterMap Attribute.hop? = gatewayAttributes hop := by
  rw [hopAttributes, List.filterMap_cons_none rfl, List.filterMap_map]
  exact List.filterMap_some

namespace MessageBuilder.IsFaithful

variable {build : MessageBuilder} (faithful : build.IsFaithful) (route : KernelRoute)

include faithful

/-- What a builder sets says nothing about next hops. -/
theorem choose_eq_none {Value : Type} {choose : Attribute → Option Value}
    (destination : ∀ address, choose (.destination address) = none)
    (table : ∀ id, choose (.table id) = none) {asked : Prefix} {protocol scope : UInt8} :
    ∀ item ∈ (build asked protocol scope).attributes, choose item = none := by
  intro item member
  rcases faithful.attributes asked protocol scope item member with rfl | ⟨id, rfl⟩
  · exact destination _
  · exact table id

theorem tableId_ofRouteBy : (Message.ofRouteBy build route).tableId = mainTable.toUInt32 := by
  rw [← faithful.tableId route.destination (protocolNumber route.protocol) (scopeOf route.hops)]
  exact congrArg (Option.getD · _)
    (last?_append_left fun item member => (of_mem_hopAttributes member).1)

theorem destinationAddress_ofRouteBy :
    (Message.ofRouteBy build route).destinationAddress = route.destination.address := by
  have isSet := faithful.destination route.destination (protocolNumber route.protocol)
    (scopeOf route.hops)
  have unique := faithful.attributes route.destination (protocolNumber route.protocol)
    (scopeOf route.hops)
  have found : last? Attribute.destination? (Message.ofRouteBy build route).attributes =
      some (some route.destination.address) := by
    refine (last?_append_left fun item member => (of_mem_hopAttributes member).2).trans
      (last?_eq_some isSet rfl fun item member => ?_)
    rcases unique item member with rfl | ⟨id, rfl⟩
    · exact .inr rfl
    · exact .inl rfl
  rw [Message.destinationAddress, found]
  rfl

/-- All that a message says about next hops is what the next hops of the route added. -/
theorem hops_ofRouteBy :
    (Message.ofRouteBy build route).hops =
      route.hops.map fun hop => (hop.gateway, hop.index) := by
  have multipath : (Message.ofRouteBy build route).multipath =
      ((last? Attribute.multipath? (hopAttributes route.hops)).getD []).map
        fun hop => (gatewayOf? hop.attributes, hop.index) :=
    congrArg (fun found : Option (List MessageHop) => (found.getD []).map _)
      (last?_append_right (faithful.choose_eq_none (fun _ => rfl) fun _ => rfl))
  have outputInterface : (Message.ofRouteBy build route).outputInterface? =
      last? Attribute.outputInterface? (hopAttributes route.hops) :=
    last?_append_right (faithful.choose_eq_none (fun _ => rfl) fun _ => rfl)
  have gateway : (Message.ofRouteBy build route).gateway? =
      gatewayOf? ((hopAttributes route.hops).filterMap Attribute.hop?) := by
    refine congrArg gatewayOf? (List.filterMap_append.trans ?_)
    rw [filterMap_eq_nil_of_none (faithful.choose_eq_none (fun _ => rfl) fun _ => rfl),
      List.nil_append]
  rw [Message.hops, multipath, outputInterface, gateway]
  -- A route without next hops, with one, and with several are written in three ways.
  match route.hops with
  | [] => rfl
  | [hop] =>
    rw [filterMap_hop?_hopAttributes, gatewayOf?_gatewayAttributes]
    obtain ⟨gateway, name, index⟩ := hop
    cases gateway <;> rfl
  | first :: second :: rest =>
    simp [hopAttributes, last?, Attribute.multipath?, gatewayOf?_gatewayAttributes]

/-- A route is read back from the message that was written for it. -/
theorem route?_ofRouteBy_of_isNamedBy {names : SortedMap UInt32 String}
    (isNamed : IsNamedBy names route) :
    (Message.ofRouteBy build route).route? names = some route := by
  have isMain : (Message.ofRouteBy build route).tableId = mainTable.toUInt32 :=
    faithful.tableId_ofRouteBy route
  have isUnicast : (Message.ofRouteBy build route).kind = unicastKind := faithful.kind _ _ _
  have protocol : (Message.ofRouteBy build route).protocol = protocolNumber route.protocol :=
    faithful.protocol _ _ _
  have length : (Message.ofRouteBy build route).length.toNat = route.destination.length := by
    have fits : route.destination.length < 2 ^ 8 :=
      Nat.lt_of_le_of_lt route.destination.length_le (by decide)
    refine (congrArg UInt8.toNat (faithful.length _ _ _)).trans ?_
    exact (UInt8.toNat_ofNat' ..).trans (Nat.mod_eq_of_lt fits)
  have hops : (Message.ofRouteBy build route).hops.map (fun hop =>
      (⟨hop.1, interfaceName names hop.2, hop.2⟩ : ForwardingHop)) = route.hops := by
    rw [faithful.hops_ofRouteBy, List.map_map]
    refine (List.map_congr_left fun hop member => ?_).trans (List.map_id _)
    obtain ⟨gateway, name, index⟩ := hop
    exact congrArg (ForwardingHop.mk gateway · index) (isNamed _ member).symm
  rw [Message.route?, isMain, isUnicast, faithful.destinationAddress_ofRouteBy, length,
    Prefix.make_address_length, protocol, originOfNumber_protocolNumber]
  exact congrArg some (congrArg (KernelRoute.mk route.destination route.protocol) hops)

end MessageBuilder.IsFaithful

/-- The next hops of a route that was read have the names of their interfaces. -/
theorem isNamedBy_of_route? {names : SortedMap UInt32 String} {message : Message}
    {route : KernelRoute} (read : message.route? names = some route) :
    IsNamedBy names route := by
  unfold Message.route? at read
  split at read
  · cases read
  · split at read
    · cases read
    · cases read
      intro hop member
      obtain ⟨part, -, rfl⟩ := List.mem_map.1 member
      rfl

/-! ### Routes survive their messages -/

/-- A route whose next hops are named as interfaces are is read back from the message that is
written for it, with its next hops in order. What is read from any message has no bits behind the
mask of its destination, and it is read back from the message that is written for it. -/
theorem route?_ofRouteBy (build : MessageBuilder) (faithful : build.IsFaithful)
    (names : SortedMap UInt32 String) :
    (∀ route : KernelRoute,
      (∀ hop ∈ route.hops, hop.name = interfaceName names hop.index) →
        (Message.ofRouteBy build route).route? names = some route) ∧
    ∀ (message : Message) (route : KernelRoute), message.route? names = some route →
      route.destination.address.value %
          2 ^ (route.destination.family.width - route.destination.length) = 0 ∧
        (Message.ofRouteBy build route).route? names = some route := by
  refine ⟨fun route isNamed => faithful.route?_ofRouteBy_of_isNamedBy route isNamed,
    fun message route read => ⟨route.destination.value_mod_eq_zero, ?_⟩⟩
  exact faithful.route?_ofRouteBy_of_isNamedBy route (isNamedBy_of_route? read)

/-- The names of two interfaces. -/
def sampleNames : SortedMap UInt32 String :=
  .ofList [(1, "eth1"), (2, "eth2")]

/-- A route with three next hops, the last of them over an unknown interface. -/
def sampleRoute : KernelRoute where
  destination := .ofNetwork ⟨.v6 (IPv6.ofGroups [0x2002, 0, 0, 0, 0, 0, 0, 0]), 120, by decide⟩
  protocol := .bgp
  hops := [⟨none, "eth2", 2⟩, ⟨some (.v6 (IPv6.ofGroups [0x2001, 0, 0, 0, 0, 0, 0, 2])), "eth1", 1⟩,
    ⟨some (.v4 0x0A000001), "9", 9⟩]

/-- A default route as other programs write it: its table is in an attribute, it has no destination,
and its only next hop is one of several. -/
def sampleMessage : Message where
  family := 2
  length := 0
  table := 0
  protocol := 3
  scope := universeScope
  kind := unicastKind
  attributes := [.priority 100, .hop (.rawGateway [1, 2]), .table 254,
    .multipath [⟨2, [.other 22 [7], .gateway (.v4 0x0A000001)]⟩]]

theorem route?_ofRouteBy_baseMessage :
    MessageBuilder.IsFaithful baseMessage ∧
      (∀ hop ∈ sampleRoute.hops, hop.name = interfaceName sampleNames hop.index) ∧
      (Message.ofRouteBy baseMessage sampleRoute).route? sampleNames = some sampleRoute ∧
      ∃ route, sampleMessage.route? sampleNames = some route ∧ route.protocol = .static ∧
        route.hops = [⟨some (.v4 0x0A000001), "eth2", 2⟩] ∧
        (Message.ofRouteBy baseMessage route).route? sampleNames = some route := by
  have isNamed : ∀ hop ∈ sampleRoute.hops, hop.name = interfaceName sampleNames hop.index := by
    decide +kernel
  have read : sampleMessage.route? sampleNames =
      some ⟨Prefix.root .ipv4, .static, [⟨some (.v4 0x0A000001), "eth2", 2⟩]⟩ := by
    decide +kernel
  obtain ⟨written, again⟩ := route?_ofRouteBy baseMessage isFaithful_baseMessage sampleNames
  exact ⟨isFaithful_baseMessage, isNamed, written sampleRoute isNamed,
    _, read, rfl, rfl, (again sampleMessage _ read).2⟩

end Netlink

end ControlPlane
