/-
This file proves that the configuration of a router is read back from the data it
is written as. Every setting is written under a name of its own as a value that
its reader takes back, a missing one as null or, for the interface of a gateway,
not at all, so no default and no other setting can take its place. The tracing
levels are the exception: they are written as one text, which gives back those
levels that were read from some text, and no others.
-/

import ControlPlane.Config.System
import ControlPlane.Proofs.Address.Text
import ControlPlane.Proofs.Tracing.Reread

namespace ControlPlane

open Text

/-! ### Texts of addresses -/

theorem Address.ofText?_text (address : Address) : ofText? address.text = some address := by
  rw [ofText?, text, String.toList_ofList, ofLetters?_letters]

theorem IPv4.ofText?_text (word : IPv4) : ofText? (text word) = some word := by
  have read := Address.readIPv4_letters .strict word Address.endsGroups_nil.endsNumber.decimal
  rw [List.append_nil] at read
  rw [ofText?, text, String.toList_ofList, read]

namespace Data

/-! ### Data as it is written -/

/-- Data that any format can carry: nothing, truth values, whole numbers, texts, lists, and records
that name no field twice. -/
inductive IsSerial : Data → Prop
  | null : IsSerial null
  | flag (value : Bool) : IsSerial (flag value)
  | number (value : Int) : IsSerial (number value)
  | text (value : String) : IsSerial (text value)
  | list {items : List Data} (each : ∀ item ∈ items, IsSerial item) : IsSerial (list items)
  | fields {entries : List (String × Data)} (apart : (entries.map Prod.fst).Nodup)
      (each : ∀ entry ∈ entries, IsSerial entry.2) : IsSerial (fields entries)

/-- A value is written as serial data and read back from it. -/
structure Rereads {Value : Type} (read : Data → Option Value) (write : Value → Data)
    (value : Value) : Prop where
  read_eq : read (write value) = some value
  isSerial : (write value).IsSerial

section Rereads

variable {Value : Type} {read : Data → Option Value} {write : Value → Data}

theorem rereads_optional (value? : Option Value)
    (given : ∀ value ∈ value?, (write value).isGiven? = some true)
    (rereads : ∀ value ∈ value?, Rereads read write value) :
    Rereads (optional? read) (ofOption write) value? := by
  cases value? with
  | none => exact ⟨rfl, .null⟩
  | some value =>
    obtain ⟨reads, isSerial⟩ := rereads value rfl
    refine ⟨?_, isSerial⟩
    rw [ofOption, optional?, given value rfl, reads]
    rfl

theorem rereads_list (values : List Value)
    (rereads : ∀ value ∈ values, Rereads read write value) :
    Rereads (list? read) (fun values => .list (values.map write)) values := by
  refine ⟨?_, .list fun item member => ?_⟩
  · show readAll? read (values.map write) = some values
    induction values with
    | nil => rfl
    | cons value values inductionHypothesis =>
      obtain ⟨head, tail⟩ := List.forall_mem_cons.1 rereads
      rw [List.map_cons, readAll?, head.read_eq, inductionHypothesis tail]
      rfl
  · obtain ⟨value, listed, rfl⟩ := List.mem_map.1 member
    exact (rereads value listed).isSerial

end Rereads

/-! ### Scalars -/

theorem rereads_text (value : String) : Rereads text? text value :=
  ⟨rfl, .text value⟩

theorem rereads_flag (value : Bool) : Rereads flag? flag value :=
  ⟨rfl, .flag value⟩

theorem numberBelow?_ofNat {bound number : Nat} (small : number < bound) :
    numberBelow? bound (ofNat number) = some number :=
  if_pos small

theorem rereads_uint8 (value : UInt8) :
    Rereads uint8? (fun value => ofNat value.toNat) value := by
  refine ⟨?_, .number _⟩
  rw [uint8?, numberBelow?_ofNat value.toNat_lt, Option.map_some, UInt8.ofNat_toNat]

theorem rereads_uint16 (value : UInt16) :
    Rereads uint16? (fun value => ofNat value.toNat) value := by
  refine ⟨?_, .number _⟩
  rw [uint16?, numberBelow?_ofNat value.toNat_lt, Option.map_some, UInt16.ofNat_toNat]

theorem rereads_uint32 (value : UInt32) :
    Rereads uint32? (fun value => ofNat value.toNat) value := by
  refine ⟨?_, .number _⟩
  rw [uint32?, numberBelow?_ofNat value.toNat_lt, Option.map_some, UInt32.ofNat_toNat]

/-- A value that is read from its text is read from the data of the text. -/
theorem rereads_ofText {Value : Type} {ofText? : String → Option Value} {text : Value → String}
    {value : Value} (reads : ofText? (text value) = some value) :
    Rereads (fun data => data.text?.bind ofText?) (fun value => .text (text value)) value :=
  ⟨reads, .text _⟩

theorem rereads_address (address : Address) :
    Rereads StaticRoute.readAddress? ofAddress address :=
  rereads_ofText address.ofText?_text

theorem rereads_network (network : Network) :
    Rereads StaticRoute.readNetwork? ofNetwork network :=
  rereads_ofText network.ofText?_text

/-! ### Fields -/

@[simp]
theorem record?_fields (names : List String) (entries : List (String × Data)) :
    record? names (fields entries) = some entries :=
  rfl

section Fields

variable {Value : Type} {name other : String} {rest : List (String × Data)}

theorem field?_cons_of_ne (different : other ≠ name) (data : Data) :
    field? name ((other, data) :: rest) = field? name rest := by
  rw [field?, List.filter_cons_of_neg (by simpa using different)]
  rfl

theorem field?_cons_self (notListed : name ∉ rest.map Prod.fst) (data : Data) :
    field? name ((name, data) :: rest) = some (some data) := by
  have others : (rest.filter fun entry => entry.1 = name) = [] := by
    refine List.filter_eq_nil_iff.2 fun entry member isNamed => notListed ?_
    exact List.mem_map.2 ⟨entry, member, of_decide_eq_true isNamed⟩
  rw [field?, List.filter_cons_of_pos (by simp), others]

@[simp]
theorem required?_cons_of_ne (different : other ≠ name) (read : Data → Option Value)
    (data : Data) : required? name read ((other, data) :: rest) = required? name read rest := by
  rw [required?, field?_cons_of_ne different]
  rfl

@[simp]
theorem required?_cons_self (notListed : name ∉ rest.map Prod.fst) (read : Data → Option Value)
    (data : Data) : required? name read ((name, data) :: rest) = read data := by
  rw [required?, field?_cons_self notListed]

@[simp]
theorem given?_nil (read : Data → Option Value) (default : Value) :
    given? name read default [] = some default :=
  rfl

@[simp]
theorem given?_cons_of_ne (different : other ≠ name) (read : Data → Option Value)
    (default : Value) (data : Data) :
    given? name read default ((other, data) :: rest) = given? name read default rest := by
  rw [given?, field?_cons_of_ne different]
  rfl

@[simp]
theorem given?_cons_self (notListed : name ∉ rest.map Prod.fst) (read : Data → Option Value)
    (default : Value) (data : Data) :
    given? name read default ((name, data) :: rest) = read data := by
  rw [given?, field?_cons_self notListed]

end Fields

end Data

/-! ### Protocols -/

theorem DistanceConfig.rereads (config : DistanceConfig) :
    Data.Rereads ofData? toData config := by
  have ospf := Data.rereads_optional config.ospf (fun _ _ => rfl)
    fun distance _ => Data.rereads_uint8 distance
  have bgp := Data.rereads_optional config.bgp (fun _ _ => rfl)
    fun distance _ => Data.rereads_uint8 distance
  refine ⟨?_, .fields (by simp) ?_⟩
  · simp [ofData?, toData, ospf.read_eq, bgp.read_eq]
  · simp [ospf.isSerial, bgp.isSerial]

theorem EcmpConfig.rereads (config : EcmpConfig) : Data.Rereads ofData? toData config := by
  have enabled := Data.rereads_flag config.enabled
  have maxPaths := Data.rereads_optional config.maxPaths (fun _ _ => rfl)
    fun limit _ => Data.rereads_uint16 limit
  refine ⟨?_, .fields (by simp) ?_⟩
  · simp [ofData?, toData, enabled.read_eq, maxPaths.read_eq]
  · simp [enabled.isSerial, maxPaths.isSerial]

theorem BgpConfig.rereads_routerId (routerId : Option IPv4) :
    Data.Rereads (Data.optional? readRouterId?)
      (Data.ofOption fun word => .text (IPv4.text word)) routerId :=
  Data.rereads_optional routerId (fun _ _ => rfl) fun word _ =>
    Data.rereads_ofText word.ofText?_text

theorem BgpConfig.rereads (config : BgpConfig) : Data.Rereads ofData? toData config := by
  have asn := Data.rereads_uint32 config.asn
  have routerId := rereads_routerId config.routerId
  have maximumPaths := Data.rereads_uint16 config.maximumPaths
  have distanceExternal := Data.rereads_uint8 config.distanceExternal
  have distanceInternal := Data.rereads_uint8 config.distanceInternal
  refine ⟨?_, .fields (by simp) ?_⟩
  · simp [ofData?, toData, asn.read_eq, routerId.read_eq, maximumPaths.read_eq,
      distanceExternal.read_eq, distanceInternal.read_eq]
  · simp [asn.isSerial, routerId.isSerial, maximumPaths.isSerial, distanceExternal.isSerial,
      distanceInternal.isSerial]

/-! ### Static routes -/

namespace StaticRoute

theorem rereads_nextHop (nextHop : NextHop) :
    Data.Rereads readNextHopData? nextHopData nextHop := by
  cases nextHop with
  | gateway address pinned =>
    have gateway := Data.rereads_address address
    cases pinned with
    | none =>
      refine ⟨?_, .fields (by simp) ?_⟩
      · simp [nextHopData, readNextHopData?, readNextHopOf?, readGateway?, gateway.read_eq]
      · simpa using Data.IsSerial.fields (by simp) (by simp [gateway.isSerial])
    | some name =>
      have pinned : Data.optional? Data.text? (.text name) = some (some name) := rfl
      refine ⟨?_, .fields (by simp) ?_⟩
      · simp [nextHopData, readNextHopData?, readNextHopOf?, readGateway?, gateway.read_eq, pinned]
      · simpa using
          Data.IsSerial.fields (by simp) (by simp [gateway.isSerial, Data.IsSerial.text name])
  | interface name =>
    have interface := Data.rereads_text name
    refine ⟨?_, .fields (by simp) ?_⟩
    · simp [nextHopData, readNextHopData?, readNextHopOf?, interface.read_eq]
    · simp [interface.isSerial]

theorem rereads (route : StaticRoute) : Data.Rereads ofData? toData route := by
  have destination := Data.rereads_network route.destination
  have nextHop := rereads_nextHop route.nextHop
  have distance := Data.rereads_uint8 route.distance
  refine ⟨?_, .fields (by simp) ?_⟩
  · simp [ofData?, toData, destination.read_eq, nextHop.read_eq, distance.read_eq]
  · simp [destination.isSerial, nextHop.isSerial, distance.isSerial]

end StaticRoute

/-! ### Interfaces and VRFs -/

namespace InterfaceConfig

theorem rereads_kind (kind : InterfaceKind) :
    Data.Rereads readKind? (fun kind => .text kind.name) kind := by
  refine ⟨?_, .text _⟩
  cases kind <;> rfl

theorem rereads (config : InterfaceConfig) : Data.Rereads ofData? toData config := by
  have name := Data.rereads_text config.name
  have index := Data.rereads_uint32 config.index
  have kind := rereads_kind config.kind
  have lag := Data.rereads_optional config.lag (fun _ _ => rfl)
    fun lag _ => Data.rereads_text lag
  have adminUp := Data.rereads_flag config.adminUp
  have routing := Data.rereads_flag config.routing
  have addresses := Data.rereads_list config.addresses
    fun network _ => Data.rereads_network network
  have vrf := Data.rereads_text config.vrf
  refine ⟨?_, .fields (by simp) ?_⟩
  · simp [ofData?, toData, name.read_eq, index.read_eq, kind.read_eq, lag.read_eq,
      adminUp.read_eq, routing.read_eq, addresses.read_eq, vrf.read_eq]
  · simp [name.isSerial, index.isSerial, kind.isSerial, lag.isSerial, adminUp.isSerial,
      routing.isSerial, addresses.isSerial, vrf.isSerial]

end InterfaceConfig

theorem VrfConfig.rereads (config : VrfConfig) : Data.Rereads ofData? toData config := by
  have name := Data.rereads_text config.name
  have id := Data.rereads_uint32 config.id
  have netns := Data.rereads_optional config.netns (fun _ _ => rfl)
    fun netns _ => Data.rereads_text netns
  have routerId := BgpConfig.rereads_routerId config.routerId
  have bgp := Data.rereads_optional config.bgp (fun _ _ => rfl)
    fun bgp _ => bgp.rereads
  have distance := config.distance.rereads
  have staticRoutes := Data.rereads_list config.staticRoutes
    fun route _ => route.rereads
  refine ⟨?_, .fields (by simp) ?_⟩
  · simp [ofData?, toData, name.read_eq, id.read_eq, netns.read_eq, routerId.read_eq,
      bgp.read_eq, distance.read_eq, staticRoutes.read_eq]
  · simp [name.isSerial, id.isSerial, netns.isSerial, routerId.isSerial, bgp.isSerial,
      distance.isSerial, staticRoutes.isSerial]

/-! ### Tracing levels -/

namespace TracingConfig

/-- Levels that were read from a text come back. -/
theorem ofData?_toData_eq_some_iff {config : TracingConfig} :
    ofData? config.toData = some config ↔ ∃ text, ofText text = .ok config := by
  show (ofText config.text).toOption = some config ↔ _
  constructor
  · intro reads
    refine ⟨config.text, ?_⟩
    cases answer : ofText config.text with
    | error error => rw [answer] at reads; cases reads
    | ok read => rw [answer] at reads; exact congrArg Except.ok (Option.some.inj reads)
  · rintro ⟨text, reads⟩
    rw [(ofText_text_of_ofText reads).1]
    rfl

end TracingConfig

/-! ### Routers -/

namespace SystemConfig

/-- Whatever the tracing levels are, everything else comes back. -/
theorem ofData?_toData_eq_map (config : SystemConfig) :
    ofData? config.toData =
      (Data.optional? TracingConfig.ofData? (.ofOption TracingConfig.toData config.tracing)).map
        fun tracing => { config with tracing } := by
  have vrfs := Data.rereads_list config.vrfs fun vrf _ => vrf.rereads
  have interfaces := Data.rereads_list config.interfaces
    fun interface _ => interface.rereads
  have ecmp := config.ecmp.rereads
  cases levels : Data.optional? TracingConfig.ofData?
      (.ofOption TracingConfig.toData config.tracing) <;>
    simp [ofData?, toData, vrfs.read_eq, interfaces.read_eq, ecmp.read_eq, levels]

theorem isSerial_toData (config : SystemConfig) : config.toData.IsSerial := by
  have vrfs := Data.rereads_list config.vrfs fun vrf _ => vrf.rereads
  have interfaces := Data.rereads_list config.interfaces
    fun interface _ => interface.rereads
  have tracing : (Data.ofOption TracingConfig.toData config.tracing).IsSerial := by
    cases config.tracing with
    | none => exact .null
    | some tracing => exact .text _
  exact .fields (by simp) (by
    simp [vrfs.isSerial, interfaces.isSerial, config.ecmp.rereads.isSerial, tracing])

/-- The configuration of a router is written as serial data and comes back from it exactly,
whatever its VRFs, interfaces, static routes and BGP routers are, provided that its tracing levels,
if it has any, were read from a text; without that it does not come back. -/
theorem ofData?_toData (config : SystemConfig) :
    config.toData.IsSerial ∧
      (ofData? config.toData = some config ↔ ∀ tracing, config.tracing = some tracing →
        ∃ text, TracingConfig.ofText text = .ok tracing) := by
  refine ⟨config.isSerial_toData, ?_⟩
  rw [ofData?_toData_eq_map]
  obtain ⟨vrfs, interfaces, ecmp, tracing⟩ := config
  cases tracing with
  | none => simp [Data.ofOption, Data.optional?, Data.isGiven?]
  | some tracing =>
    have levels : Data.optional? TracingConfig.ofData? tracing.toData =
        (TracingConfig.ofData? tracing.toData).map some := rfl
    simp [Data.ofOption, levels, TracingConfig.ofData?_toData_eq_some_iff]

/-- A router with every kind of next hop and with levels by tag. -/
def tracedConfig : SystemConfig where
  vrfs :=
    [{ name := "blue", id := 7, netns := some "blue", routerId := some 0x07070707
       bgp := some { asn := 65000 }, distance := { ospf := some 90 }
       staticRoutes :=
        [⟨⟨.v4 0x0A400000, 10, by decide⟩, .gateway (.v4 0xC0000201) none, 1⟩,
          ⟨⟨.v6 0xFC000000000000000000000000000000, 7, by decide⟩,
            .gateway (.v6 0xFE800000000000000000000000000001) (some "eth0"), 5⟩,
          ⟨⟨.v4 0x0A410000, 16, by decide⟩, .interface "eth0", 1⟩] }]
  interfaces :=
    [{ name := "eth0", index := 1, lag := some "bond0", adminUp := false
       addresses := [⟨.v4 0xC0000202, 24, by decide⟩], vrf := "blue" }]
  tracing := some ⟨.warn, [("rib", .debug)]⟩

theorem ofData?_toData_tracedConfig : ofData? tracedConfig.toData = some tracedConfig := by
  have levels : TracingConfig.ofText "rib=debug, default=warn" =
      .ok ⟨.warn, [("rib", .debug)]⟩ := by decide +kernel
  refine (ofData?_toData tracedConfig).2.2 fun tracing same => ?_
  cases same
  exact ⟨_, levels⟩

end SystemConfig

end ControlPlane
