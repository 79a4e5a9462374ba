/-
This file proves that the validator and the router agree, and says what a router
made from a configuration is. A valid configuration is taken whenever all namespaces
can be opened: no step in which the router is built up is refused, whatever the
kernels do with routes. The router then has just the configured VRFs, beside the
default VRF, and the configured interfaces, with all their settings. It is only the
namespace of the default VRF that may not be the configured one, for this VRF exists
before its configuration is read.
-/

import ControlPlane.Proofs.Router.Configured
import ControlPlane.Proofs.Router.Statics
import ControlPlane.Tracing.Components

namespace ControlPlane

variable {Kernel : Type} [KernelBackend Kernel]

/-! ### Taking a configuration -/

namespace Router

variable {parameters : RouterParameters} {kernels : KernelSpace Kernel}
  {targets : Tracing.TargetTable} {config : SystemConfig}

/-- The router that a session left which built it up. -/
def builtRouter (parameters : RouterParameters) (kernels : KernelSpace Kernel)
    (session : Session Kernel) : Router Kernel :=
  { blank parameters kernels with
    state := session.state
    journal := (blank parameters kernels).journal.addAll session.events }

omit [KernelBackend Kernel] in
theorem start_eq_ok {Value : Type} {program : RouterM Kernel Value} {value : Value}
    {session : Session Kernel}
    (ran : program ⟨(blank parameters kernels).state, []⟩ = .ok value session) :
    start parameters kernels program = .ok (builtRouter parameters kernels session) := by
  rw [start, run, ran]
  rfl

/-- A router that was made from a configuration was built up from a valid one. -/
theorem exists_configure_of_ofConfig {router : Router Kernel}
    (made : (ofConfig parameters kernels targets config).1 = .ok router) :
    config.validate targets = .ok () ∧
      ∃ session, configure config ⟨(blank parameters kernels).state, []⟩ = .ok () session ∧
        router = builtRouter parameters kernels session := by
  unfold ofConfig at made
  split at made
  next => cases made
  next valid =>
    split at made
    next => cases made
    next =>
      refine ⟨valid, ?_⟩
      cases ran : configure config ⟨(blank parameters kernels).state, []⟩ with
      | error error session =>
        rw [start, run, ran] at made
        cases made
      | ok value session =>
        rw [start_eq_ok ran] at made
        cases made
        exact ⟨session, rfl, rfl⟩

/-- The tracing part of a valid configuration can be applied. -/
theorem applyTracing_eq_ok (valid : config.IsValid targets) :
    (applyTracing targets config).1 = .ok () := by
  unfold applyTracing
  split
  next tracing isTracing => exact TracingConfig.apply_eq_ok (valid.tracing tracing isTracing)
  next => rfl

/-- No step in which a router is built up is refused if all namespaces can be opened. -/
theorem exists_realises_configure (parameters : RouterParameters) {kernels : KernelSpace Kernel}
    (opens : ∀ netns, ∃ opened, kernels.openNamespace netns = .ok opened)
    (valid : config.IsValid targets) :
    ∃ session, configure config ⟨(blank parameters kernels).state, []⟩ = .ok () session ∧
      session.Realises kernels.refusals config.ecmp.maxPaths (startingVrfs config.vrfs)
        config.interfaces := by
  have ends := realises_configure valid parameters kernels
  rw [RouterM.Ends] at ends
  cases ran : configure config ⟨(blank parameters kernels).state, []⟩ with
  | error error session =>
    rw [ran] at ends
    obtain ⟨netns, errno, refused, _⟩ := ends
    obtain ⟨opened, isOpened⟩ := opens netns
    rw [KernelSpace.openNamespace, refused] at isOpened
    cases isOpened
  | ok value session =>
    rw [ran] at ends
    exact ⟨session, rfl, ends⟩

/-- A router is made from a valid configuration if it can be built up. -/
theorem ofConfig_eq_ok {session : Session Kernel} (valid : config.validate targets = .ok ())
    (ran : configure config ⟨(blank parameters kernels).state, []⟩ = .ok () session) :
    ofConfig parameters kernels targets config =
      (.ok (builtRouter parameters kernels session), (applyTracing targets config).2) := by
  have traced := applyTracing_eq_ok (SystemConfig.validate_eq_ok_iff.1 valid)
  rw [ofConfig, valid]
  cases applied : applyTracing targets config with
  | mk result changed =>
    rw [applied] at traced
    cases traced
    dsimp only
    rw [start_eq_ok ran]

/-- Over kernels whose namespaces can all be opened, whatever they do with routes, a router takes
every valid configuration: its tracing part can be applied, and no step in which the router is
built up is refused. -/
theorem ofConfig_eq_ok_of_validate (parameters : RouterParameters) {kernels : KernelSpace Kernel}
    (opens : ∀ netns, ∃ opened, kernels.openNamespace netns = .ok opened)
    (valid : config.validate targets = .ok ()) :
    (applyTracing targets config).1 = .ok () ∧
    ∃ session router, configure config ⟨(blank parameters kernels).state, []⟩ = .ok () session ∧
      ofConfig parameters kernels targets config = (.ok router, (applyTracing targets config).2) ∧
      router.state = session.state := by
  have isValid := SystemConfig.validate_eq_ok_iff.1 valid
  obtain ⟨session, ran, _⟩ := exists_realises_configure parameters opens isValid
  exact ⟨applyTracing_eq_ok isValid, session, builtRouter parameters kernels session, ran,
    ofConfig_eq_ok valid ran, rfl⟩

/-- A VRF with settings of all kinds. Its static route is listed with two distances. -/
def blueVrf : VrfConfig where
  name := "blue"
  id := 2
  netns := some "ns2"
  routerId := some 0x0A0A0A0A
  bgp := some { asn := 65000 }
  distance := { ospf := some 120 }
  staticRoutes := [sampleStatic, { sampleStatic with distance := 7 }]

/-- Two VRFs with interfaces, among them a LAG, which is listed after its member. -/
def lagConfig : SystemConfig where
  vrfs := [blueVrf, { VrfConfig.standard with netns := some "ns0" }]
  interfaces :=
    [{ name := "eth1", index := 1, lag := some "bond0", vrf := "blue" },
      { name := "bond0", index := 2, kind := .lag, addresses := [sampleNetwork], vrf := "blue" },
      { name := "eth0", index := 3, addresses := [sampleNetwork] }]
  tracing := some { tags := [("rib", .debug)] }

/-- The tracing targets of a router. -/
def routerTargets : Tracing.TargetTable :=
  .ofDeclarations Tracing.components

/-- Kernels one of which refuses routes. -/
def refusingKernels : KernelSpace MemoryKernel :=
  KernelSpace.empty.store "ns2" (MemoryKernel.empty.inject .install .notPermitted 9)

/-- A kernel that refuses routes does not keep a router from being made. -/
theorem ofConfig_lagConfig : ∃ (session : Session MemoryKernel) (router : Router MemoryKernel),
    lagConfig.validate routerTargets = .ok () ∧
      (applyTracing routerTargets lagConfig).1 = .ok () ∧
      configure lagConfig ⟨(blank {} refusingKernels).state, []⟩ = .ok () session ∧
      ofConfig {} refusingKernels routerTargets lagConfig =
        (.ok router, (applyTracing routerTargets lagConfig).2) ∧
      router.state = session.state := by
  have valid : lagConfig.validate routerTargets = .ok () := by rfl
  have opens (netns : String) : ∃ opened, refusingKernels.openNamespace netns = .ok opened :=
    ⟨_, rfl⟩
  obtain ⟨traced, session, router, configured, made, same⟩ :=
    ofConfig_eq_ok_of_validate {} opens valid
  exact ⟨session, router, valid, traced, configured, made, same⟩

end Router

/-! ### What a configured router is -/

/-- The VRF is as a configuration says, whose static routes are taken in order. -/
structure Vrf.IsConfigured (config : VrfConfig) (vrf : Vrf) : Prop where
  name_eq : vrf.name = config.name
  id_eq : vrf.id = config.id
  netns_eq : vrf.netns = config.boundNetns
  routerId_eq : ∀ word, config.routerId = some word → vrf.routerId.routerId = some word
  bgp_eq : vrf.bgp = config.bgp
  distance_eq : vrf.distance = config.distance
  hop_eq : ∀ destination nextHop, (vrf.statics.hopsOf destination).find? nextHop =
    StaticTable.lastDistance? config.staticRoutes destination nextHop
  isListed_iff : ∀ destination, (vrf.statics.routes.find? destination).isSome ↔
    ∃ route ∈ config.staticRoutes, Prefix.ofNetwork route.destination = destination

theorem Vrf.isConfigured_of_settings {vrf : Vrf} {config : VrfConfig} {maxPaths : Option UInt16}
    (same : vrf.settings = config.settings maxPaths) : vrf.IsConfigured config where
  name_eq := congrArg VrfSettings.name same
  id_eq := congrArg VrfSettings.id same
  netns_eq := congrArg VrfSettings.netns same
  routerId_eq word given := by
    have configured : vrf.routerId.configured = config.routerId :=
      congrArg VrfSettings.routerId same
    rw [RouterIdSelection.routerId, configured, given]
  bgp_eq := congrArg VrfSettings.bgp same
  distance_eq := congrArg VrfSettings.distance same
  hop_eq destination nextHop := by
    have statics : vrf.statics = StaticTable.empty.addAll config.staticRoutes :=
      congrArg VrfSettings.statics same
    rw [statics, StaticTable.find?_hopsOf_addAll]
    exact Option.or_none
  isListed_iff destination := by
    have statics : vrf.statics = StaticTable.empty.addAll config.staticRoutes :=
      congrArg VrfSettings.statics same
    rw [statics, StaticTable.isSome_find?_addAll_iff]
    exact or_iff_right (nomatch ·)

/-- The interface is attached to the VRF, and it is as a configuration says. Its operational state
is not configured. -/
def Interface.IsConfigured (config : InterfaceConfig) (vrf : UInt32) (interface : Interface) :
    Prop :=
  interface = { ofConfig config vrf with oper := interface.oper }

theorem Interface.isConfigured_of_settings {config : InterfaceConfig} {vrf : UInt32}
    {interface : Interface} (same : interface.settings = ofConfig config vrf) :
    interface.IsConfigured config vrf := by
  rw [IsConfigured, ← same]
  unfold settings withLagOper
  split <;> rfl

/-- The router has just the default VRF and the configured VRFs, and just the configured
interfaces, and all are as the configuration says. -/
structure Router.Realises (config : SystemConfig) (router : Router Kernel) : Prop where
  id_iff : ∀ id, (∃ vrf, router.vrf id = .ok vrf) ↔
    id = defaultVrfId ∨ ∃ vrf ∈ config.vrfs, vrf.id = id
  name_iff : ∀ name, (∃ id, router.state.vrfs.idOf name = .ok id) ↔
    name = defaultVrfName ∨ ∃ vrf ∈ config.vrfs, vrf.name = name
  vrf_isConfigured : ∀ vrfConfig ∈ config.vrfs, ∃ vrf,
    router.state.vrfs.idOf vrfConfig.name = .ok vrfConfig.id ∧
      router.vrf vrfConfig.id = .ok vrf ∧ vrf.IsConfigured vrfConfig
  default_isConfigured : (∀ vrfConfig ∈ config.vrfs, vrfConfig.name ≠ defaultVrfName) → ∃ vrf,
    router.state.vrfs.idOf defaultVrfName = .ok defaultVrfId ∧
      router.vrf defaultVrfId = .ok vrf ∧ vrf.IsConfigured .standard
  interface_iff : ∀ name, (∃ interface, router.state.interfaces.find? name = some interface) ↔
    ∃ interface ∈ config.interfaces, interface.name = name
  interface_isConfigured : ∀ interfaceConfig ∈ config.interfaces, ∃ vrf interface,
    router.state.vrfs.idOf interfaceConfig.vrf = .ok vrf ∧
      router.state.interfaces.find? interfaceConfig.name = some interface ∧
      interface.IsConfigured interfaceConfig vrf

/-- Items that differ in a key are found by it. -/
theorem find?_eq_some_iff_of_pairwise {Item Key : Type} [DecidableEq Key] {key : Item → Key}
    {items : List Item} (distinct : items.Pairwise fun first second => key first ≠ key second)
    {listed : Key} {item : Item} :
    items.find? (fun other => key other = listed) = some item ↔
      item ∈ items ∧ key item = listed := by
  constructor
  · intro found
    have own := List.find?_some found
    exact ⟨List.mem_of_find?_eq_some found, of_decide_eq_true own⟩
  · rintro ⟨member, rfl⟩
    induction items with
    | nil => cases member
    | cons head rest inductionHypothesis =>
      obtain ⟨others, restDistinct⟩ := List.pairwise_cons.1 distinct
      rcases List.mem_cons.1 member with rfl | later
      · exact List.find?_cons_of_pos (decide_eq_true rfl)
      · rw [List.find?_cons_of_neg (by simpa using others item later)]
        exact inductionHypothesis restDistinct later

section StartingVrfs

variable {targets : Tracing.TargetTable} {config : SystemConfig}

/-- The VRFs of a router are the configured ones, and the standard one if they lack the default. -/
theorem mem_startingVrfs_iff {vrfs : List VrfConfig} (distinct : vrfs.Pairwise VrfConfig.Apart)
    {vrf : VrfConfig} :
    vrf ∈ startingVrfs vrfs ↔
      vrf ∈ vrfs ∨ vrf = .standard ∧ ∀ other ∈ vrfs, other.name ≠ defaultVrfName := by
  have byName (first : VrfConfig) :
      vrfs.find? (fun vrf => vrf.name = defaultVrfName) = some first ↔
        first ∈ vrfs ∧ first.name = defaultVrfName :=
    find?_eq_some_iff_of_pairwise (distinct.imp fun apart => apart.1)
  have lacks := List.find?_eq_none (l := vrfs) (p := fun vrf => vrf.name = defaultVrfName)
  rw [startingVrfs, List.mem_cons, List.mem_filter, decide_eq_true_eq]
  cases found : vrfs.find? fun vrf => vrf.name = defaultVrfName with
  | none =>
    simp only [decide_eq_true_eq] at lacks
    grind
  | some first => grind

theorem name_eq_iff_of_mem_startingVrfs (valid : config.IsValid targets) {vrf : VrfConfig}
    (member : vrf ∈ startingVrfs config.vrfs) :
    vrf.name = defaultVrfName ↔ vrf.id = defaultVrfId := by
  rcases mem_startingVrfs member with listed | rfl
  · exact (valid.vrfs vrf listed).1
  · exact ⟨fun _ => rfl, fun _ => rfl⟩

theorem apart_startingVrfs (valid : config.IsValid targets) :
    (startingVrfs config.vrfs).Pairwise VrfConfig.Apart := by
  refine List.pairwise_cons.2 ⟨fun other member => ?_, valid.vrfsApart.filter _⟩
  obtain ⟨listed, notDefault⟩ := List.mem_filter.1 member
  have otherName : other.name ≠ defaultVrfName := of_decide_eq_true notDefault
  have otherId : other.id ≠ defaultVrfId := mt (valid.vrfs other listed).1.2 otherName
  cases found : config.vrfs.find? fun vrf => vrf.name = defaultVrfName with
  | none => exact ⟨otherName.symm, otherId.symm⟩
  | some first =>
    have named := List.find?_some found
    have firstName : first.name = defaultVrfName := of_decide_eq_true named
    have firstId := (valid.vrfs first (List.mem_of_find?_eq_some found)).1.1 firstName
    exact ⟨fun same => otherName (same.symm.trans firstName),
      fun same => otherId (same.symm.trans firstId)⟩

/-- The VRFs are the configured ones and the default one, by any key that tells VRFs apart. -/
theorem exists_startingVrf_iff {Key : Type} {key : VrfConfig → Key} {listed : Key}
    (valid : config.IsValid targets) (isDefault : ∀ vrf ∈ startingVrfs config.vrfs,
      vrf.name = defaultVrfName → key vrf = key .standard) :
    (∃ vrf ∈ startingVrfs config.vrfs, key vrf = listed) ↔
      listed = key .standard ∨ ∃ vrf ∈ config.vrfs, key vrf = listed := by
  constructor
  · rintro ⟨vrf, member, rfl⟩
    rcases mem_startingVrfs member with configured | rfl
    · exact .inr ⟨vrf, configured, rfl⟩
    · exact .inl rfl
  · rintro (rfl | ⟨vrf, configured, same⟩)
    · obtain ⟨vrf, member, named⟩ := exists_default_mem_startingVrfs config.vrfs
      exact ⟨vrf, member, isDefault vrf member named⟩
    · exact ⟨vrf, (mem_startingVrfs_iff valid.vrfsApart).2 (.inl configured), same⟩

end StartingVrfs

theorem vrfOf?_eq_some_iff {vrfs : List VrfConfig} (distinct : vrfs.Pairwise VrfConfig.Apart)
    {id : UInt32} {vrf : VrfConfig} : vrfOf? vrfs id = some vrf ↔ vrf ∈ vrfs ∧ vrf.id = id :=
  find?_eq_some_iff_of_pairwise (distinct.imp fun apart => apart.2)

theorem vrfNamed?_eq_some_iff {vrfs : List VrfConfig} (distinct : vrfs.Pairwise VrfConfig.Apart)
    {name : String} {vrf : VrfConfig} :
    vrfNamed? vrfs name = some vrf ↔ vrf ∈ vrfs ∧ vrf.name = name :=
  find?_eq_some_iff_of_pairwise (distinct.imp fun apart => apart.1)

theorem find?_interface_eq_some_iff {interfaces : List InterfaceConfig}
    (distinct : interfaces.Pairwise InterfaceConfig.Apart) {name : String}
    {config : InterfaceConfig} :
    interfaces.find? (fun interface => interface.name = name) = some config ↔
      config ∈ interfaces ∧ config.name = name :=
  find?_eq_some_iff_of_pairwise (distinct.imp fun apart => apart.1)

section Realises

variable {session : Session Kernel} {refusals : SortedMap String Errno} {maxPaths : Option UInt16}
  {vrfs : List VrfConfig} {interfaces : List InterfaceConfig}

namespace Session.Realises

variable {vrf : VrfConfig}

omit [KernelBackend Kernel] in
/-- Each VRF is found under its id and its name. -/
theorem exists_vrf (realises : session.Realises refusals maxPaths vrfs interfaces)
    (distinct : vrfs.Pairwise VrfConfig.Apart) (member : vrf ∈ vrfs) :
    ∃ stored, session.state.vrfs.idOf vrf.name = .ok vrf.id ∧
      session.state.vrfs.get vrf.id = .ok stored ∧ stored.settings = vrf.settings maxPaths := by
  have known := realises.settings_eq vrf.id
  rw [(vrfOf?_eq_some_iff distinct).2 ⟨member, rfl⟩, Option.map_some] at known
  obtain ⟨stored, found, same⟩ := Option.map_eq_some_iff.1 known
  refine ⟨stored, ?_, VrfTable.get_eq_ok_iff.2 found, same⟩
  rw [VrfTable.idOf, realises.idByName_eq, (vrfNamed?_eq_some_iff distinct).2 ⟨member, rfl⟩]
  rfl

omit [KernelBackend Kernel] in
theorem exists_id_iff (realises : session.Realises refusals maxPaths vrfs interfaces)
    (distinct : vrfs.Pairwise VrfConfig.Apart) (id : UInt32) :
    (∃ stored, session.state.vrfs.get id = .ok stored) ↔ ∃ vrf ∈ vrfs, vrf.id = id := by
  constructor
  · rintro ⟨stored, found⟩
    have known := realises.settings_eq id
    have isFound : session.find? id = some stored := VrfTable.get_eq_ok_iff.1 found
    rw [isFound, Option.map_some] at known
    obtain ⟨vrf, listed, _⟩ := Option.map_eq_some_iff.1 known.symm
    exact ⟨vrf, (vrfOf?_eq_some_iff distinct).1 listed⟩
  · rintro ⟨vrf, member, rfl⟩
    obtain ⟨stored, _, found, _⟩ := realises.exists_vrf distinct member
    exact ⟨stored, found⟩

omit [KernelBackend Kernel] in
theorem exists_name_iff (realises : session.Realises refusals maxPaths vrfs interfaces)
    (distinct : vrfs.Pairwise VrfConfig.Apart) (name : String) :
    (∃ id, session.state.vrfs.idOf name = .ok id) ↔ ∃ vrf ∈ vrfs, vrf.name = name := by
  constructor
  · rintro ⟨id, named⟩
    rw [VrfTable.idOf, realises.idByName_eq] at named
    cases listed : vrfNamed? vrfs name with
    | none =>
      rw [listed] at named
      cases named
    | some vrf => exact ⟨vrf, (vrfNamed?_eq_some_iff distinct).1 listed⟩
  · rintro ⟨vrf, member, rfl⟩
    obtain ⟨stored, named, _⟩ := realises.exists_vrf distinct member
    exact ⟨vrf.id, named⟩

omit [KernelBackend Kernel] in
/-- Each interface is found under its name, in its VRF. -/
theorem exists_interface (realises : session.Realises refusals maxPaths vrfs interfaces)
    (distinct : vrfs.Pairwise VrfConfig.Apart)
    (interfacesDistinct : interfaces.Pairwise InterfaceConfig.Apart) {config : InterfaceConfig}
    (member : config ∈ interfaces) (attached : vrf ∈ vrfs) (named : vrf.name = config.vrf) :
    ∃ interface, session.state.interfaces.find? config.name = some interface ∧
      interface.settings = Interface.ofConfig config vrf.id := by
  have known := realises.interface_eq config.name
  rw [interfaceOf?, (find?_interface_eq_some_iff interfacesDistinct).2 ⟨member, rfl⟩,
    Option.bind_some, (vrfNamed?_eq_some_iff distinct).2 ⟨attached, named⟩,
    Option.map_some] at known
  exact Option.map_eq_some_iff.1 known

end Session.Realises

end Realises

namespace Router

variable {parameters : RouterParameters} {kernels : KernelSpace Kernel}
  {targets : Tracing.TargetTable} {config : SystemConfig}

/-- A router that is made from a configuration has the default VRF and the configured VRFs and
interfaces, no others, and all with their settings, the last one where a static route is repeated.
The VRFs are bound to their namespaces, but the default VRF to that of its name. -/
theorem realises_of_ofConfig {router : Router Kernel}
    (made : (ofConfig parameters kernels targets config).1 = .ok router) :
    router.Realises config := by
  obtain ⟨validated, session, ran, rfl⟩ := exists_configure_of_ofConfig made
  have valid := SystemConfig.validate_eq_ok_iff.1 validated
  have realises := realises_configure valid parameters kernels
  rw [RouterM.Ends, ran] at realises
  have distinct := apart_startingVrfs valid
  have configured {vrf : VrfConfig} (member : vrf ∈ startingVrfs config.vrfs) : ∃ stored,
      session.state.vrfs.idOf vrf.name = .ok vrf.id ∧
        session.state.vrfs.get vrf.id = .ok stored ∧ stored.IsConfigured vrf := by
    obtain ⟨stored, named, found, same⟩ := realises.exists_vrf distinct member
    exact ⟨stored, named, found, Vrf.isConfigured_of_settings same⟩
  have attached {interface : InterfaceConfig} (member : interface ∈ config.interfaces) :
      ∃ vrf ∈ startingVrfs config.vrfs, vrf.name = interface.vrf :=
    (exists_startingVrf_iff valid fun _ _ named => named).2 (valid.interfaces interface member).1
  exact {
    id_iff := fun id => (realises.exists_id_iff distinct id).trans
      (exists_startingVrf_iff valid fun vrf member =>
        (name_eq_iff_of_mem_startingVrfs valid member).1)
    name_iff := fun name => (realises.exists_name_iff distinct name).trans
      (exists_startingVrf_iff valid fun _ _ named => named)
    vrf_isConfigured := fun vrf member =>
      configured ((mem_startingVrfs_iff valid.vrfsApart).2 (.inl member))
    default_isConfigured := fun lacks =>
      configured ((mem_startingVrfs_iff valid.vrfsApart).2 (.inr ⟨rfl, lacks⟩))
    interface_iff := fun name => by
      constructor
      · rintro ⟨interface, found⟩
        obtain ⟨given, member, _, _, same, _⟩ := realises.exists_config found
        exact ⟨given, member, same⟩
      · rintro ⟨given, member, rfl⟩
        obtain ⟨vrf, isVrf, named⟩ := attached member
        obtain ⟨interface, found, _⟩ :=
          realises.exists_interface distinct valid.interfacesApart member isVrf named
        exact ⟨interface, found⟩
    interface_isConfigured := fun given member => by
      obtain ⟨vrf, isVrf, named⟩ := attached member
      obtain ⟨interface, found, same⟩ :=
        realises.exists_interface distinct valid.interfacesApart member isVrf named
      obtain ⟨_, isNamed, _⟩ := realises.exists_vrf distinct isVrf
      exact ⟨vrf.id, interface, named ▸ isNamed, found,
        Interface.isConfigured_of_settings same⟩ }

/-- The router that is made from the configuration over new kernels. -/
def lagRouter? : Option (Router MemoryKernel) :=
  (ofConfig {} KernelSpace.empty routerTargets lagConfig).1.toOption

theorem realises_lagConfig : ∃ router : Router MemoryKernel,
    (ofConfig {} KernelSpace.empty routerTargets lagConfig).1 = .ok router ∧
      router.Realises lagConfig := by
  have taken : lagRouter?.isSome = true := by decide +kernel
  obtain ⟨router, made⟩ := Option.isSome_iff_exists.1 taken
  exact ⟨router, eq_ok_of_toOption made, realises_of_ofConfig (eq_ok_of_toOption made)⟩

/-- A configuration may bind the default VRF to a namespace, but the VRF stays in that of its name,
and its routes are there. -/
theorem exists_default_elsewhere : ∃ (router : Router MemoryKernel) (vrf : Vrf),
    (ofConfig {} KernelSpace.empty routerTargets lagConfig).1 = .ok router ∧
      router.vrf defaultVrfId = .ok vrf ∧
      (∃ vrfConfig ∈ lagConfig.vrfs, vrfConfig.id = defaultVrfId ∧
        vrfConfig.netns.getD vrfConfig.name ≠ vrf.netns) ∧
      (router.kernel "ns0").routes.isEmpty ∧
      (router.kernel vrf.netns).routes.contains (Prefix.ofNetwork sampleNetwork) := by
  have bound : (lagRouter?.bind fun router => (router.vrf defaultVrfId).toOption.filter fun vrf =>
      (∃ vrfConfig ∈ lagConfig.vrfs, vrfConfig.id = defaultVrfId ∧
        vrfConfig.netns.getD vrfConfig.name ≠ vrf.netns) ∧
      (router.kernel "ns0").routes.isEmpty ∧
      (router.kernel vrf.netns).routes.contains (Prefix.ofNetwork sampleNetwork)).isSome =
        true := by
    decide +kernel
  obtain ⟨vrf, isBound⟩ := Option.isSome_iff_exists.1 bound
  obtain ⟨router, made, elsewhere⟩ := Option.bind_eq_some_iff.1 isBound
  obtain ⟨found, stays⟩ := Option.filter_eq_some_iff.1 elsewhere
  exact ⟨router, vrf, eq_ok_of_toOption made, eq_ok_of_toOption found, of_decide_eq_true stays⟩

end Router

end ControlPlane
