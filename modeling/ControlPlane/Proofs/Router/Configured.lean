/-
This file follows how a router is built up from a valid configuration. In every
session on the way there are just the VRFs and the interfaces that were read so
far, with the settings they were given. Each further step is then accepted, since
the validator compared what it adds with all that was read before, and only a
namespace that cannot be opened stops it.
-/

import ControlPlane.Proofs.Lag
import ControlPlane.Proofs.Router.Refusal
import ControlPlane.Proofs.Router.Settings
import ControlPlane.Proofs.Validation

namespace ControlPlane

/-! ### Interfaces -/

/-- The interface without what is derived: a LAG counts as down. -/
def Interface.settings (interface : Interface) : Interface :=
  interface.withLagOper .down

theorem Interface.settings_withLagOper (oper : LinkState) (interface : Interface) :
    (interface.withLagOper oper).settings = interface.settings := by
  unfold settings withLagOper
  by_cases isLag : interface.kind = .lag
  · simp only [isLag, if_true]
  · simp only [isLag, if_false]

theorem Interface.index_settings (interface : Interface) :
    interface.settings.index = interface.index := by
  unfold settings withLagOper
  split <;> rfl

/-- A configured LAG starts down. -/
theorem Interface.settings_ofConfig (config : InterfaceConfig) (vrf : UInt32) :
    (ofConfig config vrf).settings = ofConfig config vrf := by
  unfold settings withLagOper
  split
  next isLag =>
    have starts : (ofConfig config vrf).oper = .down := by
      show initialOper config.kind config.adminUp = .down
      rw [show config.kind = .lag from isLag]
      rfl
    rw [← starts]
  next => rfl

namespace InterfaceTable

/-- An interface can be added whose name and index are free. -/
theorem add_eq_ok {table : InterfaceTable} {interface : Interface}
    (nameFree : table.find? interface.name = none)
    (indexFree : ∀ name other, table.find? name = some other → other.index ≠ interface.index) :
    table.add interface = .ok ⟨table.byName.insert interface.name interface⟩ := by
  have unlisted : table.byName.contains interface.name = false := by
    rw [SortedMap.contains, ← find?, nameFree]
    rfl
  have noIndex : table.findIndex? interface.index = none := by
    refine List.find?_eq_none.2 fun other member same => ?_
    obtain ⟨⟨name, _⟩, entry, rfl⟩ := List.mem_map.1 member
    exact indexFree name _ (SortedMap.find?_eq_some_iff.2 entry) (of_decide_eq_true same)
  rw [add, unlisted, noIndex]
  rfl

theorem settings_refreshLag (table : InterfaceTable) (lag name : String) :
    ((table.refreshLag lag).find? name).map Interface.settings =
      (table.find? name).map Interface.settings := by
  rw [find?_refreshLag]
  split
  next =>
    rw [Option.map_map]
    exact congrArg (Option.map · _) (funext (Interface.settings_withLagOper _))
  next => rfl

theorem settings_refreshLagOf (table : InterfaceTable) (own name : String) :
    ((table.refreshLagOf own).find? name).map Interface.settings =
      (table.find? name).map Interface.settings := by
  unfold refreshLagOf
  split
  · exact settings_refreshLag table _ name
  · rfl

/-- An interface can appear whose name and index are free. No other interface changes its settings,
and none stops routing. -/
theorem exists_appear {table : InterfaceTable} {interface : Interface}
    (nameFree : table.find? interface.name = none)
    (indexFree : ∀ name other, table.find? name = some other → other.index ≠ interface.index) :
    ∃ changes after, table.appear interface = .ok (changes, after) ∧
      (∀ change ∈ changes, change.what ≠ .routingDisabled) ∧
      ∀ name, (after.find? name).map Interface.settings =
        if interface.name = name then some interface.settings
        else (table.find? name).map Interface.settings := by
  have added := add_eq_ok nameFree indexFree
  have answers : table.appear interface = .ok _ :=
    congrArg (· >>= _) added
  refine ⟨_, _, answers, fun change member => ?_, fun name => ?_⟩
  · rcases List.mem_append.1 member with attached | ofUse
    · obtain ⟨_, _, rfl⟩ := List.mem_map.1 attached
      nofun
    · obtain ⟨now, what⟩ := isOfUse_of_mem_usabilityChanges change ofUse
      rw [what]
      nofun
  · have found := (find?_of_add added).2 name
    rw [settings_refreshLagOf]
    have own : ∀ between : InterfaceTable, between.find? name =
        (if interface.name = name then some interface else table.find? name) →
        (between.find? name).map Interface.settings =
          if interface.name = name then some interface.settings
          else (table.find? name).map Interface.settings := by
      intro between isFound
      rw [isFound]
      split <;> rfl
    split
    · rw [settings_refreshLag]
      exact own _ found
    · exact own _ found

end InterfaceTable

/-! ### What a configuration stands for -/

/-- The namespace to which a configured VRF is bound. The default VRF stays in that of its name. -/
def VrfConfig.boundNetns (config : VrfConfig) : String :=
  if config.name = defaultVrfName then defaultVrfName else config.netns.getD config.name

/-- The settings of a VRF with the configuration under a limit on paths. -/
def VrfConfig.settings (maxPaths : Option UInt16) (config : VrfConfig) : VrfSettings where
  name := config.name
  id := config.id
  netns := config.boundNetns
  routerId := config.routerId
  bgp := config.bgp
  distance := config.distance
  policy := ⟨maxPaths, config.bgp.map BgpConfig.maximumPaths⟩
  statics := StaticTable.empty.addAll config.staticRoutes

/-- The first item of a key is the last one of a list if no item in front of it has the key. -/
theorem find?_append_singleton {Item Key : Type} [DecidableEq Key] {key : Item → Key}
    {before : List Item} {item : Item} (fresh : ∀ other ∈ before, key other ≠ key item)
    (listed : Key) :
    (before ++ [item]).find? (fun other => key other = listed) =
      if key item = listed then some item else before.find? fun other => key other = listed := by
  rw [List.find?_append, List.find?_singleton]
  by_cases here : key item = listed
  · have absent : before.find? (fun other => key other = listed) = none :=
      List.find?_eq_none.2 fun other member same =>
        fresh other member ((of_decide_eq_true same).trans here.symm)
    rw [absent, if_pos here, if_pos (decide_eq_true here), Option.none_or]
  · rw [if_neg here, if_neg fun same => here (of_decide_eq_true same), Option.or_none]

/-- The VRFs of a router that is made from a configuration: the default VRF, which has standard
settings if it is not configured, and the others. -/
def startingVrfs (vrfs : List VrfConfig) : List VrfConfig :=
  (vrfs.find? fun vrf => vrf.name = defaultVrfName).getD .standard ::
    vrfs.filter fun vrf => vrf.name ≠ defaultVrfName

/-- The VRF of an id. -/
def vrfOf? (vrfs : List VrfConfig) (id : UInt32) : Option VrfConfig :=
  vrfs.find? fun vrf => vrf.id = id

/-- The VRF of a name. -/
def vrfNamed? (vrfs : List VrfConfig) (name : String) : Option VrfConfig :=
  vrfs.find? fun vrf => vrf.name = name

theorem vrfOf?_cons (vrf : VrfConfig) (rest : List VrfConfig) (id : UInt32) :
    vrfOf? (vrf :: rest) id = if vrf.id = id then some vrf else vrfOf? rest id := by
  rw [vrfOf?, List.find?_cons]
  by_cases here : vrf.id = id <;> simp [here, vrfOf?]

theorem vrfNamed?_cons (vrf : VrfConfig) (rest : List VrfConfig) (name : String) :
    vrfNamed? (vrf :: rest) name = if vrf.name = name then some vrf else vrfNamed? rest name := by
  rw [vrfNamed?, List.find?_cons]
  by_cases here : vrf.name = name <;> simp [here, vrfNamed?]

/-- The interface of a name, in its VRF. -/
def interfaceOf? (vrfs : List VrfConfig) (interfaces : List InterfaceConfig) (name : String) :
    Option Interface :=
  (interfaces.find? fun interface => interface.name = name).bind fun interface =>
    (vrfNamed? vrfs interface.vrf).map fun vrf => Interface.ofConfig interface vrf.id

theorem exists_of_interfaceOf? {vrfs : List VrfConfig} {interfaces : List InterfaceConfig}
    {name : String} {interface : Interface}
    (found : interfaceOf? vrfs interfaces name = some interface) :
    ∃ config ∈ interfaces, ∃ vrf ∈ vrfs, config.name = name ∧ vrf.name = config.vrf ∧
      interface = Interface.ofConfig config vrf.id := by
  obtain ⟨config, listed, placed⟩ := Option.bind_eq_some_iff.1 found
  obtain ⟨vrf, named, rfl⟩ := Option.map_eq_some_iff.1 placed
  have ownName := List.find?_some listed
  have vrfName := List.find?_some named
  exact ⟨config, List.mem_of_find?_eq_some listed, vrf, List.mem_of_find?_eq_some named,
    of_decide_eq_true ownName, of_decide_eq_true vrfName, rfl⟩

/-! ### Sessions of configured routers -/

variable {Kernel : Type} [KernelBackend Kernel]

/-- The session has just the given VRFs and interfaces, with their settings. -/
structure Session.Realises (refusals : SortedMap String Errno) (maxPaths : Option UInt16)
    (vrfs : List VrfConfig) (interfaces : List InterfaceConfig) (session : Session Kernel) :
    Prop where
  isKeyed : session.state.IsKeyed
  refusals_eq : session.state.kernels.refusals = refusals
  maxPaths_eq : session.state.ecmp.maxPaths = maxPaths
  settings_eq : ∀ id, (session.find? id).map Vrf.settings =
    (vrfOf? vrfs id).map (VrfConfig.settings maxPaths)
  idByName_eq : ∀ name, session.state.vrfs.idByName.find? name =
    (vrfNamed? vrfs name).map VrfConfig.id
  interface_eq : ∀ name, (session.state.interfaces.find? name).map Interface.settings =
    interfaceOf? vrfs interfaces name

/-- A router is not built up because a namespace cannot be opened. -/
def RouteError.IsClosed (refusals : SortedMap String Errno) (error : RouteError) : Prop :=
  ∃ netns errno, refusals.find? netns = some errno ∧ error = .kernel ⟨.openNamespace, errno⟩

omit [KernelBackend Kernel] in
theorem isClosed_of_openNamespace {space : KernelSpace Kernel} {netns : String}
    {error : KernelError} (closed : space.openNamespace netns = .error error) :
    RouteError.IsClosed space.refusals (.kernel error) := by
  unfold KernelSpace.openNamespace at closed
  split at closed
  next errno refused =>
    cases closed
    exact ⟨netns, errno, refused, rfl⟩
  next => cases closed

namespace Session

omit [KernelBackend Kernel] in
/-- A VRF without interfaces takes what is valid beside interfaces, if it has no BGP router. -/
theorem accepts_of_validate {state : RoutingState Kernel} {vrf : Vrf} {config : VrfConfig}
    {addresses : List Address} (valid : config.validate addresses = .ok ())
    (noInterfaces : state.interfaces.localAddresses vrf.id = []) (noBgp : vrf.bgp = none) :
    AcceptsVrf state vrf config where
  valid := by
    rw [noInterfaces]
    exact VrfConfig.validate_mono nofun valid
  instance_ok bgp isBgp := by
    rw [noBgp]
    exact (VrfConfig.validate_eq_ok_iff.1 valid).2.1 bgp isBgp

/-- The new VRF has the settings of its configuration, and all others keep theirs. -/
theorem settings_vrfAdded (config : VrfConfig) (session : Session Kernel) (id : UInt32) :
    ((session.vrfAdded config).find? id).map Vrf.settings =
      if config.id = id then some ((session.freshVrf config).settings.configured config)
      else (session.find? id).map Vrf.settings := by
  rw [find?_vrfAdded]
  split
  · rw [Option.map_some, settings_configuredVrf]
  · rfl

section Building

variable {refusals : SortedMap String Errno} {maxPaths : Option UInt16} {vrfs : List VrfConfig}
  {interfaces : List InterfaceConfig} {session : Session Kernel}

namespace Realises

omit [KernelBackend Kernel] in
theorem published (realises : session.Realises refusals maxPaths vrfs interfaces) :
    session.published.Realises refusals maxPaths vrfs interfaces where
  isKeyed := ⟨realises.isKeyed.vrfs, realises.isKeyed.interfaces⟩
  refusals_eq := realises.refusals_eq
  maxPaths_eq := realises.maxPaths_eq
  settings_eq := realises.settings_eq
  idByName_eq := realises.idByName_eq
  interface_eq := realises.interface_eq

omit [KernelBackend Kernel] in
theorem localAddresses_eq_nil (realises : session.Realises refusals maxPaths vrfs [])
    (id : UInt32) : session.state.interfaces.localAddresses id = [] := by
  have empty : session.state.interfaces = InterfaceTable.empty :=
    InterfaceTable.ext_find? fun name => Option.map_eq_none_iff.1 (realises.interface_eq name)
  rw [empty]
  rfl

variable {vrf : VrfConfig}

omit [KernelBackend Kernel] in
theorem find?_eq_none (realises : session.Realises refusals maxPaths vrfs interfaces)
    (apart : ∀ other ∈ vrfs, other.Apart vrf) : session.find? vrf.id = none := by
  have absent : vrfOf? vrfs vrf.id = none := List.find?_eq_none.2 fun other member same =>
    (apart other member).2 (of_decide_eq_true same)
  rw [← Option.map_eq_none_iff (f := Vrf.settings), realises.settings_eq, absent, Option.map_none]

omit [KernelBackend Kernel] in
theorem idByName_eq_none (realises : session.Realises refusals maxPaths vrfs interfaces)
    (apart : ∀ other ∈ vrfs, other.Apart vrf) :
    session.state.vrfs.idByName.find? vrf.name = none := by
  have absent : vrfNamed? vrfs vrf.name = none := List.find?_eq_none.2 fun other member same =>
    (apart other member).1 (of_decide_eq_true same)
  rw [realises.idByName_eq, absent, Option.map_none]

/-- A VRF that differs from all others is added. -/
theorem vrfAdded {kernels : KernelSpace Kernel}
    (realises : session.Realises refusals maxPaths vrfs [])
    (apart : ∀ other ∈ vrfs, other.Apart vrf)
    (opened : session.state.kernels.openNamespace (vrf.netns.getD vrf.name) = .ok kernels)
    (accepts : AcceptsVrf session.state (session.freshVrf vrf) vrf)
    (bound : vrf.netns.getD vrf.name = vrf.boundNetns) :
    ((session.withKernels kernels).vrfAdded vrf).Realises refusals maxPaths (vrfs ++ [vrf]) [] where
  isKeyed := (Changes.vrfAdded (realises.find?_eq_none apart) (realises.idByName_eq_none apart)
    opened accepts).isKeyed realises.isKeyed
  refusals_eq := by
    show kernels.refusals = refusals
    rw [KernelSpace.openNamespace_eq opened]
    exact realises.refusals_eq
  maxPaths_eq := realises.maxPaths_eq
  settings_eq id := by
    have fresh : ((session.withKernels kernels).freshVrf vrf).settings.configured vrf =
        vrf.settings maxPaths := by
      rw [VrfConfig.settings, ← bound, ← realises.maxPaths_eq]
      rfl
    rw [settings_vrfAdded, fresh, vrfOf?,
      find?_append_singleton fun other member => (apart other member).2]
    split
    · rfl
    · exact realises.settings_eq id
  idByName_eq name := by
    have added : ((session.withKernels kernels).vrfAdded vrf).state.vrfs.idByName.find? name =
        if vrf.name = name then some vrf.id else session.state.vrfs.idByName.find? name :=
      SortedMap.find?_insert session.state.vrfs.idByName vrf.name name vrf.id
    rw [added, vrfNamed?, find?_append_singleton fun other member => (apart other member).1]
    split
    · rfl
    · exact realises.idByName_eq name
  interface_eq := realises.interface_eq

/-- The default VRF takes its configuration after the others may have been added. -/
theorem defaultConfigured {others : List VrfConfig} {stored : Vrf}
    (realises : session.Realises refusals maxPaths (.standard :: others) [])
    (isDefault : vrf.name = defaultVrfName) (ownId : vrf.id = defaultVrfId)
    (found : session.find? defaultVrfId = some stored)
    (accepts : AcceptsVrf session.state stored vrf) :
    ((session.configured vrf stored).stored defaultVrfId
      (session.configuredVrf vrf stored)).Realises refusals maxPaths (vrf :: others) [] where
  isKeyed := (Changes.defaultConfigured found accepts).isKeyed realises.isKeyed
  refusals_eq := realises.refusals_eq
  maxPaths_eq := realises.maxPaths_eq
  settings_eq id := by
    have known := realises.settings_eq defaultVrfId
    rw [found, Option.map_some, vrfOf?_cons, if_pos (by rfl), Option.map_some,
      Option.some.injEq] at known
    have bound : vrf.boundNetns = defaultVrfName := if_pos isDefault
    have settings : (session.configuredVrf vrf stored).settings = vrf.settings maxPaths := by
      rw [settings_configuredVrf, known, VrfConfig.settings, VrfConfig.settings, bound, isDefault,
        ownId]
      rfl
    have kept := realises.settings_eq id
    rw [vrfOf?_cons, show VrfConfig.standard.id = defaultVrfId from rfl] at kept
    rw [find?_stored, vrfOf?_cons, ownId]
    by_cases here : defaultVrfId = id
    · subst here
      have isFound : (session.configured vrf stored).find? defaultVrfId = some stored := found
      rw [if_pos rfl, if_pos rfl, isFound, Option.map_some, Option.map_some, settings,
        Option.map_some]
    · rw [if_neg here] at kept ⊢
      rw [if_neg here]
      exact kept
  idByName_eq name := by
    have kept := realises.idByName_eq name
    rw [vrfNamed?_cons, show VrfConfig.standard.name = defaultVrfName from rfl] at kept
    rw [vrfNamed?_cons, isDefault]
    by_cases here : defaultVrfName = name
    · rw [if_pos here] at kept ⊢
      exact kept.trans (congrArg some ownId.symm)
    · rw [if_neg here] at kept ⊢
      exact kept
  interface_eq := realises.interface_eq

/-- All VRFs take a new limit on paths. -/
theorem limited {config : EcmpConfig} (realises : session.Realises refusals maxPaths vrfs [])
    (checked : config.validate = .ok ()) :
    (session.limited config).Realises refusals config.maxPaths vrfs [] where
  isKeyed := (Changes.limited checked).isKeyed realises.isKeyed
  refusals_eq := List.foldlRecOn
    (motive := fun next : Session Kernel => next.state.kernels.refusals = refusals)
    session.state.vrfs.ids (limitedAt config.maxPaths) realises.refusals_eq
    fun next same id _ => by
      unfold limitedAt resettledAt
      split <;> exact same
  maxPaths_eq := rfl
  settings_eq id := by
    have known := congrArg (Option.map (VrfSettings.limited config.maxPaths))
      (realises.settings_eq id)
    rw [Option.map_map, Option.map_map] at known
    rw [settings_limited]
    exact known
  idByName_eq name := by
    have sameName : ∀ vrf : Vrf, (vrf.setMaxPaths config.maxPaths).name = vrf.name := fun _ => rfl
    have limits := sameNames_foldl (sameNames_resettledAt sameName) session.state.vrfs.ids session
    show SortedMap.find? (session.state.vrfs.ids.foldl _ session).state.vrfs.idByName name = _
    rw [limits.idByName_eq]
    exact realises.idByName_eq name
  interface_eq name := by
    have same := interfaces_foldl (fun next id => interfaces_resettledAt
      (fun vrf => vrf.setMaxPaths config.maxPaths) next id) session.state.vrfs.ids session
    show Option.map _ ((session.state.vrfs.ids.foldl _ session).state.interfaces.find? name) = _
    rw [same]
    exact realises.interface_eq name

omit [KernelBackend Kernel] in
/-- Every interface is a configured one. -/
theorem exists_config (realises : session.Realises refusals maxPaths vrfs interfaces)
    {name : String} {interface : Interface}
    (found : session.state.interfaces.find? name = some interface) :
    ∃ config ∈ interfaces, ∃ vrf ∈ vrfs, config.name = name ∧ vrf.name = config.vrf ∧
      interface.settings = Interface.ofConfig config vrf.id := by
  have known := realises.interface_eq name
  rw [found, Option.map_some] at known
  exact exists_of_interfaceOf? known.symm

/-- An interface that differs from all others appears in its VRF. -/
theorem appeared {config : InterfaceConfig} (checked : config.validate = .ok ())
    (realises : session.Realises refusals maxPaths vrfs interfaces)
    (apart : ∀ other ∈ interfaces, other.Apart config)
    (named : vrfNamed? vrfs config.vrf = some vrf) :
    ∃ changes after,
      session.state.interfaces.appear (Interface.ofConfig config vrf.id) = .ok (changes, after) ∧
      ((session.withInterfaces after).follow changes).Realises refusals maxPaths vrfs
        (interfaces ++ [config]) := by
  have nameFree : session.state.interfaces.find? config.name = none := by
    refine Option.eq_none_iff_forall_ne_some.2 fun interface found => ?_
    obtain ⟨other, member, _, _, sameName, _⟩ := realises.exists_config found
    exact (apart other member).1 sameName
  have indexFree : ∀ name interface, session.state.interfaces.find? name = some interface →
      interface.index ≠ config.index := by
    intro name interface found sameIndex
    obtain ⟨other, member, vrf, _, _, _, settings⟩ := realises.exists_config found
    have ownIndex := congrArg Interface.index settings
    rw [Interface.index_settings] at ownIndex
    exact (apart other member).2 (ownIndex.symm.trans sameIndex)
  obtain ⟨changes, after, answered, routes, found⟩ :=
    @InterfaceTable.exists_appear _ (Interface.ofConfig config vrf.id) nameFree indexFree
  refine ⟨changes, after, answered, ?_⟩
  have isNamed : session.state.vrfs.idOf config.vrf = .ok vrf.id := by
    rw [VrfTable.idOf, realises.idByName_eq, named]
    rfl
  have performs : InterfaceOperation session.state (.addInterface config) changes after :=
    .added checked isNamed answered
  have same := sameSettings_follow routes (session.withInterfaces after)
  exact {
    isKeyed := (Changes.followed performs).isKeyed realises.isKeyed
    refusals_eq := same.refusals_eq.trans realises.refusals_eq
    maxPaths_eq := (congrArg EcmpConfig.maxPaths same.ecmp_eq).trans realises.maxPaths_eq
    settings_eq := fun id => (same.settings_eq id).trans (realises.settings_eq id)
    idByName_eq := fun name => by
      rw [same.idByName_eq]
      exact realises.idByName_eq name
    interface_eq := fun name => by
      have sameInterfaces := interfaces_follow (session.withInterfaces after) changes
      rw [sameInterfaces]
      show (after.find? name).map Interface.settings = _
      rw [found, Interface.settings_ofConfig, interfaceOf?,
        find?_append_singleton fun other member => (apart other member).1]
      show (if config.name = name then some (Interface.ofConfig config vrf.id) else _) = _
      by_cases here : config.name = name
      · rw [if_pos here, if_pos here, Option.bind_some, named, Option.map_some]
      · rw [if_neg here, if_neg here]
        exact realises.interface_eq name }

end Realises

end Building

end Session

/-! ### The VRFs a router starts with -/

section StartingVrfs

variable {before : List VrfConfig} {vrf : VrfConfig}

theorem startingVrfs_append_default (fresh : ∀ other ∈ before, other.Apart vrf)
    (isDefault : vrf.name = defaultVrfName) :
    startingVrfs before = .standard :: before ∧ startingVrfs (before ++ [vrf]) = vrf :: before := by
  have others : ∀ other ∈ before, other.name ≠ defaultVrfName := fun other member same =>
    (fresh other member).1 (same.trans isDefault.symm)
  have noDefault : before.find? (fun vrf => vrf.name = defaultVrfName) = none :=
    List.find?_eq_none.2 fun other member same => others other member (of_decide_eq_true same)
  have allOthers : before.filter (fun vrf => vrf.name ≠ defaultVrfName) = before :=
    List.filter_eq_self.2 fun other member => decide_eq_true (others other member)
  constructor
  · rw [startingVrfs, noDefault, allOthers]
    rfl
  · rw [startingVrfs, List.find?_append, List.filter_append, noDefault, allOthers]
    simp [isDefault]

theorem startingVrfs_append_other (other : vrf.name ≠ defaultVrfName) :
    startingVrfs (before ++ [vrf]) = startingVrfs before ++ [vrf] := by
  rw [startingVrfs, startingVrfs, List.find?_append, List.filter_append]
  simp [other]

/-- The default VRF comes first, and it is a configured one or the standard one. -/
theorem mem_startingVrfs {vrfs : List VrfConfig} {other : VrfConfig}
    (member : other ∈ startingVrfs vrfs) : other ∈ vrfs ∨ other = .standard := by
  rcases List.mem_cons.1 member with rfl | listed
  · cases found : vrfs.find? fun vrf => vrf.name = defaultVrfName with
    | none => exact .inr rfl
    | some first => exact .inl (List.mem_of_find?_eq_some found)
  · exact .inl (List.mem_filter.1 listed).1

theorem apart_of_mem_startingVrfs (fresh : ∀ other ∈ before, other.Apart vrf)
    (isDefault : vrf.name = defaultVrfName ↔ vrf.id = defaultVrfId)
    (notDefault : vrf.name ≠ defaultVrfName) :
    ∀ other ∈ startingVrfs before, other.Apart vrf := by
  intro other member
  rcases mem_startingVrfs member with listed | rfl
  · exact fresh other listed
  · exact ⟨Ne.symm notDefault, fun same => notDefault (isDefault.2 same.symm)⟩

/-- A router has a VRF with the name of the default one. -/
theorem exists_default_mem_startingVrfs (vrfs : List VrfConfig) :
    ∃ vrf ∈ startingVrfs vrfs, vrf.name = defaultVrfName := by
  refine ⟨_, List.mem_cons_self, ?_⟩
  cases found : vrfs.find? fun vrf => vrf.name = defaultVrfName with
  | none => rfl
  | some first =>
    have named := List.find?_some found
    exact of_decide_eq_true named

/-- A name that interfaces may use is that of a VRF. -/
theorem exists_vrfNamed? {config : SystemConfig} {name : String} (hasVrf : config.HasVrf name) :
    ∃ vrf, vrfNamed? (startingVrfs config.vrfs) name = some vrf := by
  have listed : ∃ vrf ∈ startingVrfs config.vrfs, vrf.name = name := by
    by_cases isDefault : name = defaultVrfName
    · rw [isDefault]
      exact exists_default_mem_startingVrfs config.vrfs
    · obtain ⟨vrf, member, named⟩ := hasVrf.resolve_left isDefault
      exact ⟨vrf, List.mem_cons_of_mem _ (List.mem_filter.2 ⟨member, by simp [named, isDefault]⟩),
        named⟩
  obtain ⟨vrf, member, named⟩ := listed
  exact Option.isSome_iff_exists.1 (List.find?_isSome.2 ⟨vrf, member, decide_eq_true named⟩)

end StartingVrfs

/-! ### Building up a router -/

namespace Router

open RouterM

section Building

variable {refusals : SortedMap String Errno} {maxPaths : Option UInt16}
  {session : Session Kernel}

omit [KernelBackend Kernel] in
theorem realises_blank (parameters : RouterParameters) (kernels : KernelSpace Kernel) :
    Session.Realises kernels.refusals none [] [] ⟨(blank parameters kernels).state, []⟩ where
  isKeyed := ⟨fun _ _ found => (nomatch found), fun _ _ found => (nomatch found)⟩
  refusals_eq := rfl
  maxPaths_eq := rfl
  settings_eq _ := rfl
  idByName_eq _ := rfl
  interface_eq _ := rfl

/-- A VRF is added that differs from the others, unless its namespace cannot be opened. -/
theorem ends_addVrf_of_realises {vrfs : List VrfConfig} {vrf : VrfConfig}
    (realises : session.Realises refusals maxPaths vrfs [])
    (apart : ∀ other ∈ vrfs, other.Apart vrf) {addresses : List Address}
    (valid : vrf.validate addresses = .ok ()) (bound : vrf.netns.getD vrf.name = vrf.boundNetns) :
    Ends (addVrf vrf) session
      (fun _ => Session.Realises refusals maxPaths (vrfs ++ [vrf]) [])
      fun error _ => error.IsClosed refusals := by
  have accepts : AcceptsVrf session.state (session.freshVrf vrf) vrf :=
    Session.accepts_of_validate valid (realises.localAddresses_eq_nil _) rfl
  refine ends_addVrf (realises.idByName_eq_none apart) (realises.find?_eq_none apart)
    (fun kernels opened accepts => ?_) (fun error closed => ?_)
    fun _ _ refused => absurd accepts refused
  · exact (realises.vrfAdded apart opened accepts bound).published
  · rw [← realises.refusals_eq]
    exact isClosed_of_openNamespace closed

/-- A VRF takes its configuration, after those in front of it did. -/
theorem ends_configureVrf_of_realises {targets : Tracing.TargetTable} {config : SystemConfig}
    (valid : config.IsValid targets) {before rest : List VrfConfig} {vrf : VrfConfig}
    (split : config.vrfs = before ++ vrf :: rest)
    (realises : session.Realises refusals maxPaths (startingVrfs before) []) :
    Ends (configureVrf vrf) session
      (fun _ => Session.Realises refusals maxPaths (startingVrfs (before ++ [vrf])) [])
      fun error _ => error.IsClosed refusals := by
  have apart := valid.vrfsApart
  rw [split, List.pairwise_append] at apart
  have fresh : ∀ other ∈ before, other.Apart vrf := fun other member =>
    apart.2.2 other member vrf List.mem_cons_self
  obtain ⟨isDefault, checked⟩ := valid.vrfs vrf (split ▸ List.mem_append_cons_self)
  unfold configureVrf
  split
  next named =>
    obtain ⟨standardFirst, configuredFirst⟩ := startingVrfs_append_default fresh named
    rw [standardFirst] at realises
    have known := realises.settings_eq defaultVrfId
    rw [vrfOf?_cons, if_pos (by rfl), Option.map_some] at known
    obtain ⟨stored, found, settings⟩ := Option.map_eq_some_iff.1 known
    have accepts : AcceptsVrf session.state stored vrf :=
      Session.accepts_of_validate checked (realises.localAddresses_eq_nil _)
        (congrArg VrfSettings.bgp settings)
    refine ends_configureDefaultVrf found (fun accepts => ?_)
      fun refused => absurd accepts refused
    rw [configuredFirst]
    exact (realises.defaultConfigured named (isDefault.1 named) found accepts).published
  next notDefault =>
    have bound : vrf.netns.getD vrf.name = vrf.boundNetns := (if_neg notDefault).symm
    rw [startingVrfs_append_other notDefault]
    exact ends_bind (ends_imp (ends_addVrf_of_realises realises
      (apart_of_mem_startingVrfs fresh isDefault notDefault) checked bound)
      (fun _ _ added => added) fun _ _ closed => closed)

/-- An interface appears, after others did. -/
theorem ends_addInterface_of_realises {vrfs : List VrfConfig} {before : List InterfaceConfig}
    {config : InterfaceConfig} {vrf : VrfConfig}
    (realises : session.Realises refusals maxPaths vrfs before)
    (fresh : ∀ other ∈ before, other.Apart config)
    (named : vrfNamed? vrfs config.vrf = some vrf) (checked : config.validate = .ok ())
    {bad : RouteError → Session Kernel → Prop} :
    Ends (addInterface config) session
      (fun _ => Session.Realises refusals maxPaths vrfs (before ++ [config])) bad := by
  obtain ⟨changes, after, answered, appeared⟩ := realises.appeared checked fresh named
  have isNamed : session.state.vrfs.idOf config.vrf = .ok vrf.id := by
    rw [VrfTable.idOf, realises.idByName_eq, named]
    rfl
  have performs : InterfaceOperation session.state (.addInterface config) changes after :=
    .added checked isNamed answered
  refine ends_bind (ends_accept (fun _ => ?_) fun error fails => ?_)
  · refine ends_of_run (run_onInterfaces realises.isKeyed.vrfs
      (performs.accounts realises.isKeyed.interfaces).attributed ?_) appeared.published
    rw [isNamed]
    exact answered
  · rw [checked] at fails
    cases fails

end Building

variable {targets : Tracing.TargetTable} {config : SystemConfig}

/-- A valid configuration is realised, unless a namespace cannot be opened. -/
theorem realises_configure (valid : config.IsValid targets) (parameters : RouterParameters)
    (kernels : KernelSpace Kernel) :
    Ends (configure config) ⟨(blank parameters kernels).state, []⟩
      (fun _ => Session.Realises kernels.refusals config.ecmp.maxPaths (startingVrfs config.vrfs)
        config.interfaces)
      fun error _ => error.IsClosed kernels.refusals := by
  have standardValid : VrfConfig.standard.validate [] = .ok () := rfl
  refine ends_bind (ends_imp (ends_addVrf_of_realises (realises_blank parameters kernels) nofun
    standardValid rfl) (fun _ started realises => ?_) fun _ _ closed => closed)
  refine ends_bind (ends_setEcmp (fun checked => ?_) fun refused => absurd valid.ecmp refused)
  refine ends_bind (ends_imp (ends_forM_append
    (fun before => Session.Realises kernels.refusals config.ecmp.maxPaths (startingVrfs before) [])
    config.vrfs (fun before vrf rest split session known => ?_)
      (realises.limited checked).published)
    (fun _ built realises => ?_) fun _ _ closed => closed)
  · exact ends_configureVrf_of_realises valid split known
  · refine ends_forM_append
      (Session.Realises kernels.refusals config.ecmp.maxPaths (startingVrfs config.vrfs))
      config.interfaces (fun before interface rest split session known => ?_) realises
    have apart := valid.interfacesApart
    rw [split, List.pairwise_append] at apart
    obtain ⟨hasVrf, checked⟩ := valid.interfaces interface (split ▸ List.mem_append_cons_self)
    obtain ⟨vrf, named⟩ := exists_vrfNamed? hasVrf
    exact ends_addInterface_of_realises known
      (fun other member => apart.2.2 other member interface List.mem_cons_self) named checked

end Router

end ControlPlane
