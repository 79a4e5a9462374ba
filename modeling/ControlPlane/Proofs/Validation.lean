/-
This file says which configurations are valid. The validator goes through the
interfaces and the VRFs in order and compares each with those in front of it; what
it accepts is described here without an order, so that a configuration stays valid
when its interfaces are listed in another one. What was accepted beside the
addresses of all interfaces is also accepted beside some of them.
-/

import ControlPlane.Config.System
import ControlPlane.Proofs.Tracing.Setup

namespace ControlPlane

/-! ### Checks -/

namespace ConfigResult

variable {result : ConfigResult} {next : Unit → ConfigResult} {error : ConfigError} {refuses : Prop}
  [Decidable refuses]

theorem bind_eq_ok_iff : (result >>= next) = .ok () ↔ result = .ok () ∧ next () = .ok () := by
  cases result with
  | ok => exact ⟨fun passes => ⟨rfl, passes⟩, And.right⟩
  | error => exact ⟨nofun, fun both => nomatch both.1⟩

theorem guard_eq_ok_iff :
    (if refuses then throw error >>= next else next ()) = .ok () ↔
      ¬ refuses ∧ next () = .ok () := by
  by_cases isRefused : refuses
  · rw [if_pos isRefused]
    exact ⟨nofun, fun both => absurd isRefused both.1⟩
  · rw [if_neg isRefused]
    exact ⟨fun passes => ⟨isRefused, passes⟩, And.right⟩

end ConfigResult

open ConfigResult

/-! ### Limits on paths -/

/-- A limit that is accepted for all routes leaves one path at least. -/
theorem EcmpConfig.maxPaths_ne_of_validate {config : EcmpConfig}
    (valid : config.validate = .ok ()) : config.maxPaths ≠ some 0 := by
  rw [validate] at valid
  obtain ⟨_, valid⟩ := guard_eq_ok_iff.1 valid
  intro closed
  simp only [closed, if_true] at valid
  cases valid

/-- A BGP router that is accepted leaves its routes one path at least. -/
theorem BgpConfig.maximumPaths_ne_of_validate {config : BgpConfig}
    (valid : config.validate = .ok ()) : config.maximumPaths ≠ 0 := by
  rw [validate] at valid
  obtain ⟨_, valid⟩ := guard_eq_ok_iff.1 valid
  exact (guard_eq_ok_iff.1 valid).1

/-- To accept a BGP router beside another one is to accept it by itself. -/
theorem BgpConfig.validate_of_checkInstance {existing : Option BgpConfig} {config : BgpConfig}
    (checked : checkInstance existing config = .ok ()) : config.validate = .ok () := by
  cases existing with
  | none => exact checked
  | some current =>
    rw [checkInstance] at checked
    split at checked
    · cases checked
    · exact checked

/-! ### Interfaces -/

/-- Two interfaces differ in their names and in their indexes. -/
def InterfaceConfig.Apart (first second : InterfaceConfig) : Prop :=
  first.name ≠ second.name ∧ first.index ≠ second.index

theorem InterfaceConfig.Apart.symm {first second : InterfaceConfig} (apart : first.Apart second) :
    second.Apart first :=
  ⟨apart.1.symm, apart.2.symm⟩

namespace SystemConfig

variable {config : SystemConfig}

/-- The VRF of a name exists in every router with the configuration. -/
def HasVrf (config : SystemConfig) (name : String) : Prop :=
  name = defaultVrfName ∨ ∃ vrf ∈ config.vrfs, vrf.name = name

/-- Interfaces are accepted if they differ from each other and from those in front of them, are in
VRFs that exist, and are valid by themselves. -/
theorem checkInterfaces_eq_ok_iff {earlier interfaces : List InterfaceConfig} :
    config.checkInterfaces earlier interfaces = .ok () ↔
      (∀ other ∈ earlier, ∀ interface ∈ interfaces, other.Apart interface) ∧
        interfaces.Pairwise InterfaceConfig.Apart ∧
        ∀ interface ∈ interfaces, config.HasVrf interface.vrf ∧ interface.validate = .ok () := by
  induction interfaces generalizing earlier with
  | nil => simp [checkInterfaces]
  | cons interface rest inductionHypothesis =>
    have attached : ¬ (interface.vrf ≠ defaultVrfName &&
        !config.vrfs.any fun vrf => vrf.name = interface.vrf) = true ↔
          config.HasVrf interface.vrf := by
      simp [HasVrf, Decidable.imp_iff_not_or]
    simp only [checkInterfaces, guard_eq_ok_iff, bind_eq_ok_iff, inductionHypothesis, attached]
    simp only [List.any_eq_true, decide_eq_true_eq, not_exists, not_and, List.mem_cons,
      List.pairwise_cons, forall_eq_or_imp, InterfaceConfig.Apart]
    grind

/-- Interfaces are accepted if the LAGs that they name are configured. -/
theorem checkLags_eq_ok_iff {interfaces : List InterfaceConfig} :
    config.checkLags interfaces = .ok () ↔
      ∀ interface ∈ interfaces, ∀ lag, interface.lag = some lag → config.hasLag lag := by
  induction interfaces with
  | nil => simp [checkLags]
  | cons interface rest inductionHypothesis =>
    rw [List.forall_mem_cons, ← inductionHypothesis, checkLags]
    cases interface.lag with
    | none => simp
    | some lag => simp [guard_eq_ok_iff]

/-! ### VRFs -/

end SystemConfig

/-- Two VRFs differ in their names and in their ids. -/
def VrfConfig.Apart (first second : VrfConfig) : Prop :=
  first.name ≠ second.name ∧ first.id ≠ second.id

namespace SystemConfig

variable {config : SystemConfig}

/-- VRFs are accepted if they differ from each other and from those in front of them, if none but
the default VRF has its name or its id, and if they are valid beside their interfaces. -/
theorem checkVrfs_eq_ok_iff {earlier vrfs : List VrfConfig} :
    config.checkVrfs earlier vrfs = .ok () ↔
      (∀ other ∈ earlier, ∀ vrf ∈ vrfs, other.Apart vrf) ∧ vrfs.Pairwise VrfConfig.Apart ∧
        ∀ vrf ∈ vrfs, (vrf.name = defaultVrfName ↔ vrf.id = defaultVrfId) ∧
          vrf.validate (config.localAddresses vrf.name) = .ok () := by
  induction vrfs generalizing earlier with
  | nil => simp [checkVrfs]
  | cons vrf rest inductionHypothesis =>
    simp only [checkVrfs, guard_eq_ok_iff, bind_eq_ok_iff, inductionHypothesis]
    simp only [List.any_eq_true, Bool.and_eq_true, decide_eq_true_eq, not_exists, not_and,
      Decidable.not_not, List.mem_cons, List.pairwise_cons, forall_eq_or_imp, VrfConfig.Apart]
    grind

end SystemConfig

/-! ### Fewer addresses -/

section FewerAddresses

variable {fewer more : List Address}

theorem StaticRoute.validate_mono {route : StaticRoute}
    (included : ∀ address ∈ fewer, address ∈ more) (valid : route.validate more = .ok ()) :
    route.validate fewer = .ok () := by
  obtain ⟨checked, valid⟩ := bind_eq_ok_iff.1 valid
  obtain ⟨distanced, valid⟩ := guard_eq_ok_iff.1 valid
  refine bind_eq_ok_iff.2 ⟨checked, guard_eq_ok_iff.2 ⟨distanced, ?_⟩⟩
  cases hop : route.nextHop with
  | interface name => rfl
  | gateway address pinned =>
    rw [hop] at valid
    obtain ⟨sameFamily, valid⟩ := guard_eq_ok_iff.1 valid
    obtain ⟨usable, valid⟩ := bind_eq_ok_iff.1 valid
    refine guard_eq_ok_iff.2 ⟨sameFamily, bind_eq_ok_iff.2 ⟨usable, ?_⟩⟩
    have elsewhere : fewer.contains address ≠ true := by
      intro member
      have isLocal : more.contains address = true :=
        List.contains_iff_mem.2 (included address (List.contains_iff_mem.1 member))
      simp only [isLocal, if_true] at valid
      cases valid
    rw [if_neg elsewhere]
    rfl

theorem VrfConfig.checkStaticRoutes_eq_ok_iff {routes : List StaticRoute} :
    checkStaticRoutes more routes = .ok () ↔ ∀ route ∈ routes, route.validate more = .ok () := by
  induction routes with
  | nil => simp [checkStaticRoutes]
  | cons route rest inductionHypothesis =>
    rw [List.forall_mem_cons, ← inductionHypothesis, checkStaticRoutes, bind_eq_ok_iff]

theorem VrfConfig.validate_eq_ok_iff {config : VrfConfig} :
    config.validate more = .ok () ↔ checkRouterId config.routerId = .ok () ∧
      (∀ bgp, config.bgp = some bgp → bgp.validate = .ok ()) ∧
      config.distance.validate = .ok () ∧
      ∀ route ∈ config.staticRoutes, route.validate more = .ok () := by
  rw [validate, bind_eq_ok_iff, ← checkStaticRoutes_eq_ok_iff]
  cases config.bgp with
  | none => simp [bind_eq_ok_iff]
  | some bgp => simp [bind_eq_ok_iff]

/-- The settings of a VRF are valid beside fewer addresses. -/
theorem VrfConfig.validate_mono {config : VrfConfig}
    (included : ∀ address ∈ fewer, address ∈ more) (valid : config.validate more = .ok ()) :
    config.validate fewer = .ok () := by
  rw [validate_eq_ok_iff] at valid ⊢
  exact ⟨valid.1, valid.2.1, valid.2.2.1,
    fun route member => StaticRoute.validate_mono included (valid.2.2.2 route member)⟩

end FewerAddresses

/-! ### Whole configurations -/

/-- What makes a configuration valid. -/
structure SystemConfig.IsValid (targets : Tracing.TargetTable) (config : SystemConfig) : Prop where
  ecmp : config.ecmp.validate = .ok ()
  interfacesApart : config.interfaces.Pairwise InterfaceConfig.Apart
  interfaces : ∀ interface ∈ config.interfaces,
    config.HasVrf interface.vrf ∧ interface.validate = .ok ()
  lags : ∀ interface ∈ config.interfaces, ∀ lag, interface.lag = some lag → config.hasLag lag
  vrfsApart : config.vrfs.Pairwise VrfConfig.Apart
  vrfs : ∀ vrf ∈ config.vrfs, (vrf.name = defaultVrfName ↔ vrf.id = defaultVrfId) ∧
    vrf.validate (config.localAddresses vrf.name) = .ok ()
  tracing : ∀ tracing, config.tracing = some tracing → tracing.validate targets = .ok ()

namespace SystemConfig

variable {targets : Tracing.TargetTable} {config : SystemConfig}

theorem validate_eq_ok_iff : config.validate targets = .ok () ↔ config.IsValid targets := by
  have checks : config.validate targets = .ok () ↔ config.ecmp.validate = .ok () ∧
      config.checkInterfaces [] config.interfaces = .ok () ∧
      config.checkLags config.interfaces = .ok () ∧ config.checkVrfs [] config.vrfs = .ok () ∧
      ∀ tracing, config.tracing = some tracing → tracing.validate targets = .ok () := by
    simp only [validate, bind_eq_ok_iff]
    cases config.tracing with
    | none => simp [pure, Except.pure]
    | some tracing => simp
  simp only [checks, checkInterfaces_eq_ok_iff, checkLags_eq_ok_iff, checkVrfs_eq_ok_iff,
    List.not_mem_nil, false_imp_iff, implies_true, true_and]
  constructor
  · rintro ⟨ecmp, ⟨interfacesApart, interfaces⟩, lags, ⟨vrfsApart, vrfs⟩, tracing⟩
    exact ⟨ecmp, interfacesApart, interfaces, lags, vrfsApart, vrfs, tracing⟩
  · rintro ⟨ecmp, interfacesApart, interfaces, lags, vrfsApart, vrfs, tracing⟩
    exact ⟨ecmp, ⟨interfacesApart, interfaces⟩, lags, ⟨vrfsApart, vrfs⟩, tracing⟩

/-- The order in which the interfaces are listed is of no concern. -/
theorem IsValid.perm (valid : config.IsValid targets) {interfaces : List InterfaceConfig}
    (permutes : interfaces.Perm config.interfaces) :
    { config with interfaces }.IsValid targets where
  ecmp := valid.ecmp
  interfacesApart :=
    permutes.symm.pairwise valid.interfacesApart fun apart => apart.symm
  interfaces interface member := valid.interfaces interface (permutes.mem_iff.1 member)
  lags interface member lag named := by
    have configured := valid.lags interface (permutes.mem_iff.1 member) lag named
    rwa [hasLag, ← permutes.any_eq] at configured
  vrfsApart := valid.vrfsApart
  vrfs vrf member := by
    obtain ⟨isDefault, checked⟩ := valid.vrfs vrf member
    refine ⟨isDefault, VrfConfig.validate_mono (fun address isLocal => ?_) checked⟩
    exact ((permutes.filter _).flatMap_right _).mem_iff.1 isLocal
  tracing := valid.tracing

end SystemConfig

/-! ### Tracing -/

/-- What tracing was accepted can be applied. -/
theorem TracingConfig.apply_eq_ok {table : Tracing.TargetTable} {config : TracingConfig}
    (valid : config.validate table = .ok ()) : (config.apply table).1 = .ok () := by
  have checked : table.checkTags (config.tags.map Prod.fst) = .ok () := by
    unfold validate at valid
    split at valid
    next passed => exact passed
    next => cases valid
  have set : ((table.setDefault config.default).setup config.tags).1 = .ok () :=
    Tracing.TargetTable.setup_eq_ok_iff.2 (Tracing.TargetTable.checkTags_eq_ok_iff.1 checked)
  unfold apply
  split
  next => rfl
  next answered =>
    rw [answered] at set
    cases set

end ControlPlane
