/-
This file proves the integrity of the references in a router. The default VRF is
there from the start and is never removed, the indexes of VRFs and interfaces
agree with what they list, candidates are listed in their own VRF, and interfaces
are attached to VRFs that exist. A change of an interface names a VRF to which an
interface is or was attached, so that all changes that an operation follows find
their VRF.
-/

import ControlPlane.Proofs.Router.Admission
import ControlPlane.Proofs.Router.Configured
import ControlPlane.Proofs.Router.Mismatch
import ControlPlane.Proofs.Router.References

namespace ControlPlane

open Session

variable {Kernel : Type} [KernelBackend Kernel]

/-! ### The default VRF -/

/-- The default VRF exists and has its name. -/
def RoutingState.HasDefault (state : RoutingState Kernel) : Prop :=
  (state.vrfs.byId.find? defaultVrfId).map Vrf.name = some defaultVrfName

theorem Session.Relists.hasDefault {before after : Session Kernel} (relists : Relists before after)
    (hasDefault : before.state.HasDefault) : after.state.HasDefault := by
  cases relists with
  | inPlace same => exact (same.name_eq defaultVrfId).trans hasDefault
  | @added config kernels idFree =>
    have other : config.id ≠ defaultVrfId := fun same => by
      rw [find?, same] at idFree
      rw [RoutingState.HasDefault, idFree] at hasDefault
      cases hasDefault
    show (((before.withKernels kernels).vrfAdded config).find? defaultVrfId).map Vrf.name = _
    rw [find?_vrfAdded, if_neg other]
    exact hasDefault
  | @removed name id vrf notDefault =>
    show ((before.vrfRemoved name id vrf).find? defaultVrfId).map Vrf.name = _
    rw [find?_vrfRemoved, if_neg notDefault]
    exact hasDefault

theorem isKept_hasDefault (surroundings : Surroundings Kernel) :
    IsKept surroundings RoutingState.HasDefault where
  changed _ _ _ _ _ hasDefault changes := changes.relists.hasDefault hasDefault
  refused _ _ hasDefault refused := by
    cases refused <;> exact hasDefault
  disturbed _ _ _ hasDefault := hasDefault

/-- A router starts with the default VRF. -/
theorem hasDefault_of_standard {before after : Session Kernel}
    (changes : Changes before (.perform (.addVrf VrfConfig.standard)) after) :
    after.published.state.HasDefault := by
  cases changes with
  | rerouted _ performs => nomatch performs
  | followed performs => nomatch performs
  | @vrfAdded _ kernels =>
    show (((before.withKernels kernels).vrfAdded VrfConfig.standard).find? defaultVrfId).map
      Vrf.name = _
    have sameId : VrfConfig.standard.id = defaultVrfId := rfl
    rw [find?_vrfAdded, if_pos sameId, Option.map_some, name_configuredVrf]
    rfl

theorem hasDefault_of_reachable {surroundings : Surroundings Kernel} {router : Router Kernel}
    (reachable : Reachable surroundings router) : router.state.HasDefault :=
  ((isKept_hasDefault surroundings).good_of_reachable
    (fun _ _ _ _ changes => hasDefault_of_standard changes) reachable).2

/-! ### References -/

omit [KernelBackend Kernel] in
/-- The changes that an operation on an interface answers name VRFs that exist. -/
theorem InterfaceOperation.isSome_vrf {state : RoutingState Kernel} {operation : Operation}
    {changes : List InterfaceChange} {after : InterfaceTable}
    (performs : InterfaceOperation state operation changes after)
    (isReferential : state.IsReferential) :
    ∀ change ∈ changes, (state.vrfs.byId.find? change.vrf).isSome := by
  intro change member
  obtain ⟨name, interface, attached, found⟩ :=
    InterfaceTable.exists_of_not_sameIn (performs.areFounded change member)
  have isAttached := performs.evolves.isAttached (fun _ _ => isReferential.isSome_of_idOf)
    isReferential.isAttached
  rw [← attached]
  rcases found with was | is
  · exact isReferential.isAttached name interface was
  · exact isAttached name interface is

namespace RouterM

/-- When the changes are followed one after the other, each finds the VRF that it names, and the
routes of the VRF follow it. -/
def FindsVrfs (changes : List InterfaceChange) (session : Session Kernel) : Prop :=
  ∀ earlier change later, changes = earlier ++ change :: later →
    ∃ reached vrf rerouted,
      (earlier.forM applyChange : RouterM Kernel PUnit) session = .ok () reached ∧
      reached.state.vrfs.get change.vrf = .ok vrf ∧
      reroute reached.state.interfaces change vrf = .ok rerouted

/-- To follow changes neither adds nor removes a VRF, so that a VRF that was there when the first
change was followed is there for all of them. -/
theorem findsVrfs_of_isSome {session : Session Kernel} {changes : List InterfaceChange}
    (isKeyed : session.state.vrfs.IsKeyed)
    (attributed : Attributed session.state.interfaces changes)
    (known : ∀ change ∈ changes, (session.find? change.vrf).isSome) :
    FindsVrfs changes session := by
  rintro earlier change later rfl
  have listed : ∀ own ∈ earlier, own ∈ earlier ++ change :: later :=
    fun _ => List.mem_append_left _
  have member : change ∈ earlier ++ change :: later :=
    List.mem_append_right _ List.mem_cons_self
  have reachedKeyed := (foldl_followed_keeps session isKeyed
    (fun own isOwn => attributed own (listed own isOwn)) (fun _ => True) trivial
    (fun _ _ _ => trivial) fun _ _ _ _ _ _ _ _ _ _ => trivial).2
  have sameNames := sameNames_foldl sameNames_followed earlier session
  have sameInterfaces := interfaces_foldl interfaces_followed earlier session
  have isSome := (sameNames.isSome_eq change.vrf).trans (known change member)
  obtain ⟨vrf, found⟩ := Option.isSome_iff_exists.1 isSome
  obtain ⟨rerouted, answered, _⟩ := exists_reroute (reachedKeyed change.vrf vrf found)
    (sameInterfaces ▸ attributed change member)
  exact ⟨_, vrf, rerouted, run_forM_applyChange isKeyed attributed listed,
    VrfTable.get_eq_ok_iff.2 found, answered⟩

end RouterM

/-! ### Failures -/

namespace Router

omit [KernelBackend Kernel] in
theorem fits_run {Value : Type} {program : RouterM Kernel Value} {router : Router Kernel}
    (fits : RouterM.FitsIn ⟨router.state, []⟩ program) : Fits (router.run program).1 := by
  rw [RouterM.FitsIn, RouterM.Ends] at fits
  rw [run]
  cases ran : program ⟨router.state, []⟩ with
  | ok value after => exact fits_ok value
  | error error after =>
    rw [ran] at fits
    exact fits_error fits

omit [KernelBackend Kernel] in
theorem fits_start {Value : Type} {parameters : RouterParameters} {kernels : KernelSpace Kernel}
    {program : RouterM Kernel Value}
    (fits : RouterM.FitsIn ⟨(blank parameters kernels).state, []⟩ program) :
    Fits (start parameters kernels program) := by
  have runs := fits_run fits
  rw [start]
  split
  next router _ => exact fits_ok router
  next error _ ran =>
    rw [ran] at runs
    exact fits_error (runs error rfl)

theorem fits_create (parameters : RouterParameters) (kernels : KernelSpace Kernel) :
    Fits (create parameters kernels) :=
  fits_start (RouterM.fitsIn_addVrf VrfConfig.standard)

/-- A configuration is refused before a router is built up, or because a namespace cannot be
opened. -/
theorem fits_ofConfig (parameters : RouterParameters) (kernels : KernelSpace Kernel)
    (targets : Tracing.TargetTable) (config : SystemConfig) :
    Fits (ofConfig parameters kernels targets config).1 := by
  rw [ofConfig]
  split
  next => exact fits_error id
  next valid =>
    split
    next => exact fits_error id
    next =>
      have realises :=
        realises_configure (SystemConfig.validate_eq_ok_iff.1 valid) parameters kernels
      refine fits_start (RouterM.ends_imp realises (fun _ _ _ => trivial) ?_)
      rintro _ _ ⟨netns, errno, _, rfl⟩
      exact id

end Router

/-- In every router that can be reached, interfaces are listed under their names, no two of them
have one name or one index, the index of names lists the names of the VRFs, the default VRF is
there under its name, candidates are listed in their VRF, under their destination and in the table
of its family, and interfaces are attached to VRFs that exist. So every change that an operation on
an interface follows finds its VRF, and no operation announces a candidate to a VRF that is not
its own, nor does a router that is started or made from a configuration. -/
theorem integrity_of_reachable {surroundings : Surroundings Kernel} {router : Router Kernel}
    (reachable : Reachable surroundings router) :
    (∀ name interface, router.state.interfaces.find? name = some interface →
      interface.name = name) ∧
    (∀ first second interface other, router.state.interfaces.find? first = some interface →
      router.state.interfaces.find? second = some other →
      interface.name = other.name ∨ interface.index = other.index → first = second) ∧
    (∀ name id, router.state.vrfs.idByName.find? name = some id ↔
      ∃ vrf, router.vrf id = .ok vrf ∧ vrf.name = name) ∧
    (∃ vrf, router.vrf defaultVrfId = .ok vrf ∧ vrf.name = defaultVrfName) ∧
    (∀ id vrf, router.vrf id = .ok vrf → vrf.id = id ∧
      ∀ family destination set, (vrf.rib family).find? destination = some set →
        ∀ candidate ∈ set.list, candidate.vrf = id ∧ candidate.destination = destination ∧
          destination.family = family) ∧
    (∀ name interface, router.state.interfaces.find? name = some interface →
      ∃ vrf, router.vrf interface.vrf = .ok vrf) ∧
    (∀ operation changes after, InterfaceOperation router.state operation changes after →
      RouterM.FindsVrfs changes ⟨{ router.state with interfaces := after }, []⟩) ∧
    ∀ destination id,
      (∀ operation, (router.step operation).1 ≠ .error (.vrfMismatch destination id)) ∧
      ∀ parameters (kernels : KernelSpace Kernel),
        Router.create parameters kernels ≠ .error (.vrfMismatch destination id) ∧
        ∀ targets config, (Router.ofConfig parameters kernels targets config).1 ≠
          .error (.vrfMismatch destination id) := by
  obtain ⟨isKeyed, isReferential⟩ :=
    (isInvariant_isReferential surroundings).good_of_reachable reachable
  have allVetted := (isOwnInvariant_isVetted.isInvariant surroundings).of_reachable reachable
  refine ⟨isKeyed.interfaces, fun first second interface other isFirst isSecond same => ?_,
    fun name id => ?_, ?_, fun id vrf got => ?_, fun name interface found => ?_,
    fun operation changes after performs => ?_, fun destination id => ?_⟩
  · rcases same with sameName | sameIndex
    · rw [← isKeyed.interfaces first interface isFirst, sameName,
        isKeyed.interfaces second other isSecond]
    · exact isReferential.isIndexed first second interface other isFirst isSecond sameIndex
  · rw [isReferential.named, Option.map_eq_some_iff]
    exact exists_congr fun vrf => and_congr_left' VrfTable.get_eq_ok_iff.symm
  · obtain ⟨vrf, found, isNamed⟩ := Option.map_eq_some_iff.1 (hasDefault_of_reachable reachable)
    exact ⟨vrf, VrfTable.get_eq_ok_iff.2 found, isNamed⟩
  · have found : router.state.vrfs.byId.find? id = some vrf := VrfTable.get_eq_ok_iff.1 got
    have ownId := isKeyed.vrfs id vrf found
    refine ⟨ownId, fun family destination set listed candidate member => ?_⟩
    obtain ⟨sameFamily, isOwn⟩ := (allVetted id vrf found).isAdmitted.isOwn listed member
    exact ⟨isOwn.vrf_eq.trans ownId, isOwn.destination_eq, sameFamily⟩
  · obtain ⟨vrf, isFound⟩ :=
      Option.isSome_iff_exists.1 (isReferential.isAttached name interface found)
    exact ⟨vrf, VrfTable.get_eq_ok_iff.2 isFound⟩
  · have accounts := performs.accounts isKeyed.interfaces
    exact RouterM.findsVrfs_of_isSome isKeyed.vrfs accounts.attributed
      (performs.isSome_vrf isReferential)
  · refine ⟨fun operation fails => ?_, fun parameters kernels => ⟨fun fails => ?_,
      fun targets config fails => ?_⟩⟩
    · exact Router.fits_run (RouterM.fitsIn_perform isKeyed operation) _ fails trivial
    · exact Router.fits_create parameters kernels _ fails trivial
    · exact Router.fits_ofConfig parameters kernels targets config _ fails trivial

/-- The interface of the sample router contributes a candidate to the default VRF, and when it is
removed, the change finds the VRF. -/
theorem integrity_of_sampleRouter : ∃ (router : Router MemoryKernel) (vrf : Vrf)
    (interface : Interface) (set : CandidateSet) (candidate : Candidate)
    (changes : List InterfaceChange) (after : InterfaceTable),
    Reachable Surroundings.any router ∧ router.vrf defaultVrfId = .ok vrf ∧
      vrf.name = defaultVrfName ∧ router.state.interfaces.find? "eth0" = some interface ∧
      interface.name = "eth0" ∧ (∃ attached, router.vrf interface.vrf = .ok attached) ∧
      (vrf.rib .ipv4).find? (Prefix.ofNetwork sampleNetwork) = some set ∧
      candidate ∈ set.list ∧ candidate.vrf = defaultVrfId ∧
      router.state.interfaces.disappear "eth0" = .ok (interface, changes, after) ∧ changes ≠ [] ∧
      RouterM.FindsVrfs changes ⟨{ router.state with interfaces := after }, []⟩ ∧
      ∀ destination id,
        (router.step (.removeInterface "eth0")).1 ≠ .error (.vrfMismatch destination id) := by
  have listed : (sampleRouter?.bind fun router => (router.vrf defaultVrfId).toOption.bind fun vrf =>
      ((vrf.rib .ipv4).find? (Prefix.ofNetwork sampleNetwork)).bind fun set =>
        set.list.head?.bind fun _ => (router.state.interfaces.find? "eth0").bind fun interface =>
          (router.state.interfaces.disappear "eth0").toOption.filter fun gone =>
            gone.1 = interface ∧ gone.2.1 ≠ []).isSome = true := by
    decide +kernel
  obtain ⟨gone, isListed⟩ := Option.isSome_iff_exists.1 listed
  obtain ⟨router, built, sample⟩ := Option.bind_eq_some_iff.1 isListed
  obtain ⟨vrf, got, sample⟩ := Option.bind_eq_some_iff.1 sample
  obtain ⟨set, setListed, sample⟩ := Option.bind_eq_some_iff.1 sample
  obtain ⟨candidate, isFirst, sample⟩ := Option.bind_eq_some_iff.1 sample
  obtain ⟨interface, found, sample⟩ := Option.bind_eq_some_iff.1 sample
  obtain ⟨disappears, decided⟩ := Option.filter_eq_some_iff.1 sample
  obtain ⟨rfl, changed⟩ := of_decide_eq_true decided
  have reachable : Reachable Surroundings.any router :=
    reachable_sampleRouter trivial trivial built
  have isVrf := eq_ok_of_toOption got
  have answered := eq_ok_of_toOption disappears
  have member := List.mem_of_mem_head? isFirst
  obtain ⟨named, _, _, ⟨default, isDefault, defaultName⟩, entries, attached, finds, matching⟩ :=
    integrity_of_reachable reachable
  rw [isVrf] at isDefault
  cases isDefault
  exact ⟨router, vrf, gone.1, set, candidate, gone.2.1, gone.2.2, reachable, isVrf, defaultName,
    found, named "eth0" _ found, attached "eth0" _ found, setListed, member,
    ((entries _ vrf isVrf).2 .ipv4 _ set setListed candidate member).1, answered, changed,
    finds _ _ _ (.removed answered), fun destination id =>
      (matching destination id).1 (.removeInterface "eth0")⟩

end ControlPlane
